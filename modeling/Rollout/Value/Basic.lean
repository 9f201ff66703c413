import Rollout.Decimal.Basic
import Rollout.Binary64.Printer
import Rollout.Text.Lower

/-!
# Values

What rules are written with and what contexts hold. Two notions of equality live side by side:
`=` is verbatim (decimals of different scale differ), `==` is equality of value (1.5 == 1.50, while
floats are equal only bit by bit).
-/

namespace Rollout

/-- The kinds of values. -/
inductive Kind where
  | null
  | boolean
  | number
  | float
  | string
  | array
deriving DecidableEq

/-- The name of a kind in messages. -/
def Kind.name : Kind → String
  | .null => "null"
  | .boolean => "boolean"
  | .number => "number"
  | .float => "float"
  | .string => "string"
  | .array => "array"

/-- A value of a rule or of a context. -/
inductive Value where
  | null
  | bool (b : Bool)
  | number (d : Decimal)
  | float (x : Binary64)
  | string (s : String)
  | array (items : List Value)

namespace Value

instance : Inhabited Value := ⟨null⟩

/-- The kind of a value. -/
def kind : Value → Kind
  | null => .null
  | bool _ => .boolean
  | number _ => .number
  | float _ => .float
  | string _ => .string
  | array _ => .array

/-! ## Verbatim equality -/

mutual

/-- Decides whether two values are the same verbatim. -/
def decEq : (v w : Value) → Decidable (v = w)
  | null, w => match w with
    | null => isTrue rfl
    | bool _ | number _ | float _ | string _ | array _ => isFalse nofun
  | bool a, w => match w with
    | bool b => decidable_of_iff (a = b) (by simp)
    | null | number _ | float _ | string _ | array _ => isFalse nofun
  | number a, w => match w with
    | number b => decidable_of_iff (a = b) (by simp)
    | null | bool _ | float _ | string _ | array _ => isFalse nofun
  | float a, w => match w with
    | float b => decidable_of_iff (a = b) (by simp)
    | null | bool _ | number _ | string _ | array _ => isFalse nofun
  | string a, w => match w with
    | string b => decidable_of_iff (a = b) (by simp)
    | null | bool _ | number _ | float _ | array _ => isFalse nofun
  | array a, w => match w with
    | array b => match decEqList a b with
      | isTrue h => isTrue (by rw [h])
      | isFalse h => isFalse (by simpa using h)
    | null | bool _ | number _ | float _ | string _ => isFalse nofun

/-- Decides whether two lists of values are the same verbatim. -/
def decEqList : (l m : List Value) → Decidable (l = m)
  | [], m => match m with
    | [] => isTrue rfl
    | _ :: _ => isFalse nofun
  | v :: l, m => match m with
    | [] => isFalse nofun
    | w :: m => match decEq v w, decEqList l m with
      | isTrue h, isTrue k => isTrue (by rw [h, k])
      | isFalse h, _ => isFalse fun e => h (List.cons.inj e).1
      | _, isFalse k => isFalse fun e => k (List.cons.inj e).2

end

instance : DecidableEq Value := decEq

/-! ## Equality of value -/

mutual

/-- Whether two values are equal: decimals by value, floats by their bits. -/
def same : Value → Value → Bool
  | null, null => true
  | bool a, bool b => a == b
  | number a, number b => a.sameValue b
  | float a, float b => a.bits == b.bits
  | string a, string b => a == b
  | array a, array b => sameAll a b
  | _, _ => false

/-- Whether two lists of values are equal element by element. -/
def sameAll : List Value → List Value → Bool
  | [], [] => true
  | v :: l, w :: m => same v w && sameAll l m
  | _, _ => false

end

instance : BEq Value := ⟨same⟩

/-! ## Texts of a value -/

/-- The text of a truth value. -/
def boolText (b : Bool) : String :=
  if b then "true" else "false"

/-- The text of a scalar: a string stands for itself, and a number is in normal form. The null value
and arrays have no text. -/
def text? : Value → Option String
  | string s => some s
  | number d => some d.normalize.text
  | float x => some (Binary64.display.render x)
  | bool b => some (boolText b)
  | null | array _ => none

/-- The key by which a value chooses a branch of a partition: its text in lower case. -/
def partitionKey? (v : Value) : Option String :=
  v.text?.map Text.lowerCase

mutual

/-- How a value is shown in a rule. A number shows its scale, and a string has bare quotes. -/
def display : Value → String
  | null => "null"
  | bool b => boolText b
  | number d => d.text
  | float x => Binary64.display.render x
  | string s => "\"" ++ s ++ "\""
  | array items => "[" ++ ", ".intercalate (displayAll items) ++ "]"

/-- How each of the values is shown in a rule. -/
def displayAll : List Value → List String
  | [] => []
  | v :: l => display v :: displayAll l

end

end Value

end Rollout
