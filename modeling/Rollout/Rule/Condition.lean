import Rollout.Comparison
import Rollout.Time.Instant
import Rollout.Value.Basic

/-!
# Conditions

A condition tests the value of one property. Conditions are joined by `all`, `any` and `not`.
-/

namespace Rollout

/-- A test of a subject. Where a comparer is named, it orders texts; otherwise texts are ordered
without regard to case. -/
inductive Condition where
  /-- An operator holds of the subject and the literal. -/
  | compare (op : Comparison) (literal : Value) (comparer : Option String)
  | oneOf (literals : List Value) (comparer : Option String)
  | contains (literal : Value) (comparer : Option String)
  | startsWith (text : String)
  | endsWith (text : String)
  /-- The subject is a time within the window around now. -/
  | within (window : Window)
  | all (items : List Condition)
  | any (items : List Condition)
  | not (item : Condition)

namespace Condition

instance : Inhabited Condition := ⟨all []⟩

/-- Both conditions. A conjunction takes the second one in at its end. -/
def and : Condition → Condition → Condition
  | all items, c => all (items ++ [c])
  | first, c => all [first, c]

/-- Either condition. A disjunction takes the second one in at its end. -/
def or : Condition → Condition → Condition
  | any items, c => any (items ++ [c])
  | first, c => any [first, c]

mutual

/-- How a condition is shown in a rule. -/
def display : Condition → String
  | compare op v none => op.symbol ++ " " ++ v.display
  | compare op v (some name) => op.symbol ++ " " ++ v.display ++ " as " ++ name
  | oneOf literals _ => "in " ++ (Value.array literals).display
  | contains v _ => "contains " ++ v.display
  | startsWith text => "starts with \"" ++ text ++ "\""
  | endsWith text => "ends with \"" ++ text ++ "\""
  | within window => "within " ++ toString window.millis ++ "ms"
  | all items => "(" ++ " AND ".intercalate (displayAll items) ++ ")"
  | any items => "(" ++ " OR ".intercalate (displayAll items) ++ ")"
  | not item => "(NOT " ++ display item ++ ")"

/-- How each of the conditions is shown in a rule. -/
def displayAll : List Condition → List String
  | [] => []
  | c :: rest => display c :: displayAll rest

end

end Condition

end Rollout
