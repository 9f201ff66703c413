import Rollout.Comparison
import Rollout.Comparer
import Rollout.EvalError
import Rollout.Text.Fold
import Rollout.Time.Timestamp

/-!
# Tests of a subject

The tests that a condition applies to a subject, which is the value of a property or absent. In
every test the literal of the rule is the threshold; the subject is compared against it.
-/

namespace Rollout

/-! ## Comparison -/

/-- The key of a text under a comparer. -/
def orderKey (c : Comparer) (name input : String) : Except EvalError OrderKey :=
  match c input with
  | some key => .ok key
  | none => .error (.comparerRejected name input)

/-- The order of two texts: without regard to case, or by the keys of a named comparer. The subject
is the first to be given a key. -/
def orderTexts (registry : Registry) (comparer : Option String) (subject threshold : String) :
    Except EvalError Ordering :=
  match comparer with
  | none => .ok (Text.compareFolded subject threshold)
  | some name =>
    match registry.find? name with
    | none => .error (.unknownComparer name)
    | some c => do
      let s ← orderKey c name subject
      let t ← orderKey c name threshold
      return s.compare t

/-- How a subject stands to a threshold. An absent subject counts as null. -/
def relate (registry : Registry) (comparer : Option String) (threshold : Value)
    (subject : Option Value) : Except EvalError Relation :=
  match subject.getD .null, threshold with
  | .null, .null => .ok .bothNull
  | .null, _ => .ok .oneNull
  | _, .null => .ok .oneNull
  | .string s, .string t => (orderTexts registry comparer s t).map .ordered
  | .number a, .number b => .ok (.ordered (compare a b))
  | .float x, .float y =>
    match x.compare? y with
    | some o => .ok (.ordered o)
    | none => .ok .unordered
  | .bool a, .bool b => .ok (.ordered (compare a b))
  | s, t => .error (.typeMismatch t.kind s.kind)

/-- Whether an operator holds of a subject and a threshold. -/
def compareWith (registry : Registry) (comparer : Option String) (op : Comparison)
    (threshold : Value) (subject : Option Value) : Except EvalError Bool :=
  (relate registry comparer threshold subject).map op.holds

/-! ## Membership and containment -/

/-- Whether a subject equals one of the literals. The first match ends the search. -/
def isOneOf (registry : Registry) (comparer : Option String) (literals : List Value)
    (subject : Option Value) : Except EvalError Bool :=
  match literals with
  | [] => .ok false
  | v :: rest => do
    if ← compareWith registry comparer .equal v subject then return true
    else isOneOf registry comparer rest subject

/-- Whether every needle equals an element of the haystack. The first that does not ends the
search. -/
def areAllIn (registry : Registry) (comparer : Option String) (haystack : List Value) :
    List Value → Except EvalError Bool
  | [] => .ok true
  | needle :: rest => do
    if ← isOneOf registry comparer haystack (some needle) then
      areAllIn registry comparer haystack rest
    else return false

/-- Whether a subject contains a literal. A text contains a text that occurs in it without regard to
case; an array contains an array of which it holds every element, and a scalar that it holds; a
scalar contains an array of one element that it equals. Nothing else contains anything. -/
def containsValue (registry : Registry) (comparer : Option String) (literal : Value) :
    Option Value → Except EvalError Bool
  | none => .ok false
  | some subject =>
    match literal, subject with
    | .string needle, .string haystack =>
      .ok (Text.occursIn (Text.fold needle) (Text.fold haystack))
    | .array needles, .array haystack => areAllIn registry comparer haystack needles
    | .array [single], s => compareWith registry comparer .equal single (some s)
    | .array _, _ => .ok false
    | v, .array haystack => isOneOf registry comparer haystack (some v)
    | _, _ => .ok false

/-! ## Beginnings and ends of texts -/

/-- Whether a subject is a text that starts with the given one, without regard to case. -/
def startsWithText (subject : Option Value) (text : String) : Bool :=
  match subject with
  | some (.string s) => (Text.fold text).isPrefixOf (Text.fold s)
  | _ => false

/-- Whether a subject is a text that ends with the given one, without regard to case. -/
def endsWithText (subject : Option Value) (text : String) : Bool :=
  match subject with
  | some (.string s) => (Text.fold text).isSuffixOf (Text.fold s)
  | _ => false

/-! ## Recency -/

/-- The key under which a context holds the current time. -/
def clockKey : String := "system.time_utc"

/-- The instant that a value stands for: only a string can be a timestamp. -/
def Value.instant? : Value → Option Instant
  | .string s => Timestamp.read? s
  | _ => none

/-- Whether a subject lies strictly within a window around the current time. Nothing is asked of the
current time unless the subject is a timestamp. -/
def isWithin (subject now : Option Value) (window : Window) : Except EvalError Bool :=
  match subject.bind Value.instant? with
  | none => .ok false
  | some t =>
    match now.bind Value.instant? with
    | none => .error (.missingSystemTime clockKey)
    | some u => .ok (t.distance u < window.nanos)

end Rollout
