/-!
# Comparisons

The six operators with which a value is compared to a literal, and what can come out of bringing
two values into relation.
-/

namespace Rollout

/-- The comparison operators. -/
inductive Comparison where
  | equal
  | notEqual
  | less
  | lessEqual
  | greater
  | greaterEqual
deriving DecidableEq

namespace Comparison

/-- All operators. -/
def all : List Comparison :=
  [equal, notEqual, less, lessEqual, greater, greaterEqual]

/-- How an operator is written in a rule. -/
def symbol : Comparison → String
  | equal => "=="
  | notEqual => "!="
  | less => "<"
  | lessEqual => "<="
  | greater => ">"
  | greaterEqual => ">="

/-- The name of an operator in documents. -/
def name : Comparison → String
  | equal => "Equal"
  | notEqual => "NotEqual"
  | less => "LessThan"
  | lessEqual => "LessEqual"
  | greater => "GreaterThan"
  | greaterEqual => "GreaterEqual"

/-- The operator with this name. -/
def ofName? (s : String) : Option Comparison :=
  all.find? (·.name = s)

/-- The operator that holds of two values when the given one holds of them in the other order. -/
def flip : Comparison → Comparison
  | equal => equal
  | notEqual => notEqual
  | less => greater
  | lessEqual => greaterEqual
  | greater => less
  | greaterEqual => lessEqual

/-- Whether an operator accepts an order of the subject against the literal. -/
def accepts : Comparison → Ordering → Bool
  | equal, o => o.isEq
  | notEqual, o => o.isNe
  | less, o => o.isLT
  | lessEqual, o => o.isLE
  | greater, o => o.isGT
  | greaterEqual, o => o.isGE

end Comparison

/-- How a subject stands to a literal. -/
inductive Relation where
  | bothNull
  | oneNull
  /-- Both are numbers, and one of them is NaN. -/
  | unordered
  /-- The two are of one kind and ordered. -/
  | ordered (o : Ordering)
deriving DecidableEq

/-- Whether an operator holds of two values in this relation. Nulls are equal and nothing else, a null
and another value are not even unequal, and NaN is unequal to every float. -/
def Comparison.holds (op : Comparison) : Relation → Bool
  | .bothNull => op = .equal
  | .oneNull => false
  | .unordered => op = .notEqual
  | .ordered o => op.accepts o

end Rollout
