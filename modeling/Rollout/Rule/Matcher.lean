import Rollout.Rule.Condition

/-!
# Matchers

A matcher tests a whole context: each property it names is looked up and handed to a condition.
-/

namespace Rollout

/-- A test of a context. -/
inductive Matcher where
  /-- The property meets the condition. -/
  | property (name : String) (condition : Condition)
  | all (items : List Matcher)
  | any (items : List Matcher)
  | not (item : Matcher)

namespace Matcher

/-- Accepts every context. -/
def always : Matcher := all []

instance : Inhabited Matcher := ⟨always⟩

/-- Both matchers. A conjunction takes the second one in at its end. -/
def and : Matcher → Matcher → Matcher
  | all items, m => all (items ++ [m])
  | first, m => all [first, m]

/-- Either matcher. A disjunction takes the second one in at its end. -/
def or : Matcher → Matcher → Matcher
  | any items, m => any (items ++ [m])
  | first, m => any [first, m]

mutual

/-- How a matcher is shown in a rule. -/
def display : Matcher → String
  | property name condition => "(" ++ name ++ " " ++ condition.display ++ ")"
  | all [] => "*"
  | all (m :: rest) => "(" ++ " AND ".intercalate (display m :: displayAll rest) ++ ")"
  | any items => "(" ++ " OR ".intercalate (displayAll items) ++ ")"
  | not item => "(NOT " ++ display item ++ ")"

/-- How each of the matchers is shown in a rule. -/
def displayAll : List Matcher → List String
  | [] => []
  | m :: rest => display m :: displayAll rest

end

end Matcher

/-! ## Matchers of one property -/

/-- A property to be tested, and the comparer that its texts are ordered by. -/
structure Property where
  name : String
  /-- The name of the comparer, if there is one. -/
  comparer : Option String := none

namespace Property

/-- Accepts a context whose property meets the condition. -/
def satisfies (p : Property) (condition : Condition) : Matcher :=
  .property p.name condition

/-- Accepts a context of whose property and the literal the operator holds. -/
def compare (p : Property) (op : Comparison) (literal : Value) : Matcher :=
  p.satisfies (.compare op literal p.comparer)

/-- Accepts a context whose property equals one of the literals. -/
def oneOf (p : Property) (literals : List Value) : Matcher :=
  p.satisfies (.oneOf literals p.comparer)

/-- Accepts a context whose property contains the literal. -/
def contains (p : Property) (literal : Value) : Matcher :=
  p.satisfies (.contains literal p.comparer)

/-- Accepts a context whose property starts with the text. -/
def startsWith (p : Property) (text : String) : Matcher :=
  p.satisfies (.startsWith text)

/-- Accepts a context whose property ends with the text. -/
def endsWith (p : Property) (text : String) : Matcher :=
  p.satisfies (.endsWith text)

/-- Accepts a context whose property is a time within the window around now. -/
def within (p : Property) (window : Window) : Matcher :=
  p.satisfies (.within window)

end Property

end Rollout
