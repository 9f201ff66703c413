import Rollout.RuleSet.Basic

/-!
# Equality of rule sets

Two rule sets are equal if they are built alike, from the same names, operators, texts and weights
and from equal values: `==` goes by the value of numbers, whatever their scales, while Lean's `=` is
verbatim.
-/

namespace Rollout

mutual

/-- Whether two conditions are equal. -/
def Condition.same : Condition → Condition → Bool
  | .compare op v comparer, .compare op' v' comparer' =>
    op == op' && v == v' && comparer == comparer'
  | .oneOf literals comparer, .oneOf literals' comparer' =>
    literals == literals' && comparer == comparer'
  | .contains v comparer, .contains v' comparer' => v == v' && comparer == comparer'
  | .startsWith text, .startsWith text' => text == text'
  | .endsWith text, .endsWith text' => text == text'
  | .within window, .within window' => window == window'
  | .all items, .all items' => Condition.sameAll items items'
  | .any items, .any items' => Condition.sameAll items items'
  | .not item, .not item' => Condition.same item item'
  | _, _ => false

/-- Whether two lists of conditions are equal one by one. -/
def Condition.sameAll : List Condition → List Condition → Bool
  | [], [] => true
  | c :: rest, c' :: rest' => Condition.same c c' && Condition.sameAll rest rest'
  | _, _ => false

end

instance : BEq Condition := ⟨Condition.same⟩

mutual

/-- Whether two matchers are equal. -/
def Matcher.same : Matcher → Matcher → Bool
  | .property name condition, .property name' condition' =>
    name == name' && condition == condition'
  | .all items, .all items' => Matcher.sameAll items items'
  | .any items, .any items' => Matcher.sameAll items items'
  | .not item, .not item' => Matcher.same item item'
  | _, _ => false

/-- Whether two lists of matchers are equal one by one. -/
def Matcher.sameAll : List Matcher → List Matcher → Bool
  | [], [] => true
  | m :: rest, m' :: rest' => Matcher.same m m' && Matcher.sameAll rest rest'
  | _, _ => false

end

instance : BEq Matcher := ⟨Matcher.same⟩

/-- Whether two distributions are equal. -/
def Distribution.same : Distribution → Distribution → Bool
  | .single v, .single v' => v == v'
  | .weighted owner salt table, .weighted owner' salt' table' =>
    owner == owner' && salt == salt' && table == table'
  | .uniform owner salt values, .uniform owner' salt' values' =>
    owner == owner' && salt == salt' && values == values'
  | _, _ => false

instance : BEq Distribution := ⟨Distribution.same⟩

instance : BEq Rule where
  beq r r' := r.matcher == r'.matcher && r.value == r'.value

mutual

/-- Whether two trees are equal. The keys of branches are compared as they are written. -/
def RuleTree.same : RuleTree → RuleTree → Bool
  | .list rules, .list rules' => rules == rules'
  | .partition property branches fallback, .partition property' branches' fallback' =>
    property == property' && RuleTree.sameBranches branches branches'
      && RuleTree.same fallback fallback'
  | _, _ => false

/-- Whether two lists of branches are equal one by one. -/
def RuleTree.sameBranches : List (String × RuleTree) → List (String × RuleTree) → Bool
  | [], [] => true
  | (key, branch) :: rest, (key', branch') :: rest' =>
    key == key' && RuleTree.same branch branch' && RuleTree.sameBranches rest rest'
  | _, _ => false

end

instance : BEq RuleTree := ⟨RuleTree.same⟩

instance : BEq RuleSet where
  beq s s' := s.rules == s'.rules && s.default? == s'.default?

end Rollout
