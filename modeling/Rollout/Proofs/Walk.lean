import Rollout.Proofs.Tests

/-!
# What a walk of a rule set meets

A tree is walked depth first, the branches of a partition in order and then its fallback. The walk
meets the rules of the tree one after another, and the tests, values and keys of a rule set are those
of its rules. `RuleSet.Mentions` collects the keys that a rule set can ask a context for.
-/

namespace Rollout

mutual

/-- The rules of a tree in the order of a walk. -/
def RuleTree.allRules : RuleTree → List Rule
  | .list rules => rules
  | .partition _ branches fallback => RuleTree.rulesIn branches ++ RuleTree.allRules fallback

/-- The rules of the branches of a partition in the order of a walk. -/
def RuleTree.rulesIn : List (String × RuleTree) → List Rule
  | [] => []
  | (_, branch) :: rest => RuleTree.allRules branch ++ RuleTree.rulesIn rest

end

theorem RuleTree.rulesIn_eq (branches : List (String × RuleTree)) :
    RuleTree.rulesIn branches = branches.flatMap fun b => b.2.allRules := by
  induction branches with
  | nil => rfl
  | cons b rest ih => rw [RuleTree.rulesIn, ih, List.flatMap_cons]

/-- The tests of a tree are those of its rules. -/
theorem RuleTree.tests_eq (t : RuleTree) :
    t.tests = t.allRules.flatMap fun r => r.matcher.tests := by
  induction t with
  | list rules => rfl
  | partition property branches fallback ihBranches ihFallback =>
    rw [RuleTree.tests, RuleTree.testsIn_eq, RuleTree.allRules, RuleTree.rulesIn_eq,
      List.flatMap_append, ihFallback, List.flatMap_assoc]
    congr 1
    exact List.flatMap_congr ihBranches

/-! ## Keys -/

mutual

/-- The properties that a matcher looks up. -/
def Matcher.properties : Matcher → List String
  | .property name _ => [name]
  | .all items => Matcher.propertiesAll items
  | .any items => Matcher.propertiesAll items
  | .not item => Matcher.properties item

/-- The properties that matchers look up. -/
def Matcher.propertiesAll : List Matcher → List String
  | [] => []
  | m :: rest => Matcher.properties m ++ Matcher.propertiesAll rest

end

theorem Matcher.propertiesAll_eq (items : List Matcher) :
    Matcher.propertiesAll items = items.flatMap Matcher.properties := by
  induction items with
  | nil => rfl
  | cons m rest ih => rw [Matcher.propertiesAll, ih, List.flatMap_cons]

mutual

/-- The properties that the partitions of a tree go by. -/
def RuleTree.properties : RuleTree → List String
  | .list _ => []
  | .partition property branches fallback =>
    property :: (RuleTree.propertiesIn branches ++ RuleTree.properties fallback)

/-- The properties that the partitions in the branches of a partition go by. -/
def RuleTree.propertiesIn : List (String × RuleTree) → List String
  | [] => []
  | (_, branch) :: rest => RuleTree.properties branch ++ RuleTree.propertiesIn rest

end

theorem RuleTree.propertiesIn_eq (branches : List (String × RuleTree)) :
    RuleTree.propertiesIn branches = branches.flatMap fun b => b.2.properties := by
  induction branches with
  | nil => rfl
  | cons b rest ih => rw [RuleTree.propertiesIn, ih, List.flatMap_cons]

/-- The keys that a rule set can ask for. -/
inductive RuleSet.Mentions (s : RuleSet) : String → Prop
  /-- A property that a partition goes by. -/
  | partition {property : String} (mem : property ∈ s.rules.properties) : Mentions s property
  /-- A property that the matcher of a rule looks up. -/
  | matcher {r : Rule} {name : String} (rule : r ∈ s.rules.allRules)
      (mem : name ∈ r.matcher.properties) : Mentions s name
  /-- The key of an owner whose bucket decides on the value of a rule. -/
  | owner {r : Rule} {owner : String} (rule : r ∈ s.rules.allRules)
      (bucketed : r.value.owner? = some owner) : Mentions s (ownerKey owner)
  /-- The key of the clock, if some test is one of recency. -/
  | clock {name : String} {window : Window} (mem : (name, .within window) ∈ s.tests) :
      Mentions s clockKey

end Rollout
