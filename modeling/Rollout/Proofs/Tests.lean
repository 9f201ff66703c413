import Rollout.Proofs.Evaluation

/-!
# The tests of a rule set

A test is a property and a condition that is not joined from others. A property of inquiries that
sequencing keeps holds of a whole evaluation if it holds of each test: joining conditions, trying
rules and going on to a branch only put tests in sequence.
-/

namespace Rollout

mutual

/-- The conditions in a condition that are not joined from others. -/
def Condition.tests : Condition → List Condition
  | .all items => Condition.testsAll items
  | .any items => Condition.testsAll items
  | .not item => Condition.tests item
  | c => [c]

/-- The conditions in a list of conditions that are not joined from others. -/
def Condition.testsAll : List Condition → List Condition
  | [] => []
  | c :: rest => Condition.tests c ++ Condition.testsAll rest

end

mutual

/-- The tests of a matcher. -/
def Matcher.tests : Matcher → List (String × Condition)
  | .property name condition => condition.tests.map (Prod.mk name)
  | .all items => Matcher.testsAll items
  | .any items => Matcher.testsAll items
  | .not item => Matcher.tests item

/-- The tests of a list of matchers. -/
def Matcher.testsAll : List Matcher → List (String × Condition)
  | [] => []
  | m :: rest => Matcher.tests m ++ Matcher.testsAll rest

end

mutual

/-- The tests of a tree. -/
def RuleTree.tests : RuleTree → List (String × Condition)
  | .list rules => rules.flatMap fun r => r.matcher.tests
  | .partition _ branches fallback => RuleTree.testsIn branches ++ RuleTree.tests fallback

/-- The tests of the branches of a partition. -/
def RuleTree.testsIn : List (String × RuleTree) → List (String × Condition)
  | [] => []
  | (_, branch) :: rest => RuleTree.tests branch ++ RuleTree.testsIn rest

end

/-- The tests of a rule set. -/
def RuleSet.tests (s : RuleSet) : List (String × Condition) :=
  s.rules.tests

/-- The comparer that a test names. -/
def Condition.comparer? : Condition → Option String
  | .compare _ _ comparer => comparer
  | .oneOf _ comparer => comparer
  | .contains _ comparer => comparer
  | _ => none

/-! ## Where a test stands -/

theorem Condition.testsAll_eq (items : List Condition) :
    Condition.testsAll items = items.flatMap Condition.tests := by
  induction items with
  | nil => rfl
  | cons c rest ih => rw [Condition.testsAll, ih, List.flatMap_cons]

theorem Matcher.testsAll_eq (items : List Matcher) :
    Matcher.testsAll items = items.flatMap Matcher.tests := by
  induction items with
  | nil => rfl
  | cons m rest ih => rw [Matcher.testsAll, ih, List.flatMap_cons]

theorem RuleTree.testsIn_eq (branches : List (String × RuleTree)) :
    RuleTree.testsIn branches = branches.flatMap fun b => b.2.tests := by
  induction branches with
  | nil => rfl
  | cons b rest ih => rw [RuleTree.testsIn, ih, List.flatMap_cons]

/-! ## From tests to evaluations -/

section Sequential

variable (settings : Settings) {lookup : Lookup} {P : {α : Type} → Inquiry α → Prop}
  (hP : Inquiry.Sequential P)

include hP

theorem Condition.eval_sequential {subject : Option Value} {c : Condition}
    (htests : ∀ test ∈ c.tests, P (test.eval settings lookup subject)) :
    P (c.eval settings lookup subject) := by
  induction c with
  | all items ih =>
    rw [tests, testsAll_eq] at htests
    rw [eval, evalAll_eq]
    exact hP.allOf fun c hc => ih c hc fun test h => htests test (List.mem_flatMap_of_mem hc h)
  | any items ih =>
    rw [tests, testsAll_eq] at htests
    rw [eval, evalAny_eq]
    exact hP.anyOf fun c hc => ih c hc fun test h => htests test (List.mem_flatMap_of_mem hc h)
  | not item ih =>
    rw [tests] at htests
    rw [eval]
    exact hP.onward (ih htests) fun accepted _ => hP.known !accepted
  | _ => exact htests _ List.mem_cons_self

variable (hask : ∀ key, P (Inquiry.ask lookup key))

include hask

theorem Matcher.eval_sequential {m : Matcher}
    (htests : ∀ test ∈ m.tests, P (test.2.eval settings lookup (lookup test.1))) :
    P (m.eval settings lookup) := by
  induction m with
  | property name condition =>
    rw [eval]
    refine hP.onward (hask name) fun subject hsubject => ?_
    -- the subject can only be what the context holds under the name
    cases hsubject
    refine Condition.eval_sequential settings hP fun test h => ?_
    exact htests (name, test) (List.mem_map_of_mem h)
  | all items ih =>
    rw [tests, testsAll_eq] at htests
    rw [eval, evalAll_eq]
    exact hP.allOf fun m hm => ih m hm fun test h => htests test (List.mem_flatMap_of_mem hm h)
  | any items ih =>
    rw [tests, testsAll_eq] at htests
    rw [eval, evalAny_eq]
    exact hP.anyOf fun m hm => ih m hm fun test h => htests test (List.mem_flatMap_of_mem hm h)
  | not item ih =>
    rw [tests] at htests
    rw [eval]
    exact hP.onward (ih htests) fun accepted _ => hP.known !accepted

theorem Distribution.eval_sequential (d : Distribution) : P (d.eval settings lookup) := by
  have hbucket (owner salt : String) : P (bucketOf settings lookup owner salt) :=
    hP.onward (hask (ownerKey owner)) fun _ _ => hP.known _
  cases d with
  | single value => exact hP.known _
  | weighted owner salt table => exact hP.onward (hbucket owner salt) fun _ _ => hP.known _
  | uniform owner salt values => exact hP.onward (hbucket owner salt) fun _ _ => hP.known _

theorem Rule.eval_sequential {r : Rule}
    (htests : ∀ test ∈ r.matcher.tests, P (test.2.eval settings lookup (lookup test.1))) :
    P (r.eval settings lookup) := by
  refine hP.onward (Matcher.eval_sequential settings hP hask htests) fun accepted _ => ?_
  cases accepted with
  | false => exact hP.known none
  | true => exact Distribution.eval_sequential settings hP hask r.value

theorem RuleTree.eval_sequential {t : RuleTree}
    (htests : ∀ test ∈ t.tests, P (test.2.eval settings lookup (lookup test.1))) :
    P (t.eval settings lookup) := by
  induction t with
  | list rules =>
    rw [tests] at htests
    rw [eval, evalRules_eq]
    exact hP.firstOf fun r hr => Rule.eval_sequential settings hP hask fun test h =>
      htests test (List.mem_flatMap_of_mem hr h)
  | partition property branches fallback ihBranches ihFallback =>
    rw [tests, testsIn_eq] at htests
    rw [eval_partition]
    refine hP.onward (hask property) fun _ _ => ?_
    -- the tests of the trees that are not chosen are not needed
    rcases next_cases lookup property branches fallback with ⟨b, hb, heq⟩ | heq
    · rw [← heq]
      exact ihBranches b hb fun test h =>
        htests test (List.mem_append_left _ (List.mem_flatMap_of_mem hb h))
    · rw [← heq]
      exact ihFallback fun test h => htests test (List.mem_append_right _ h)

/-- What holds of asking and of every test holds of the whole evaluation. -/
theorem RuleSet.eval_sequential {s : RuleSet}
    (htests : ∀ test ∈ s.tests, P (test.2.eval settings lookup (lookup test.1))) :
    P (s.eval settings lookup) := by
  rw [eval_eq]
  exact hP.map _ (RuleTree.eval_sequential settings hP hask htests)

end Sequential

end Rollout
