import Rollout.Evaluation
import Rollout.Proofs.Induction
import Rollout.Proofs.Inquiry

/-!
# Equations of evaluation

Evaluation told by the ways of going through a list: conjunctions by `allOf`, disjunctions by
`anyOf`, rules by `firstOf`. A partition is evaluated by asking for its property and evaluating the
one tree that `RuleTree.next` chooses.
-/

namespace Rollout

variable (settings : Settings) (lookup : Lookup)

/-! ## Conditions and matchers -/

theorem Condition.evalAll_eq (subject : Option Value) (items : List Condition) :
    Condition.evalAll settings lookup subject items
      = Inquiry.allOf (Condition.eval settings lookup subject) items := by
  induction items with
  | nil => rfl
  | cons c rest ih => rw [Condition.evalAll, Inquiry.allOf, ih]

theorem Condition.evalAny_eq (subject : Option Value) (items : List Condition) :
    Condition.evalAny settings lookup subject items
      = Inquiry.anyOf (Condition.eval settings lookup subject) items := by
  induction items with
  | nil => rfl
  | cons c rest ih => rw [Condition.evalAny, Inquiry.anyOf, ih]

theorem Matcher.evalAll_eq (items : List Matcher) :
    Matcher.evalAll settings lookup items
      = Inquiry.allOf (Matcher.eval settings lookup) items := by
  induction items with
  | nil => rfl
  | cons m rest ih => rw [Matcher.evalAll, Inquiry.allOf, ih]

theorem Matcher.evalAny_eq (items : List Matcher) :
    Matcher.evalAny settings lookup items
      = Inquiry.anyOf (Matcher.eval settings lookup) items := by
  induction items with
  | nil => rfl
  | cons m rest ih => rw [Matcher.evalAny, Inquiry.anyOf, ih]

/-! ## Rules -/

/-- The value that a single rule yields. -/
def Rule.eval (r : Rule) : Inquiry (Option Value) := do
  if ← r.matcher.eval settings lookup then r.value.eval settings lookup else return none

theorem evalRules_eq (rules : List Rule) :
    evalRules settings lookup rules = Inquiry.firstOf (Rule.eval settings lookup) rules := by
  induction rules with
  | nil => rfl
  | cons r rest ih =>
    rw [evalRules, Inquiry.firstOf, ih, Rule.eval, bind_assoc]
    refine bind_congr fun accepted => ?_
    cases accepted with
    | false => rfl
    | true =>
      simp only [if_true]
      refine bind_congr fun value => ?_
      cases value <;> rfl

/-- A distribution may yield nothing, but it never fails. -/
theorem Distribution.answer_eval (d : Distribution) :
    ∃ value, (d.eval settings lookup).answer = .ok value := by
  cases d with
  | single value => exact ⟨_, rfl⟩
  | weighted owner salt table => exact ⟨_, rfl⟩
  | uniform owner salt values => exact ⟨_, rfl⟩

/-! ## Trees -/

/-- The first branch for a key in lower case. -/
def RuleTree.branch? (key : String) : List (String × RuleTree) → Option RuleTree
  | [] => none
  | (k, branch) :: rest => if Text.lowerCase k = key then some branch else branch? key rest

theorem RuleTree.mem_of_branch? {key : String} {branches : List (String × RuleTree)}
    {t : RuleTree} (h : branch? key branches = some t) : ∃ b ∈ branches, b.2 = t := by
  induction branches with
  | nil => exact absurd h nofun
  | cons b rest ih =>
    obtain ⟨k, branch⟩ := b
    rw [branch?] at h
    split at h
    · exact ⟨(k, branch), List.mem_cons_self, Option.some.inj h⟩
    · obtain ⟨b, hb, hbt⟩ := ih h
      exact ⟨b, List.mem_cons_of_mem _ hb, hbt⟩

/-- The tree that a partition goes on with. -/
def RuleTree.next (property : String) (branches : List (String × RuleTree))
    (fallback : RuleTree) : RuleTree :=
  (((lookup property).bind Value.partitionKey?).bind (branch? · branches)).getD fallback

theorem RuleTree.next_cases (property : String) (branches : List (String × RuleTree))
    (fallback : RuleTree) :
    (∃ b ∈ branches, b.2 = next lookup property branches fallback)
      ∨ fallback = next lookup property branches fallback := by
  rw [next]
  cases h : ((lookup property).bind Value.partitionKey?).bind (branch? · branches) with
  | none => exact .inr rfl
  | some branch =>
    obtain ⟨key, _, hbranch⟩ := Option.bind_eq_some_iff.mp h
    exact .inl (mem_of_branch? hbranch)

theorem RuleTree.evalBranch?_eq (key : String) (branches : List (String × RuleTree)) :
    RuleTree.evalBranch? settings lookup key branches
      = (branch? key branches).map (RuleTree.eval settings lookup) := by
  induction branches with
  | nil => rfl
  | cons b rest ih =>
    obtain ⟨k, branch⟩ := b
    rw [RuleTree.evalBranch?, branch?, ih]
    split <;> rfl

/-- A partition asks for its property and goes on with one tree. -/
theorem RuleTree.eval_partition (property : String) (branches : List (String × RuleTree))
    (fallback : RuleTree) :
    (RuleTree.partition property branches fallback).eval settings lookup
      = Inquiry.ask lookup property >>= fun _ =>
          (next lookup property branches fallback).eval settings lookup := by
  rw [RuleTree.eval, Inquiry.ask_bind, Inquiry.ask_bind]
  cases hkey : (lookup property).bind Value.partitionKey? with
  | none => simp only [next, hkey, Option.bind_none, Option.getD_none]
  | some key =>
    simp only [next, hkey, Option.bind_some, evalBranch?_eq]
    cases branch? key branches <;> rfl

/-! ## Rule sets -/

/-- The default stands in for a missing value. -/
theorem RuleSet.eval_eq (s : RuleSet) :
    s.eval settings lookup = (· <|> s.default?) <$> s.rules.eval settings lookup :=
  bind_pure_comp _ _

end Rollout
