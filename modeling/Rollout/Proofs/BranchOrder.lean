import Rollout.Proofs.Commitment
import Rollout.Proofs.PoolContents

/-!
# The order of branches does not matter

At most one branch of a partition answers to a value, if the partition has no fault. Putting branches
in another order, in any partition of a rule set, therefore changes neither what is evaluated nor
which keys are asked for. It changes the order in which a walk meets the rules and so the places in
the pool, but not how many entries the pool has.
-/

namespace Rollout

/-- A tree comes from another by putting the branches of partitions in another order, at any
depth. -/
inductive RuleTree.Reordered : RuleTree → RuleTree → Prop
  | refl (t : RuleTree) : Reordered t t
  | trans {t u w : RuleTree} (first : Reordered t u) (second : Reordered u w) : Reordered t w
  | branches {property : String} {branches branches' : List (String × RuleTree)}
      {fallback : RuleTree} (perm : branches.Perm branches') :
      Reordered (.partition property branches fallback) (.partition property branches' fallback)
  | inBranch {property key : String} {before after : List (String × RuleTree)}
      {branch branch' fallback : RuleTree} (inner : Reordered branch branch') :
      Reordered (.partition property (before ++ (key, branch) :: after) fallback)
        (.partition property (before ++ (key, branch') :: after) fallback)
  | inFallback {property : String} {branches : List (String × RuleTree)}
      {fallback fallback' : RuleTree} (inner : Reordered fallback fallback') :
      Reordered (.partition property branches fallback) (.partition property branches fallback')

/-- A rule set comes from another by putting branches in another order. -/
structure RuleSet.Reordered (s t : RuleSet) : Prop where
  rules : s.rules.Reordered t.rules
  default : t.default? = s.default?

/-! ## Faults -/

namespace RuleTree

/-- Another order of the branches brings no fault. -/
theorem Reordered.wellFormed {t u : RuleTree} (h : t.Reordered u) (wf : t.WellFormed) :
    u.WellFormed := by
  induction h with
  | refl => exact wf
  | trans _ _ ihFirst ihSecond => exact ihSecond (ihFirst wf)
  | branches perm =>
    cases wf with
    | partition named distinct inBranches inFallback =>
      refine .partition named ((perm.map _).nodup_iff.mp distinct) ?_ inFallback
      exact fun b hb => inBranches b (perm.mem_iff.mpr hb)
  | @inBranch property key before after branch branch' fallback _ ih =>
    cases wf with
    | partition named distinct inBranches inFallback =>
      have hkeys : branchKeys (before ++ (key, branch') :: after)
          = branchKeys (before ++ (key, branch) :: after) := by
        simp only [branchKeys, List.map_append, List.map_cons]
      refine .partition named (hkeys ▸ distinct) ?_ inFallback
      intro b hb
      rcases List.mem_append.mp hb with hb | hb
      · exact inBranches b (List.mem_append_left _ hb)
      · rcases List.mem_cons.mp hb with rfl | hb
        · exact ih (inBranches (key, branch) (List.mem_append_right _ List.mem_cons_self))
        · exact inBranches b (List.mem_append_right _ (List.mem_cons_of_mem _ hb))
  | inFallback _ ih =>
    cases wf with
    | partition named distinct inBranches inFallback =>
      exact .partition named distinct inBranches (ih inFallback)

/-! ## Evaluation -/

/-- In another order the branches answer to the same keys. -/
theorem branch?_perm {branches branches' : List (String × RuleTree)}
    (perm : branches.Perm branches') (distinct : (branchKeys branches).Nodup) (key : String) :
    branch? key branches' = branch? key branches := by
  have distinct' : (branchKeys branches').Nodup := (perm.map _).nodup_iff.mp distinct
  by_cases h : ∃ b ∈ branches, Text.lowerCase b.1 = key
  · obtain ⟨⟨k, branch⟩, hmem, rfl⟩ := h
    rw [branch?_of_mem distinct hmem, branch?_of_mem distinct' (perm.mem_iff.mp hmem)]
  · have hmiss : ∀ b ∈ branches, Text.lowerCase b.1 ≠ key := fun b hb heq => h ⟨b, hb, heq⟩
    rw [branch?_eq_none hmiss, branch?_eq_none fun b hb => hmiss b (perm.mem_iff.mpr hb)]

section Evaluation

variable (settings : Settings) (lookup : Lookup)

/-- A branch may be exchanged for one that yields the same. -/
theorem evalBranch?_exchange {branch branch' : RuleTree}
    (h : branch'.eval settings lookup = branch.eval settings lookup) (key k : String)
    (before after : List (String × RuleTree)) :
    evalBranch? settings lookup key (before ++ (k, branch') :: after)
      = evalBranch? settings lookup key (before ++ (k, branch) :: after) := by
  induction before with
  | nil => rw [List.nil_append, List.nil_append, evalBranch?, evalBranch?, h]
  | cons b before ih =>
    obtain ⟨k', t⟩ := b
    rw [List.cons_append, List.cons_append, evalBranch?, evalBranch?, ih]

theorem Reordered.eval_eq {t u : RuleTree} (h : t.Reordered u) (wf : t.WellFormed) :
    u.eval settings lookup = t.eval settings lookup := by
  induction h with
  | refl => rfl
  | trans first _ ihFirst ihSecond => rw [ihSecond (first.wellFormed wf), ihFirst wf]
  | @branches property branches branches' fallback perm =>
    -- with a key twice the branch would depend on the order, but a tree without faults has none
    cases wf with
    | partition _ distinct _ _ =>
      have hnext : next lookup property branches' fallback
          = next lookup property branches fallback := by
        simp only [next, branch?_perm perm distinct]
      rw [eval_partition, eval_partition, hnext]
  | inBranch _ ih =>
    cases wf with
    | partition _ _ inBranches _ =>
      have hbranch := ih (inBranches _ (List.mem_append_right _ List.mem_cons_self))
      simp only [eval, evalBranch?_exchange settings lookup hbranch]
  | inFallback _ ih =>
    cases wf with
    | partition _ _ _ inFallback => simp only [eval, ih inFallback]

end Evaluation

/-! ## Pools -/

/-- A walk meets the same rules in another order. -/
theorem Reordered.allRules_perm {t u : RuleTree} (h : t.Reordered u) :
    t.allRules.Perm u.allRules := by
  induction h with
  | refl => exact .refl _
  | trans _ _ ihFirst ihSecond => exact ihFirst.trans ihSecond
  | branches perm =>
    simp only [allRules, rulesIn_eq]
    exact (perm.flatMap_right _).append_right _
  | inBranch _ ih =>
    simp only [allRules, rulesIn_eq, List.flatMap_append, List.flatMap_cons]
    exact ((ih.append_right _).append_left _).append_right _
  | inFallback _ ih =>
    simp only [allRules]
    exact ih.append_left _

end RuleTree

theorem length_firstUses_perm {α : Type} [DecidableEq α] {l m : List α} (h : l.Perm m) :
    (firstUses l).length = (firstUses m).length := by
  -- the first uses stand in another order, but they are the same and none of them is there twice
  have hsame : ∀ a, a ∈ firstUses l ↔ a ∈ firstUses m := by
    intro a
    rw [mem_firstUses, mem_firstUses, h.mem_iff]
  exact ((List.perm_ext_iff_of_nodup (nodup_firstUses l) (nodup_firstUses m)).mpr hsame).length_eq

namespace RuleSet

theorem Reordered.uses_perm {s t : RuleSet} (h : s.Reordered t) : s.uses.Perm t.uses := by
  rw [uses, uses, h.default]
  exact (h.rules.allRules_perm.flatMap_right _).append_right _

theorem Reordered.validate {s t : RuleSet} (h : s.Reordered t) (valid : s.validate = .ok ()) :
    t.validate = .ok () :=
  validate_of_wellFormed (h.rules.wellFormed (s.wellFormed valid))

theorem Reordered.eval_eq {s t : RuleSet} (h : s.Reordered t) (valid : s.validate = .ok ())
    (settings : Settings) (lookup : Lookup) : t.eval settings lookup = s.eval settings lookup := by
  rw [RuleSet.eval_eq, RuleSet.eval_eq, h.default,
    h.rules.eval_eq settings lookup (s.wellFormed valid)]

theorem Reordered.stats_eq {s t : RuleSet} (h : s.Reordered t) :
    t.compile.pool.stats = s.compile.pool.stats := by
  have huses := h.uses_perm
  rw [stats_compile, stats_compile, literals, literals, weightedTables, weightedTables,
    uniformTables, uniformTables, length_firstUses_perm (huses.filterMap Use.literal?),
    length_firstUses_perm (huses.filterMap Use.weighted?),
    length_firstUses_perm (huses.filterMap Use.uniform?)]

end RuleSet

/-- **The order of branches does not matter**: if branches of a rule set without faults are put in
another order, at any depth, the rule set still has no fault, both backends make evaluators that come
to the same answer or error in every context after asking for the same keys in the same order, and
the pools of the two programs have the same numbers of entries. -/
theorem branch_order_irrelevant {s t : RuleSet} (valid : s.validate = .ok ())
    (h : s.Reordered t) :
    t.validate = .ok ()
      ∧ (∀ (settings : Settings) (backend : Backend), ∃ evaluator evaluator',
          settings.evaluator backend s = .ok evaluator
            ∧ settings.evaluator backend t = .ok evaluator'
            ∧ ∀ lookup, (evaluator' lookup).answer = (evaluator lookup).answer
                ∧ (evaluator' lookup).keys = (evaluator lookup).keys)
      ∧ ∃ p q, s.program = .ok p ∧ t.program = .ok q ∧ q.pool.stats = p.pool.stats := by
  have valid' := h.validate valid
  refine ⟨valid', ?_, s.compile, t.compile, s.program_of_valid valid, t.program_of_valid valid',
    h.stats_eq⟩
  intro settings backend
  refine ⟨_, _, settings.evaluator_of_valid backend valid, settings.evaluator_of_valid backend valid',
    ?_⟩
  intro lookup
  rw [h.eval_eq valid]
  exact ⟨rfl, rfl⟩

/-- A rule set with a partition in a branch of a partition, each with its branches in some order. -/
def RuleSet.branching (outer inner : List (String × RuleTree) → List (String × RuleTree)) :
    RuleSet where
  rules := .partition "country"
    (outer
      [("IL", .partition "platform"
        (inner
          [("iOS", .list
            [⟨.property "plan" (.compare .equal (.string "pro") none), .single (.string "a")⟩]),
          ("Android", .list [⟨.always, .weighted "user" "exp" [(.string "a", 1)]⟩])])
        (.list [⟨.always, .single (.string "pro")⟩])),
      ("US", .list [⟨.property "plan" (.startsWith "p"), .single (.string "a")⟩])])
    .empty
  default? := some (.string "b")

theorem RuleSet.reordered_branching :
    (RuleSet.branching id id).Reordered (RuleSet.branching List.reverse List.reverse) where
  rules := by
    have hinner : (RuleSet.branching id id).rules.Reordered (RuleSet.branching id List.reverse).rules :=
      @RuleTree.Reordered.inBranch _ _ [] _ _ _ _ (.branches (List.reverse_perm _).symm)
    have houter : (RuleSet.branching id List.reverse).rules.Reordered
        (RuleSet.branching List.reverse List.reverse).rules :=
      .branches (List.reverse_perm _).symm
    exact hinner.trans houter
  default := rfl

theorem branch_order_irrelevant_of_branching :
    (RuleSet.branching id id).validate = .ok ()
      ∧ (RuleSet.branching id id).Reordered (RuleSet.branching List.reverse List.reverse)
      ∧ (RuleSet.branching List.reverse List.reverse).validate = .ok ()
      ∧ (∀ (settings : Settings) (backend : Backend), ∃ evaluator evaluator',
          settings.evaluator backend (RuleSet.branching id id) = .ok evaluator
            ∧ settings.evaluator backend (RuleSet.branching List.reverse List.reverse)
              = .ok evaluator'
            ∧ ∀ lookup, (evaluator' lookup).answer = (evaluator lookup).answer
                ∧ (evaluator' lookup).keys = (evaluator lookup).keys)
      ∧ ∃ p q, (RuleSet.branching id id).program = .ok p
          ∧ (RuleSet.branching List.reverse List.reverse).program = .ok q
          ∧ q.pool.stats = p.pool.stats :=
  ⟨rfl, RuleSet.reordered_branching, branch_order_irrelevant rfl RuleSet.reordered_branching⟩

end Rollout
