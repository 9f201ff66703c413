import Rollout.Proofs.Induction
import Rollout.RuleSet.Check

/-!
# Rule sets without faults

What a rule set that passes its check looks like: at every level the branches of a partition have
keys that differ in lower case, so at most one of them answers to a value. A rule set of this kind
passes its check, too.
-/

namespace Rollout

/-- A tree without faults. -/
inductive RuleTree.WellFormed : RuleTree → Prop
  | list {rules : List Rule} (owners : ∀ r ∈ rules, r.value.owner? ≠ some "") :
      WellFormed (.list rules)
  | partition {property : String} {branches : List (String × RuleTree)} {fallback : RuleTree}
      (named : property ≠ "") (distinct : (branchKeys branches).Nodup)
      (inBranches : ∀ b ∈ branches, b.2.WellFormed) (inFallback : fallback.WellFormed) :
      WellFormed (.partition property branches fallback)

/-! ## What a check that succeeded has seen -/

theorem firstRepeated?_eq_none {seen l : List String} (h : firstRepeated? seen l = none) :
    l.Nodup ∧ ∀ s ∈ l, s ∉ seen := by
  induction l generalizing seen with
  | nil => exact ⟨List.nodup_nil, fun s hs => absurd hs List.not_mem_nil⟩
  | cons s rest ih =>
    rw [firstRepeated?] at h
    split at h
    · exact absurd h (by simp)
    · rename_i hs
      obtain ⟨hnodup, hfresh⟩ := ih h
      refine ⟨List.nodup_cons.mpr ⟨fun hmem => hfresh s hmem List.mem_cons_self, hnodup⟩, ?_⟩
      intro t ht
      rcases List.mem_cons.mp ht with rfl | ht
      · exact hs
      · exact fun hseen => hfresh t ht (List.mem_cons_of_mem _ hseen)

theorem owners_of_checkRules {rules : List Rule} {next after : Nat}
    (h : checkRules next rules = .ok after) : ∀ r ∈ rules, r.value.owner? ≠ some "" := by
  induction rules generalizing next with
  | nil => exact fun r hr => absurd hr List.not_mem_nil
  | cons r rest ih =>
    rw [checkRules] at h
    split at h
    · exact absurd h (by simp)
    · rename_i howner
      intro q hq
      rcases List.mem_cons.mp hq with rfl | hq
      · exact howner
      · exact ih h q hq

/-- What follows a check that succeeded had its own check succeed. -/
theorem bind_eq_ok {α β : Type} {x : Except RuleSetError α} {f : α → Except RuleSetError β}
    {b : β} (h : (x >>= f) = .ok b) : ∃ a, x = .ok a ∧ f a = .ok b := by
  cases x with
  | error e => exact absurd h (by simp [bind, Except.bind])
  | ok a => exact ⟨a, rfl, h⟩

theorem RuleTree.each_of_checkBranches {branches : List (String × RuleTree)} {next after : Nat}
    (h : RuleTree.checkBranches next branches = .ok after) :
    ∀ b ∈ branches, ∃ before after, b.2.check before = .ok after := by
  induction branches generalizing next with
  | nil => exact fun b hb => absurd hb List.not_mem_nil
  | cons head rest ih =>
    rw [RuleTree.checkBranches] at h
    obtain ⟨middle, hhead, hrest⟩ := bind_eq_ok h
    intro b hb
    rcases List.mem_cons.mp hb with rfl | hb
    · exact ⟨next, middle, hhead⟩
    · exact ih hrest b hb

theorem RuleTree.wellFormed_of_check {t : RuleTree} {next after : Nat}
    (h : t.check next = .ok after) : t.WellFormed := by
  induction t generalizing next after with
  | list rules =>
    rw [RuleTree.check] at h
    exact .list (owners_of_checkRules h)
  | partition property branches fallback ihBranches ihFallback =>
    rw [RuleTree.check] at h
    split at h
    · exact absurd h (by simp)
    · rename_i hnamed
      split at h
      · exact absurd h (by simp)
      · rename_i hrepeated
        obtain ⟨middle, hbranches, hfallback⟩ := bind_eq_ok h
        refine .partition hnamed (firstRepeated?_eq_none hrepeated).1 ?_ (ihFallback hfallback)
        intro b hb
        obtain ⟨_, _, hb'⟩ := each_of_checkBranches hbranches b hb
        exact ihBranches b hb hb'

/-- A rule set that passes its check has no fault at any level. -/
theorem RuleSet.wellFormed {s : RuleSet} (valid : s.validate = .ok ()) : s.rules.WellFormed := by
  rw [RuleSet.validate] at valid
  cases hcheck : s.rules.check 0 with
  | error fault =>
    rw [hcheck] at valid
    exact absurd valid (by simp [Except.map])
  | ok after => exact RuleTree.wellFormed_of_check hcheck

/-! ## What passes a check -/

theorem firstRepeated?_of_nodup {seen l : List String} (hnodup : l.Nodup)
    (hfresh : ∀ s ∈ l, s ∉ seen) : firstRepeated? seen l = none := by
  induction l generalizing seen with
  | nil => rfl
  | cons s rest ih =>
    obtain ⟨hs, hrest⟩ := List.nodup_cons.mp hnodup
    rw [firstRepeated?, if_neg (hfresh s List.mem_cons_self)]
    refine ih hrest ?_
    intro t ht hseen
    rcases List.mem_cons.mp hseen with rfl | hseen
    · exact hs ht
    · exact hfresh t (List.mem_cons_of_mem _ ht) hseen

theorem checkRules_of_owners {rules : List Rule} (h : ∀ r ∈ rules, r.value.owner? ≠ some "")
    (next : Nat) : ∃ after, checkRules next rules = .ok after := by
  induction rules generalizing next with
  | nil => exact ⟨next, rfl⟩
  | cons r rest ih =>
    rw [checkRules, if_neg (h r List.mem_cons_self)]
    exact ih (fun q hq => h q (List.mem_cons_of_mem _ hq)) (next + 1)

theorem RuleTree.checkBranches_of_each {branches : List (String × RuleTree)}
    (h : ∀ b ∈ branches, ∀ next, ∃ after, b.2.check next = .ok after) (next : Nat) :
    ∃ after, RuleTree.checkBranches next branches = .ok after := by
  induction branches generalizing next with
  | nil => exact ⟨next, rfl⟩
  | cons b rest ih =>
    obtain ⟨middle, hmiddle⟩ := h b List.mem_cons_self next
    obtain ⟨after, hafter⟩ := ih (fun c hc => h c (List.mem_cons_of_mem _ hc)) middle
    refine ⟨after, ?_⟩
    rw [RuleTree.checkBranches, hmiddle]
    exact hafter

/-- A tree without faults passes its check. -/
theorem RuleTree.WellFormed.check_ok {t : RuleTree} (wf : t.WellFormed) (next : Nat) :
    ∃ after, t.check next = .ok after := by
  induction wf generalizing next with
  | list owners =>
    rw [RuleTree.check]
    exact checkRules_of_owners owners next
  | @partition property branches fallback named distinct _ _ ihBranches ihFallback =>
    have hkeys : firstRepeated? [] (branchKeys branches) = none :=
      firstRepeated?_of_nodup distinct fun s _ => List.not_mem_nil
    obtain ⟨middle, hmiddle⟩ := RuleTree.checkBranches_of_each ihBranches next
    obtain ⟨after, hafter⟩ := ihFallback middle
    refine ⟨after, ?_⟩
    simp only [RuleTree.check, if_neg named, hkeys, hmiddle]
    exact hafter

/-- A rule set that has no fault at any level passes its check. -/
theorem RuleSet.validate_of_wellFormed {s : RuleSet} (wf : s.rules.WellFormed) :
    s.validate = .ok () := by
  obtain ⟨after, hafter⟩ := wf.check_ok 0
  rw [RuleSet.validate, hafter]
  rfl

end Rollout
