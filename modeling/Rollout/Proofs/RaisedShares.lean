import Rollout.Proofs.Evaluation
import Rollout.Proofs.Shares

/-!
# Raising a share

The entries at the front of a weighted table have the lowest targets, as many as they have weight
together. When weights change and the total stays, every bucket keeps its target. So if the front
entries get no less weight together than they had, a bucket that selected one of them still does:
a feature that is rolled out further is taken away from nobody.
-/

namespace Rollout

section

variable {table table' : List (Value × Nat)} {k : Nat} {bucket : UInt64}

/-! ## The front of a table -/

theorem pick_eq_none_iff {target : Nat} : pick target table = none ↔ totalWeight table ≤ target := by
  constructor
  · intro h
    by_contra hlt
    obtain ⟨i, hi⟩ := exists_inShare (Nat.lt_of_not_le hlt)
    rw [pick_of_inShare hi] at h
    cases h
  · intro h
    have hend : pick target (table ++ []) = pick (target - totalWeight table) [] := pick_append h []
    rwa [List.append_nil] at hend

/-- Selection stops at one of the first `k` entries: the walk along these alone comes to an entry. -/
def StopsWithin (k : Nat) (table : List (Value × Nat)) (bucket : UInt64) : Prop :=
  pick (bucket.toNat % totalWeight table) (table.take k) ≠ none

theorem stopsWithin_iff :
    StopsWithin k table bucket ↔ bucket.toNat % totalWeight table < weightBefore table k := by
  rw [StopsWithin, Ne, pick_eq_none_iff, Nat.not_le, weightBefore]

theorem pick_append_of_some {target : Nat} {before : List (Value × Nat)} {v : Value}
    (h : pick target before = some v) (rest : List (Value × Nat)) :
    pick target (before ++ rest) = some v := by
  induction before generalizing target with
  | nil => cases h
  | cons e before ih =>
    obtain ⟨u, w⟩ := e
    rw [List.cons_append, pick]
    rw [pick] at h
    split at h
    · rw [if_pos ‹_›, h]
    · rw [if_neg ‹_›]
      exact ih h

theorem mem_of_pick {target : Nat} {v : Value} (h : pick target table = some v) :
    v ∈ table.map Prod.fst := by
  induction table generalizing target with
  | nil => cases h
  | cons e rest ih =>
    obtain ⟨u, w⟩ := e
    rw [pick] at h
    split at h
    · cases h
      exact List.mem_cons_self
    · exact List.mem_cons_of_mem _ (ih h)

/-- What is selected at the front is a value of the front. -/
theorem StopsWithin.selects (h : StopsWithin k table bucket) :
    ∃ v ∈ (table.map Prod.fst).take k, selectWeighted table bucket = some v := by
  obtain ⟨v, hv⟩ := Option.ne_none_iff_exists'.mp h
  have hweight : totalWeight table ≠ 0 := by
    have hle : weightBefore table k ≤ totalWeight table := weightBefore_le_total k
    have hlt := stopsWithin_iff.mp h
    omega
  refine ⟨v, ?_, ?_⟩
  · rw [← List.map_take]
    exact mem_of_pick hv
  · rw [selectWeighted_of_weight hweight, ← pick_append_of_some hv (table.drop k),
      List.take_append_drop]

/-- What is selected behind the front is a value from behind it. -/
theorem mem_drop_of_selectWeighted {v : Value} (hv : selectWeighted table bucket = some v)
    (h : ¬StopsWithin k table bucket) : v ∈ (table.map Prod.fst).drop k := by
  have hweight : totalWeight table ≠ 0 := by
    rw [Ne, ← selectWeighted_eq_none_iff bucket, hv]
    nofun
  rw [stopsWithin_iff, Nat.not_lt] at h
  have hselect : selectWeighted table bucket
      = pick (bucket.toNat % totalWeight table - weightBefore table k) (table.drop k) := by
    rw [selectWeighted_of_weight hweight, weightBefore, ← pick_append h, List.take_append_drop]
  rw [← List.map_drop]
  exact mem_of_pick (hselect ▸ hv)

/-! ## Other weights -/

/-- Two tables for the same values in the same order, with the same weight in total. -/
structure Reweighted (table table' : List (Value × Nat)) : Prop where
  values : table'.map Prod.fst = table.map Prod.fst
  total : totalWeight table' = totalWeight table

theorem Reweighted.symm (h : Reweighted table table') : Reweighted table' table :=
  ⟨h.values.symm, h.total.symm⟩

/-- A front that gets more weight keeps its buckets. -/
theorem Reweighted.stopsWithin (h : Reweighted table table')
    (hfront : weightBefore table k ≤ weightBefore table' k) (hstops : StopsWithin k table bucket) :
    StopsWithin k table' bucket := by
  rw [stopsWithin_iff] at hstops ⊢
  rw [h.total]
  exact Nat.lt_of_lt_of_le hstops hfront

theorem Reweighted.exists_selected {v : Value} (h : Reweighted table table')
    (hv : selectWeighted table bucket = some v) :
    ∃ v ∈ table.map Prod.fst, selectWeighted table' bucket = some v := by
  obtain ⟨x, hx⟩ : ∃ x, selectWeighted table' bucket = some x := by
    refine Option.ne_none_iff_exists'.mp fun hnone => ?_
    rw [selectWeighted_eq_none_iff, h.total, ← selectWeighted_eq_none_iff bucket, hv] at hnone
    cases hnone
  have hfront : ¬StopsWithin 0 table' bucket := fun hstops => hstops rfl
  exact ⟨x, h.values ▸ mem_drop_of_selectWeighted hx hfront, hx⟩

end

/-! ## Rollouts to owners -/

/-- Whoever gets the value by the first table gets it by the second, whatever the kind of owner, the
salt and the hash. -/
def KeepsOwners (v : Value) (table table' : List (Value × Nat)) : Prop :=
  ∀ (settings : Settings) (lookup : Lookup) (owner salt : String),
    ((Distribution.weighted owner salt table).eval settings lookup).answer = .ok (some v) →
      ((Distribution.weighted owner salt table').eval settings lookup).answer = .ok (some v)

section

variable {table table' : List (Value × Nat)} {k : Nat} {v : Value}

theorem keepsOwners_of_buckets
    (h : ∀ bucket, selectWeighted table bucket = some v → selectWeighted table' bucket = some v) :
    KeepsOwners v table table' := by
  intro settings lookup owner salt hv
  obtain ⟨bucket, hid, hselect⟩ := Option.bind_eq_some_iff.mp (Except.ok.inj hv)
  exact congrArg Except.ok (Option.bind_eq_some_iff.mpr ⟨bucket, hid, h bucket hselect⟩)

/-- A value that makes up the front, and a front that gets more weight. -/
theorem Reweighted.keepsOwners_front (h : Reweighted table table')
    (hfront : weightBefore table k ≤ weightBefore table' k)
    (hhere : ∀ x ∈ (table.map Prod.fst).take k, x = v) (hbehind : v ∉ (table.map Prod.fst).drop k) :
    KeepsOwners v table table' := by
  refine keepsOwners_of_buckets fun bucket hv => ?_
  have hstops : StopsWithin k table bucket := by
    by_contra hstops
    exact hbehind (mem_drop_of_selectWeighted hv hstops)
  obtain ⟨x, hx, hselect⟩ := (h.stopsWithin hfront hstops).selects
  rw [h.values] at hx
  rw [hselect, hhere x hx]

/-- A value that makes up what is behind the front, and a front that gets less weight. -/
theorem Reweighted.keepsOwners_behind (h : Reweighted table table')
    (hfront : weightBefore table' k ≤ weightBefore table k)
    (hhere : ∀ x ∈ (table.map Prod.fst).drop k, x = v) (hahead : v ∉ (table.map Prod.fst).take k) :
    KeepsOwners v table table' := by
  refine keepsOwners_of_buckets fun bucket hv => ?_
  have hstops : ¬StopsWithin k table' bucket := by
    intro hstops
    obtain ⟨x, hx, hselect⟩ := (h.symm.stopsWithin hfront hstops).selects
    obtain rfl : x = v := Option.some.inj (hselect.symm.trans hv)
    exact hahead hx
  obtain ⟨x, -, hselect⟩ := h.exists_selected hv
  have hx := mem_drop_of_selectWeighted hselect hstops
  rw [h.values] at hx
  rw [hselect, hhere x hx]

theorem Reweighted.keepsOwners_alone (h : Reweighted table table')
    (hhere : ∀ x ∈ table.map Prod.fst, x = v) : KeepsOwners v table table' := by
  refine keepsOwners_of_buckets fun bucket hv => ?_
  obtain ⟨x, hx, hselect⟩ := h.exists_selected hv
  rw [hselect, hhere x hx]

end

/-! ## All together -/

/-- **A raised share keeps its owners.** When the first entries of a table get no less weight together
than before, and the total stays, a bucket that selected one of them still does; where no value stands
both at the front and behind it, this is read off the value selected. So a value rolled out beside one
other, whichever of the two comes first, is kept by every owner who had it when its share grows. -/
theorem raised_share_keeps_owners :
    (∀ table table' k, Reweighted table table' → weightBefore table k ≤ weightBefore table' k →
        ∀ bucket, StopsWithin k table bucket →
          StopsWithin k table' bucket
            ∧ ∃ v ∈ (table.map Prod.fst).take k, selectWeighted table' bucket = some v)
      ∧ (∀ table table' k, Reweighted table table' → weightBefore table k ≤ weightBefore table' k →
          ((table.map Prod.fst).take k).Disjoint ((table.map Prod.fst).drop k) →
            ∀ bucket, (∃ v ∈ (table.map Prod.fst).take k, selectWeighted table bucket = some v) →
              ∃ v ∈ (table.map Prod.fst).take k, selectWeighted table' bucket = some v)
      ∧ ∀ on off w u w' u', w + u = w' + u' → w ≤ w' →
          KeepsOwners on [(on, w), (off, u)] [(on, w'), (off, u')]
            ∧ KeepsOwners on [(off, u), (on, w)] [(off, u'), (on, w')] := by
  refine ⟨?_, ?_, ?_⟩
  · intro table table' k h hfront bucket hstops
    have hstops' := h.stopsWithin hfront hstops
    exact ⟨hstops', h.values ▸ hstops'.selects⟩
  · intro table table' k h hfront hdisjoint bucket ⟨v, hv, hselect⟩
    have hstops : StopsWithin k table bucket := by
      by_contra hstops
      exact hdisjoint hv (mem_drop_of_selectWeighted hselect hstops)
    exact h.values ▸ (h.stopsWithin hfront hstops).selects
  · intro on off w u w' u' htotal hraised
    have hfirst : Reweighted [(on, w), (off, u)] [(on, w'), (off, u')] :=
      ⟨rfl, by simp only [totalWeight_cons, totalWeight_nil]; omega⟩
    have hlast : Reweighted [(off, u), (on, w)] [(off, u'), (on, w')] :=
      ⟨rfl, by simp only [totalWeight_cons, totalWeight_nil]; omega⟩
    by_cases hsame : off = on
    · -- there is only one value to select
      subst hsame
      exact ⟨hfirst.keepsOwners_alone (by simp), hlast.keepsOwners_alone (by simp)⟩
    · constructor
      · refine hfirst.keepsOwners_front (k := 1) hraised ?_ ?_
        · simp
        · simpa using Ne.symm hsame
      · have hlowered : u' ≤ u := by omega
        refine hlast.keepsOwners_behind (k := 1) hlowered ?_ ?_
        · simp
        · simpa using Ne.symm hsame

/-- Within a raised front, a bucket may pass on to another entry. -/
example :
    selectWeighted [(.string "a", 5), (.string "b", 0), (.string "off", 5)] 4 = some (.string "a")
      ∧ selectWeighted [(.string "a", 3), (.string "b", 3), (.string "off", 4)] 4
        = some (.string "b") := by
  decide +kernel

end Rollout
