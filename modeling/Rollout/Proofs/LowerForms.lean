import Rollout.Proofs.LetterForms

/-!
# Lower case is final

A character that stands in a lower-case form is its own lower-case form, so a text in lower case is
not changed by lower-casing it again. The table of forms shows it run by run: no run carries a
character to where a run begins anew.
-/

namespace Rollout.Text

/-! ## Runs that miss each other -/

/-- Whether the run `r` carries nothing into the run `q`: it carries all beyond one end of it or,
where the two interlock, between the code points of it. -/
def CaseRun.misses (r q : CaseRun) : Bool :=
  (r.image + (r.last - r.first)).blt q.first || q.last.blt r.image
    || q.step.beq 2 && (r.step.beq 2 || r.first.beq r.last) && ((r.image + q.first) % 2).beq 1

namespace CaseRun

variable {r q : CaseRun} {n m : Nat}

theorem map?_eq_some_iff : r.map? n = some m
    ↔ (r.first ≤ n ∧ n ≤ r.last ∧ (n - r.first) % r.step = 0) ∧ r.image + (n - r.first) = m := by
  rw [map?]
  split <;> simp_all

theorem misses_iff : r.misses q = true
    ↔ (r.image + (r.last - r.first) < q.first ∨ q.last < r.image)
      ∨ (q.step = 2 ∧ (r.step = 2 ∨ r.first = r.last)) ∧ (r.image + q.first) % 2 = 1 := by
  simp [misses, Nat.blt_eq]

/-- What one run carries is not carried on by a run that it misses. -/
theorem map?_eq_none_of_misses (h : r.misses q = true) (hm : r.map? n = some m) :
    q.map? m = none := by
  obtain ⟨⟨hfirst, hlast, hstep⟩, rfl⟩ := map?_eq_some_iff.mp hm
  refine if_neg ?_
  rintro ⟨hafter, hbefore, hmeet⟩
  rcases misses_iff.mp h with (h | h) | ⟨⟨htwo, hr⟩, hodd⟩
  · omega
  · omega
  · rw [htwo] at hmeet
    rcases hr with hr | hr
    · rw [hr] at hstep
      omega
    · omega

end CaseRun

/-! ## Forms of a character -/

section Forms

variable {runs : List CaseRun} {specials : List (Nat × List Nat)} {c d : Char}

/-- A character of a form comes from a run or from a special form, or else the form is the character
itself. -/
theorem mem_caseForm (h : d ∈ caseForm runs specials c) :
    (∃ r ∈ runs, ∃ n, r.map? c.toNat = some n ∧ d = Char.ofNat n)
      ∨ (∃ e ∈ specials, ∃ n ∈ e.2, d = Char.ofNat n)
      ∨ caseForm runs specials d = [d] := by
  cases hrun : runs.findSome? (·.map? c.toNat) with
  | some n =>
    rw [caseForm, hrun] at h
    obtain ⟨r, hr, hmap⟩ := List.exists_of_findSome?_eq_some hrun
    exact .inl ⟨r, hr, n, hmap, List.mem_singleton.mp h⟩
  | none =>
    cases hspecial : specials.lookup c.toNat with
    | some ns =>
      simp only [caseForm, hrun, hspecial, List.mem_map] at h
      obtain ⟨n, hn, rfl⟩ := h
      obtain ⟨before, after, rfl, -⟩ := List.lookup_eq_some_iff.mp hspecial
      exact .inr (.inl ⟨_, List.mem_append_right _ List.mem_cons_self, n, hn, rfl⟩)
    | none =>
      have hself := caseForm_of_unmapped hrun hspecial
      rw [hself, List.mem_singleton] at h
      rw [h]
      exact .inr (.inr hself)

end Forms

/-- No run of the table of lower-case forms carries anything into a run of that table. -/
theorem lowerRuns_miss {r q : CaseRun} (hr : r ∈ lowerRuns) (hq : q ∈ lowerRuns) :
    r.misses q = true := by
  have hall : (lowerRuns.all fun r => lowerRuns.all fun q => r.misses q) = true := by
    decide +kernel
  exact List.all_eq_true.mp (List.all_eq_true.mp hall r hr) q hq

theorem toNat_lower_run {r : CaseRun} (hr : r ∈ lowerRuns) {n m : Nat} (h : r.map? n = some m) :
    (Char.ofNat m).toNat = m ∧ m ≠ 0x130 := by
  have htable : ∀ r ∈ lowerRuns, (r.image + (r.last - r.first) < 0x130 ∨ 0x130 < r.image)
      ∧ (r.image + (r.last - r.first) < 0xD800
        ∨ 0xDFFF < r.image ∧ r.image + (r.last - r.first) < 0x110000) := by decide +kernel
  obtain ⟨hspecial, hvalid⟩ := htable r hr
  obtain ⟨⟨hfirst, hlast, -⟩, rfl⟩ := CaseRun.map?_eq_some_iff.mp h
  refine ⟨?_, by omega⟩
  have hchar : (r.image + (n - r.first)).isValidChar := by
    rcases hvalid with hvalid | ⟨hlow, hhigh⟩
    · exact .inl (by omega)
    · exact .inr ⟨by omega, by omega⟩
  rw [Char.ofNat, dif_pos hchar]
  rfl

/-- The characters of a lower-case form have no other lower-case form. -/
theorem lower_of_mem_lower {c d : Char} (h : d ∈ lower c) : lower d = [d] := by
  rcases mem_caseForm h with ⟨r, hr, n, hmap, rfl⟩ | ⟨e, he, n, hn, rfl⟩ | hself
  · obtain ⟨htoNat, hspecial⟩ := toNat_lower_run hr hmap
    refine caseForm_of_unmapped ?_ ?_
    · rw [htoNat]
      exact List.findSome?_eq_none_iff.mpr fun q hq =>
        CaseRun.map?_eq_none_of_misses (lowerRuns_miss hr hq) hmap
    · rw [htoNat]
      refine List.lookup_eq_none_iff.mpr fun e he => bne_iff_ne.mpr ?_
      rwa [List.mem_singleton.mp he]
  · have hspecials : ∀ e ∈ lowerSpecials, ∀ n ∈ e.2, lower (Char.ofNat n) = [Char.ofNat n] := by
      decide +kernel
    exact hspecials e he n hn
  · exact hself

/-! ## Whole texts -/

/-- A capital sigma has two lower-case forms, and neither is a capital. -/
theorem lower_lowerSigma (before after : List Char) :
    lower (lowerSigma before after) = [lowerSigma before after] := by
  rw [lowerSigma]
  split <;> decide +kernel

theorem lower_of_mem_lowerAfter {before l : List Char} {d : Char} (h : d ∈ lowerAfter before l) :
    lower d = [d] := by
  induction l generalizing before with
  | nil => exact absurd h List.not_mem_nil
  | cons c after ih =>
    rcases List.mem_append.mp h with h | h
    · split at h
      · rw [List.mem_singleton.mp h]
        exact lower_lowerSigma before after
      · exact lower_of_mem_lower h
    · exact ih h

theorem lowerAfter_eq_self {before l : List Char} (h : ∀ c ∈ l, lower c = [c]) :
    lowerAfter before l = l := by
  induction l generalizing before with
  | nil => rfl
  | cons c after ih =>
    obtain ⟨hc, hafter⟩ := List.forall_mem_cons.mp h
    have hsigma : c ≠ 'Σ' := by
      rintro rfl
      exact absurd hc (by decide +kernel)
    rw [lowerAfter, if_neg hsigma, hc, ih hafter]
    rfl

/-- A text of characters that are their own lower-case forms is in lower case. -/
theorem lowerCase_eq_self {s : String} (h : ∀ c ∈ s.toList, lower c = [c]) : lowerCase s = s := by
  rw [lowerCase, lowerAfter_eq_self h, String.ofList_toList]

/-- **Lower-casing a second time changes nothing.** -/
theorem lowerCase_lowerCase (s : String) : lowerCase (lowerCase s) = lowerCase s := by
  refine lowerCase_eq_self fun c hc => ?_
  rw [lowerCase, String.toList_ofList] at hc
  exact lower_of_mem_lowerAfter hc

end Rollout.Text
