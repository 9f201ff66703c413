import Rollout.Text.Fold
import Rollout.Text.Lower

/-!
# Texts that differ in the case of their letters

Folding carries the letters A to Z and a to z to the same forms, and so does lower-casing. Lower-casing
also looks at the characters beside a capital sigma, but there a letter of either case is cased and not
case-ignorable. So both come to the same on a text and on the text with small letters for the capital
ones, whatever other characters stand in it.
-/

namespace Rollout.Text

/-! ## Capital letters -/

/-- The character is one of the letters A to Z. -/
def IsCapital (c : Char) : Prop :=
  0x41 ≤ c.toNat ∧ c.toNat ≤ 0x5A

theorem isCapital_iff (c : Char) : IsCapital c ↔ c.val ≥ 'A'.val ∧ c.val ≤ 'Z'.val := by
  rw [ge_iff_le, UInt32.le_iff_toNat_le, UInt32.le_iff_toNat_le]
  rfl

theorem IsCapital.toNat_toLower {c : Char} (h : IsCapital c) :
    c.toLower.toNat = c.toNat + 0x20 := by
  have hsmall : c.toLower.val = c.val + 0x20 :=
    congrArg Char.val (dif_pos ((isCapital_iff c).mp h))
  have hsum : c.val.toNat + 0x20 < 2 ^ 32 := by
    have hlast : c.val.toNat ≤ 0x5A := h.2
    omega
  rw [Char.toNat, hsmall, UInt32.toNat_add]
  exact Nat.mod_eq_of_lt hsum

theorem toLower_of_not_isCapital {c : Char} (h : ¬IsCapital c) : c.toLower = c :=
  dif_neg (mt (isCapital_iff c).mpr h)

/-- What is the same for a capital letter and the small one is the same for every character. -/
theorem eq_toLower {α : Type} {f : Char → α} (h : ∀ c, IsCapital c → f c.toLower = f c)
    (c : Char) : f c.toLower = f c := by
  by_cases hcapital : IsCapital c
  · exact h c hcapital
  · rw [toLower_of_not_isCapital hcapital]

/-! ## Forms of a letter -/

section Forms

variable {runs : List CaseRun} {specials : List (Nat × List Nat)} {c : Char}

theorem caseForm_of_map? {r : CaseRun} {n : Nat} (h : r.map? c.toNat = some n) :
    caseForm (r :: runs) specials c = [Char.ofNat n] := by
  rw [caseForm, List.findSome?_cons, h]

/-- A character that the runs carry nowhere and that has no special form stands for itself. -/
theorem caseForm_of_unmapped (hruns : runs.findSome? (·.map? c.toNat) = none)
    (hspecials : specials.lookup c.toNat = none) : caseForm runs specials c = [c] := by
  rw [caseForm, hruns, hspecials]

/-- So does one that lies outside of all runs and before all special forms. -/
theorem caseForm_of_unreached (hruns : ∀ r ∈ runs, c.toNat < r.first ∨ r.last < c.toNat)
    (hspecials : ∀ e ∈ specials, c.toNat < e.1) : caseForm runs specials c = [c] := by
  refine caseForm_of_unmapped ?_ ?_
  · refine List.findSome?_eq_none_iff.mpr fun r hr => if_neg ?_
    have := hruns r hr
    omega
  · refine List.lookup_eq_none_iff.mpr fun e he => bne_iff_ne.mpr ?_
    have := hspecials e he
    omega

/-- The first run alone decides on a character before all other runs and all special forms. -/
theorem caseForm_of_first_run {r : CaseRun} (hruns : ∀ q ∈ runs, c.toNat < q.first)
    (hspecials : ∀ e ∈ specials, c.toNat < e.1) :
    caseForm (r :: runs) specials c = caseForm [r] [] c := by
  cases hfirst : r.map? c.toNat with
  | some n => rw [caseForm_of_map? hfirst, caseForm_of_map? hfirst]
  | none =>
    have hrest := caseForm_of_unreached (fun q hq => .inl (hruns q hq)) hspecials
    have hnone : caseForm [r] [] c = [c] := by
      refine caseForm_of_unmapped ?_ rfl
      rw [List.findSome?_cons, hfirst]
      rfl
    rw [hnone, ← hrest, caseForm, caseForm, List.findSome?_cons, hfirst]

end Forms

theorem upper_toLower (c : Char) : upper c.toLower = upper c := by
  refine eq_toLower (fun c h => ?_) c
  have hruns : ∀ r ∈ upperRuns, 0x5A < r.first := by decide +kernel
  have hspecials : ∀ e ∈ upperSpecials, 0x5A < e.1 := by decide +kernel
  have htoNat := h.toNat_toLower
  obtain ⟨hfirst, hlast⟩ := h
  have hcapital : upper c = [c] :=
    caseForm_of_unreached (fun r hr => .inl (Nat.lt_of_le_of_lt hlast (hruns r hr)))
      fun e he => Nat.lt_of_le_of_lt hlast (hspecials e he)
  have hsmall : CaseRun.map? ⟨0x61, 0x7A, 1, 0x41⟩ c.toLower.toNat = some c.toNat := by
    simp only [htoNat, CaseRun.map?]
    rw [if_pos (by omega)]
    congr 1
    omega
  rw [hcapital, upper, upperRuns, caseForm_of_map? hsmall, Char.ofNat_toNat]

theorem lower_toLower (c : Char) : lower c.toLower = lower c := by
  refine eq_toLower (fun c h => ?_) c
  have hruns : ∀ r ∈ lowerRuns, r.last ≤ 0x5A ∨ 0x7A < r.first := by decide +kernel
  have hspecials : ∀ e ∈ lowerSpecials, 0x7A < e.1 := by decide +kernel
  have htoNat := h.toNat_toLower
  obtain ⟨hfirst, hlast⟩ := h
  have hsmall : lower c.toLower = [c.toLower] := by
    refine caseForm_of_unreached (fun r hr => ?_) fun e he => ?_
    · have := hruns r hr
      omega
    · have := hspecials e he
      omega
  have hcapital : CaseRun.map? ⟨0x41, 0x5A, 1, 0x61⟩ c.toNat = some c.toLower.toNat := by
    simp only [htoNat, CaseRun.map?]
    rw [if_pos (by omega)]
    congr 1
    omega
  rw [hsmall, lower, lowerRuns, caseForm_of_map? hcapital, Char.ofNat_toNat]

/-! ## Letters beside a sigma -/

theorem isCased_toLower (c : Char) : isCased c.toLower = isCased c := by
  refine eq_toLower (fun c h => ?_) c
  have htoNat := h.toNat_toLower
  obtain ⟨hfirst, hlast⟩ := h
  have hcapital : isCased c = true :=
    inRanges_iff.mpr ⟨(0x41, 0x5A), by decide +kernel, hfirst, hlast⟩
  have hsmall : isCased c.toLower = true :=
    inRanges_iff.mpr ⟨(0x61, 0x7A), by decide +kernel, by omega, by omega⟩
  rw [hsmall, hcapital]

theorem isCaseIgnorable_toLower (c : Char) : isCaseIgnorable c.toLower = isCaseIgnorable c := by
  refine eq_toLower (fun c h => ?_) c
  -- the circumflex and the grave accent between the two alphabets are ignorable
  have hranges : ∀ r ∈ caseIgnorableRanges,
      r.2 < 0x41 ∨ 0x5A < r.1 ∧ r.2 < 0x61 ∨ 0x7A < r.1 := by decide +kernel
  have htoNat := h.toNat_toLower
  obtain ⟨hfirst, hlast⟩ := h
  have hcapital : isCaseIgnorable c = false :=
    inRanges_eq_false fun r hr => by have := hranges r hr; omega
  have hsmall : isCaseIgnorable c.toLower = false :=
    inRanges_eq_false fun r hr => by have := hranges r hr; omega
  rw [hsmall, hcapital]

theorem toLower_eq_sigma_iff (c : Char) : c.toLower = 'Σ' ↔ c = 'Σ' := by
  refine iff_of_eq (eq_toLower (f := fun c => c = 'Σ') (fun c h => ?_) c)
  have htoNat := h.toNat_toLower
  obtain ⟨hfirst, hlast⟩ := h
  have hne {d : Char} (hd : d.toNat ≤ 0x7A) : (d = 'Σ') = False := by
    refine eq_false ?_
    rintro rfl
    exact absurd hd (by decide)
  rw [hne (by omega), hne (by omega)]

theorem startsCased_toLower (l : List Char) : startsCased (l.map Char.toLower) = startsCased l := by
  induction l with
  | nil => rfl
  | cons c rest ih =>
    rw [startsCased, List.map_cons, List.dropWhile_cons, isCaseIgnorable_toLower]
    rw [startsCased, List.dropWhile_cons]
    cases isCaseIgnorable c with
    | true => exact ih
    | false => exact isCased_toLower c

/-! ## Whole texts -/

theorem toList_toLower (s : String) : s.toLower.toList = s.toList.map Char.toLower :=
  String.toList_map

theorem toLower_eq_toLower_iff {s t : String} :
    s.toLower = t.toLower ↔ s.toList.map Char.toLower = t.toList.map Char.toLower := by
  rw [← String.toList_inj, toList_toLower, toList_toLower]

/-- A text is folded to the same form as the text with small letters for the capital ones. -/
theorem fold_toLower (s : String) : fold s.toLower = fold s := by
  rw [fold, toList_toLower, List.flatMap_map]
  simp only [upper_toLower]
  rfl

theorem lowerAfter_toLower (before l : List Char) :
    lowerAfter (before.map Char.toLower) (l.map Char.toLower) = lowerAfter before l := by
  induction l generalizing before with
  | nil => rfl
  | cons c after ih =>
    have hsigma : lowerSigma (before.map Char.toLower) (after.map Char.toLower)
        = lowerSigma before after := by
      rw [lowerSigma, lowerSigma, startsCased_toLower, startsCased_toLower]
    rw [List.map_cons, lowerAfter, lowerAfter, hsigma, lower_toLower, ← List.map_cons, ih]
    simp only [toLower_eq_sigma_iff]

/-- A text has the same lower-case form as the text with small letters for the capital ones. -/
theorem lowerCase_toLower (s : String) : lowerCase s.toLower = lowerCase s := by
  rw [lowerCase, lowerCase, toList_toLower]
  exact congrArg String.ofList (lowerAfter_toLower [] s.toList)

end Rollout.Text
