import Rollout.Decimal.Reader
import Rollout.Proofs.Verbatim

/-!
# Decimals are read back

The text of a decimal shows every digit of it, and reading takes every digit in, so that magnitude and
scale come back as they were. Only the sign of a zero is lost: what is read as zero has no sign.
-/

namespace Rollout.Decimal

-- powers are those of the core library, whatever else is in scope
attribute [local instance (high)] instPowNat

/-- The decimal without the sign of a zero. -/
def withoutZeroSign (d : Decimal) : Decimal :=
  { d with negative := d.negative && d.magnitude != 0 }

/-- The decimal is no negative zero. -/
def Signless (d : Decimal) : Prop :=
  d.negative = true → d.magnitude ≠ 0

theorem withoutZeroSign_eq_self_iff {d : Decimal} : d.withoutZeroSign = d ↔ d.Signless := by
  obtain ⟨negative, magnitude, scale, _, _⟩ := d
  cases negative <;> simp [withoutZeroSign, Signless]

/-- The sign of a zero does not count. -/
theorem signed_withoutZeroSign (d : Decimal) : d.withoutZeroSign.signed = d.signed := by
  obtain ⟨negative, magnitude, scale, _, _⟩ := d
  cases negative
  · rfl
  · cases magnitude <;> rfl

/-! ## Digits -/

theorem le_ofDigitChars (ds : List Char) (n : Nat) : n ≤ Nat.ofDigitChars 10 ds n := by
  rw [Nat.ofDigitChars_eq_ofDigitChars_zero]
  have hpos : 0 < 10 ^ ds.length := Nat.pow_pos (by decide)
  have hle := Nat.le_mul_of_pos_left n hpos
  omega

/-- Digits are taken in while the magnitude has room for them, and behind the point while there are no
more than 28 places. -/
theorem readDigits_digits {ds : List Char} (hdigits : ∀ c ∈ ds, c.isDigit = true) {n : Nat}
    (hfits : Nat.ofDigitChars 10 ds n < magnitudeBound) (scale : Option Nat)
    (hplaces : ∀ s ∈ scale, s + ds.length ≤ 28) (seen : Bool) (rest : List Char) :
    readDigits n scale seen (ds ++ rest)
      = readDigits (Nat.ofDigitChars 10 ds n) (scale.map (· + ds.length)) (seen || !ds.isEmpty)
        rest := by
  induction ds generalizing n scale seen with
  | nil => simp
  | cons c ds ih =>
    have hc : c.isDigit = true := hdigits c List.mem_cons_self
    have hroom : scale ≠ some 28 := by
      rintro rfl
      have hlast := hplaces 28 rfl
      simp only [List.length_cons] at hlast
      omega
    rw [Nat.ofDigitChars_cons] at hfits ⊢
    have hnext : 10 * n + (c.toNat - '0'.toNat) < magnitudeBound :=
      Nat.lt_of_le_of_lt (le_ofDigitChars ds _) hfits
    have hrest : ∀ s ∈ scale.map (· + 1), s + ds.length ≤ 28 := by
      intro _ hs
      obtain ⟨before, hbefore, rfl⟩ := Option.map_eq_some_iff.mp hs
      have hmore := hplaces before hbefore
      simp only [List.length_cons] at hmore
      omega
    rw [List.cons_append, readDigits, if_neg hroom, if_pos hc]
    simp only [if_pos hnext]
    rw [ih (fun d hd => hdigits d (List.mem_cons_of_mem _ hd)) hfits _ hrest]
    cases scale <;> simp [Nat.add_assoc, Nat.add_comm 1]

/-- The digits before the point. -/
theorem readDigits_whole {ds : List Char} (hdigits : ∀ c ∈ ds, c.isDigit = true) (hne : ds ≠ [])
    (hfits : Nat.ofDigitChars 10 ds 0 < magnitudeBound) (rest : List Char) :
    readDigits 0 none false (ds ++ rest)
      = readDigits (Nat.ofDigitChars 10 ds 0) none true rest := by
  have hseen : (false || !ds.isEmpty) = true := by simp [hne]
  rw [readDigits_digits hdigits hfits none nofun, hseen]
  rfl

theorem readDigits_point (n : Nat) (rest : List Char) :
    readDigits n none true ('.' :: rest) = readDigits n (some 0) true rest := by
  rw [readDigits]
  simp

/-- The digits behind the point. -/
theorem readDigits_places {ds : List Char} (hdigits : ∀ c ∈ ds, c.isDigit = true) {n : Nat}
    (hfits : Nat.ofDigitChars 10 ds n < magnitudeBound) (hplaces : ds.length ≤ 28) :
    readDigits n (some 0) true ds = some (Nat.ofDigitChars 10 ds n, ds.length) := by
  have hroom : ∀ s ∈ some 0, s + ds.length ≤ 28 := by
    rintro _ ⟨⟩
    rwa [Nat.zero_add]
  have hread := readDigits_digits hdigits hfits (some 0) hroom true []
  rw [List.append_nil] at hread
  rw [hread]
  simp [readDigits]

/-- The digits of a decimal are read back to its magnitude and its scale. -/
theorem readDigits_pointed {n scale : Nat} (hn : n < magnitudeBound) (hscale : scale ≤ 28) :
    readDigits 0 none false (pointed n scale) = some (n, scale) := by
  have hdigits : ∀ c ∈ padDigits (scale + 1) n, c.isDigit = true := fun _ => isDigit_of_mem_padDigits
  have hvalue := ofDigitChars_padDigits (scale + 1) n
  have hlength := lt_length_padDigits scale n
  unfold pointed
  generalize padDigits (scale + 1) n = ds at *
  by_cases hwhole : scale = 0
  · have hread := readDigits_whole hdigits (List.ne_nil_of_length_pos (by omega)) (by rwa [hvalue]) []
    rw [List.append_nil, hvalue] at hread
    simp [hwhole, hread, readDigits]
  · have hsplit : Nat.ofDigitChars 10 (ds.drop (ds.length - scale))
        (Nat.ofDigitChars 10 (ds.take (ds.length - scale)) 0) = n := by
      rw [← Nat.ofDigitChars_append, List.take_append_drop, hvalue]
    have hne : ds.take (ds.length - scale) ≠ [] := by
      refine List.ne_nil_of_length_pos ?_
      rw [List.length_take]
      omega
    have hplaces : (ds.drop (ds.length - scale)).length = scale := by
      rw [List.length_drop]
      omega
    have hbefore : Nat.ofDigitChars 10 (ds.take (ds.length - scale)) 0 < magnitudeBound :=
      Nat.lt_of_le_of_lt (le_ofDigitChars _ _) (by rwa [hsplit])
    have hlast := readDigits_places (fun c hc => hdigits c (List.mem_of_mem_drop hc))
      (by rwa [hsplit]) (by rwa [hplaces])
    rw [hsplit, hplaces] at hlast
    rw [if_neg hwhole, readDigits_whole (fun c hc => hdigits c (List.mem_of_mem_take hc)) hne hbefore,
      readDigits_point, hlast]

/-! ## Decimals -/

theorem isDigit_of_mem_pointed {n scale : Nat} {c : Char} (h : c ∈ pointed n scale) (hc : c ≠ '.') :
    c.isDigit = true := by
  have hmem : c ∈ (pointed n scale).filter (· != '.') := List.mem_filter.mpr ⟨h, bne_iff_ne.mpr hc⟩
  rw [filter_pointed] at hmem
  exact isDigit_of_mem_padDigits hmem

theorem readPlain?_minus {n scale : Nat} (hn : n < magnitudeBound) (hscale : scale ≤ 28) :
    readPlain? ('-' :: pointed n scale) = ofParts? true n scale := by
  simp [readPlain?, readDigits_pointed hn hscale]

theorem readPlain?_pointed {n scale : Nat} (hn : n < magnitudeBound) (hscale : scale ≤ 28) :
    readPlain? (pointed n scale) = ofParts? false n scale := by
  have hstart : ∀ c rest, c ≠ '.' → c.isDigit = false → pointed n scale ≠ c :: rest := by
    intro c rest hpoint hdigit hstarts
    have hmem : c ∈ pointed n scale := hstarts ▸ List.mem_cons_self
    exact absurd (isDigit_of_mem_pointed hmem hpoint) (by simp [hdigit])
  rw [readPlain?]
  · simp [readDigits_pointed hn hscale]
  · exact fun rest => hstart '-' rest (by decide) rfl
  · exact fun rest => hstart '+' rest (by decide) rfl

/-- The text of a decimal is read back to the decimal, but for the sign of a zero. -/
theorem ofText?_text (d : Decimal) : ofText? d.text = some d.withoutZeroSign := by
  have hparts : ofParts? d.negative d.magnitude d.scale = some d.withoutZeroSign :=
    dif_pos ⟨d.magnitude_lt, d.scale_le⟩
  have hplain : readPlain? ((if d.negative then ['-'] else []) ++ pointed d.magnitude d.scale)
      = some d.withoutZeroSign := by
    rw [← hparts]
    cases d.negative with
    | true => exact readPlain?_minus d.magnitude_lt d.scale_le
    | false => exact readPlain?_pointed d.magnitude_lt d.scale_le
  rw [ofText?, text, String.toList_ofList, hplain]
  rfl

end Rollout.Decimal
