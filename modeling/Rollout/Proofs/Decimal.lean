import Mathlib.Data.Rat.Cast.Order
import Mathlib.Tactic.FieldSimp
import Mathlib.Tactic.Positivity
import Rollout.Decimal.Basic

/-!
# Decimals as rational numbers

A decimal stands for the rational number `Decimal.toRat`, and its order and its equality of value are
those of that number. The normal form depends on the number alone, so decimals of one value have one
normal form, whatever their scales and signs of zero.
-/

namespace Rollout.Decimal

/-- The number that a decimal stands for. -/
def toRat (d : Decimal) : ℚ := d.signed / 10 ^ d.scale

theorem cross_lt_iff (a b : Decimal) :
    a.signed * 10 ^ b.scale < b.signed * 10 ^ a.scale ↔ a.toRat < b.toRat := by
  rw [toRat, toRat, div_lt_div_iff₀ (by positivity) (by positivity)]
  exact_mod_cast Iff.rfl

theorem cross_eq_iff (a b : Decimal) :
    a.signed * 10 ^ b.scale = b.signed * 10 ^ a.scale ↔ a.toRat = b.toRat := by
  rw [toRat, toRat, div_eq_div_iff (by positivity) (by positivity)]
  exact_mod_cast Iff.rfl

theorem compare_eq (a b : Decimal) : compare a b = compare a.toRat b.toRat := by
  show compare (a.signed * 10 ^ b.scale) (b.signed * 10 ^ a.scale) = _
  rcases lt_trichotomy a.toRat b.toRat with h | h | h
  · rw [compare_lt_iff_lt.mpr h, compare_lt_iff_lt.mpr ((cross_lt_iff a b).mpr h)]
  · rw [compare_eq_iff_eq.mpr h, compare_eq_iff_eq.mpr ((cross_eq_iff a b).mpr h)]
  · rw [compare_gt_iff_gt.mpr h, compare_gt_iff_gt.mpr ((cross_lt_iff b a).mpr h)]

theorem sameValue_iff (a b : Decimal) : a.sameValue b = true ↔ a.toRat = b.toRat := by
  rw [sameValue, beq_iff_eq]
  exact cross_eq_iff a b

/-! ## Normal form -/

/-- Dropping zeros divides the magnitude by ten for each place dropped. -/
theorem dropZeros_mul (m s : Nat) :
    (dropZeros m s).1 * 10 ^ s = m * 10 ^ (dropZeros m s).2 := by
  induction s generalizing m with
  | zero => rfl
  | succ s ih =>
    rw [dropZeros]
    split
    · rename_i h
      have hm : m = m / 10 * 10 := (Nat.div_mul_cancel (Nat.dvd_of_mod_eq_zero h)).symm
      calc (dropZeros (m / 10) s).1 * 10 ^ (s + 1)
          = (dropZeros (m / 10) s).1 * 10 ^ s * 10 := by rw [pow_succ, Nat.mul_assoc]
        _ = m / 10 * 10 ^ (dropZeros (m / 10) s).2 * 10 := by rw [ih]
        _ = m / 10 * 10 * 10 ^ (dropZeros (m / 10) s).2 := by rw [Nat.mul_right_comm]
        _ = m * 10 ^ (dropZeros (m / 10) s).2 := by rw [← hm]
    · rfl

/-- A place is kept only if the last digit is no zero. -/
theorem dropZeros_last (m s : Nat) :
    (dropZeros m s).2 = 0 ∨ (dropZeros m s).1 % 10 ≠ 0 := by
  induction s generalizing m with
  | zero => exact .inl rfl
  | succ s ih =>
    rw [dropZeros]
    split
    · exact ih _
    · rename_i h
      exact .inr h

/-- No zero could be dropped, and a zero has no sign. -/
structure Reduced (d : Decimal) : Prop where
  last : d.scale = 0 ∨ d.magnitude % 10 ≠ 0
  sign : d.negative = true → d.magnitude ≠ 0

theorem dropZeros_ne_zero {m : Nat} (s : Nat) (h : m ≠ 0) : (dropZeros m s).1 ≠ 0 := by
  intro hzero
  have hmul := dropZeros_mul m s
  rw [hzero, Nat.zero_mul] at hmul
  exact absurd hmul.symm (Nat.mul_ne_zero h (by positivity))

theorem reduced_normalize (d : Decimal) : d.normalize.Reduced where
  last := dropZeros_last d.magnitude d.scale
  sign h := by
    simp only [normalize, Bool.and_eq_true, bne_iff_ne, ne_eq] at h
    exact dropZeros_ne_zero d.scale h.2

theorem signed_normalize (d : Decimal) :
    d.normalize.signed * 10 ^ d.scale = d.signed * 10 ^ d.normalize.scale := by
  have hmul : (d.normalize.magnitude : ℤ) * 10 ^ d.scale
      = d.magnitude * 10 ^ d.normalize.scale := by
    exact_mod_cast dropZeros_mul d.magnitude d.scale
  by_cases hneg : d.negative = true
  · by_cases hzero : d.magnitude = 0
    · have hnorm : d.normalize.magnitude = 0 := by
        have : (d.normalize.magnitude : ℤ) * 10 ^ d.scale = 0 := by rw [hmul, hzero]; simp
        exact_mod_cast (mul_eq_zero.mp this).resolve_right (by positivity)
      simp [signed, hzero, hnorm]
    · have hsign : d.normalize.negative = true := by simp [normalize, hneg, hzero]
      rw [signed, signed, if_pos hneg, if_pos hsign, neg_mul, neg_mul, hmul]
  · have hsign : ¬d.normalize.negative = true := by simp [normalize, hneg]
    rw [signed, signed, if_neg hneg, if_neg hsign, hmul]

theorem toRat_normalize (d : Decimal) : d.normalize.toRat = d.toRat :=
  (cross_eq_iff _ _).mp (signed_normalize d)

/-- In reduced form, fewer places would need a last digit that is zero. -/
theorem Reduced.scale_le {a b : Decimal} (hb : b.Reduced) (h : a.toRat = b.toRat) :
    b.scale ≤ a.scale := by
  by_contra hlt
  have hlt : a.scale < b.scale := not_le.mp hlt
  have hcross := (cross_eq_iff a b).mpr h
  have hshift : b.signed = a.signed * 10 ^ (b.scale - a.scale - 1) * 10 := by
    have hpow : (10 : ℤ) ^ b.scale = 10 ^ (b.scale - a.scale - 1) * 10 * 10 ^ a.scale := by
      rw [← pow_succ, ← pow_add]
      congr 1
      omega
    rw [hpow, ← mul_assoc, ← mul_assoc] at hcross
    exact (mul_right_cancel₀ (by positivity) hcross).symm
  have hlast := hb.last.resolve_left (by omega)
  have hdvd : (10 : ℤ) ∣ b.signed := ⟨_, by rw [hshift, mul_comm]⟩
  have hnat : 10 ∣ b.magnitude := by
    rw [signed] at hdvd
    split at hdvd <;> omega
  exact hlast (Nat.mod_eq_zero_of_dvd hnat)

/-- A number has one reduced decimal at most. -/
theorem Reduced.eq {a b : Decimal} (ha : a.Reduced) (hb : b.Reduced) (h : a.toRat = b.toRat) :
    a = b := by
  have hscale : a.scale = b.scale := le_antisymm (ha.scale_le h.symm) (hb.scale_le h)
  have hsigned : a.signed = b.signed := by
    have hcross := (cross_eq_iff a b).mpr h
    rw [hscale] at hcross
    exact mul_right_cancel₀ (by positivity) hcross
  obtain ⟨an, am, as, _, _⟩ := a
  obtain ⟨bn, bm, bs, _, _⟩ := b
  have hasign := ha.sign
  have hbsign := hb.sign
  simp only [signed] at hsigned hscale hasign hbsign
  cases an <;> cases bn <;> simp_all

/-- **One value, one normal form.** -/
theorem normalize_eq_of_sameValue {a b : Decimal} (h : a.sameValue b = true) :
    a.normalize = b.normalize := by
  refine (reduced_normalize a).eq (reduced_normalize b) ?_
  rw [toRat_normalize, toRat_normalize]
  exact (sameValue_iff a b).mp h

end Rollout.Decimal
