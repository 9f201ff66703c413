import Mathlib.Data.List.TakeWhile
import Rollout.Program.Pool

/-!
# The same verbatim

A pool compares numbers by their texts. The text of a decimal shows its sign, every digit and every
place, so decimals of one text are one decimal, and what a pool takes for the same is the same. A zero
with a minus sign is not the same as one without.
-/

namespace Rollout

namespace Decimal

/-! ## Reading a text back -/

theorem isDigit_of_mem_padDigits {width n : Nat} {c : Char} (h : c ∈ padDigits width n) :
    c.isDigit = true := by
  rcases List.mem_append.mp h with h | h
  · rw [List.eq_of_mem_replicate h]
    rfl
  · exact Nat.isDigit_of_mem_toDigits (by decide) (by decide) h

theorem bne_point_of_mem_padDigits {width n : Nat} {c : Char} (h : c ∈ padDigits width n) :
    (c != '.') = true := by
  have hdigit := isDigit_of_mem_padDigits h
  refine bne_iff_ne.mpr ?_
  rintro rfl
  exact absurd hdigit (by decide)

/-- Zeros in front do not change the number. -/
theorem ofDigitChars_padDigits (width n : Nat) :
    Nat.ofDigitChars 10 (padDigits width n) 0 = n := by
  rw [padDigits, Nat.ofDigitChars_append, Nat.ofDigitChars_replicate_zero, Nat.mul_zero,
    Nat.ofDigitChars_ten_toDigits]

theorem lt_length_padDigits (scale n : Nat) : scale < (padDigits (scale + 1) n).length := by
  rw [padDigits, List.length_append, List.length_replicate]
  omega

/-- Without its point a text is the digits of the number. -/
theorem filter_pointed (n scale : Nat) :
    (pointed n scale).filter (· != '.') = padDigits (scale + 1) n := by
  have hdigits : (padDigits (scale + 1) n).filter (· != '.') = padDigits (scale + 1) n :=
    List.filter_eq_self.mpr fun _ => bne_point_of_mem_padDigits
  unfold pointed
  split
  · exact hdigits
  · rw [List.filter_append, List.filter_cons_of_neg (by decide), ← List.filter_append,
      List.take_append_drop]
    exact hdigits

/-- As many digits stand after the point as the number has places. -/
theorem length_dropWhile_pointed (n scale : Nat) :
    ((pointed n scale).dropWhile (· != '.')).length - 1 = scale := by
  have hlt := lt_length_padDigits scale n
  unfold pointed
  split
  · rename_i hscale
    rw [List.dropWhile_eq_nil_iff.mpr fun _ => bne_point_of_mem_padDigits, hscale]
    rfl
  · rw [List.dropWhile_append_of_pos fun _ hc =>
        bne_point_of_mem_padDigits (List.mem_of_mem_take hc),
      List.dropWhile_cons_of_neg (by decide), List.length_cons, List.length_drop]
    omega

theorem pointed_inj {n m scale scale' : Nat} (h : pointed n scale = pointed m scale') :
    n = m ∧ scale = scale' := by
  have hscale : scale = scale' := by
    rw [← length_dropWhile_pointed n scale, h, length_dropWhile_pointed]
  subst hscale
  have hdigits : padDigits (scale + 1) n = padDigits (scale + 1) m := by
    rw [← filter_pointed, h, filter_pointed]
  refine ⟨?_, rfl⟩
  rw [← ofDigitChars_padDigits (scale + 1) n, hdigits, ofDigitChars_padDigits]

theorem minus_not_mem_pointed (n scale : Nat) : '-' ∉ pointed n scale := by
  intro hmem
  have hdigit : '-' ∈ padDigits (scale + 1) n := by
    rw [← filter_pointed]
    exact List.mem_filter.mpr ⟨hmem, by decide⟩
  exact absurd (isDigit_of_mem_padDigits hdigit) (by decide)

theorem minus_mem_text (d : Decimal) : '-' ∈ d.text.toList ↔ d.negative = true := by
  rw [text, String.toList_ofList, List.mem_append, or_iff_left (minus_not_mem_pointed _ _)]
  cases d.negative <;> simp

/-- Decimals of one text are one decimal. -/
theorem text_inj {d e : Decimal} : d.text = e.text ↔ d = e := by
  refine ⟨fun h => ?_, congrArg text⟩
  have hsign : d.negative = e.negative :=
    Bool.eq_iff_iff.mpr (by rw [← minus_mem_text, h, minus_mem_text])
  have hchars := String.ofList_inj.mp h
  rw [hsign] at hchars
  obtain ⟨hmagnitude, hscale⟩ := pointed_inj (List.append_cancel_left hchars)
  cases d
  cases e
  simp only at hsign hmagnitude hscale
  subst hsign hmagnitude hscale
  rfl

/-- The zero with 28 places, with or without a minus sign. -/
def zero (negative : Bool) : Decimal where
  negative
  magnitude := 0
  scale := 28
  magnitude_lt := Nat.two_pow_pos 96
  scale_le := Nat.le.refl

end Decimal

/-! ## Values and tables -/

namespace Value

mutual

/-- Values that are written alike are the same verbatim. -/
theorem writtenAlike_iff : ∀ {v w : Value}, v.writtenAlike w = true ↔ v = w
  | null, w => by cases w <;> simp [writtenAlike]
  | bool a, w => by cases w <;> simp [writtenAlike]
  | number d, w => by cases w <;> simp [writtenAlike, Decimal.text_inj]
  | float x, w => by
    cases w with
    | float y =>
      obtain ⟨a⟩ := x
      obtain ⟨b⟩ := y
      simp [writtenAlike]
    | _ => simp [writtenAlike]
  | string s, w => by cases w <;> simp [writtenAlike]
  | array items, w => by
    cases w with
    | array items' => rw [writtenAlike, allWrittenAlike_iff, array.injEq]
    | _ => simp [writtenAlike]

theorem allWrittenAlike_iff : ∀ {l m : List Value}, allWrittenAlike l m = true ↔ l = m
  | [], m => by cases m <;> simp [allWrittenAlike]
  | v :: l, m => by
    cases m with
    | nil => simp [allWrittenAlike]
    | cons w m =>
      rw [allWrittenAlike, Bool.and_eq_true, writtenAlike_iff, allWrittenAlike_iff, List.cons.injEq]

end

end Value

theorem sharesWrittenAlike_iff {l m : List (Value × Nat)} :
    sharesWrittenAlike l m = true ↔ l = m := by
  induction l generalizing m with
  | nil => cases m <;> simp [sharesWrittenAlike]
  | cons a l ih =>
    cases m with
    | nil => simp [sharesWrittenAlike]
    | cons b m =>
      obtain ⟨v, n⟩ := a
      obtain ⟨w, k⟩ := b
      rw [sharesWrittenAlike, Bool.and_eq_true, Bool.and_eq_true, Value.writtenAlike_iff,
        beq_iff_eq, ih, List.cons.injEq, Prod.mk.injEq]

end Rollout
