import Mathlib.Data.List.Basic
import Mathlib.Data.List.TakeWhile
import Rollout.Literal.Number
import Rollout.Text.Blank

/-!
# What literals are made of

A literal stands between white space, and trimming finds it there if it has none at its own ends. The
numbers in it are numerals, runs of digits without a leading zero, and a numeral is the decimal text of
its number: reading a number and writing it undo each other, as far as 64 bits go.
-/

namespace Rollout

/-! ## White space around a literal -/

namespace Text

/-- The text is `body` with white space around it. -/
def Padded (l body : List Char) : Prop :=
  ∃ before after, (∀ c ∈ before, isBlank c = true) ∧ (∀ c ∈ after, isBlank c = true)
    ∧ l = before ++ body ++ after

/-- The text starts and ends with a character that is not white space, unless it is empty. -/
structure Bare (l : List Char) : Prop where
  head : ∀ c ∈ l.head?, isBlank c = false
  last : ∀ c ∈ l.getLast?, isBlank c = false

theorem Bare.of_forall {l : List Char} (h : ∀ c ∈ l, isBlank c = false) : Bare l where
  head c hc := h c (List.mem_of_mem_head? hc)
  last c hc := h c (List.mem_of_mem_getLast? hc)

theorem trimStart_append {before : List Char} (h : ∀ c ∈ before, isBlank c = true)
    (l : List Char) : trimStart (before ++ l) = trimStart l :=
  List.dropWhile_append_of_pos h

theorem trimStart_eq_self {l : List Char} (h : ∀ c ∈ l.head?, isBlank c = false) :
    trimStart l = l := by
  cases l with
  | nil => rfl
  | cons c rest =>
    have hc : ¬isBlank c = true := by simp [h c rfl]
    exact List.dropWhile_cons_of_neg hc

/-- What is dropped in front is white space. -/
theorem exists_append_trimStart (l : List Char) :
    ∃ before, (∀ c ∈ before, isBlank c = true) ∧ l = before ++ trimStart l :=
  ⟨l.takeWhile isBlank, fun _ hc => List.all_eq_true.mp List.all_takeWhile _ hc,
    List.takeWhile_append_dropWhile.symm⟩

theorem padded_trim (l : List Char) : Padded l (trim l) := by
  obtain ⟨before, hbefore, hl⟩ := exists_append_trimStart l
  obtain ⟨after, hafter, hr⟩ := exists_append_trimStart (trimStart l).reverse
  refine ⟨before, after.reverse, hbefore, fun c hc => hafter c (List.mem_reverse.mp hc), ?_⟩
  have hrest : trimStart l = trim l ++ after.reverse := by
    rw [← List.reverse_inj, hr]
    simp [trim]
  rw [List.append_assoc, ← hrest]
  exact hl

/-- Trimming finds what stands between white space. -/
theorem Padded.trim_eq {l body : List Char} (h : Padded l body) (hbare : Bare body) :
    trim l = body := by
  obtain ⟨before, after, hbefore, hafter, rfl⟩ := h
  cases body with
  | nil =>
    have hblank : ∀ c ∈ before ++ [] ++ after, isBlank c = true := by
      intro c hc
      rcases List.mem_append.mp hc with hc | hc
      · exact hbefore c (by simpa using hc)
      · exact hafter c hc
    have hnil : trimStart (before ++ [] ++ after) = [] := List.dropWhile_eq_nil_iff.mpr hblank
    rw [trim, hnil]
    rfl
  | cons c rest =>
    have hfront : trimStart (before ++ c :: rest ++ after) = c :: rest ++ after := by
      rw [List.append_assoc, trimStart_append hbefore]
      exact trimStart_eq_self fun d hd => hbare.head d hd
    have hback : ∀ d ∈ (c :: rest).reverse.head?, isBlank d = false := by
      rw [List.head?_reverse]
      exact hbare.last
    rw [trim, hfront, List.reverse_append,
      trimStart_append fun d hd => hafter d (List.mem_reverse.mp hd), trimStart_eq_self hback,
      List.reverse_reverse]

/-- Trimming leaves no white space at the ends. -/
theorem bare_trim (l : List Char) : Bare (trim l) where
  head c hc := by
    -- what is trimmed starts as the text does without its white space in front
    have hprefix : trim l <+: trimStart l := by
      rw [← List.reverse_suffix, trim, List.reverse_reverse]
      exact List.dropWhile_suffix _
    obtain ⟨rest, hrest⟩ := hprefix
    have hhead : (l.dropWhile isBlank).head? = some c := by
      show (trimStart l).head? = some c
      rw [← hrest]
      cases htrim : trim l with
      | nil => simp [htrim] at hc
      | cons d r => simpa [htrim] using hc
    have hfirst := List.head?_dropWhile_not isBlank l
    rw [hhead] at hfirst
    exact hfirst
  last c hc := by
    rw [trim, List.getLast?_reverse] at hc
    have hlast : ((trimStart l).reverse.dropWhile isBlank).head? = some c := hc
    have hfirst := List.head?_dropWhile_not isBlank (trimStart l).reverse
    rw [hlast] at hfirst
    exact hfirst

/-- White space around a text does not matter to trimming. -/
theorem Padded.trim_eq_trim {l body : List Char} (h : Padded l body) : trim l = trim body := by
  obtain ⟨before, after, hbefore, hafter, rfl⟩ := h
  obtain ⟨before', after', hbefore', hafter', hbody⟩ := padded_trim body
  refine Padded.trim_eq ⟨before ++ before', after' ++ after, ?_, ?_, ?_⟩ (bare_trim body)
  · intro c hc
    rcases List.mem_append.mp hc with hc | hc
    · exact hbefore c hc
    · exact hbefore' c hc
  · intro c hc
    rcases List.mem_append.mp hc with hc | hc
    · exact hafter' c hc
    · exact hafter c hc
  · have hsplit : before ++ body ++ after = before ++ (before' ++ trim body ++ after') ++ after :=
      congrArg (before ++ · ++ after) hbody
    rw [hsplit]
    simp only [List.append_assoc]

theorem isBlank_of_isDigit {c : Char} (h : c.isDigit = true) : isBlank c = false := by
  have hbounds : 48 ≤ c.toNat ∧ c.toNat ≤ 57 := Char.isDigit_iff_toNat.mp h
  have hranges : ∀ r ∈ blankRanges, r.2 < 48 ∨ 57 < r.1 := by decide
  refine inRanges_eq_false fun r hr => ?_
  have := hranges r hr
  omega

end Text

/-! ## Numerals -/

namespace Literal

-- powers are those of the core library, whatever else is in scope
attribute [local instance (high)] instPowNat

/-- A numeral: at least one digit, and no zero in front of other digits. -/
structure IsNumeral (ds : List Char) : Prop where
  nonempty : ds ≠ []
  digits : ∀ c ∈ ds, c.isDigit = true
  leading : ds.head? = some '0' → ds = ['0']

theorem isDigit_of_mem_toDigits {n : Nat} {c : Char} (h : c ∈ Nat.toDigits 10 n) :
    c.isDigit = true :=
  Nat.isDigit_of_mem_toDigits (by decide) (by decide) h

/-- What a digit stands for. -/
theorem bounds_of_isDigit {c : Char} (h : c.isDigit = true) :
    '0'.toNat ≤ c.toNat ∧ c.toNat - '0'.toNat < 10 := by
  have hbounds : 48 ≤ c.toNat ∧ c.toNat ≤ 57 := Char.isDigit_iff_toNat.mp h
  have hzero : '0'.toNat = 48 := rfl
  omega

theorem digitChar_of_isDigit {c : Char} (h : c.isDigit = true) :
    Nat.digitChar (c.toNat - '0'.toNat) = c := by
  obtain ⟨hle, hlt⟩ := bounds_of_isDigit h
  refine Char.toNat_inj.mp ?_
  rw [Nat.toNat_digitChar_of_lt_ten hlt]
  exact Nat.add_sub_cancel' hle

/-- Only zero has a text that starts with a zero. -/
theorem head?_toDigits {n : Nat} (h : (Nat.toDigits 10 n).head? = some '0') : n = 0 := by
  induction n using Nat.strongRecOn with
  | ind n ih =>
    by_cases hn : n < 10
    · rw [Nat.toDigits_of_lt_base hn] at h
      exact Nat.digitChar_eq_zero.mp (Option.some.inj h)
    · -- the first digit is that of the number without its last digit
      rw [Nat.toDigits_of_base_le (by decide) (by omega),
        List.head?_append_of_ne_nil _ Nat.toDigits_ne_nil] at h
      have := ih (n / 10) (by omega) h
      omega

theorem isNumeral_toDigits (n : Nat) : IsNumeral (Nat.toDigits 10 n) where
  nonempty := Nat.toDigits_ne_nil
  digits _ := isDigit_of_mem_toDigits
  leading h := by rw [head?_toDigits h]; rfl

/-- Further digits extend the text of a number that is not zero. -/
theorem toDigits_ofDigitChars_append {n : Nat} (hn : 0 < n) {ds : List Char}
    (hdigits : ∀ c ∈ ds, c.isDigit = true) :
    Nat.toDigits 10 (Nat.ofDigitChars 10 ds n) = Nat.toDigits 10 n ++ ds := by
  induction ds generalizing n with
  | nil => simp
  | cons c ds ih =>
    have hc : c.isDigit = true := hdigits c List.mem_cons_self
    have hlt := (bounds_of_isDigit hc).2
    have hnext : Nat.toDigits 10 (10 * n + (c.toNat - '0'.toNat)) = Nat.toDigits 10 n ++ [c] := by
      rw [← Nat.toDigits_append_toDigits (by decide) hn hlt, Nat.toDigits_of_lt_base hlt,
        digitChar_of_isDigit hc]
    rw [Nat.ofDigitChars_cons, ih (by omega) fun d hd => hdigits d (List.mem_cons_of_mem _ hd),
      hnext, List.append_assoc]
    rfl

/-- A numeral is the text of its number. -/
theorem IsNumeral.toDigits_eq {ds : List Char} (h : IsNumeral ds) :
    Nat.toDigits 10 (Nat.ofDigitChars 10 ds 0) = ds := by
  cases ds with
  | nil => exact absurd rfl h.nonempty
  | cons c ds =>
    by_cases hc : c = '0'
    · rw [h.leading (by rw [hc]; rfl)]
      rfl
    · have hdigit := h.digits c List.mem_cons_self
      obtain ⟨hle, hlt⟩ := bounds_of_isDigit hdigit
      have hne : c.toNat ≠ '0'.toNat := fun heq => hc (Char.toNat_inj.mp heq)
      have hpos : 0 < c.toNat - '0'.toNat := by omega
      rw [Nat.ofDigitChars_cons, Nat.mul_zero, Nat.zero_add,
        toDigits_ofDigitChars_append hpos fun d hd => h.digits d (List.mem_cons_of_mem _ hd),
        Nat.toDigits_of_lt_base hlt, digitChar_of_isDigit hdigit]
      rfl

/-! ## Reading a number -/

/-- No digit follows. -/
def EndsNumber (l : List Char) : Prop :=
  ∀ c ∈ l.head?, c.isDigit = false

theorem numberDigits_toDigits_append (n : Nat) {rest : List Char} (hrest : EndsNumber rest) :
    numberDigits (Nat.toDigits 10 n ++ rest) = Nat.toDigits 10 n := by
  by_cases hn : n = 0
  · subst hn
    rfl
  · have hhead : (Nat.toDigits 10 n).head? ≠ some '0' := fun h => hn (head?_toDigits h)
    have hdigits : ∀ c ∈ Nat.toDigits 10 n, c.isDigit = true := fun _ => isDigit_of_mem_toDigits
    have hstop : rest.takeWhile Char.isDigit = [] := by
      cases rest with
      | nil => rfl
      | cons d rest => simp [hrest d rfl]
    cases hds : Nat.toDigits 10 n with
    | nil => exact absurd hds Nat.toDigits_ne_nil
    | cons c ds =>
      rw [hds] at hhead hdigits
      have hc : c ≠ '0' := fun h => hhead (by rw [h]; rfl)
      rw [List.cons_append, numberDigits, if_neg hc, ← List.cons_append,
        List.takeWhile_append_of_pos hdigits, hstop, List.append_nil]

/-- A number that fits 64 bits is read back from its text. -/
theorem readNumber?_toDigits_append {n : Nat} (hn : n < numberBound) {rest : List Char}
    (hrest : EndsNumber rest) : readNumber? (Nat.toDigits 10 n ++ rest) = some (n, rest) := by
  have hfits : ¬(Nat.toDigits 10 n = [] ∨ numberBound ≤ n) := by
    rintro (h | h)
    · exact Nat.toDigits_ne_nil h
    · omega
  simp only [readNumber?, numberDigits_toDigits_append n hrest, Nat.ofDigitChars_ten_toDigits,
    if_neg hfits, List.drop_left]

/-- The digits that are read make a numeral in front of the rest. -/
theorem isNumeral_numberDigits {l : List Char} (h : numberDigits l ≠ []) :
    IsNumeral (numberDigits l) ∧ numberDigits l <+: l := by
  cases l with
  | nil => exact absurd rfl h
  | cons c rest =>
    rw [numberDigits] at h ⊢
    split
    · rename_i hc
      subst hc
      exact ⟨isNumeral_toDigits 0, rest, rfl⟩
    · rename_i hc
      rw [if_neg hc] at h
      refine ⟨⟨h, fun d hd => List.all_eq_true.mp List.all_takeWhile d hd, fun hhead => ?_⟩,
        List.takeWhile_prefix _⟩
      -- a run of digits that starts with a zero would have been cut behind it
      by_cases hdigit : c.isDigit = true
      · rw [List.takeWhile_cons_of_pos hdigit] at hhead
        exact absurd (Option.some.inj hhead) hc
      · exact absurd (List.takeWhile_cons_of_neg hdigit) h

/-- What is read is the text of a number that fits 64 bits. -/
theorem eq_toDigits_append_of_readNumber? {l rest : List Char} {n : Nat}
    (h : readNumber? l = some (n, rest)) :
    n < numberBound ∧ l = Nat.toDigits 10 n ++ rest := by
  simp only [readNumber?] at h
  split at h
  · cases h
  · rename_i hfits
    rw [not_or] at hfits
    cases h
    obtain ⟨hnumeral, hprefix⟩ := isNumeral_numberDigits hfits.1
    refine ⟨Nat.lt_of_not_le hfits.2, ?_⟩
    rw [hnumeral.toDigits_eq]
    exact (List.prefix_iff_eq_append.mp hprefix).symm

end Literal

end Rollout
