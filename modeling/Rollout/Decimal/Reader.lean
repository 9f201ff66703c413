import Rollout.Decimal.Basic

/-!
# Reading decimals

A decimal is written as an optional sign and digits with at most one point; digits may be grouped
by low lines once a digit has been read. It is read exactly as far as it fits. What follows the
twenty-eighth place, or the last place for which the magnitude has room, must be digits and low lines
too, and of these the first only rounds. Whole digits that do not fit are refused.

The exponent form `d.ddde±x` shifts the point of a decimal by at most 28 places.
-/

namespace Rollout.Decimal

-- powers are those of the core library, whatever else is in scope
attribute [local instance (high)] instPowNat

/-- One more than the greatest magnitude. -/
def magnitudeBound : Nat := 2 ^ (96 : Nat)

/-! ## Plain form -/

/-- Whether the character may stand among the digits behind the last place. -/
def isGrouped (c : Char) : Bool :=
  c.isDigit || c = '_'

/-- Ends a number before a text that is no longer taken in. If it starts with a digit from 5 up, the
magnitude is rounded up, and a magnitude that this makes too large gives up its last place. -/
def roundedBy (n scale : Nat) (rest : List Char) : Option (Nat × Nat) :=
  if rest.all isGrouped then
    let up := if rest.head?.any fun c => c.isDigit && '5' ≤ c then n + 1 else n
    if up < magnitudeBound then some (up, scale)
    else if scale = 0 then none
    else some ((up + 4) / 10, scale - 1)
  else none

/-- A magnitude is short if it is below this bound without its last digit. -/
def shortBound : Nat := (2 ^ (64 : Nat) - 1) / 10 - 255

/-- Ends a number behind its twenty-eighth place. A low line that stands there counts as a zero if
the magnitude is short, and otherwise gives way to the digit behind it. -/
def roundedLast (n : Nat) (rest : List Char) : Option (Nat × Nat) :=
  roundedBy n 28 (if n / 10 < shortBound then rest else rest.dropWhile (· = '_'))

/-- Reads the digits after the sign. `seen` tells whether there was a digit yet, and `scale` counts
the places read; it is `none` before the point. -/
def readDigits (n : Nat) (scale : Option Nat) (seen : Bool) : List Char → Option (Nat × Nat)
  | [] => if seen then some (n, scale.getD 0) else none
  | c :: rest =>
    if scale = some 28 then roundedLast n (c :: rest)
    else if c.isDigit then
      let next := 10 * n + (c.toNat - '0'.toNat)
      if next < magnitudeBound then readDigits next (scale.map (· + 1)) true rest
      else scale.bind fun s => roundedBy n s (c :: rest)
    else if c = '.' ∧ scale = none then readDigits n (some 0) seen rest
    else if c = '_' ∧ seen then readDigits n scale seen rest
    else none

/-- Reads a decimal in plain form. -/
def readPlain? (l : List Char) : Option Decimal := do
  let (negative, digits) := match l with
    | '-' :: r => (true, r)
    | '+' :: r => (false, r)
    | r => (false, r)
  let (n, scale) ← readDigits 0 none false digits
  ofParts? negative n scale

/-! ## Exponent form -/

/-- Reads an unsigned number of one or more digits; a plus sign may stand before it. -/
def readExponent? (l : List Char) : Option Nat :=
  let digits := match l with
    | '+' :: r => r
    | r => r
  if digits ≠ [] ∧ digits.all Char.isDigit then some (Nat.ofDigitChars 10 digits 0) else none

/-- Drops the last `k` places of a magnitude. The first place dropped rounds from 5 up; the places
beyond it do not count. -/
def dropPlaces (n k : Nat) : Nat :=
  if k = 0 then n else n / 10 ^ k + (if 5 ≤ n / 10 ^ (k - 1) % 10 then 1 else 0)

theorem dropPlaces_le (n k : Nat) : dropPlaces n k ≤ n := by
  unfold dropPlaces
  split
  · exact Nat.le_refl n
  · next hk =>
    obtain ⟨j, rfl⟩ := Nat.exists_eq_succ_of_ne_zero hk
    have hdiv : n / 10 ^ (j + 1) = n / 10 ^ j / 10 := by rw [Nat.pow_succ, Nat.div_div_eq_div_mul]
    have hle : n / 10 ^ j ≤ n := Nat.div_le_self _ _
    simp only [Nat.succ_eq_add_one, Nat.add_sub_cancel, hdiv]
    split <;> omega

/-- Moves the point of a decimal to the left. A result with more than 28 places keeps 28 of them,
and also its sign if nothing else is left. -/
def shiftLeft? (d : Decimal) (places : Nat) : Option Decimal :=
  if 28 < places then none
  else if h : d.scale + places ≤ 28 then some { d with scale := d.scale + places, scale_le := h }
  else
    some {
      negative := d.negative
      magnitude := dropPlaces d.magnitude (d.scale + places - 28)
      scale := 28
      magnitude_lt := Nat.lt_of_le_of_lt (dropPlaces_le _ _) d.magnitude_lt
      scale_le := Nat.le_refl 28 }

/-- Moves the point of a decimal to the right. Beyond the last place the magnitude grows. -/
def shiftRight? (d : Decimal) (places : Nat) : Option Decimal :=
  if places ≤ d.scale then ofParts? d.negative d.magnitude (d.scale - places)
  else if 28 < places then none
  else ofParts? d.negative (d.magnitude * 10 ^ (places - d.scale)) 0

/-- Reads a decimal in exponent form. -/
def readScientific? (l : List Char) : Option Decimal := do
  let base := l.takeWhile fun c => c ≠ 'e' ∧ c ≠ 'E'
  match l.drop base.length with
  | [] => none
  | _ :: '-' :: r => (← readPlain? base).shiftLeft? (← readExponent? r)
  | _ :: r => (← readPlain? base).shiftRight? (← readExponent? r)

/-- Reads a decimal in plain or in exponent form. -/
def ofText? (s : String) : Option Decimal :=
  readPlain? s.toList <|> readScientific? s.toList

end Rollout.Decimal
