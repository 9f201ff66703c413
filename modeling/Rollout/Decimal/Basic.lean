/-!
# Decimals

A decimal is a sign, a magnitude of at most 96 bits and a number of decimal places of at most 28.
Its value is `signed / 10 ^ scale`. Sign and scale are part of the decimal: 1.5 and 1.50 are two
decimals of one value, and so are a zero and a negative zero. Lean's `=` tells them apart; `compare`
orders by value alone.
-/

namespace Rollout

-- powers are those of the core library, whatever else is in scope
attribute [local instance (high)] instPowNat

/-- An exact decimal number that remembers how many places it was written with. -/
structure Decimal where
  /-- Whether there is a minus sign. -/
  negative : Bool
  /-- The number without its sign and its point. -/
  magnitude : Nat
  /-- The number of decimal places. -/
  scale : Nat
  /-- The magnitude takes at most 96 bits. -/
  magnitude_lt : magnitude < 2 ^ (96 : Nat)
  /-- There are at most 28 places. -/
  scale_le : scale ≤ 28
deriving DecidableEq

namespace Decimal

/-- The number without its point. -/
def signed (d : Decimal) : Int :=
  if d.negative then -d.magnitude else d.magnitude

/-- Decimals are ordered by value: both are brought to the sum of the two scales. -/
instance : Ord Decimal where
  compare a b := compare (a.signed * 10 ^ b.scale) (b.signed * 10 ^ a.scale)

/-- Whether two decimals have the same value, whatever their scales. -/
def sameValue (a b : Decimal) : Bool :=
  a.signed * 10 ^ b.scale == b.signed * 10 ^ a.scale

/-- The decimal with this sign, magnitude and scale, if it is within bounds. A zero gets no sign. -/
def ofParts? (negative : Bool) (magnitude scale : Nat) : Option Decimal :=
  if h : magnitude < 2 ^ (96 : Nat) ∧ scale ≤ 28 then
    some ⟨negative && magnitude != 0, magnitude, scale, h.1, h.2⟩
  else none

/-- The integer as a decimal without places, if it is within bounds. -/
def ofInt? (n : Int) : Option Decimal :=
  ofParts? (n < 0) n.natAbs 0

/-! ## Normal form -/

/-- Drops the last place while it is a zero. -/
def dropZeros (magnitude : Nat) : Nat → Nat × Nat
  | 0 => (magnitude, 0)
  | scale + 1 =>
    if magnitude % 10 = 0 then dropZeros (magnitude / 10) scale else (magnitude, scale + 1)

theorem dropZeros_le (magnitude scale : Nat) :
    (dropZeros magnitude scale).1 ≤ magnitude := by
  induction scale generalizing magnitude with
  | zero => exact Nat.le_refl _
  | succ scale ih =>
    unfold dropZeros
    split
    · exact Nat.le_trans (ih _) (Nat.div_le_self _ _)
    · exact Nat.le_refl _

theorem scale_dropZeros_le (magnitude scale : Nat) :
    (dropZeros magnitude scale).2 ≤ scale := by
  induction scale generalizing magnitude with
  | zero => exact Nat.le_refl _
  | succ scale ih =>
    unfold dropZeros
    split
    · exact Nat.le_succ_of_le (ih _)
    · exact Nat.le_refl _

/-- The decimal of the same value that has the fewest places, and no sign if it is a zero. -/
def normalize (d : Decimal) : Decimal where
  negative := d.negative && d.magnitude != 0
  magnitude := (dropZeros d.magnitude d.scale).1
  scale := (dropZeros d.magnitude d.scale).2
  magnitude_lt := Nat.lt_of_le_of_lt (dropZeros_le _ _) d.magnitude_lt
  scale_le := Nat.le_trans (scale_dropZeros_le _ _) d.scale_le

/-! ## Text -/

/-- The digits of `n`, with zeros in front until there are `width` of them. -/
def padDigits (width n : Nat) : List Char :=
  let ds := Nat.toDigits 10 n
  List.replicate (width - ds.length) '0' ++ ds

/-- The digits of a magnitude with a point before the last `scale` of them. -/
def pointed (n scale : Nat) : List Char :=
  let ds := padDigits (scale + 1) n
  let whole := ds.length - scale
  if scale = 0 then ds else ds.take whole ++ '.' :: ds.drop whole

/-- The text of a decimal shows its sign and every place of it, zeros included. -/
def text (d : Decimal) : String :=
  String.ofList ((if d.negative then ['-'] else []) ++ pointed d.magnitude d.scale)

end Decimal

end Rollout
