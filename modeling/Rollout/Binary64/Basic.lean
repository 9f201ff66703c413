/-!
# Floating-point numbers of 64 bits

A float is kept as its bits, so that every NaN and both zeros are values of their own. A finite
float is a significand below `2 ^ 53` times a power of two. Floats that are not NaN are ordered by
an integer, their rank, which grows with the value and is the same for both zeros.
-/

namespace Rollout

-- powers are those of the core library, whatever else is in scope
attribute [local instance (high)] instPowNat

/-- A binary floating-point number of 64 bits, as its bits. -/
structure Binary64 where
  /-- The sign, eleven bits of exponent and fifty-two bits of fraction. -/
  bits : UInt64
deriving DecidableEq

namespace Binary64

/-- Whether the sign bit is set. -/
def negative (x : Binary64) : Bool :=
  2 ^ (63 : Nat) ≤ x.bits.toNat

/-- The bits without the sign. -/
def magnitude (x : Binary64) : Nat :=
  x.bits.toNat % 2 ^ (63 : Nat)

/-- The exponent as it is stored. -/
def exponentField (x : Binary64) : Nat :=
  x.magnitude / 2 ^ (52 : Nat)

/-- The fraction as it is stored. -/
def fractionField (x : Binary64) : Nat :=
  x.magnitude % 2 ^ (52 : Nat)

/-- Whether the bits stand for no number. -/
def isNaN (x : Binary64) : Bool :=
  x.exponentField == 2047 && x.fractionField != 0

/-- Whether the bits stand for one of the infinities. -/
def isInfinite (x : Binary64) : Bool :=
  x.exponentField == 2047 && x.fractionField == 0

/-- Whether the bits stand for a number. -/
def isFinite (x : Binary64) : Bool :=
  x.exponentField != 2047

/-- Whether the bits stand for one of the zeros. -/
def isZero (x : Binary64) : Bool :=
  x.magnitude == 0

/-- The integer whose product with `2 ^ x.unit` is the magnitude of a finite float. -/
def significand (x : Binary64) : Nat :=
  if x.exponentField = 0 then x.fractionField else 2 ^ (52 : Nat) + x.fractionField

/-- The exponent of the last bit of the significand of a finite float. -/
def unit (x : Binary64) : Int :=
  (max x.exponentField 1 : Nat) - 1075

/-- The place of a float among all floats that are not NaN. -/
def rank (x : Binary64) : Int :=
  if x.negative then -x.magnitude else x.magnitude

/-- The order of two floats by value, unless one of them is NaN. -/
def compare? (x y : Binary64) : Option Ordering :=
  if x.isNaN || y.isNaN then none else some (compare x.rank y.rank)

/-- The float with this sign and these bits without a sign. -/
def ofMagnitude (negative : Bool) (magnitude : Nat) : Binary64 :=
  ⟨UInt64.ofNat (magnitude + if negative then 2 ^ (63 : Nat) else 0)⟩

end Binary64

end Rollout
