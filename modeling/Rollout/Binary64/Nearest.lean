import Rollout.Binary64.Basic

/-!
# The nearest float

Every non-negative fraction has a nearest float; between two floats that are equally near, the one
with the even significand is taken. From `2 ^ 1024` down to half a unit below it there is no finite
float to take.
-/

namespace Rollout.Binary64

-- powers are those of the core library, whatever else is in scope
attribute [local instance (high)] instPowNat

/-- The quotient rounded to the nearest integer, a half to the even neighbour. -/
def roundHalfEven (num den : Nat) : Nat :=
  let q := num / den
  let r := num % den
  if 2 * r < den ∨ (2 * r = den ∧ q % 2 = 0) then q else q + 1

/-- The bits, without a sign, of the float nearest to `num / den`. The quotient is brought to the
least unit in which it takes at most 53 bits. A significand that rounds up to 54 bits carries into
the exponent, which is the next float. -/
def nearestMagnitude (num den : Nat) : Nat :=
  let scaled := num * 2 ^ (1074 : Nat)
  let shift := (scaled / den).log2 - 52
  shift * 2 ^ (52 : Nat) + roundHalfEven scaled (den * 2 ^ shift)

/-- The float nearest to the fraction, or `none` if that is beyond the finite floats. -/
def nearest? (negative : Bool) (num den : Nat) : Option Binary64 :=
  let magnitude := nearestMagnitude num den
  if magnitude < 2047 * 2 ^ (52 : Nat) then some (ofMagnitude negative magnitude) else none

/-- The float nearest to `digits * 10 ^ exponent`, or `none` if that is beyond the finite floats. A
number of more than 310 whole digits is beyond them, and one that starts after 330 places is
nearest to zero. -/
def ofScientific? (negative : Bool) (digits : Nat) (exponent : Int) : Option Binary64 :=
  let places := (Nat.toDigits 10 digits).length + exponent
  if digits = 0 ∨ places < -330 then some (ofMagnitude negative 0)
  else if 310 < places then none
  else nearest? negative (digits * 10 ^ exponent.toNat) (10 ^ (-exponent).toNat)

end Rollout.Binary64
