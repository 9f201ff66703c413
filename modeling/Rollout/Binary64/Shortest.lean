import Rollout.Binary64.Basic

/-!
# The shortest decimal of a float

Among the decimals that lie nearer to a float than to any other one, `shortest` selects one with
the fewest digits, and of two such the nearer. All is done in exact integer arithmetic: a float and
the ends of the interval that it stands for are three numerators over one denominator.
-/

namespace Rollout.Binary64

-- powers are those of the core library, whatever else is in scope
attribute [local instance (high)] instPowNat

/-- A number `digits * 10 ^ exponent`. -/
structure Scientific where
  /-- All digits, as one number. -/
  digits : Nat
  /-- The power of ten that the last digit counts. -/
  exponent : Int
deriving DecidableEq

/-- The exponent of the first digit. -/
def Scientific.leading (s : Scientific) : Int :=
  (Nat.toDigits 10 s.digits).length + s.exponent - 1

/-- Which way a decimal halfway between two of the same length goes. -/
inductive Tie where
  /-- To the one whose last digit is even. -/
  | toEven
  /-- To the greater one. -/
  | up
deriving DecidableEq

/-- The reals that round to a float, as numerators over one denominator. -/
structure Interval where
  low : Nat
  value : Nat
  high : Nat
  /-- The common denominator. -/
  den : Nat
  /-- Whether the ends belong to the interval. -/
  closed : Bool

/-- The interval of a finite float that is not zero. Just above a power of two the neighbour below
is half as far away as the neighbour above. An end belongs to the float with an even significand. -/
def interval (x : Binary64) : Interval :=
  let m := x.significand
  let gap := if x.fractionField = 0 ∧ 1 < x.exponentField then 1 else 2
  let up := 2 ^ (x.unit - 2).toNat
  { low := (4 * m - gap) * up
    value := 4 * m * up
    high := (4 * m + 2) * up
    den := 2 ^ (2 - x.unit).toNat
    closed := m % 2 == 0 }

/-- The interval in units of `10 ^ exponent`. -/
def Interval.inUnits (i : Interval) (exponent : Int) : Interval :=
  let f := 10 ^ (-exponent).toNat
  { i with
    low := i.low * f
    value := i.value * f
    high := i.high * f
    den := i.den * 10 ^ exponent.toNat }

/-- Whether the integer lies in the interval. -/
def Interval.contains (i : Interval) (n : Nat) : Bool :=
  let v := n * i.den
  if i.closed then i.low ≤ v && v ≤ i.high else i.low < v && v < i.high

/-- The integer in the interval that is nearest to the value, if there is one. Only the two
neighbours of the value can be. -/
def Interval.nearest? (i : Interval) (tie : Tie) : Option Nat :=
  let below := i.value / i.den
  let above := below + 1
  match i.contains below, i.contains above with
  | false, false => none
  | true, false => some below
  | false, true => some above
  | true, true =>
    match compare (i.value - below * i.den) (above * i.den - i.value) with
    | .lt => some below
    | .gt => some above
    | .eq => some (if tie = .toEven ∧ below % 2 = 0 then below else above)

/-- The least power of ten above the value of an interval. -/
def Interval.bound (i : Interval) : Int :=
  if i.den ≤ i.value then (Nat.toDigits 10 (i.value / i.den)).length
  else
    match (List.range 400).find? fun k => i.den ≤ i.value * 10 ^ (k + 1) with
    | some k => -k
    | none => -400

/-- Carries trailing zeros of the digits over to the exponent, at most `fuel` of them. -/
def Scientific.strip : Nat → Scientific → Scientific
  | 0, s => s
  | fuel + 1, s =>
    if s.digits % 10 = 0 then strip fuel ⟨s.digits / 10, s.exponent + 1⟩ else s

/-- The shortest decimal of a finite float that is not zero. The grids of one digit, two digits and
so on are tried in order; seventeen digits always suffice, and should they not, the exact value
stands in. -/
def shortest (tie : Tie) (x : Binary64) : Scientific :=
  let i := x.interval
  let found := (List.range 17).findSome? fun n =>
    let exponent := i.bound - (n + 1 : Nat)
    ((i.inUnits exponent).nearest? tie).map fun d => Scientific.mk d exponent
  match found with
  | some s => s.strip 20
  | none => ⟨x.significand * 2 ^ x.unit.toNat * 5 ^ (-x.unit).toNat, -(-x.unit).toNat⟩

end Rollout.Binary64
