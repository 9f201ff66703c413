/-!
# Tables of case forms

The case forms of the characters lie in long runs: a whole alphabet is carried to another one, or
every second code point to its neighbour. A table of such runs and a short table of forms with
several characters give the form of every character.
-/

namespace Rollout.Text

/-- The code points `first`, `first + step`, … up to `last`, carried in order to `image`,
`image + step`, …. -/
structure CaseRun where
  /-- The least code point of the run. -/
  first : Nat
  /-- The greatest code point of the run. -/
  last : Nat
  /-- The distance between neighbours. -/
  step : Nat
  /-- Where the least code point is carried. -/
  image : Nat

/-- Where the run carries the code point, if the code point is in the run. -/
def CaseRun.map? (r : CaseRun) (n : Nat) : Option Nat :=
  if r.first ≤ n ∧ n ≤ r.last ∧ (n - r.first) % r.step = 0 then some (r.image + (n - r.first))
  else none

/-- The form of a character under the runs and the forms with several characters. -/
def caseForm (runs : List CaseRun) (specials : List (Nat × List Nat)) (c : Char) : List Char :=
  match runs.findSome? (·.map? c.toNat) with
  | some n => [Char.ofNat n]
  | none =>
    match specials.lookup c.toNat with
    | some ns => ns.map Char.ofNat
    | none => [c]

end Rollout.Text
