/-!
# Numbers in literals

A number in a literal is a lone zero or a run of digits that starts with another digit, and it
fits 64 bits. A number is read as far as its digits go, so that 007 is a zero with more behind it.
-/

namespace Rollout.Literal

-- powers are those of the core library, whatever else is in scope
attribute [local instance (high)] instPowNat

/-- One more than the greatest number. -/
def numberBound : Nat := 2 ^ (64 : Nat)

/-- The digits of the number that the text starts with. -/
def numberDigits (l : List Char) : List Char :=
  match l with
  | [] => []
  | c :: _ => if c = '0' then ['0'] else l.takeWhile Char.isDigit

/-- Reads the number that the text starts with; what follows it is returned beside it. -/
def readNumber? (l : List Char) : Option (Nat × List Char) :=
  let ds := numberDigits l
  let n := Nat.ofDigitChars 10 ds 0
  if ds = [] ∨ numberBound ≤ n then none else some (n, l.drop ds.length)

/-- Reading a number leaves a shorter text. -/
theorem length_of_readNumber? {l : List Char} {n : Nat} {rest : List Char}
    (h : readNumber? l = some (n, rest)) : rest.length < l.length := by
  simp only [readNumber?] at h
  split at h
  · cases h
  · rename_i hds
    cases h
    cases l with
    | nil => simp [numberDigits] at hds
    | cons c r =>
      have hpos : 0 < (numberDigits (c :: r)).length := by
        have : numberDigits (c :: r) ≠ [] := fun e => hds (Or.inl e)
        exact List.length_pos_iff.mpr this
      simp only [List.length_drop, List.length_cons]
      omega

end Rollout.Literal
