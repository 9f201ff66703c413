import Rollout.Literal.Error
import Rollout.Literal.Number
import Rollout.Text.Blank

/-!
# Durations

A duration is one or more segments, each a number and a unit, with white space around the whole at
most. Its length is the sum of the segments, in milliseconds, and must fit 63 bits.
-/

namespace Rollout.Literal

-- powers are those of the core library, whatever else is in scope
attribute [local instance (high)] instPowNat

/-- The units of a duration. -/
inductive TimeUnit where
  | millis
  | seconds
  | minutes
  | hours
  /-- Days of twenty-four hours. -/
  | days
deriving DecidableEq

/-- The length of a unit in milliseconds. -/
def TimeUnit.inMillis : TimeUnit → Nat
  | .millis => 1
  | .seconds => 1000
  | .minutes => 60 * 1000
  | .hours => 60 * 60 * 1000
  | .days => 24 * 60 * 60 * 1000

/-- How a unit is written. -/
def TimeUnit.symbol : TimeUnit → List Char
  | .millis => ['m', 's']
  | .seconds => ['s']
  | .minutes => ['m']
  | .hours => ['h']
  | .days => ['d']

/-- Reads the unit that the text starts with. Milliseconds go before minutes. -/
def readUnit? : List Char → Option (TimeUnit × List Char)
  | 'm' :: 's' :: r => some (.millis, r)
  | 's' :: r => some (.seconds, r)
  | 'm' :: r => some (.minutes, r)
  | 'h' :: r => some (.hours, r)
  | 'd' :: r => some (.days, r)
  | _ => none

/-- A number of units. -/
structure Segment where
  amount : Nat
  unit : TimeUnit
deriving DecidableEq

/-- The length of a segment in milliseconds. -/
def Segment.inMillis (s : Segment) : Nat :=
  s.amount * s.unit.inMillis

/-- Reads the segment that the text starts with. -/
def readSegment? (l : List Char) : Option (Segment × List Char) :=
  match readNumber? l with
  | none => none
  | some (n, r) => (readUnit? r).map fun (u, rest) => (⟨n, u⟩, rest)

/-- Reading a unit does not lengthen the text. -/
theorem length_of_readUnit? {l : List Char} {u : TimeUnit} {rest : List Char}
    (h : readUnit? l = some (u, rest)) : rest.length ≤ l.length := by
  unfold readUnit? at h
  split at h <;> cases h <;> simp only [List.length_cons] <;> omega

/-- Reading a segment leaves a shorter text. -/
theorem length_of_readSegment? {l : List Char} {s : Segment} {rest : List Char}
    (h : readSegment? l = some (s, rest)) : rest.length < l.length := by
  unfold readSegment? at h
  split at h
  · cases h
  · rename_i hn
    have hlt := length_of_readNumber? hn
    obtain ⟨p, hp, he⟩ := Option.map_eq_some_iff.mp h
    cases he
    exact Nat.lt_of_le_of_lt (length_of_readUnit? hp) hlt

/-- Reads segments as long as the text goes on with one, and returns what is left. -/
def readSegments (l : List Char) : List Segment × List Char :=
  match _h : readSegment? l with
  | none => ([], l)
  | some (s, rest) =>
    let (more, left) := readSegments rest
    (s :: more, left)
termination_by l.length
decreasing_by exact length_of_readSegment? _h

/-- Where the first segment of a text fails: at its number, or at its unit. -/
def firstFault (l : List Char) : LiteralFault :=
  match readNumber? l with
  | none => .grammar 0 none
  | some (_, r) => .grammar (l.length - r.length) (some "time unit (ms, s, m, h, d)")

/-- Reads the segments of a duration from a text without white space around it. -/
def readDuration (l : List Char) : Except LiteralFault (List Segment) :=
  match readSegments l with
  | ([], _) => .error (firstFault l)
  | (segments, []) => .ok segments
  | (_, left) => .error (.grammar (l.length - left.length) none)

/-- One more than the greatest duration in milliseconds. -/
def durationBound : Nat := 2 ^ (63 : Nat)

/-- The sum of the segments and of `total`, as long as neither a segment nor a sum on the way is too
large. -/
def addSegments (total : Nat) : List Segment → Option Nat
  | [] => some total
  | s :: rest =>
    if s.inMillis < durationBound ∧ total + s.inMillis < durationBound then
      addSegments (total + s.inMillis) rest
    else none

/-- Reads a duration, in milliseconds. -/
def parseDuration (input : String) : Except LiteralError Nat :=
  let trimmed := Text.trim input.toList
  match readDuration trimmed with
  | .error fault => .error { kind := .duration, input, trimmed, fault }
  | .ok segments =>
    match addSegments 0 segments with
    | some total => .ok total
    | none => .error { kind := .duration, input, trimmed, fault := .outOfRange }

end Rollout.Literal
