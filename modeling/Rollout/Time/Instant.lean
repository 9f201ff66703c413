import Rollout.Time.Date

/-!
# Instants

An instant is a day, a second of the day and a fraction in nanoseconds. In a leap second, which
follows the second it shares its number with, the fraction goes on from a whole second to the next.
-/

namespace Rollout

/-- A span of time of either sign. -/
structure Window where
  /-- The length in nanoseconds. -/
  nanos : Int
deriving DecidableEq

namespace Window

/-- A window of whole milliseconds. -/
def ofMillis (n : Int) : Window := ⟨n * 1000000⟩

/-- The whole milliseconds of a window, rounded toward zero. -/
def millis (w : Window) : Int := w.nanos.tdiv 1000000

end Window

/-- A point in universal time. -/
structure Instant where
  /-- The number of days from the first of January 1970. -/
  day : Int
  /-- The second of the day. -/
  second : Nat
  /-- The nanoseconds from the start of the second: a whole second or more in a leap second. -/
  nano : Nat
deriving DecidableEq

namespace Instant

/-- The nanoseconds of a second. -/
def nanosPerSecond : Nat := 1000000000

/-- The seconds of a day. -/
def secondsPerDay : Nat := 86400

/-- The number of seconds from the start of 1970, leap seconds not counted. -/
def unixSeconds (t : Instant) : Int :=
  t.day * secondsPerDay + t.second

/-- Instants are ordered by day, then by second, then by fraction. -/
def compare (t u : Instant) : Ordering :=
  (Ord.compare t.day u.day).then ((Ord.compare t.second u.second).then (Ord.compare t.nano u.nano))

/-- The nanoseconds from `u` to `t`. A leap second on the way counts as a second of its own when it
is the one that `t` or `u` lies in and the other lies later or earlier in the day. -/
def since (t u : Instant) : Int :=
  let leap : Int :=
    if u.second < t.second ∧ nanosPerSecond ≤ u.nano then 1
    else if t.second < u.second ∧ nanosPerSecond ≤ t.nano then -1
    else 0
  (t.unixSeconds - u.unixSeconds + leap) * nanosPerSecond + (t.nano - u.nano)

/-- The nanoseconds between two instants, in the order in which they follow each other. -/
def distance (t u : Instant) : Int :=
  if (t.compare u).isGE then t.since u else u.since t

/-- The instant at a time of day of an existing date. The sixtieth second is a leap second. -/
def ofCivil? (date : Date) (hour minute second nano : Nat) : Option Instant :=
  if date.Exists ∧ hour < 24 ∧ minute < 60 ∧ second ≤ 60 then
    some {
      day := date.dayNumber
      second := hour * 3600 + minute * 60 + min second 59
      nano := if second = 60 then nano + nanosPerSecond else nano }
  else none

/-- The instant that lies the given number of seconds earlier. The fraction stays as it is. -/
def earlier (t : Instant) (seconds : Int) : Instant :=
  let s := t.second - seconds
  { day := t.day + s / secondsPerDay, second := (s % secondsPerDay).toNat, nano := t.nano }

end Instant

end Rollout
