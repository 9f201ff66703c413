/-!
# Dates

Dates of the proleptic Gregorian calendar, and their number of days from the first of January 1970.
-/

namespace Rollout

-- sums start from the zero of the core library, whatever else is in scope
attribute [local instance (high)] Zero.ofOfNat0

/-- A year, a month from 1 and a day from 1. Not every such triple is a date of the calendar. -/
structure Date where
  /-- The year; the year before year 1 is year 0. -/
  year : Int
  /-- The month, from 1 to 12. -/
  month : Nat
  /-- The day of the month, from 1. -/
  day : Nat
deriving DecidableEq

namespace Date

/-- Whether the year has a twenty-ninth of February. -/
def isLeap (year : Int) : Bool :=
  year % 4 == 0 && (year % 100 != 0 || year % 400 == 0)

/-- The lengths of the months of a year. -/
def monthLengths (year : Int) : List Nat :=
  [31, if isLeap year then 29 else 28, 31, 30, 31, 30, 31, 31, 30, 31, 30, 31]

/-- The least year of the calendar. -/
def minYear : Int := -262143

/-- The greatest year of the calendar. -/
def maxYear : Int := 262142

/-- Whether the date is in the calendar. -/
def Exists (d : Date) : Prop :=
  minYear ≤ d.year ∧ d.year ≤ maxYear ∧ 1 ≤ d.month ∧ 1 ≤ d.day ∧
    ∃ n ∈ (monthLengths d.year)[d.month - 1]?, d.day ≤ n

instance (d : Date) : Decidable d.Exists :=
  inferInstanceAs (Decidable (_ ∧ _ ∧ _ ∧ _ ∧ _))

/-- The number of leap years from year 0 up to but not including `year`. -/
def leapYearsBefore (year : Int) : Int :=
  (year + 3) / 4 - (year + 99) / 100 + (year + 399) / 400

/-- The number of days from the first of January 1970. -/
def dayNumber (d : Date) : Int :=
  365 * d.year + leapYearsBefore d.year + ((monthLengths d.year).take (d.month - 1)).sum + d.day
    - 719529

end Date

end Rollout
