import Rollout.Time.Instant
import Rollout.Text.Blank

/-!
# Timestamps

The written forms of an instant. A text may have white space around it, and the first of four forms
that reads all of it decides:

1. a date, `T` or a space, a time and an offset from universal time, every number at full width;
2. a date, `T` and a time in universal time;
3. a date, white space or nothing, and a time in universal time;
4. a date, which stands for its first moment in universal time.

In forms 2 to 4 numbers may be short and have white space before them.
-/

namespace Rollout.Timestamp

-- powers are those of the core library, whatever else is in scope
attribute [local instance (high)] instPowNat

/-! ## Pieces -/

/-- Reads a character that must be there. -/
def mark (c : Char) : List Char → Option (List Char)
  | [] => none
  | x :: r => if x = c then some r else none

/-- Reads a number of exactly `width` digits. -/
def fixedNumber (width : Nat) (l : List Char) : Option (Nat × List Char) :=
  let ds := l.take width
  if ds.length = width ∧ ds.all Char.isDigit then some (Nat.ofDigitChars 10 ds 0, l.drop width)
  else none

/-- Reads a number of at least one digit and at most `width` digits. -/
def shortNumber (width : Nat) (l : List Char) : Option (Nat × List Char) :=
  let ds := (l.take width).takeWhile Char.isDigit
  if ds = [] then none else some (Nat.ofDigitChars 10 ds 0, l.drop ds.length)

/-- Reads a number of at least one digit. -/
def longNumber (l : List Char) : Option (Nat × List Char) :=
  shortNumber l.length l

/-- Reads a fraction of a second, in nanoseconds, if the text goes on with a point. Digits beyond
the ninth do not count. -/
def fraction (l : List Char) : Option (Nat × List Char) :=
  match l with
  | '.' :: r =>
    let ds := r.takeWhile Char.isDigit
    let kept := ds.take 9
    if ds = [] then none
    else some (Nat.ofDigitChars 10 kept 0 * 10 ^ (9 - kept.length), r.drop ds.length)
  | _ => some (0, l)

/-! ## The form at full width -/

/-- Reads an offset from universal time, in seconds. -/
def offset (l : List Char) : Option (Int × List Char) := do
  match l with
  | [] => none
  | c :: r =>
    if c = 'Z' ∨ c = 'z' then some (0, r)
    else
      let (hours, r) ← fixedNumber 2 r
      let r ← mark ':' r
      let (minutes, r) ← fixedNumber 2 r
      let size : Int := hours * 3600 + minutes * 60
      if 23 < hours ∨ 59 < minutes then none
      else if c = '+' then some (size, r)
      else if c = '-' ∨ c = '−' then some (-size, r)
      else none

/-- Reads a date, a time and an offset at full width. -/
def zoned? (l : List Char) : Option Instant := do
  let (year, l) ← fixedNumber 4 l
  let l ← mark '-' l
  let (month, l) ← fixedNumber 2 l
  let l ← mark '-' l
  let (day, l) ← fixedNumber 2 l
  let l ← mark 'T' l <|> mark 't' l <|> mark ' ' l
  let (hour, l) ← fixedNumber 2 l
  let l ← mark ':' l
  let (minute, l) ← fixedNumber 2 l
  let l ← mark ':' l
  let (second, l) ← fixedNumber 2 l
  let (nano, l) ← fraction l
  let (shift, l) ← offset l
  if l ≠ [] then none
  else return (← Instant.ofCivil? ⟨year, month, day⟩ hour minute second nano).earlier shift

/-! ## The forms with short numbers -/

/-- Reads a year: at most four digits, or a sign and any number of digits. -/
def looseYear (l : List Char) : Option (Int × List Char) :=
  match Text.trimStart l with
  | '-' :: r => (longNumber r).map fun (n, r) => (-n, r)
  | '+' :: r => (longNumber r).map fun (n, r) => (n, r)
  | r => (shortNumber 4 r).map fun (n, r) => (n, r)

/-- Reads a number of one or two digits behind white space. -/
def looseNumber (l : List Char) : Option (Nat × List Char) :=
  shortNumber 2 (Text.trimStart l)

/-- Reads a date. -/
def looseDate (l : List Char) : Option (Date × List Char) := do
  let (year, l) ← looseYear l
  let l ← mark '-' l
  let (month, l) ← looseNumber l
  let l ← mark '-' l
  let (day, l) ← looseNumber l
  return (⟨year, month, day⟩, l)

/-- Reads the rest of a text as a time of the date. -/
def looseTime? (date : Date) (l : List Char) : Option Instant := do
  let (hour, l) ← looseNumber l
  let l ← mark ':' l
  let (minute, l) ← looseNumber l
  let l ← mark ':' l
  let (second, l) ← looseNumber l
  let (nano, l) ← fraction l
  if l ≠ [] then none else Instant.ofCivil? date hour minute second nano

/-- Reads a date and a time with a `T` between them. -/
def joined? (l : List Char) : Option Instant := do
  let (date, l) ← looseDate l
  looseTime? date (← mark 'T' l)

/-- Reads a date and a time with white space or nothing between them. -/
def spaced? (l : List Char) : Option Instant := do
  let (date, l) ← looseDate l
  looseTime? date (Text.trimStart l)

/-- Reads a date alone. -/
def bare? (l : List Char) : Option Instant := do
  let (date, l) ← looseDate l
  if l ≠ [] then none else Instant.ofCivil? date 0 0 0 0

/-! ## All forms -/

/-- Reads a timestamp in any of its forms. -/
def read? (s : String) : Option Instant :=
  let l := Text.trim s.toList
  zoned? l <|> joined? l <|> spaced? l <|> bare? l

end Rollout.Timestamp
