import Rollout.Json.Basic
import Rollout.Json.Text

/-!
# Reading documents

The grammar of JSON without extensions. Nesting has no limit. A number beyond the finite floats makes
a document unreadable.
-/

namespace Rollout.Json

/-- The white space of a document. -/
def isSpace (c : Char) : Bool :=
  c = ' ' || c = '\n' || c = '\t' || c = '\r'

/-- The text without the white space it starts with. -/
def skipSpace (l : List Char) : List Char :=
  l.dropWhile isSpace

/-! ## Numbers -/

/-- Reads one or more digits. -/
def readDigits? (l : List Char) : Option (List Char × List Char) :=
  let ds := l.takeWhile Char.isDigit
  if ds = [] then none else some (ds, l.drop ds.length)

/-- Reads the whole part of a number: a lone zero, or digits that start with another one. -/
def readWhole? (l : List Char) : Option (List Char × List Char) :=
  match l with
  | '0' :: r => some (['0'], r)
  | l => readDigits? l

/-- Reads the places of a number, if it goes on with a point. -/
def readPlaces? (l : List Char) : Option (List Char × List Char) :=
  match l with
  | '.' :: r => readDigits? r
  | l => some ([], l)

/-- Reads the exponent of a number, if it goes on with one. -/
def readExponent? (l : List Char) : Option (Option Int × List Char) :=
  match l with
  | c :: r =>
    if c = 'e' ∨ c = 'E' then
      let (sign, digits) : Int × List Char := match r with
        | '-' :: r => (-1, r)
        | '+' :: r => (1, r)
        | r => (1, r)
      (readDigits? digits).map fun (ds, rest) => (some (sign * Nat.ofDigitChars 10 ds 0), rest)
    else some (none, l)
  | [] => some (none, [])

/-- Reads a number. A negative zero is a float. -/
def readNumber? (l : List Char) : Option (Number × List Char) := do
  let (negative, l) := match l with
    | '-' :: r => (true, r)
    | r => (false, r)
  let (whole, l) ← readWhole? l
  let (places, l) ← readPlaces? l
  let (exponent, l) ← readExponent? l
  let digits := Nat.ofDigitChars 10 (whole ++ places) 0
  if places = [] ∧ exponent = none ∧ ¬(negative ∧ digits = 0) then
    return (← Number.ofInt? (if negative then -digits else digits), l)
  else
    let x ← Binary64.ofScientific? negative digits (exponent.getD 0 - places.length)
    return (.float x, l)

/-! ## Documents -/

/-- Reads a word that the text must start with. -/
def readWord? (word l : List Char) : Option (List Char) :=
  if word.isPrefixOf l then some (l.drop word.length) else none

mutual

/-- Reads a document. Each step of the reader uses up one unit of `fuel`. -/
def readValue? (fuel : Nat) (l : List Char) : Option (Json × List Char) :=
  match fuel with
  | 0 => none
  | fuel + 1 =>
    match skipSpace l with
    | 'n' :: r => (readWord? ['u', 'l', 'l'] r).map fun r => (.null, r)
    | 't' :: r => (readWord? ['r', 'u', 'e'] r).map fun r => (.bool true, r)
    | 'f' :: r => (readWord? ['a', 'l', 's', 'e'] r).map fun r => (.bool false, r)
    | '"' :: r => (readText? r).map fun (text, r) => (.string (String.ofList text), r)
    | '[' :: r =>
      match skipSpace r with
      | ']' :: r => some (.array [], r)
      | r => (readItems? fuel r).map fun (items, r) => (.array items, r)
    | '\x7b' :: r =>
      match skipSpace r with
      | '\x7d' :: r => some (.object [], r)
      | r => (readMembers? fuel r).map fun (members, r) => (.object members, r)
    | r => (readNumber? r).map fun (n, r) => (.number n, r)

/-- Reads one or more items and the closing bracket. -/
def readItems? (fuel : Nat) (l : List Char) : Option (List Json × List Char) :=
  match fuel with
  | 0 => none
  | fuel + 1 =>
    match readValue? fuel l with
    | none => none
    | some (item, r) =>
      match skipSpace r with
      | ',' :: r => (readItems? fuel r).map fun (items, r) => (item :: items, r)
      | ']' :: r => some ([item], r)
      | _ => none

/-- Reads one or more members and the closing brace. -/
def readMembers? (fuel : Nat) (l : List Char) : Option (List (String × Json) × List Char) :=
  match fuel with
  | 0 => none
  | fuel + 1 =>
    match skipSpace l with
    | '"' :: r =>
      match readText? r with
      | none => none
      | some (name, r) =>
        match skipSpace r with
        | ':' :: r =>
          match readValue? fuel r with
          | none => none
          | some (item, r) =>
            match skipSpace r with
            | ',' :: r =>
              (readMembers? fuel r).map fun (members, r) =>
                ((String.ofList name, item) :: members, r)
            | '\x7d' :: r => some ([(String.ofList name, item)], r)
            | _ => none
        | _ => none
    | _ => none

end

/-- Reads a text that holds one document and white space around it at most. A document takes at most
two steps for each of its characters. -/
def parse? (s : String) : Option Json :=
  match readValue? (2 * s.toList.length + 2) s.toList with
  | some (j, rest) => if skipSpace rest = [] then some j else none
  | none => none

end Rollout.Json
