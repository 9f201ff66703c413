import Rollout.Literal.Error
import Rollout.Literal.Number
import Rollout.Text.Blank

/-!
# Versions

A version is one to four numbers separated by points, with white space around it at most. The text
of a version is its numbers joined by points.
-/

namespace Rollout.Literal

/-- Reads the numbers of a version that follow its first one, at most `more` of them, each behind a
point. A point without a number behind it is left unread. -/
def readParts : Nat → List Char → List Nat × List Char
  | 0, l => ([], l)
  | more + 1, l =>
    match l with
    | '.' :: r =>
      match readNumber? r with
      | some (n, rest) =>
        let (ns, left) := readParts more rest
        (n :: ns, left)
      | none => ([], l)
    | _ => ([], l)

/-- Reads a version from a text without white space around it, or says where it cannot go on. -/
def readVersion (l : List Char) : Except LiteralFault (List Nat) :=
  match readNumber? l with
  | none => .error (.grammar 0 (some "dotted version number"))
  | some (n, rest) =>
    match readParts 3 rest with
    | (ns, []) => .ok (n :: ns)
    | (_, left) => .error (.grammar (l.length - left.length) none)

/-- Reads a version. -/
def parseVersion (input : String) : Except LiteralError (List Nat) :=
  let trimmed := Text.trim input.toList
  match readVersion trimmed with
  | .ok parts => .ok parts
  | .error fault => .error { kind := .version, input, trimmed, fault }

/-- The text of a version. -/
def versionText (parts : List Nat) : String :=
  ".".intercalate (parts.map fun n => String.ofList (Nat.toDigits 10 n))

end Rollout.Literal
