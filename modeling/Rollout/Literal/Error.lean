/-!
# Rejected literals

Why a duration or a version was not read. A fault of grammar has a place, counted in bytes from
the start of the literal without the white space around it, and sometimes a description of what
was expected there. Its message shows the literal with a mark under the place.
-/

namespace Rollout

/-- The grammars of literals. -/
inductive LiteralKind where
  /-- Durations such as 1h30m. -/
  | duration
  /-- Versions such as 2.10.1. -/
  | version
deriving DecidableEq

/-- The name of a grammar in messages. -/
def LiteralKind.name : LiteralKind → String
  | .duration => "duration"
  | .version => "version"

/-- What is wrong with a literal. -/
inductive LiteralFault where
  /-- The grammar does not go on at this place. -/
  | grammar (offset : Nat) (expected : Option String)
  /-- The literal is well formed but stands for too large an amount. -/
  | outOfRange
deriving DecidableEq

/-- A literal that was not read. -/
structure LiteralError where
  /-- The grammar that was tried. -/
  kind : LiteralKind
  /-- The literal as it was given. -/
  input : String
  /-- The literal without white space around it. -/
  trimmed : List Char
  /-- What is wrong with it. -/
  fault : LiteralFault
deriving DecidableEq

namespace LiteralError

/-- A line with a mark after `offset` blanks. -/
def markLine (offset : Nat) : List Char :=
  List.replicate offset ' ' ++ ['^', '\n']

/-- The literal and a mark under the place. Of a literal with several lines the first is shown,
which is the one with the fault, under a heading that names the place. -/
def picture (trimmed : List Char) (offset : Nat) : List Char :=
  if '\n' ∈ trimmed then
    "parse error at line 1, column ".toList ++ Nat.toDigits 10 (offset + 1) ++ "\n  |\n1 | ".toList
      ++ trimmed.takeWhile (· ≠ '\n') ++ "\n  | ".toList ++ markLine offset
  else trimmed ++ '\n' :: markLine offset

/-- What the message says after the literal. -/
def reason (e : LiteralError) : String :=
  match e.fault with
  | .outOfRange => "out of range"
  | .grammar offset expected =>
    String.ofList (picture e.trimmed offset)
      ++ match expected with
        | some what => "expected " ++ what
        | none => ""

/-- The message of a rejected literal. -/
def message (e : LiteralError) : String :=
  "invalid " ++ e.kind.name ++ " '" ++ e.input ++ "': " ++ e.reason

end LiteralError

end Rollout
