import Rollout.Binary64.Printer
import Rollout.Json.Basic
import Rollout.Json.Text

/-!
# Writing documents

A document is written without white space. A float that is not finite is written as null.
-/

namespace Rollout.Json

/-- The text of a number. -/
def Number.write : Number → List Char
  | .integer n _ => (if n < 0 then ['-'] else []) ++ Nat.toDigits 10 n.natAbs
  | .float x => if x.isFinite then (Binary64.document.render x).toList else ['n', 'u', 'l', 'l']

mutual

/-- The text of a document. -/
def write : Json → List Char
  | .null => ['n', 'u', 'l', 'l']
  | .bool true => ['t', 'r', 'u', 'e']
  | .bool false => ['f', 'a', 'l', 's', 'e']
  | .number n => n.write
  | .string s => writeText s
  | .array items => '[' :: writeItems items ++ [']']
  | .object members => '\x7b' :: writeMembers members ++ ['\x7d']

/-- The text of items with commas between them. -/
def writeItems : List Json → List Char
  | [] => []
  | [item] => write item
  | item :: rest => write item ++ ',' :: writeItems rest

/-- The text of members with commas between them. -/
def writeMembers : List (String × Json) → List Char
  | [] => []
  | [(name, item)] => writeText name ++ ':' :: write item
  | (name, item) :: rest => writeText name ++ ':' :: write item ++ ',' :: writeMembers rest

end

/-- The text of a document, as a string. -/
def render (j : Json) : String :=
  String.ofList j.write

end Rollout.Json
