import Rollout.Text.LowerCase
import Rollout.Text.Cased

/-!
# Lower-casing a text

Each character takes its lower-case form by itself, the capital sigma apart: at the end of a word
it becomes ς, elsewhere σ. A sigma ends a word when the nearest character before it that is not
case-ignorable is cased, and the nearest such character after it is not.
-/

namespace Rollout.Text

/-- Whether the first character that is not case-ignorable is cased. -/
def startsCased (l : List Char) : Bool :=
  match l.dropWhile isCaseIgnorable with
  | [] => false
  | c :: _ => isCased c

/-- The lower-case form of the capital sigma between `before`, read backwards, and `after`. -/
def lowerSigma (before after : List Char) : Char :=
  if startsCased before && !startsCased after then 'ς' else 'σ'

/-- Lower-cases a text that follows `before`, which is read backwards. -/
def lowerAfter (before : List Char) : List Char → List Char
  | [] => []
  | c :: after =>
    (if c = 'Σ' then [lowerSigma before after] else lower c) ++ lowerAfter (c :: before) after

/-- The lower-case form of a text. -/
def lowerCase (s : String) : String :=
  String.ofList (lowerAfter [] s.toList)

end Rollout.Text
