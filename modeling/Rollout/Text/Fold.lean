import Rollout.Text.UpperCase

/-!
# Comparing texts without regard to case

Two texts are compared through their folded forms, in which every character stands in upper case.
Folding acts on one character at a time, so it distributes over concatenation.
-/

namespace Rollout.Text

/-- The form of a text in which case no longer matters. -/
def fold (s : String) : List Char :=
  s.toList.flatMap upper

/-- The order of two texts by the code points of their folded forms. -/
def compareFolded (s t : String) : Ordering :=
  List.compareLex compare (fold s) (fold t)

/-- Whether `l` occurs in the text as a run of neighbouring characters. -/
def occursIn (l : List Char) : List Char → Bool
  | [] => l.isEmpty
  | c :: r => l.isPrefixOf (c :: r) || occursIn l r

end Rollout.Text
