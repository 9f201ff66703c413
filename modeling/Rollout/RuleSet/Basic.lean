import Rollout.Rule.Distribution
import Rollout.Rule.Matcher

/-!
# Rule sets

Rules stand in lists, and lists stand in trees: a partition looks at one property and goes on with
the branch for its value. A rule set is such a tree with a value for when no rule yields one.
-/

namespace Rollout

/-- A distribution that applies to the contexts that a matcher accepts. -/
structure Rule where
  /-- Which contexts the rule applies to. -/
  matcher : Matcher
  /-- How the rule produces its value. -/
  value : Distribution

/-- A tree of rules. -/
inductive RuleTree where
  /-- Rules that are tried in order. -/
  | list (rules : List Rule)
  /-- Branches by the value of a property. A key stands for a value whose text equals it in lower
  case; without a branch, or without a text, the fallback is taken. -/
  | partition (property : String) (branches : List (String × RuleTree)) (fallback : RuleTree)

/-- The tree without rules. -/
def RuleTree.empty : RuleTree := list []

instance : Inhabited RuleTree := ⟨RuleTree.empty⟩

/-- A tree of rules and a default. -/
structure RuleSet where
  rules : RuleTree
  /-- The value when no rule yields one. -/
  default? : Option Value

/-! ## How rule sets are shown -/

/-- How a rule is shown. -/
def Rule.display (r : Rule) : String :=
  r.matcher.display ++ " -> " ++ r.value.display

/-- The margin of a line at the given depth. -/
def margin (depth : Nat) : String :=
  String.ofList (List.replicate (2 * depth) ' ')

mutual

/-- The lines that show a tree at the given depth. -/
def RuleTree.displayLines (depth : Nat) : RuleTree → List String
  | .list rules => rules.map fun r => margin depth ++ r.display
  | .partition property branches fallback =>
    (margin depth ++ "partition on " ++ property ++ ":") :: displayBranches depth branches
      ++ (margin depth ++ "  *:") :: RuleTree.displayLines (depth + 2) fallback

/-- The lines that show the branches of a partition at the given depth. -/
def RuleTree.displayBranches (depth : Nat) : List (String × RuleTree) → List String
  | [] => []
  | (key, branch) :: rest =>
    (margin depth ++ "  \"" ++ key ++ "\":") :: RuleTree.displayLines (depth + 2) branch
      ++ RuleTree.displayBranches depth rest

end

/-- How a rule set is shown. -/
def RuleSet.display (s : RuleSet) : String :=
  let last := match s.default? with
    | some v => v.display
    | none => "none"
  String.join ((["RuleSet:"] ++ s.rules.displayLines 1 ++ ["  default: " ++ last]).map (· ++ "\n"))

end Rollout
