import Rollout.Program.Basic

/-!
# From rule sets to programs

The tree is walked once, and each literal is interned where it is met: the rules of a list in order,
in each rule the literals of the matcher from left to right and then the value; the branches of a
partition in order and then its fallback; the default last. A list of alternatives is one array
literal, and a beginning or an end of a text is one string literal.
-/

namespace Rollout

mutual

/-- Compiles a condition. -/
def Condition.compile (pool : Pool) : Condition → Program.Test × Pool
  | .compare op literal comparer =>
    let (i, pool) := pool.literal literal
    (.compare op i comparer, pool)
  | .oneOf literals comparer =>
    let (i, pool) := pool.literal (.array literals)
    (.oneOf i comparer, pool)
  | .contains literal comparer =>
    let (i, pool) := pool.literal literal
    (.contains i comparer, pool)
  | .startsWith text =>
    let (i, pool) := pool.literal (.string text)
    (.startsWith i, pool)
  | .endsWith text =>
    let (i, pool) := pool.literal (.string text)
    (.endsWith i, pool)
  | .within window => (.within window, pool)
  | .all items =>
    let (tests, pool) := Condition.compileAll pool items
    (.all tests, pool)
  | .any items =>
    let (tests, pool) := Condition.compileAll pool items
    (.any tests, pool)
  | .not item =>
    let (test, pool) := Condition.compile pool item
    (.not test, pool)

/-- Compiles conditions in order. -/
def Condition.compileAll (pool : Pool) : List Condition → List Program.Test × Pool
  | [] => ([], pool)
  | c :: rest =>
    let (test, pool) := Condition.compile pool c
    let (tests, pool) := Condition.compileAll pool rest
    (test :: tests, pool)

end

mutual

/-- Compiles a matcher. -/
def Matcher.compile (pool : Pool) : Matcher → Program.Guard × Pool
  | .property name condition =>
    let (test, pool) := condition.compile pool
    (.fetch name test, pool)
  | .all items =>
    let (guards, pool) := Matcher.compileAll pool items
    (.all guards, pool)
  | .any items =>
    let (guards, pool) := Matcher.compileAll pool items
    (.any guards, pool)
  | .not item =>
    let (guard, pool) := Matcher.compile pool item
    (.not guard, pool)

/-- Compiles matchers in order. -/
def Matcher.compileAll (pool : Pool) : List Matcher → List Program.Guard × Pool
  | [] => ([], pool)
  | m :: rest =>
    let (guard, pool) := Matcher.compile pool m
    let (guards, pool) := Matcher.compileAll pool rest
    (guard :: guards, pool)

end

/-- Compiles a distribution. -/
def Distribution.compile (pool : Pool) : Distribution → Program.Source × Pool
  | .single value =>
    let (i, pool) := pool.literal value
    (.constant i, pool)
  | .weighted owner salt table =>
    let (i, pool) := pool.weightedTable table
    (.weighted (ownerKey owner) salt i, pool)
  | .uniform owner salt values =>
    let (i, pool) := pool.uniformTable values
    (.uniform (ownerKey owner) salt i, pool)

/-- Compiles the rules of a list in order. -/
def compileRules (pool : Pool) : List Rule → List (Program.Guard × Program.Source) × Pool
  | [] => ([], pool)
  | r :: rest =>
    let (guard, pool) := r.matcher.compile pool
    let (source, pool) := r.value.compile pool
    let (arms, pool) := compileRules pool rest
    ((guard, source) :: arms, pool)

mutual

/-- Compiles a tree. -/
def RuleTree.compile (pool : Pool) : RuleTree → Program.Step × Pool
  | .list rules =>
    let (arms, pool) := compileRules pool rules
    (.arms arms, pool)
  | .partition property branches fallback =>
    let (table, pool) := RuleTree.compileBranches pool branches
    let (step, pool) := RuleTree.compile pool fallback
    (.dispatch property table step, pool)

/-- Compiles the branches of a partition in order. Their keys are put in lower case. -/
def RuleTree.compileBranches (pool : Pool) :
    List (String × RuleTree) → List (String × Program.Step) × Pool
  | [] => ([], pool)
  | (key, branch) :: rest =>
    let (step, pool) := RuleTree.compile pool branch
    let (table, pool) := RuleTree.compileBranches pool rest
    ((Text.lowerCase key, step) :: table, pool)

end

/-- Compiles a rule set. -/
def RuleSet.compile (s : RuleSet) : Program :=
  let (body, pool) := s.rules.compile .empty
  match s.default? with
  | none => { pool, body, default? := none }
  | some v =>
    let (i, pool) := pool.literal v
    { pool, body, default? := some i }

end Rollout
