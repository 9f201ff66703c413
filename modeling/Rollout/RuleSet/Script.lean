import Rollout.RuleSet.Check

/-!
# Describing rule sets

A rule set can be described call by call. A block of rules is described by calls that each add a rule
or set a partition; of several partitions the last one counts, and so it is with the values of a
rule, the fallbacks of a partition and the defaults. A block cannot hold rules and a partition, and
every rule needs a value.
-/

namespace Rollout

/-- A call that describes a rule. -/
inductive RuleCall where
  /-- Adds a matcher; the rule applies where all of them accept the context. -/
  | when (m : Matcher)
  | value (d : Distribution)

mutual

/-- A call that describes a block of rules. -/
inductive BlockCall where
  | rule (calls : List RuleCall)
  | partition (property : String) (calls : List PartitionCall)

/-- A call that describes a partition. -/
inductive PartitionCall where
  | branch (key : String) (calls : List BlockCall)
  | fallback (calls : List BlockCall)

end

/-- A call that describes a rule set. -/
inductive ScriptCall where
  /-- A call that describes the block at the root. -/
  | block (call : BlockCall)
  | default (value : Value)

/-- Adds a branch with one rule that applies always and has a fixed value. -/
def PartitionCall.branchValue (key : String) (value : Value) : PartitionCall :=
  .branch key [.rule [.value (.single value)]]

/-! ## Rules -/

/-- The matchers that the calls add, in order. -/
def ruleMatchers : List RuleCall → List Matcher
  | [] => []
  | .when m :: rest => m :: ruleMatchers rest
  | .value _ :: rest => ruleMatchers rest

/-- The last value that the calls set. -/
def ruleValue? : List RuleCall → Option Distribution
  | [] => none
  | .when _ :: rest => ruleValue? rest
  | .value d :: rest => ruleValue? rest <|> some d

/-- The calls of each rule that a block adds, in order. -/
def blockRules : List BlockCall → List (List RuleCall)
  | [] => []
  | .rule calls :: rest => calls :: blockRules rest
  | .partition _ _ :: rest => blockRules rest

/-- Puts the rules of a list together, the first of which has the number `next`. Returns the number
of the rule that follows them beside the list. -/
def assembleRules (next : Nat) : List (List RuleCall) → Except RuleSetError (List Rule × Nat)
  | [] => .ok ([], next)
  | calls :: rest =>
    match ruleValue? calls with
    | none => .error (.missingValue next)
    | some value => do
      let (rules, next) ← assembleRules (next + 1) rest
      return (⟨.all (ruleMatchers calls), value⟩ :: rules, next)

/-! ## Blocks and partitions -/

/-- A tree and the number of the rule that follows it, or what is wrong with its description. -/
abbrev Assembled := Except RuleSetError (RuleTree × Nat)

/-- Puts a block together from what its last partition came to, if it has one. The first rule of the
block has the number `next`. -/
def finishBlock (next : Nat) (calls : List BlockCall) (partition? : Option Assembled) : Assembled :=
  match partition?, blockRules calls with
  | some tree, [] => tree
  | some _, _ :: _ => .error .mixedRules
  | none, rules => (assembleRules next rules).map fun (rules, next) => (.list rules, next)

mutual

/-- Puts the last partition of a block together, if it has one: its branches in order, then its
fallback. -/
def lastPartition? (next : Nat) : List BlockCall → Option Assembled
  | [] => none
  | .rule _ :: rest => lastPartition? next rest
  | .partition property calls :: rest =>
    lastPartition? next rest <|> some (do
      let (branches, next) ← assembleBranches next calls
      let (fallback, next) ← (lastFallback? next calls).getD (.ok (.empty, next))
      return (.partition property branches fallback, next))

/-- Puts the branches of a partition together. Their keys are kept in lower case. -/
def assembleBranches (next : Nat) :
    List PartitionCall → Except RuleSetError (List (String × RuleTree) × Nat)
  | [] => .ok ([], next)
  | .fallback _ :: rest => assembleBranches next rest
  | .branch key calls :: rest => do
    let (tree, next) ← finishBlock next calls (lastPartition? next calls)
    let (branches, next) ← assembleBranches next rest
    return ((Text.lowerCase key, tree) :: branches, next)

/-- Puts the last fallback of a partition together, if it has one. -/
def lastFallback? (next : Nat) : List PartitionCall → Option Assembled
  | [] => none
  | .branch _ _ :: rest => lastFallback? next rest
  | .fallback calls :: rest =>
    lastFallback? next rest <|> some (finishBlock next calls (lastPartition? next calls))

end

/-- Puts a block together, the first rule of which has the number `next`. -/
def assembleBlock (next : Nat) (calls : List BlockCall) : Assembled :=
  finishBlock next calls (lastPartition? next calls)

/-! ## Rule sets -/

/-- The calls that describe the block at the root. -/
def rootCalls : List ScriptCall → List BlockCall
  | [] => []
  | .block call :: rest => call :: rootCalls rest
  | .default _ :: rest => rootCalls rest

/-- The last default that the calls set. -/
def lastDefault? : List ScriptCall → Option Value
  | [] => none
  | .block _ :: rest => lastDefault? rest
  | .default v :: rest => lastDefault? rest <|> some v

/-- Puts the described rule set together and checks it. -/
def RuleSet.ofScript (calls : List ScriptCall) : Except RuleSetError RuleSet := do
  let (rules, _) ← assembleBlock 0 (rootCalls calls)
  let ruleSet : RuleSet := { rules, default? := lastDefault? calls }
  ruleSet.validate
  return ruleSet

end Rollout
