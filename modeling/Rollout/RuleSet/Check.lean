import Rollout.RuleSet.Basic
import Rollout.Text.Lower

/-!
# Checking rule sets

A rule set can be evaluated only if it has no fault: every partition names a property and has no two
branches for one value, and every bucketed value names an owner. The tree is walked depth first, the
branches of a partition before its fallback, and the first fault is reported. Rules are numbered
through the whole walk.
-/

namespace Rollout

/-- Why a rule set cannot be put together or evaluated. -/
inductive RuleSetError where
  /-- A rule was described without a value. -/
  | missingValue (index : Nat)
  /-- A partition names no property. -/
  | emptyPartitionProperty
  /-- A partition has two branches for one value. -/
  | duplicatePartitionKey (property key : String)
  /-- A bucketed value names no owner. -/
  | emptyOwnerType (index : Nat)
  /-- A block was described with rules and with a partition. -/
  | mixedRules
deriving DecidableEq

/-- The message of an error. -/
def RuleSetError.message : RuleSetError → String
  | missingValue index =>
    "rule #" ++ toString index ++ " has no value; call .value(), .weighted() or .uniform()"
  | emptyPartitionProperty => "partition property name must not be empty"
  | duplicatePartitionKey property key =>
    "duplicate partition key '" ++ key ++ "' on property '" ++ property ++ "'"
  | emptyOwnerType index =>
    "bucketed value in rule #" ++ toString index ++ " has an empty owner type"
  | mixedRules => "a rules block cannot hold both a partition and plain rules"

/-- The first text of the list that repeats an earlier one or one of `seen`. -/
def firstRepeated? (seen : List String) : List String → Option String
  | [] => none
  | s :: rest => if s ∈ seen then some s else firstRepeated? (s :: seen) rest

/-- Checks the rules of a list, the first of which has the number `next`. Returns the number of the
rule that follows them. -/
def checkRules (next : Nat) : List Rule → Except RuleSetError Nat
  | [] => .ok next
  | r :: rest =>
    if r.value.owner? = some "" then .error (.emptyOwnerType next) else checkRules (next + 1) rest

/-- The branch keys of a partition in lower case. -/
def branchKeys (branches : List (String × RuleTree)) : List String :=
  branches.map fun b => Text.lowerCase b.1

mutual

/-- Checks a tree, the first rule of which has the number `next`. Returns the number of the rule that
follows it. -/
def RuleTree.check (next : Nat) : RuleTree → Except RuleSetError Nat
  | .list rules => checkRules next rules
  | .partition property branches fallback =>
    if property = "" then .error .emptyPartitionProperty
    else
      match firstRepeated? [] (branchKeys branches) with
      | some key => .error (.duplicatePartitionKey property key)
      | none => do
        let next ← RuleTree.checkBranches next branches
        RuleTree.check next fallback

/-- Checks the branches of a partition in order. -/
def RuleTree.checkBranches (next : Nat) : List (String × RuleTree) → Except RuleSetError Nat
  | [] => .ok next
  | (_, branch) :: rest => do
    let next ← RuleTree.check next branch
    RuleTree.checkBranches next rest

end

/-- Reports the first fault of a rule set. -/
def RuleSet.validate (s : RuleSet) : Except RuleSetError Unit :=
  (s.rules.check 0).map fun _ => ()

end Rollout
