import Rollout.Evaluation
import Rollout.Program.Pool

/-!
# Programs

A program is a rule set with its literals and tables moved into a pool. It is run against a context
as the rule set is evaluated, with every literal read back from its place in the pool.
-/

namespace Rollout.Program

/-! ## Instructions -/

/-- A condition over a pool. -/
inductive Test where
  /-- Compares the subject with the literal at a place. -/
  | compare (op : Comparison) (literal : Nat) (comparer : Option String)
  /-- Looks for the subject in the array at a place. -/
  | oneOf (literals : Nat) (comparer : Option String)
  | contains (literal : Nat) (comparer : Option String)
  | startsWith (text : Nat)
  | endsWith (text : Nat)
  | within (window : Window)
  | all (items : List Test)
  | any (items : List Test)
  | not (item : Test)

/-- A matcher over a pool. -/
inductive Guard where
  /-- Looks up a property and tests it. -/
  | fetch (property : String) (test : Test)
  | all (items : List Guard)
  | any (items : List Guard)
  | not (item : Guard)

/-- A distribution over a pool. -/
inductive Source where
  /-- Yields the literal at a place. -/
  | constant (literal : Nat)
  /-- Selects from the weighted table at a place by the bucket of the owner under a key. -/
  | weighted (key salt : String) (table : Nat)
  /-- Selects from the uniform table at a place by the bucket of the owner under a key. -/
  | uniform (key salt : String) (table : Nat)

/-- A tree of rules over a pool. -/
inductive Step where
  /-- Tries guarded sources in order. -/
  | arms (l : List (Guard × Source))
  /-- Goes on with the step for the value of a property. The keys of the table are in lower case. -/
  | dispatch (property : String) (table : List (String × Step)) (fallback : Step)

end Program

/-- A rule set over a pool. -/
structure Program where
  pool : Pool
  body : Program.Step
  /-- The place of the default. -/
  default? : Option Nat

namespace Program

/-! ## Running -/

variable (settings : Settings) (lookup : Lookup) (pool : Pool)

mutual

/-- Whether a test holds of a subject. -/
def Test.run (subject : Option Value) : Test → Inquiry Bool
  | .compare op literal comparer =>
    .ofExcept (compareWith settings.registry comparer op (pool.literalAt literal) subject)
  | .oneOf literals comparer =>
    .ofExcept (isOneOf settings.registry comparer (pool.arrayAt literals) subject)
  | .contains literal comparer =>
    .ofExcept (containsValue settings.registry comparer (pool.literalAt literal) subject)
  | .startsWith text => pure (startsWithText subject (pool.textAt text))
  | .endsWith text => pure (endsWithText subject (pool.textAt text))
  | .within window => do
    let now ← .ask lookup clockKey
    .ofExcept (isWithin subject now window)
  | .all items => Test.runAll subject items
  | .any items => Test.runAny subject items
  | .not item => do return !(← Test.run subject item)

/-- Whether all tests hold. The first that does not ends the run. -/
def Test.runAll (subject : Option Value) : List Test → Inquiry Bool
  | [] => pure true
  | t :: rest => do
    if ← Test.run subject t then Test.runAll subject rest else return false

/-- Whether some test holds. The first that does ends the run. -/
def Test.runAny (subject : Option Value) : List Test → Inquiry Bool
  | [] => pure false
  | t :: rest => do
    if ← Test.run subject t then return true else Test.runAny subject rest

end

mutual

/-- Whether a guard accepts the context. -/
def Guard.run : Guard → Inquiry Bool
  | .fetch property test => do
    let subject ← .ask lookup property
    test.run settings lookup pool subject
  | .all items => Guard.runAll items
  | .any items => Guard.runAny items
  | .not item => do return !(← Guard.run item)

/-- Whether all guards accept the context. The first that does not ends the run. -/
def Guard.runAll : List Guard → Inquiry Bool
  | [] => pure true
  | g :: rest => do
    if ← Guard.run g then Guard.runAll rest else return false

/-- Whether some guard accepts the context. The first that does ends the run. -/
def Guard.runAny : List Guard → Inquiry Bool
  | [] => pure false
  | g :: rest => do
    if ← Guard.run g then return true else Guard.runAny rest

end

/-- The bucket of the owner under a key, if there is one. -/
def bucketUnder (key salt : String) : Inquiry (Option UInt64) := do
  let id ← .ask lookup key
  return id.bind (ownerBucket settings.hasher salt)

/-- The value that a source yields. -/
def Source.run : Source → Inquiry (Option Value)
  | .constant literal => pure (some (pool.literalAt literal))
  | .weighted key salt table => do
    return (← bucketUnder settings lookup key salt).bind (selectWeighted (pool.weightedAt table))
  | .uniform key salt table => do
    return (← bucketUnder settings lookup key salt).bind (selectUniform (pool.uniformAt table))

/-- The value of the first arm that is open and yields one. -/
def runArms : List (Guard × Source) → Inquiry (Option Value)
  | [] => pure none
  | (guard, source) :: rest => do
    if ← guard.run settings lookup pool then
      match ← source.run settings lookup pool with
      | some v => return some v
      | none => runArms rest
    else runArms rest

mutual

/-- The value that a step yields. -/
def Step.run : Step → Inquiry (Option Value)
  | .arms l => runArms settings lookup pool l
  | .dispatch property table fallback => do
    let value ← .ask lookup property
    match value.bind Value.partitionKey? with
    | none => Step.run fallback
    | some key => (Step.runEntry? key table).getD (Step.run fallback)

/-- What the entry of a table with the given key yields, if there is one. -/
def Step.runEntry? (key : String) : List (String × Step) → Option (Inquiry (Option Value))
  | [] => none
  | (k, step) :: rest => if k = key then some (Step.run step) else Step.runEntry? key rest

end

/-- The value that a program yields, or else its default. -/
def run (p : Program) : Inquiry (Option Value) := do
  return (← p.body.run settings lookup p.pool) <|> p.default?.map p.pool.literalAt

end Program

/-! ## Listing -/

/-- How a program is listed. -/
def Program.listing (p : Program) : String :=
  "CompiledEvaluator \x7b pool: " ++ p.pool.listing ++ ", .. \x7d"

end Rollout
