import Rollout.Inquiry
import Rollout.RuleSet.Check
import Rollout.Settings
import Rollout.Subject

/-!
# Evaluation

The meaning of rule sets: what a context gets from a rule set under given settings, and which keys
the context is asked for on the way. Conjunctions and disjunctions stop as soon as they are decided,
and the rules of a list are tried until one of them yields a value.
-/

namespace Rollout

variable (settings : Settings) (lookup : Lookup)

mutual

/-- Whether a condition holds of a subject. A recency test asks for the time whenever it is reached. -/
def Condition.eval (subject : Option Value) : Condition → Inquiry Bool
  | .compare op literal comparer =>
    .ofExcept (compareWith settings.registry comparer op literal subject)
  | .oneOf literals comparer =>
    .ofExcept (isOneOf settings.registry comparer literals subject)
  | .contains literal comparer =>
    .ofExcept (containsValue settings.registry comparer literal subject)
  | .startsWith text => pure (startsWithText subject text)
  | .endsWith text => pure (endsWithText subject text)
  | .within window => do
    let now ← .ask lookup clockKey
    .ofExcept (isWithin subject now window)
  | .all items => Condition.evalAll subject items
  | .any items => Condition.evalAny subject items
  | .not item => do return !(← Condition.eval subject item)

/-- Whether all conditions hold. The first that does not ends the test. -/
def Condition.evalAll (subject : Option Value) : List Condition → Inquiry Bool
  | [] => pure true
  | c :: rest => do
    if ← Condition.eval subject c then Condition.evalAll subject rest else return false

/-- Whether some condition holds. The first that does ends the test. -/
def Condition.evalAny (subject : Option Value) : List Condition → Inquiry Bool
  | [] => pure false
  | c :: rest => do
    if ← Condition.eval subject c then return true else Condition.evalAny subject rest

end

mutual

/-- Whether a matcher accepts the context. -/
def Matcher.eval : Matcher → Inquiry Bool
  | .property name condition => do
    let subject ← .ask lookup name
    condition.eval settings lookup subject
  | .all items => Matcher.evalAll items
  | .any items => Matcher.evalAny items
  | .not item => do return !(← Matcher.eval item)

/-- Whether all matchers accept the context. The first that does not ends the test. -/
def Matcher.evalAll : List Matcher → Inquiry Bool
  | [] => pure true
  | m :: rest => do
    if ← Matcher.eval m then Matcher.evalAll rest else return false

/-- Whether some matcher accepts the context. The first that does ends the test. -/
def Matcher.evalAny : List Matcher → Inquiry Bool
  | [] => pure false
  | m :: rest => do
    if ← Matcher.eval m then return true else Matcher.evalAny rest

end

/-- The bucket of the owner in the context, if it has one. -/
def bucketOf (owner salt : String) : Inquiry (Option UInt64) := do
  let id ← .ask lookup (ownerKey owner)
  return id.bind (ownerBucket settings.hasher salt)

/-- The value that a distribution yields. A bucketed one yields nothing without an owner or from a
table without weight. -/
def Distribution.eval : Distribution → Inquiry (Option Value)
  | .single value => pure (some value)
  | .weighted owner salt table => do
    return (← bucketOf settings lookup owner salt).bind (selectWeighted table)
  | .uniform owner salt values => do
    return (← bucketOf settings lookup owner salt).bind (selectUniform values)

/-- The value of the first rule that applies and yields one. -/
def evalRules : List Rule → Inquiry (Option Value)
  | [] => pure none
  | r :: rest => do
    if ← r.matcher.eval settings lookup then
      match ← r.value.eval settings lookup with
      | some v => return some v
      | none => evalRules rest
    else evalRules rest

mutual

/-- The value that a tree yields. In a partition the branch is chosen once: what it does not yield,
the fallback does not either. -/
def RuleTree.eval : RuleTree → Inquiry (Option Value)
  | .list rules => evalRules settings lookup rules
  | .partition property branches fallback => do
    let value ← .ask lookup property
    match value.bind Value.partitionKey? with
    | none => RuleTree.eval fallback
    | some key => (RuleTree.evalBranch? key branches).getD (RuleTree.eval fallback)

/-- What the branch with the given key yields, if there is one. -/
def RuleTree.evalBranch? (key : String) :
    List (String × RuleTree) → Option (Inquiry (Option Value))
  | [] => none
  | (k, branch) :: rest =>
    if Text.lowerCase k = key then some (RuleTree.eval branch) else RuleTree.evalBranch? key rest

end

/-- The value that a rule set yields, or else its default. -/
def RuleSet.eval (s : RuleSet) : Inquiry (Option Value) := do
  return (← s.rules.eval settings lookup) <|> s.default?

end Rollout
