import Rollout.Value.Basic

/-!
# Errors of evaluation

What ends the evaluation of a rule set for one context.
-/

namespace Rollout

/-- Why an evaluation failed. -/
inductive EvalError where
  /-- A condition names a comparer that is not registered. -/
  | unknownComparer (name : String)
  /-- A comparer has no key for a text. -/
  | comparerRejected (name input : String)
  /-- A subject is compared with a literal of another kind, or with an array. -/
  | typeMismatch (threshold subject : Kind)
  /-- A recency test finds no time under the key of the clock. -/
  | missingSystemTime (key : String)
deriving DecidableEq

/-- The message of an error. -/
def EvalError.message : EvalError → String
  | unknownComparer name => "comparer '" ++ name ++ "' is not registered"
  | comparerRejected name input => "comparer '" ++ name ++ "' cannot order '" ++ input ++ "'"
  | typeMismatch threshold subject =>
    "cannot compare " ++ subject.name ++ " value against " ++ threshold.name ++ " literal"
  | missingSystemTime key => "time window test needs a valid '" ++ key ++ "' in the context"

end Rollout
