import Rollout.Program.Compile

/-!
# The engine

Under given settings a rule set without faults becomes an evaluator. There are two, one that
evaluates the rule set itself and one that runs the program compiled from it.
-/

namespace Rollout

/-- Tells what a context gets. -/
abbrev Evaluator := Lookup → Inquiry (Option Value)

/-- The evaluator of a rule set itself, unless the rule set has a fault. -/
def Settings.interpreter (settings : Settings) (s : RuleSet) : Except RuleSetError Evaluator := do
  s.validate
  return fun lookup => s.eval settings lookup

/-- The program of a rule set, unless the rule set has a fault. -/
def RuleSet.program (s : RuleSet) : Except RuleSetError Program := do
  s.validate
  return s.compile

/-- The evaluator that runs the program of a rule set, unless the rule set has a fault. -/
def Settings.runner (settings : Settings) (s : RuleSet) : Except RuleSetError Evaluator := do
  let p ← s.program
  return fun lookup => p.run settings lookup

end Rollout
