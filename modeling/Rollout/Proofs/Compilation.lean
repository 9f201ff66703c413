import Rollout.Engine
import Rollout.Proofs.Evaluation
import Rollout.Proofs.Pool

/-!
# Programs mean what their rule sets mean

A part of a rule set is compiled while the pool still grows, so its meaning is stated over every
pool that the pool after it grows into. Going up the tree, the last such pool is the finished one:
a program gives the answer of its rule set and asks for the same keys (`RuleSet.run_compile`).
-/

namespace Rollout

variable (settings : Settings) (lookup : Lookup)

/-! ## Lists of instructions -/

namespace Program

variable (pool : Pool)

theorem Test.runAll_eq (subject : Option Value) (items : List Test) :
    Test.runAll settings lookup pool subject items
      = Inquiry.allOf (Test.run settings lookup pool subject) items := by
  induction items with
  | nil => rfl
  | cons t rest ih => rw [Test.runAll, Inquiry.allOf, ih]

theorem Test.runAny_eq (subject : Option Value) (items : List Test) :
    Test.runAny settings lookup pool subject items
      = Inquiry.anyOf (Test.run settings lookup pool subject) items := by
  induction items with
  | nil => rfl
  | cons t rest ih => rw [Test.runAny, Inquiry.anyOf, ih]

theorem Guard.runAll_eq (items : List Guard) :
    Guard.runAll settings lookup pool items
      = Inquiry.allOf (Guard.run settings lookup pool) items := by
  induction items with
  | nil => rfl
  | cons g rest ih => rw [Guard.runAll, Inquiry.allOf, ih]

theorem Guard.runAny_eq (items : List Guard) :
    Guard.runAny settings lookup pool items
      = Inquiry.anyOf (Guard.run settings lookup pool) items := by
  induction items with
  | nil => rfl
  | cons g rest ih => rw [Guard.runAny, Inquiry.anyOf, ih]

end Program

theorem Condition.compileAll_eq (pool : Pool) (items : List Condition) :
    Condition.compileAll pool items = Pool.emitAll Condition.compile pool items := by
  induction items generalizing pool with
  | nil => rfl
  | cons c rest ih => simp only [Condition.compileAll, Pool.emitAll, ih]

theorem Matcher.compileAll_eq (pool : Pool) (items : List Matcher) :
    Matcher.compileAll pool items = Pool.emitAll Matcher.compile pool items := by
  induction items generalizing pool with
  | nil => rfl
  | cons m rest ih => simp only [Matcher.compileAll, Pool.emitAll, ih]

/-! ## Conditions -/

/-- A test over a pool decides every subject as a condition does. -/
def Condition.MeantBy (c : Condition) (pool : Pool) (t : Program.Test) : Prop :=
  ∀ subject, t.run settings lookup pool subject = c.eval settings lookup subject

theorem Condition.emits_compile (c : Condition) :
    Pool.Emits (c.MeantBy settings lookup) (Condition.compile · c) := by
  induction c with
  | compare op literal comparer =>
    refine (Pool.emits_literal literal).map (Program.Test.compare op · comparer) ?_
    intro pool i hi subject
    rw [Program.Test.run, Condition.eval, hi]
  | oneOf literals comparer =>
    refine (Pool.emits_literal (.array literals)).map (Program.Test.oneOf · comparer) ?_
    intro pool i hi subject
    rw [Program.Test.run, Condition.eval, Pool.arrayAt, hi]
  | contains literal comparer =>
    refine (Pool.emits_literal literal).map (Program.Test.contains · comparer) ?_
    intro pool i hi subject
    rw [Program.Test.run, Condition.eval, hi]
  | startsWith text =>
    refine (Pool.emits_literal (.string text)).map Program.Test.startsWith ?_
    intro pool i hi subject
    rw [Program.Test.run, Condition.eval, Pool.textAt, hi]
  | endsWith text =>
    refine (Pool.emits_literal (.string text)).map Program.Test.endsWith ?_
    intro pool i hi subject
    rw [Program.Test.run, Condition.eval, Pool.textAt, hi]
  | within window =>
    refine .const fun pool subject => ?_
    rw [Program.Test.run, Condition.eval]
  | all items ih =>
    simp only [Condition.compile, Condition.compileAll_eq]
    refine (Pool.Emits.all ih).map Program.Test.all ?_
    intro pool tests htests subject
    rw [Program.Test.run, Condition.eval, Program.Test.runAll_eq, Condition.evalAll_eq]
    exact Inquiry.allOf_congr (htests.imp fun _ _ h => h subject)
  | any items ih =>
    simp only [Condition.compile, Condition.compileAll_eq]
    refine (Pool.Emits.all ih).map Program.Test.any ?_
    intro pool tests htests subject
    rw [Program.Test.run, Condition.eval, Program.Test.runAny_eq, Condition.evalAny_eq]
    exact Inquiry.anyOf_congr (htests.imp fun _ _ h => h subject)
  | not item ih =>
    refine ih.map Program.Test.not ?_
    intro pool test htest subject
    rw [Program.Test.run, Condition.eval, htest]

/-! ## Matchers -/

/-- A guard over a pool accepts the context as a matcher does. -/
def Matcher.MeantBy (m : Matcher) (pool : Pool) (g : Program.Guard) : Prop :=
  g.run settings lookup pool = m.eval settings lookup

theorem Matcher.emits_compile (m : Matcher) :
    Pool.Emits (m.MeantBy settings lookup) (Matcher.compile · m) := by
  induction m with
  | property name condition =>
    refine (condition.emits_compile settings lookup).map (Program.Guard.fetch name) ?_
    intro pool test htest
    rw [MeantBy, Program.Guard.run, Matcher.eval]
    exact bind_congr htest
  | all items ih =>
    simp only [Matcher.compile, Matcher.compileAll_eq]
    refine (Pool.Emits.all ih).map Program.Guard.all ?_
    intro pool guards hguards
    rw [MeantBy, Program.Guard.run, Matcher.eval, Program.Guard.runAll_eq, Matcher.evalAll_eq]
    exact Inquiry.allOf_congr hguards
  | any items ih =>
    simp only [Matcher.compile, Matcher.compileAll_eq]
    refine (Pool.Emits.all ih).map Program.Guard.any ?_
    intro pool guards hguards
    rw [MeantBy, Program.Guard.run, Matcher.eval, Program.Guard.runAny_eq, Matcher.evalAny_eq]
    exact Inquiry.anyOf_congr hguards
  | not item ih =>
    refine ih.map Program.Guard.not ?_
    intro pool guard hguard
    rw [MeantBy, Program.Guard.run, Matcher.eval, hguard]

/-! ## Rules -/

/-- A source over a pool yields the value of a distribution. -/
def Distribution.MeantBy (d : Distribution) (pool : Pool) (s : Program.Source) : Prop :=
  s.run settings lookup pool = d.eval settings lookup

theorem Distribution.emits_compile (d : Distribution) :
    Pool.Emits (d.MeantBy settings lookup) (Distribution.compile · d) := by
  cases d with
  | single value =>
    refine (Pool.emits_literal value).map Program.Source.constant ?_
    intro pool i hi
    rw [MeantBy, Program.Source.run, Distribution.eval, hi]
  | weighted owner salt table =>
    refine (Pool.emits_weightedTable table).map (Program.Source.weighted (ownerKey owner) salt) ?_
    intro pool i hi
    rw [MeantBy, Program.Source.run, Distribution.eval, hi]
    rfl
  | uniform owner salt values =>
    refine (Pool.emits_uniformTable values).map (Program.Source.uniform (ownerKey owner) salt) ?_
    intro pool i hi
    rw [MeantBy, Program.Source.run, Distribution.eval, hi]
    rfl

/-- Compiles a rule to an arm. -/
def Rule.compile (pool : Pool) (r : Rule) : (Program.Guard × Program.Source) × Pool :=
  let (guard, pool) := r.matcher.compile pool
  let (source, pool) := r.value.compile pool
  ((guard, source), pool)

/-- The value that a single arm yields. -/
def Program.runArm (pool : Pool) (arm : Program.Guard × Program.Source) :
    Inquiry (Option Value) := do
  if ← arm.1.run settings lookup pool then arm.2.run settings lookup pool else return none

theorem compileRules_eq (pool : Pool) (rules : List Rule) :
    compileRules pool rules = Pool.emitAll Rule.compile pool rules := by
  induction rules generalizing pool with
  | nil => rfl
  | cons r rest ih => simp only [compileRules, Pool.emitAll, Rule.compile, ih]

theorem Program.runArms_eq (pool : Pool) (arms : List (Program.Guard × Program.Source)) :
    Program.runArms settings lookup pool arms
      = Inquiry.firstOf (Program.runArm settings lookup pool) arms := by
  induction arms with
  | nil => rfl
  | cons arm rest ih =>
    rw [Program.runArms, Inquiry.firstOf, ih, Program.runArm, bind_assoc]
    refine bind_congr fun accepted => ?_
    cases accepted with
    | false => rfl
    | true =>
      simp only [if_true]
      refine bind_congr fun value => ?_
      cases value <;> rfl

/-- An arm over a pool yields what a rule yields. -/
def Rule.MeantBy (r : Rule) (pool : Pool) (arm : Program.Guard × Program.Source) : Prop :=
  Program.runArm settings lookup pool arm = r.eval settings lookup

theorem Rule.emits_compile (r : Rule) :
    Pool.Emits (r.MeantBy settings lookup) (Rule.compile · r) := by
  refine (r.matcher.emits_compile settings lookup).seq (r.value.emits_compile settings lookup)
    Prod.mk ?_
  intro pool guard source hguard hsource
  rw [Matcher.MeantBy] at hguard
  rw [Distribution.MeantBy] at hsource
  rw [MeantBy, Program.runArm, Rule.eval, hguard, hsource]

theorem emits_compileRules (rules : List Rule) :
    Pool.Emits
      (fun pool arms => Program.runArms settings lookup pool arms = evalRules settings lookup rules)
      (compileRules · rules) := by
  simp only [compileRules_eq]
  refine (Pool.Emits.all fun r _ => r.emits_compile settings lookup).map id ?_
  intro pool arms harms
  rw [id, Program.runArms_eq, evalRules_eq]
  exact Inquiry.firstOf_congr harms

/-! ## Trees -/

/-- A step over a pool yields what a tree yields. -/
def RuleTree.MeantBy (t : RuleTree) (pool : Pool) (s : Program.Step) : Prop :=
  s.run settings lookup pool = t.eval settings lookup

/-- Compiles a branch to an entry of a table. -/
def RuleTree.compileBranch (pool : Pool) (b : String × RuleTree) :
    (String × Program.Step) × Pool :=
  let (step, pool) := b.2.compile pool
  ((Text.lowerCase b.1, step), pool)

theorem RuleTree.compileBranches_eq (pool : Pool) (branches : List (String × RuleTree)) :
    RuleTree.compileBranches pool branches
      = Pool.emitAll RuleTree.compileBranch pool branches := by
  induction branches generalizing pool with
  | nil => rfl
  | cons b rest ih =>
    obtain ⟨key, branch⟩ := b
    simp only [RuleTree.compileBranches, Pool.emitAll, RuleTree.compileBranch, ih]

/-- An entry of a table stands for a branch: its key is that of the branch in lower case. -/
def RuleTree.EntryFor (b : String × RuleTree) (pool : Pool) (entry : String × Program.Step) :
    Prop :=
  entry.1 = Text.lowerCase b.1 ∧ b.2.MeantBy settings lookup pool entry.2

/-- Looking a key up in the table finds the step of the branch for that key. -/
theorem RuleTree.runEntry?_eq {pool : Pool} {branches : List (String × RuleTree)}
    {table : List (String × Program.Step)}
    (h : List.Forall₂ (fun b entry => EntryFor settings lookup b pool entry) branches table)
    (key : String) :
    Program.Step.runEntry? settings lookup pool key table
      = RuleTree.evalBranch? settings lookup key branches := by
  induction h with
  | nil => rfl
  | @cons b entry branches table hentry _ ih =>
    obtain ⟨k, branch⟩ := b
    obtain ⟨k', step⟩ := entry
    obtain ⟨hkey, hstep⟩ := hentry
    rw [MeantBy] at hstep
    rw [Program.Step.runEntry?, RuleTree.evalBranch?, ih, hstep,
      show k' = Text.lowerCase k from hkey]

theorem RuleTree.emits_compile (t : RuleTree) :
    Pool.Emits (t.MeantBy settings lookup) (RuleTree.compile · t) := by
  induction t with
  | list rules =>
    refine (emits_compileRules settings lookup rules).map Program.Step.arms ?_
    intro pool arms harms
    rw [MeantBy, Program.Step.run, RuleTree.eval, harms]
  | partition property branches fallback ihBranches ihFallback =>
    have htable : ∀ b ∈ branches,
        Pool.Emits (EntryFor settings lookup b) (RuleTree.compileBranch · b) := by
      intro b hb
      refine (ihBranches b hb).map (Prod.mk (Text.lowerCase b.1)) ?_
      exact fun pool step hstep => ⟨rfl, hstep⟩
    simp only [RuleTree.compile, RuleTree.compileBranches_eq]
    refine (Pool.Emits.all htable).seq ihFallback (Program.Step.dispatch property) ?_
    intro pool table step hentries hstep
    rw [MeantBy] at hstep
    rw [MeantBy, Program.Step.run, RuleTree.eval]
    refine bind_congr fun value => ?_
    cases value.bind Value.partitionKey? with
    | none => exact hstep
    | some key => simp only [runEntry?_eq settings lookup hentries, hstep]

/-! ## Rule sets -/

/-- **A program means its rule set**: it gives the same answer or error and asks for the same keys
in the same order. -/
theorem RuleSet.run_compile (s : RuleSet) :
    s.compile.run settings lookup = s.eval settings lookup := by
  have hrules := s.rules.emits_compile settings lookup
  cases hdefault : s.default? with
  | none =>
    have hbody := hrules.holds .empty _ (.refl _)
    rw [RuleTree.MeantBy] at hbody
    simp only [RuleSet.compile, hdefault, Program.run, RuleSet.eval, hbody, Option.map_none]
  | some v =>
    -- the default is interned last, so the body is read over the pool with it
    have hbody := hrules.holds .empty _ ((Pool.emits_literal v).grows _)
    have hi := (Pool.emits_literal v).holds (s.rules.compile .empty).2 _ (.refl _)
    rw [RuleTree.MeantBy] at hbody
    simp only [RuleSet.compile, hdefault, Program.run, RuleSet.eval, Option.map_some]
    rw [hbody, hi]

/-! ## The two engines -/

/-- The two ways of making an evaluator from a rule set. -/
inductive Backend where
  /-- The rule set itself is evaluated. -/
  | direct
  /-- The program compiled from the rule set is run. -/
  | compiled

/-- The evaluator that a backend makes from a rule set, unless the rule set has a fault. -/
def Settings.evaluator : Backend → RuleSet → Except RuleSetError Evaluator
  | .direct, s => settings.interpreter s
  | .compiled, s => settings.runner s

/-- On either backend, a rule set without faults is evaluated by its meaning. -/
theorem Settings.evaluator_of_valid (backend : Backend) {s : RuleSet}
    (valid : s.validate = .ok ()) :
    settings.evaluator backend s = .ok fun lookup => s.eval settings lookup := by
  cases backend with
  | direct => simp only [evaluator, interpreter, valid]; rfl
  | compiled =>
    simp only [evaluator, runner, RuleSet.program, valid]
    show Except.ok (fun lookup => s.compile.run settings lookup) = _
    simp only [RuleSet.run_compile]

/-- On either backend, a rule set with a fault has no evaluator. -/
theorem Settings.evaluator_of_fault (backend : Backend) {s : RuleSet} {fault : RuleSetError}
    (hfault : s.validate = .error fault) : settings.evaluator backend s = .error fault := by
  cases backend with
  | direct => simp only [evaluator, interpreter, hfault]; rfl
  | compiled => simp only [evaluator, runner, RuleSet.program, hfault]; rfl

/-- A backend that makes an evaluator has found no fault. -/
theorem Settings.valid_of_evaluator {backend : Backend} {s : RuleSet} {evaluator : Evaluator}
    (h : settings.evaluator backend s = .ok evaluator) :
    s.validate = .ok () ∧ evaluator = fun lookup => s.eval settings lookup := by
  cases hvalid : s.validate with
  | ok =>
    rw [settings.evaluator_of_valid backend hvalid] at h
    exact ⟨rfl, (Except.ok.inj h).symm⟩
  | error fault =>
    rw [settings.evaluator_of_fault backend hvalid] at h
    exact absurd h nofun

/-- One with one decimal place. -/
def Decimal.shortOne : Decimal := ⟨false, 10, 1, by decide, by decide⟩

/-- One with two decimal places. -/
def Decimal.longOne : Decimal := ⟨false, 100, 2, by decide, by decide⟩

/-- A rule set without faults that has a partition in another, rules with each kind of value, and
one number written with two scales. -/
def RuleSet.sample : RuleSet where
  rules := .partition "country"
    [("IL", .list
      [⟨.all
          [.property "age"
            (.compare .greaterEqual (.number ⟨false, 180, 1, by decide, by decide⟩) none),
          .property "email" (.any [.endsWith "@example.org", .compare .equal .null none])],
        .weighted "user" "exp" [(.string "a", 30), (.string "b", 70)]⟩])]
    (.partition "platform"
      [("ios", .list
        [⟨.property "tags" (.contains (.array [.string "new", .null]) none),
          .single (.number .shortOne)⟩])]
      (.list
        [⟨.any [.property "version" (.compare .less (.string "2.0") (some "version")),
            .not (.property "seen" (.within ⟨3600000000000⟩))],
          .uniform "user" "exp" [.number .longOne, .null]⟩]))
  default? := some (.number ⟨false, 180, 1, by decide, by decide⟩)

/-- **The two engines agree**: of a rule set without faults both make an evaluator, and on every
context the two evaluators give the same answer, verbatim, or the same error, after asking for the
same keys in the same order. -/
theorem runner_agrees_with_interpreter {s : RuleSet} (valid : s.validate = .ok ()) :
    ∃ compiled direct : Evaluator,
      settings.runner s = .ok compiled ∧ settings.interpreter s = .ok direct
        ∧ ∀ lookup, (compiled lookup).answer = (direct lookup).answer
            ∧ (compiled lookup).keys = (direct lookup).keys := by
  have hcompiled := settings.evaluator_of_valid .compiled valid
  have hdirect := settings.evaluator_of_valid .direct valid
  exact ⟨_, _, hcompiled, hdirect, fun _ => ⟨rfl, rfl⟩⟩

theorem runner_agrees_with_interpreter_on_sample :
    RuleSet.sample.validate = .ok ()
      ∧ ∃ compiled direct : Evaluator,
        Settings.standard.runner .sample = .ok compiled
          ∧ Settings.standard.interpreter .sample = .ok direct
          ∧ ∀ lookup, (compiled lookup).answer = (direct lookup).answer
              ∧ (compiled lookup).keys = (direct lookup).keys :=
  ⟨rfl, runner_agrees_with_interpreter _ rfl⟩

end Rollout
