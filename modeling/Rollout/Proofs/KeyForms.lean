import Rollout.Proofs.Assembly
import Rollout.Proofs.Compilation
import Rollout.Proofs.LowerForms

/-!
# The case of branch keys

Wherever a branch key is used it is first put in lower case: when a partition is described, when it
is checked, when it is compiled and when it is evaluated. As lower case is final, it makes no
difference whether the keys of a tree were written in lower case to begin with.
-/

namespace Rollout

mutual

/-- The tree with its branch keys in lower case, at every level. -/
def RuleTree.lowerKeys : RuleTree → RuleTree
  | .list rules => .list rules
  | .partition property branches fallback =>
    .partition property (RuleTree.lowerKeysIn branches) (RuleTree.lowerKeys fallback)

/-- The branches with their keys, and those in them, in lower case. -/
def RuleTree.lowerKeysIn : List (String × RuleTree) → List (String × RuleTree)
  | [] => []
  | (key, branch) :: rest =>
    (Text.lowerCase key, RuleTree.lowerKeys branch) :: RuleTree.lowerKeysIn rest

end

/-- The rule set with its branch keys in lower case, at every level. -/
def RuleSet.lowerKeys (s : RuleSet) : RuleSet :=
  { s with rules := s.rules.lowerKeys }

namespace RuleTree

/-! ## Checking -/

theorem branchKeys_lowerKeysIn (branches : List (String × RuleTree)) :
    branchKeys (lowerKeysIn branches) = branchKeys branches := by
  induction branches with
  | nil => rfl
  | cons b rest ih =>
    obtain ⟨key, branch⟩ := b
    have hkey := Text.lowerCase_lowerCase key
    simp only [branchKeys, lowerKeysIn, List.map_cons, hkey] at ih ⊢
    rw [ih]

theorem checkBranches_lowerKeysIn {branches : List (String × RuleTree)}
    (h : ∀ b ∈ branches, ∀ next, b.2.lowerKeys.check next = b.2.check next) (next : Nat) :
    checkBranches next (lowerKeysIn branches) = checkBranches next branches := by
  induction branches generalizing next with
  | nil => rfl
  | cons b rest ih =>
    obtain ⟨hb, hrest⟩ := List.forall_mem_cons.mp h
    rw [lowerKeysIn, checkBranches, checkBranches, hb]
    exact bind_congr (ih hrest)

/-- The check sees keys in lower case only. -/
theorem check_lowerKeys (t : RuleTree) (next : Nat) : t.lowerKeys.check next = t.check next := by
  induction t generalizing next with
  | list rules => rfl
  | partition property branches fallback ihBranches ihFallback =>
    simp only [lowerKeys, check, branchKeys_lowerKeysIn, checkBranches_lowerKeysIn ihBranches,
      ihFallback]

/-! ## Compiling -/

theorem compileBranches_lowerKeysIn {branches : List (String × RuleTree)}
    (h : ∀ b ∈ branches, ∀ pool, b.2.lowerKeys.compile pool = b.2.compile pool) (pool : Pool) :
    compileBranches pool (lowerKeysIn branches) = compileBranches pool branches := by
  induction branches generalizing pool with
  | nil => rfl
  | cons b rest ih =>
    obtain ⟨hb, hrest⟩ := List.forall_mem_cons.mp h
    simp only [lowerKeysIn, compileBranches, hb, ih hrest, Text.lowerCase_lowerCase]

/-- A program holds keys in lower case only. -/
theorem compile_lowerKeys (t : RuleTree) (pool : Pool) :
    t.lowerKeys.compile pool = t.compile pool := by
  induction t generalizing pool with
  | list rules => rfl
  | partition property branches fallback ihBranches ihFallback =>
    simp only [lowerKeys, compile, compileBranches_lowerKeysIn ihBranches, ihFallback]

end RuleTree

/-! ## Describing -/

mutual

/-- A block that is put together has its keys in lower case. -/
theorem Describes.lowerKeys_tree : ∀ {calls : List BlockCall} {o : Outline}, Describes calls o →
    o.tree.lowerKeys = o.tree
  | _, _, .list _ => rfl
  | _, _, .mixed _ _ => rfl
  | _, _, .partition _ _ inBranches inFallback => by
    rw [Outline.tree, RuleTree.lowerKeys, inBranches.lowerKeysIn_treesIn,
      inFallback.lowerKeys_tree]

/-- So have the branches of a partition. -/
theorem DescribesEach.lowerKeysIn_treesIn : ∀ {blocks : List (String × List BlockCall)}
    {branches : List (String × Outline)}, DescribesEach blocks branches →
    RuleTree.lowerKeysIn (Outline.treesIn branches) = Outline.treesIn branches
  | _, _, .nil => rfl
  | _, _, .cons first others => by
    rw [Outline.treesIn, RuleTree.lowerKeysIn, first.lowerKeys_tree, others.lowerKeysIn_treesIn,
      Text.lowerCase_lowerCase]

end

/-! ## Rule sets -/

namespace RuleSet

theorem validate_lowerKeys (s : RuleSet) : s.lowerKeys.validate = s.validate := by
  rw [validate, validate, lowerKeys, RuleTree.check_lowerKeys]

theorem compile_lowerKeys (s : RuleSet) : s.lowerKeys.compile = s.compile := by
  simp only [compile, lowerKeys, RuleTree.compile_lowerKeys]

/-- What a rule set comes to is what its program comes to, and the program is the same. -/
theorem eval_lowerKeys (s : RuleSet) (settings : Settings) (lookup : Lookup) :
    s.lowerKeys.eval settings lookup = s.eval settings lookup := by
  rw [← run_compile, ← run_compile, compile_lowerKeys]

theorem program_lowerKeys (s : RuleSet) : s.lowerKeys.program = s.program := by
  rw [program, program, validate_lowerKeys, compile_lowerKeys]

theorem evaluator_lowerKeys (s : RuleSet) (settings : Settings) (backend : Backend) :
    settings.evaluator backend s.lowerKeys = settings.evaluator backend s := by
  cases backend with
  | direct =>
    simp only [Settings.evaluator, Settings.interpreter, validate_lowerKeys, eval_lowerKeys]
  | compiled => simp only [Settings.evaluator, Settings.runner, program_lowerKeys]

theorem lowerKeys_ofScript (calls : List ScriptCall) :
    (RuleSet.ofScript calls).map lowerKeys = RuleSet.ofScript calls := by
  obtain ⟨o, h⟩ := exists_describes (calls.filterMap ScriptCall.block?)
  have hkeys : (o.ruleSet calls).lowerKeys = o.ruleSet calls := by
    rw [lowerKeys, Outline.ruleSet, h.lowerKeys_tree]
  rw [h.ofScript_eq]
  cases o.entries.foldlM Entry.place 0 with
  | error fault => rfl
  | ok after =>
    show ((o.ruleSet calls).validate.map fun _ => o.ruleSet calls).map lowerKeys = _
    cases (o.ruleSet calls).validate with
    | error fault => rfl
    | ok => exact congrArg Except.ok hkeys

end RuleSet

/-- What it means that the case of the branch keys of a rule set is of no consequence. -/
structure RuleSet.KeysCaseless (s : RuleSet) : Prop where
  /-- With its keys in lower case the rule set has the same fault, or none either. -/
  validate : s.lowerKeys.validate = s.validate
  /-- Its program is the same, so the pool of it is. -/
  program : s.lowerKeys.program = s.program
  /-- On either backend its evaluator is the same: it comes to the same answer or error in every
  context, after asking for the same keys. -/
  evaluator : ∀ settings backend, Settings.evaluator settings backend s.lowerKeys
    = settings.evaluator backend s

/-- **The case of branch keys does not matter**: a rule set of any shape may have its branch keys
put in lower case, at every level. The keys of a rule set that has been described call by call are in
lower case already. -/
theorem keys_in_lower_case_change_nothing :
    (∀ s : RuleSet, s.KeysCaseless)
      ∧ ∀ calls, (RuleSet.ofScript calls).map RuleSet.lowerKeys = RuleSet.ofScript calls := by
  refine ⟨fun s => ?_, RuleSet.lowerKeys_ofScript⟩
  constructor
  case validate => exact s.validate_lowerKeys
  case program => exact s.program_lowerKeys
  case evaluator => exact s.evaluator_lowerKeys

end Rollout
