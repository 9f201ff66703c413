import Rollout.Proofs.Faults
import Rollout.RuleSet.Script

/-!
# What a description comes to

Later calls of a description replace earlier ones: of several partitions of a block, fallbacks of a
partition, values of a rule and defaults the last one counts. What is left is the outline of the
description, and putting a block together is a walk of its outline that refuses the first block with
rules and a partition, and the first rule without a value. The walk numbers the rules as the check
of the finished tree does.
-/

namespace Rollout

/-! ## Calls -/

/-- The matcher that a call adds. -/
def RuleCall.matcher? : RuleCall → Option Matcher
  | .when m => some m
  | .value _ => none

/-- The value that a call sets. -/
def RuleCall.value? : RuleCall → Option Distribution
  | .when _ => none
  | .value d => some d

/-- The calls of the rule that a call adds. -/
def BlockCall.rule? : BlockCall → Option (List RuleCall)
  | .rule calls => some calls
  | .partition _ _ => none

/-- The property and the calls of the partition that a call sets. -/
def BlockCall.partition? : BlockCall → Option (String × List PartitionCall)
  | .rule _ => none
  | .partition property calls => some (property, calls)

/-- The key and the calls of the branch that a call adds. -/
def PartitionCall.branch? : PartitionCall → Option (String × List BlockCall)
  | .branch key calls => some (key, calls)
  | .fallback _ => none

/-- The calls of the fallback that a call sets. -/
def PartitionCall.fallback? : PartitionCall → Option (List BlockCall)
  | .branch _ _ => none
  | .fallback calls => some calls

/-- The call for the block at the root that a call is. -/
def ScriptCall.block? : ScriptCall → Option BlockCall
  | .block call => some call
  | .default _ => none

/-- The default that a call sets. -/
def ScriptCall.default? : ScriptCall → Option Value
  | .block _ => none
  | .default v => some v

/-- The rule that calls describe: all their matchers in order, and the last value, if there is
one. -/
def ruleOf? (calls : List RuleCall) : Option Rule :=
  (calls.filterMap RuleCall.value?).getLast?.map fun value =>
    ⟨.all (calls.filterMap RuleCall.matcher?), value⟩

/-! ## Outlines -/

/-- What the calls of a block describe, without what later calls replace. -/
inductive Outline where
  /-- Rules, each with the calls that describe it. -/
  | list (rules : List (List RuleCall))
  /-- Rules and a partition side by side. -/
  | mixed
  | partition (property : String) (branches : List (String × Outline)) (fallback : Outline)

mutual

/-- Calls describe the outline of a block. The last partition counts, and in it the last fallback; a
partition without one has an empty block instead. -/
inductive Describes : List BlockCall → Outline → Prop
  | list {calls : List BlockCall} (single : calls.filterMap BlockCall.partition? = []) :
      Describes calls (.list (calls.filterMap BlockCall.rule?))
  | mixed {calls : List BlockCall} (rules : calls.filterMap BlockCall.rule? ≠ [])
      (partitions : calls.filterMap BlockCall.partition? ≠ []) : Describes calls .mixed
  | partition {calls : List BlockCall} {property : String} {inner : List PartitionCall}
      {branches : List (String × Outline)} {fallback : Outline}
      (single : calls.filterMap BlockCall.rule? = [])
      (last : (calls.filterMap BlockCall.partition?).getLast? = some (property, inner))
      (inBranches : DescribesEach (inner.filterMap PartitionCall.branch?) branches)
      (inFallback :
        Describes ((inner.filterMap PartitionCall.fallback?).getLast?.getD []) fallback) :
      Describes calls (.partition property branches fallback)

/-- Calls describe branches one by one, under their keys in lower case. -/
inductive DescribesEach : List (String × List BlockCall) → List (String × Outline) → Prop
  | nil : DescribesEach [] []
  | cons {key : String} {calls : List BlockCall} {branch : Outline}
      {rest : List (String × List BlockCall)} {branches : List (String × Outline)}
      (first : Describes calls branch) (others : DescribesEach rest branches) :
      DescribesEach ((key, calls) :: rest) ((Text.lowerCase key, branch) :: branches)

end

/-- What a walk of an outline stops at. -/
inductive Entry where
  /-- A block with rules and a partition. -/
  | mixed
  /-- A rule with the calls that describe it. -/
  | rule (calls : List RuleCall)

namespace Entry

/-- The calls of the rule that an entry is, if it is one. -/
def rule? : Entry → Option (List RuleCall)
  | mixed => none
  | rule calls => some calls

/-- An entry that comes after `index` rules is refused. -/
inductive Fault (index : Nat) : Entry → RuleSetError → Prop
  | mixed : Fault index .mixed .mixedRules
  | valueless {calls : List RuleCall} (unset : calls.filterMap RuleCall.value? = []) :
      Fault index (.rule calls) (.missingValue index)

/-- Puts an entry that comes after `index` rules in its place. -/
def place (index : Nat) : Entry → Except RuleSetError Nat
  | mixed => .error .mixedRules
  | rule calls =>
    match (calls.filterMap RuleCall.value?).getLast? with
    | none => .error (.missingValue index)
    | some _ => .ok (index + 1)

end Entry

namespace Outline

mutual

/-- The rules and the mixed blocks of an outline in the order of a walk: the branches of a partition
in order, then its fallback. -/
def entries : Outline → List Entry
  | list rules => rules.map .rule
  | mixed => [.mixed]
  | partition _ branches fallback => entriesIn branches ++ entries fallback

/-- The rules and the mixed blocks in the branches of a partition. -/
def entriesIn : List (String × Outline) → List Entry
  | [] => []
  | (_, branch) :: rest => entries branch ++ entriesIn rest

end

/-- The rules of an outline in the order of a walk, each with the calls that describe it. -/
def rules (o : Outline) : List (List RuleCall) :=
  o.entries.filterMap Entry.rule?

mutual

/-- The tree of an outline. Rules without a value and mixed blocks, which are refused, leave nothing
in it. -/
def tree : Outline → RuleTree
  | list rules => .list (rules.filterMap ruleOf?)
  | mixed => .empty
  | partition property branches fallback => .partition property (treesIn branches) (tree fallback)

/-- The trees of the branches of a partition under their keys. -/
def treesIn : List (String × Outline) → List (String × RuleTree)
  | [] => []
  | (key, branch) :: rest => (key, tree branch) :: treesIn rest

end

end Outline

/-! ## An outline for every description -/

section Sizes

variable {calls : List BlockCall} {inner : List PartitionCall}

theorem sizeOf_lt_of_partition {property : String}
    (h : (property, inner) ∈ calls.filterMap BlockCall.partition?) :
    sizeOf inner < sizeOf calls := by
  obtain ⟨call, hmem, hcall⟩ := List.mem_filterMap.mp h
  have hlt := List.sizeOf_lt_of_mem hmem
  cases call with
  | rule calls => exact absurd hcall nofun
  | partition property calls =>
    cases hcall
    rw [BlockCall.partition.sizeOf_spec] at hlt
    omega

theorem sizeOf_lt_of_branch {branch : String × List BlockCall}
    (h : branch ∈ inner.filterMap PartitionCall.branch?) : sizeOf branch.2 < sizeOf inner := by
  obtain ⟨call, hmem, hcall⟩ := List.mem_filterMap.mp h
  have hlt := List.sizeOf_lt_of_mem hmem
  cases call with
  | branch key calls =>
    cases hcall
    rw [PartitionCall.branch.sizeOf_spec] at hlt
    show sizeOf calls < _
    omega
  | fallback calls => exact absurd hcall nofun

theorem sizeOf_lt_of_fallback (h : calls ∈ inner.filterMap PartitionCall.fallback?) :
    sizeOf calls < sizeOf inner := by
  obtain ⟨call, hmem, hcall⟩ := List.mem_filterMap.mp h
  have hlt := List.sizeOf_lt_of_mem hmem
  cases call with
  | branch key calls => exact absurd hcall nofun
  | fallback calls =>
    cases hcall
    rw [PartitionCall.fallback.sizeOf_spec] at hlt
    omega

end Sizes

theorem exists_describesEach {blocks : List (String × List BlockCall)}
    (h : ∀ b ∈ blocks, ∃ o, Describes b.2 o) : ∃ branches, DescribesEach blocks branches := by
  induction blocks with
  | nil => exact ⟨[], .nil⟩
  | cons b rest ih =>
    obtain ⟨branch, hbranch⟩ := h b List.mem_cons_self
    obtain ⟨branches, hrest⟩ := ih fun c hc => h c (List.mem_cons_of_mem _ hc)
    exact ⟨_, .cons hbranch hrest⟩

/-- Every block has an outline. -/
theorem exists_describes (calls : List BlockCall) : ∃ o, Describes calls o := by
  cases hlast : (calls.filterMap BlockCall.partition?).getLast? with
  | none => exact ⟨_, .list (List.getLast?_eq_none_iff.mp hlast)⟩
  | some p =>
    obtain ⟨property, inner⟩ := p
    have hmem := List.mem_of_getLast? hlast
    by_cases single : calls.filterMap BlockCall.rule? = []
    · have hinner := sizeOf_lt_of_partition hmem
      have hbranches : ∃ branches,
          DescribesEach (inner.filterMap PartitionCall.branch?) branches := by
        refine exists_describesEach fun b hb => ?_
        have := sizeOf_lt_of_branch hb
        exact exists_describes b.2
      have hfallback : ∃ o,
          Describes ((inner.filterMap PartitionCall.fallback?).getLast?.getD []) o := by
        cases hf : (inner.filterMap PartitionCall.fallback?).getLast? with
        | none => exact ⟨_, .list rfl⟩
        | some block =>
          have := sizeOf_lt_of_fallback (List.mem_of_getLast? hf)
          exact exists_describes block
      obtain ⟨branches, hbranches⟩ := hbranches
      obtain ⟨fallback, hfallback⟩ := hfallback
      exact ⟨_, .partition single hlast hbranches hfallback⟩
    · exact ⟨.mixed, .mixed single (List.ne_nil_of_mem hmem)⟩
termination_by sizeOf calls

mutual

/-- A block has no more than one outline. -/
theorem Describes.unique : ∀ {calls : List BlockCall} {o o' : Outline},
    Describes calls o → Describes calls o' → o' = o
  | _, _, _, .list single, h' => by
    cases h' with
    | list => rfl
    | mixed _ partitions => exact absurd single partitions
    | partition _ last => simp [single] at last
  | _, _, _, .mixed rules partitions, h' => by
    cases h' with
    | list single => exact absurd single partitions
    | mixed => rfl
    | partition single => exact absurd single rules
  | _, _, _, .partition single last inBranches inFallback, h' => by
    cases h' with
    | list none => simp [none] at last
    | mixed rules => exact absurd single rules
    | partition _ last' inBranches' inFallback' =>
      cases last.symm.trans last'
      rw [inBranches.unique inBranches', inFallback.unique inFallback']

theorem DescribesEach.unique : ∀ {blocks : List (String × List BlockCall)}
    {branches branches' : List (String × Outline)},
    DescribesEach blocks branches → DescribesEach blocks branches' → branches' = branches
  | _, _, _, .nil, .nil => rfl
  | _, _, _, .cons first others, .cons first' others' => by
    rw [first.unique first', others.unique others']

end

/-! ## Which calls count -/

theorem ruleMatchers_eq (calls : List RuleCall) :
    ruleMatchers calls = calls.filterMap RuleCall.matcher? := by
  induction calls with
  | nil => rfl
  | cons call rest ih =>
    cases call with
    | when m => exact congrArg (m :: ·) ih
    | value d => exact ih

theorem blockRules_eq (calls : List BlockCall) :
    blockRules calls = calls.filterMap BlockCall.rule? := by
  induction calls with
  | nil => rfl
  | cons call rest ih =>
    cases call with
    | rule calls => exact congrArg (calls :: ·) ih
    | partition property calls => exact ih

theorem rootCalls_eq (calls : List ScriptCall) :
    rootCalls calls = calls.filterMap ScriptCall.block? := by
  induction calls with
  | nil => rfl
  | cons call rest ih =>
    cases call with
    | block call => exact congrArg (call :: ·) ih
    | default v => exact ih

/-- The last of a list is the last of those after the first, if there is one, or else the first. -/
theorem getLast?_filterMap_cons {α β : Type} (f : α → Option β) (a : α) (l : List α) :
    ((a :: l).filterMap f).getLast? = ((l.filterMap f).getLast? <|> f a) := by
  cases h : f a with
  | none => simp [List.filterMap_cons_none h]
  | some b =>
    rw [List.filterMap_cons_some h, List.getLast?_cons]
    cases (l.filterMap f).getLast? <;> rfl

theorem ruleValue?_eq (calls : List RuleCall) :
    ruleValue? calls = (calls.filterMap RuleCall.value?).getLast? := by
  induction calls with
  | nil => rfl
  | cons call rest ih =>
    rw [getLast?_filterMap_cons, ← ih]
    cases call with
    | when m => simp [ruleValue?, RuleCall.value?]
    | value d => rfl

theorem lastDefault?_eq (calls : List ScriptCall) :
    lastDefault? calls = (calls.filterMap ScriptCall.default?).getLast? := by
  induction calls with
  | nil => rfl
  | cons call rest ih =>
    rw [getLast?_filterMap_cons, ← ih]
    cases call with
    | block call => simp [lastDefault?, ScriptCall.default?]
    | default v => rfl

theorem lastFallback?_eq (next : Nat) (calls : List PartitionCall) :
    lastFallback? next calls
      = (calls.filterMap PartitionCall.fallback?).getLast?.map (assembleBlock next) := by
  induction calls with
  | nil => rw [lastFallback?]; rfl
  | cons call rest ih =>
    rw [getLast?_filterMap_cons]
    cases call with
    | branch key calls => simp [lastFallback?, PartitionCall.fallback?, ih]
    | fallback calls =>
      rw [lastFallback?, ih]
      cases (rest.filterMap PartitionCall.fallback?).getLast? <;> rfl

/-- Puts branches together, each from its key and its calls. -/
def assembleEach (next : Nat) :
    List (String × List BlockCall) → Except RuleSetError (List (String × RuleTree) × Nat)
  | [] => .ok ([], next)
  | (key, calls) :: rest => do
    let (tree, next) ← assembleBlock next calls
    let (branches, next) ← assembleEach next rest
    return ((Text.lowerCase key, tree) :: branches, next)

theorem assembleBranches_eq (next : Nat) (calls : List PartitionCall) :
    assembleBranches next calls
      = assembleEach next (calls.filterMap PartitionCall.branch?) := by
  induction calls generalizing next with
  | nil => rw [assembleBranches]; rfl
  | cons call rest ih =>
    cases call with
    | branch key calls =>
      simp only [assembleBranches, List.filterMap_cons, PartitionCall.branch?, assembleEach,
        assembleBlock, ih]
    | fallback calls =>
      rw [assembleBranches]
      exact ih next

/-- Puts a partition together: its branches in order, then its last fallback. -/
def assemblePartition (next : Nat) (property : String) (calls : List PartitionCall) :
    Assembled := do
  let (branches, next) ← assembleEach next (calls.filterMap PartitionCall.branch?)
  let (fallback, next) ←
    assembleBlock next ((calls.filterMap PartitionCall.fallback?).getLast?.getD [])
  return (.partition property branches fallback, next)

theorem assembleBlock_nil (next : Nat) : assembleBlock next [] = .ok (.empty, next) := by
  rw [assembleBlock, lastPartition?]
  rfl

theorem lastPartition?_eq (next : Nat) (calls : List BlockCall) :
    lastPartition? next calls = (calls.filterMap BlockCall.partition?).getLast?.map
      fun p => assemblePartition next p.1 p.2 := by
  induction calls with
  | nil => rw [lastPartition?]; rfl
  | cons call rest ih =>
    rw [getLast?_filterMap_cons]
    cases call with
    | rule calls => simp [lastPartition?, BlockCall.partition?, ih]
    | partition property calls =>
      have hfallback (next : Nat) : (lastFallback? next calls).getD (.ok (.empty, next))
          = assembleBlock next ((calls.filterMap PartitionCall.fallback?).getLast?.getD []) := by
        rw [lastFallback?_eq]
        cases (calls.filterMap PartitionCall.fallback?).getLast? with
        | none => exact (assembleBlock_nil next).symm
        | some block => rfl
      simp only [lastPartition?, ih, assembleBranches_eq, hfallback]
      cases (rest.filterMap BlockCall.partition?).getLast? <;> rfl

/-! ## Blocks, told by what counts -/

section Blocks

variable {calls : List BlockCall}

theorem assembleBlock_of_rules (single : calls.filterMap BlockCall.partition? = []) (next : Nat) :
    assembleBlock next calls = (assembleRules next (calls.filterMap BlockCall.rule?)).map
      fun (rules, next) => (.list rules, next) := by
  simp only [assembleBlock, finishBlock, lastPartition?_eq, single, blockRules_eq]
  rfl

theorem assembleBlock_of_mixed (rules : calls.filterMap BlockCall.rule? ≠ [])
    (partitions : calls.filterMap BlockCall.partition? ≠ []) (next : Nat) :
    assembleBlock next calls = .error .mixedRules := by
  simp only [assembleBlock, finishBlock, lastPartition?_eq, blockRules_eq]
  cases hlast : (calls.filterMap BlockCall.partition?).getLast? with
  | none => exact absurd (List.getLast?_eq_none_iff.mp hlast) partitions
  | some p =>
    cases hrules : calls.filterMap BlockCall.rule? with
    | nil => exact absurd hrules rules
    | cons => rfl

theorem assembleBlock_of_partition {property : String} {inner : List PartitionCall}
    (single : calls.filterMap BlockCall.rule? = [])
    (last : (calls.filterMap BlockCall.partition?).getLast? = some (property, inner)) (next : Nat) :
    assembleBlock next calls = assemblePartition next property inner := by
  simp only [assembleBlock, finishBlock, lastPartition?_eq, last, blockRules_eq, single]
  rfl

end Blocks

/-! ## Walking an outline -/

theorem Entry.inspects : Inspects Entry.rule? Entry.Fault Entry.place where
  reports := by
    intro index entry fault
    cases entry with
    | mixed =>
      constructor
      · rintro ⟨⟩
        exact .mixed
      · rintro ⟨⟩
        rfl
    | rule calls =>
      rw [place]
      constructor
      · intro h
        split at h
        · rename_i hlast
          cases h
          exact .valueless (List.getLast?_eq_none_iff.mp hlast)
        · exact absurd h nofun
      · rintro ⟨⟩
        rename_i unset
        rw [unset]
        rfl
  passes := by
    intro index entry next h
    cases entry with
    | mixed => exact absurd h nofun
    | rule calls =>
      rw [place] at h
      split at h
      · exact absurd h nofun
      · rename_i hlast
        cases h
        refine ⟨?_, rfl⟩
        rintro i fault ⟨⟩
        rename_i unset
        rw [unset] at hlast
        exact absurd hlast nofun

theorem assembleRules_eq (next : Nat) (rules : List (List RuleCall)) :
    assembleRules next rules = (fun after => (rules.filterMap ruleOf?, after))
      <$> (rules.map Entry.rule).foldlM Entry.place next := by
  induction rules generalizing next with
  | nil => rfl
  | cons calls rest ih =>
    rw [assembleRules, List.map_cons, List.foldlM_cons, Entry.place, ruleValue?_eq]
    cases hlast : (calls.filterMap RuleCall.value?).getLast? with
    | none => rfl
    | some value =>
      have hrule : ruleOf? calls = some ⟨.all (ruleMatchers calls), value⟩ := by
        rw [ruleOf?, hlast, ruleMatchers_eq]
        rfl
      rw [List.filterMap_cons_some hrule, ih]
      show _ = _ <$> (rest.map Entry.rule).foldlM Entry.place (next + 1)
      cases (rest.map Entry.rule).foldlM Entry.place (next + 1) <;> rfl

mutual

/-- Putting a block together is a walk of its outline. -/
theorem Describes.assembleBlock_eq : ∀ {calls : List BlockCall} {o : Outline},
    Describes calls o → ∀ next, assembleBlock next calls
      = (fun after => (o.tree, after)) <$> o.entries.foldlM Entry.place next
  | calls, _, .list single, next => by
    rw [assembleBlock_of_rules single, assembleRules_eq, Outline.entries, Outline.tree]
    cases ((calls.filterMap BlockCall.rule?).map Entry.rule).foldlM Entry.place next <;> rfl
  | _, _, .mixed rules partitions, next => by
    rw [assembleBlock_of_mixed rules partitions]
    rfl
  | _, _, @Describes.partition _ _ _ branches fallback single last inBranches inFallback, next => by
    rw [assembleBlock_of_partition single last, assemblePartition, inBranches.assembleEach_eq,
      Outline.entries, Outline.tree, List.foldlM_append]
    cases (Outline.entriesIn branches).foldlM Entry.place next with
    | error fault => rfl
    | ok middle =>
      show (assembleBlock middle _ >>= _) = _ <$> fallback.entries.foldlM Entry.place middle
      rw [inFallback.assembleBlock_eq]
      cases fallback.entries.foldlM Entry.place middle <;> rfl

/-- Putting branches together is a walk of their outlines. -/
theorem DescribesEach.assembleEach_eq : ∀ {blocks : List (String × List BlockCall)}
    {branches : List (String × Outline)}, DescribesEach blocks branches → ∀ next,
    assembleEach next blocks = (fun after => (Outline.treesIn branches, after))
      <$> (Outline.entriesIn branches).foldlM Entry.place next
  | _, _, .nil, _ => rfl
  | _, _, @DescribesEach.cons _ _ branch _ branches first others, next => by
    rw [assembleEach, first.assembleBlock_eq, Outline.entriesIn, Outline.treesIn,
      List.foldlM_append]
    cases branch.entries.foldlM Entry.place next with
    | error fault => rfl
    | ok middle =>
      show (assembleEach middle _ >>= _)
        = _ <$> (Outline.entriesIn branches).foldlM Entry.place middle
      rw [others.assembleEach_eq]
      cases (Outline.entriesIn branches).foldlM Entry.place middle <;> rfl

end

/-! ## The rules of the tree -/

theorem filterMap_entryRule?_map (rules : List (List RuleCall)) :
    (rules.map Entry.rule).filterMap Entry.rule? = rules := by
  induction rules with
  | nil => rfl
  | cons calls rest ih => exact congrArg (calls :: ·) ih

mutual

/-- The tree of an outline has the rules of the outline, as far as they have a value. -/
theorem Outline.allRules_tree : ∀ o : Outline, o.tree.allRules = o.rules.filterMap ruleOf?
  | .list rules => by
    rw [tree, RuleTree.allRules, Outline.rules, entries, filterMap_entryRule?_map]
  | .mixed => rfl
  | .partition _ branches fallback => by
    rw [tree, RuleTree.allRules, Outline.rulesIn_treesIn branches, Outline.allRules_tree fallback,
      Outline.rules, Outline.rules, entries, List.filterMap_append, List.filterMap_append]

theorem Outline.rulesIn_treesIn : ∀ branches : List (String × Outline),
    RuleTree.rulesIn (treesIn branches)
      = ((entriesIn branches).filterMap Entry.rule?).filterMap ruleOf?
  | [] => rfl
  | (_, branch) :: rest => by
    rw [treesIn, RuleTree.rulesIn, Outline.rulesIn_treesIn rest, Outline.allRules_tree branch,
      Outline.rules, entriesIn, List.filterMap_append, List.filterMap_append]

end

theorem ruleOf?_eq_none {calls : List RuleCall} (unset : calls.filterMap RuleCall.value? = []) :
    ruleOf? calls = none := by
  rw [ruleOf?, unset]
  rfl

theorem exists_ruleOf? {calls : List RuleCall} (h : calls.filterMap RuleCall.value? ≠ []) :
    ∃ r, ruleOf? calls = some r := by
  cases hlast : (calls.filterMap RuleCall.value?).getLast? with
  | none => exact absurd (List.getLast?_eq_none_iff.mp hlast) h
  | some value =>
    rw [ruleOf?, hlast]
    exact ⟨_, rfl⟩

/-- Where every entry is in order, each rule of the outline is a rule of the tree. -/
theorem Outline.map_some_allRules {o : Outline}
    (faultless : ∀ e ∈ o.entries, Faultless Entry.Fault e) :
    o.tree.allRules.map some = o.rules.map ruleOf? := by
  have hrules : ∀ calls ∈ o.rules, ∃ r, ruleOf? calls = some r := by
    intro calls hcalls
    obtain ⟨entry, hentry, heq⟩ := List.mem_filterMap.mp hcalls
    cases entry with
    | mixed => exact absurd heq nofun
    | rule calls =>
      cases heq
      exact exists_ruleOf? fun unset => faultless _ hentry 0 _ (.valueless unset)
  rw [allRules_tree]
  generalize o.rules = rules at hrules
  induction rules with
  | nil => rfl
  | cons calls rest ih =>
    obtain ⟨⟨r, hr⟩, hrest⟩ := List.forall_mem_cons.mp hrules
    rw [List.filterMap_cons_some hr, List.map_cons, List.map_cons, ih hrest, hr]

/-! ## Rule sets -/

/-- The rule set that calls describe, if this is the outline of its root: the tree of the outline
and the last default. -/
def Outline.ruleSet (o : Outline) (calls : List ScriptCall) : RuleSet where
  rules := o.tree
  default? := (calls.filterMap ScriptCall.default?).getLast?

section Script

variable {calls : List ScriptCall} {o : Outline} {index : Nat}
  (h : Describes (calls.filterMap ScriptCall.block?) o)

include h

/-- A rule set is put together by a walk of the outline of its root, and then checked. -/
theorem Describes.ofScript_eq : RuleSet.ofScript calls = o.entries.foldlM Entry.place 0
    >>= fun _ => (o.ruleSet calls).validate.map fun _ => o.ruleSet calls := by
  rw [RuleSet.ofScript, rootCalls_eq, lastDefault?_eq, h.assembleBlock_eq]
  cases o.entries.foldlM Entry.place 0 <;> rfl

theorem Describes.ofScript_of_faultless (faultless : ∀ e ∈ o.entries, Faultless Entry.Fault e) :
    RuleSet.ofScript calls = (o.ruleSet calls).validate.map fun _ => o.ruleSet calls := by
  rw [h.ofScript_eq, Entry.inspects.foldlM_of_faultless faultless]
  rfl

theorem Describes.ofScript_of_faulty (faulty : ¬∀ e ∈ o.entries, Faultless Entry.Fault e) :
    ∃ fault, FirstFault Entry.rule? Entry.Fault o.entries fault
      ∧ RuleSet.ofScript calls = .error fault := by
  cases hwalk : o.entries.foldlM Entry.place 0 with
  | ok after => exact absurd (Entry.inspects.faultless_of_foldlM hwalk) faulty
  | error fault =>
    refine ⟨fault, Entry.inspects.foldlM_zero_eq_error_iff.mp hwalk, ?_⟩
    rw [h.ofScript_eq, hwalk]
    rfl

/-- An error comes from the walk of the outline or, where that has met no fault, from the check of
the tree. -/
theorem Describes.source_of_error {fault : RuleSetError}
    (herror : RuleSet.ofScript calls = .error fault) :
    FirstFault Entry.rule? Entry.Fault o.entries fault
      ∨ (∀ e ∈ o.entries, Faultless Entry.Fault e)
        ∧ FirstFault Waypoint.rule? Waypoint.Fault o.tree.waypoints fault := by
  by_cases faultless : ∀ e ∈ o.entries, Faultless Entry.Fault e
  · right
    refine ⟨faultless, (o.ruleSet calls).validate_eq_error_iff.mp ?_⟩
    rw [h.ofScript_of_faultless faultless] at herror
    cases hcheck : (o.ruleSet calls).validate with
    | ok =>
      rw [hcheck] at herror
      exact absurd herror nofun
    | error e =>
      rw [hcheck] at herror
      cases herror
      rfl
  · left
    obtain ⟨e, hfirst, he⟩ := h.ofScript_of_faulty faultless
    cases he.symm.trans herror
    exact hfirst

theorem Describes.rule_of_missingValue
    (herror : RuleSet.ofScript calls = .error (.missingValue index)) :
    ∃ rule, o.rules[index]? = some rule ∧ ruleOf? rule = none := by
  rcases h.source_of_error herror with ⟨before, entry, after, hentries, _, hfault⟩
    | ⟨_, _, _, _, _, _, hfault⟩
  · cases hfault with
    | valueless unset =>
      refine ⟨_, ?_, ruleOf?_eq_none unset⟩
      rw [Outline.rules, hentries]
      exact getElem?_filterMap_middle rfl
  · cases hfault

theorem Describes.rule_of_emptyOwnerType
    (herror : RuleSet.ofScript calls = .error (.emptyOwnerType index)) :
    ∃ rule r, o.rules[index]? = some rule ∧ ruleOf? rule = some r
      ∧ r.value.owner? = some "" := by
  rcases h.source_of_error herror with ⟨_, _, _, _, _, hfault⟩
    | ⟨faultless, before, w, after, hwaypoints, _, hfault⟩
  · cases hfault
  · cases hfault with
    | @ownerless r owner =>
      have hr : o.tree.allRules[(before.filterMap Waypoint.rule?).length]? = some r := by
        rw [← RuleTree.filterMap_rule?_waypoints, hwaypoints]
        exact getElem?_filterMap_middle rfl
      -- the rules of the tree stand at the places that they have in the outline
      have hplace := congrArg (·[(before.filterMap Waypoint.rule?).length]?)
        (Outline.map_some_allRules faultless)
      simp only [List.getElem?_map, hr, Option.map_some] at hplace
      obtain ⟨rule, hrule, heq⟩ := Option.map_eq_some_iff.mp hplace.symm
      exact ⟨rule, r, hrule, heq, owner⟩

end Script

/-- What comes of the calls that describe a rule set, told by the outline of its root. -/
structure ComesTo (calls : List ScriptCall) (o : Outline) : Prop where
  -- the calls describe this outline and no other
  describes : Describes (calls.filterMap ScriptCall.block?) o
  only : ∀ other, Describes (calls.filterMap ScriptCall.block?) other → other = o
  -- if every block holds rules or a partition and every rule has a value, the tree has the rules of
  -- the outline one by one, and the rule set is returned if it passes its check
  assembled : (∀ e ∈ o.entries, Faultless Entry.Fault e) →
    (o.ruleSet calls).rules.allRules.map some = o.rules.map ruleOf?
      ∧ RuleSet.ofScript calls = (o.ruleSet calls).validate.map fun _ => o.ruleSet calls
  -- otherwise the first block or rule that is not as it should be is refused
  refused : ¬(∀ e ∈ o.entries, Faultless Entry.Fault e) →
    ∃ fault, FirstFault Entry.rule? Entry.Fault o.entries fault
      ∧ RuleSet.ofScript calls = .error fault
  -- both errors that name a rule name it by its place among the rules of the outline
  missingValue : ∀ index, RuleSet.ofScript calls = .error (.missingValue index) →
    ∃ rule, o.rules[index]? = some rule ∧ ruleOf? rule = none
  emptyOwnerType : ∀ index, RuleSet.ofScript calls = .error (.emptyOwnerType index) →
    ∃ rule r, o.rules[index]? = some rule ∧ ruleOf? rule = some r ∧ r.value.owner? = some ""

/-- **A description comes to the rule set that it describes**: the blocks, rules and branches that
no later call replaces make up one outline. If no block of it has rules and a partition and every
rule has a value, the tree has exactly these rules, in order, and the rule set is returned unless its
check reports a fault. Otherwise the first block or rule that is not so is refused. In both cases a
rule is numbered by the rules of the outline before it. -/
theorem script_comes_to_outline (calls : List ScriptCall) : ∃ o, ComesTo calls o := by
  obtain ⟨o, h⟩ := exists_describes (calls.filterMap ScriptCall.block?)
  refine ⟨o, ?_⟩
  constructor
  case describes => exact h
  case only => exact fun _ h' => h.unique h'
  case assembled =>
    exact fun faultless =>
      ⟨Outline.map_some_allRules faultless, h.ofScript_of_faultless faultless⟩
  case refused => exact h.ofScript_of_faulty
  case missingValue => exact fun _ => h.rule_of_missingValue
  case emptyOwnerType => exact fun _ => h.rule_of_emptyOwnerType

end Rollout
