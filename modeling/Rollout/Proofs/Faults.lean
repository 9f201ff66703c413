import Mathlib.Data.List.Nodup
import Rollout.Proofs.Validity
import Rollout.Proofs.Walk

/-!
# The first fault

A walk meets its stops one after another, and some of them are rules, which are numbered through
the whole walk. A check that goes from stop to stop reports the first fault of the walk, under the
number of rules that came before it (`Inspects.foldlM_eq_error_iff`). Checking a tree is such a check:
its stops are partitions, before what stands in them, and rules.
-/

namespace Rollout

/-! ## Checks that go from stop to stop -/

section Stops

variable {σ ρ : Type} (rule? : σ → Option ρ) (Fault : Nat → σ → RuleSetError → Prop)

/-- A stop has no fault, whatever its number. -/
def Faultless (stop : σ) : Prop :=
  ∀ index fault, ¬Fault index stop fault

/-- The first fault of a walk is that of a stop before which no stop has one. The number of the stop
is how many rules the walk has met before it. -/
def FirstFault (walk : List σ) (fault : RuleSetError) : Prop :=
  ∃ before stop after, walk = before ++ stop :: after ∧ (∀ s ∈ before, Faultless Fault s)
    ∧ Fault (before.filterMap rule?).length stop fault

/-- The steps of a check report the fault of a stop, or else pass it and count it if it is a
rule. -/
structure Inspects (step : Nat → σ → Except RuleSetError Nat) : Prop where
  reports : ∀ {index stop fault}, step index stop = .error fault ↔ Fault index stop fault
  passes : ∀ {index stop next}, step index stop = .ok next →
    Faultless Fault stop ∧ next = index + ([stop].filterMap rule?).length

variable {rule? Fault} {step : Nat → σ → Except RuleSetError Nat} {walk : List σ}

theorem length_filterMap_cons (stop : σ) (rest : List σ) :
    ((stop :: rest).filterMap rule?).length
      = ([stop].filterMap rule?).length + (rest.filterMap rule?).length := by
  rw [← List.length_append, ← List.filterMap_append, List.singleton_append]

namespace Inspects

theorem step_of_faultless (h : Inspects rule? Fault step) {stop : σ}
    (faultless : Faultless Fault stop) (next : Nat) :
    step next stop = .ok (next + ([stop].filterMap rule?).length) := by
  cases hstep : step next stop with
  | error fault => exact absurd (h.reports.mp hstep) (faultless next fault)
  | ok after => rw [(h.passes hstep).2]

/-- A walk without faults is passed, and all its rules are counted. -/
theorem foldlM_of_faultless (h : Inspects rule? Fault step)
    (faultless : ∀ s ∈ walk, Faultless Fault s) (next : Nat) :
    walk.foldlM step next = .ok (next + (walk.filterMap rule?).length) := by
  induction walk generalizing next with
  | nil => rfl
  | cons stop rest ih =>
    have hrest := ih (fun s hs => faultless s (List.mem_cons_of_mem _ hs))
      (next + ([stop].filterMap rule?).length)
    rw [List.foldlM_cons, h.step_of_faultless (faultless stop List.mem_cons_self)]
    show rest.foldlM step _ = _
    rw [hrest, length_filterMap_cons stop rest, Nat.add_assoc]

/-- What ends a check is the fault of the first stop that has one. -/
theorem foldlM_eq_error_iff (h : Inspects rule? Fault step) {next : Nat} {fault : RuleSetError} :
    walk.foldlM step next = .error fault ↔ ∃ before stop after, walk = before ++ stop :: after
      ∧ (∀ s ∈ before, Faultless Fault s)
      ∧ Fault (next + (before.filterMap rule?).length) stop fault := by
  constructor
  · intro hwalk
    induction walk generalizing next with
    | nil => exact absurd hwalk nofun
    | cons stop rest ih =>
      rw [List.foldlM_cons] at hwalk
      cases hstep : step next stop with
      | error e =>
        rw [hstep] at hwalk
        cases hwalk
        exact ⟨[], stop, rest, rfl, nofun, h.reports.mp hstep⟩
      | ok after =>
        rw [hstep] at hwalk
        obtain ⟨faultless, rfl⟩ := h.passes hstep
        obtain ⟨before, s, after, rfl, hbefore, hs⟩ := ih hwalk
        refine ⟨stop :: before, s, after, rfl, List.forall_mem_cons.mpr ⟨faultless, hbefore⟩, ?_⟩
        rwa [length_filterMap_cons stop, ← Nat.add_assoc]
  · rintro ⟨before, stop, after, rfl, hbefore, hfault⟩
    rw [List.foldlM_append, h.foldlM_of_faultless hbefore]
    show (stop :: after).foldlM step _ = _
    rw [List.foldlM_cons, h.reports.mpr hfault]
    rfl

theorem faultless_of_foldlM (h : Inspects rule? Fault step) {next after : Nat}
    (hwalk : walk.foldlM step next = .ok after) : ∀ s ∈ walk, Faultless Fault s := by
  induction walk generalizing next with
  | nil => exact nofun
  | cons stop rest ih =>
    rw [List.foldlM_cons] at hwalk
    obtain ⟨middle, hstep, hrest⟩ := bind_eq_ok hwalk
    exact List.forall_mem_cons.mpr ⟨(h.passes hstep).1, ih hrest⟩

/-- A check from the start of the numbering reports the first fault of the walk. -/
theorem foldlM_zero_eq_error_iff (h : Inspects rule? Fault step) {fault : RuleSetError} :
    walk.foldlM step 0 = .error fault ↔ FirstFault rule? Fault walk fault := by
  rw [h.foldlM_eq_error_iff, FirstFault]
  simp only [Nat.zero_add]

end Inspects

/-- A rule that a walk meets has the number of rules before it as its place among the rules. -/
theorem getElem?_filterMap_middle {before after : List σ} {stop : σ} {r : ρ}
    (h : rule? stop = some r) :
    ((before ++ stop :: after).filterMap rule?)[(before.filterMap rule?).length]? = some r := by
  rw [List.filterMap_append, List.filterMap_cons_some h, List.getElem?_append_right (Nat.le_refl _),
    Nat.sub_self, List.getElem?_cons_zero]

end Stops

/-! ## Partitions and rules -/

/-- What a walk of a tree stops at. -/
inductive Waypoint where
  /-- A partition that goes by a property, and the keys of its branches in lower case. -/
  | partition (property : String) (keys : List String)
  | rule (r : Rule)

mutual

/-- The partitions and rules of a tree in the order of a walk: a partition before its branches, the
branches in order, then the fallback. -/
def RuleTree.waypoints : RuleTree → List Waypoint
  | .list rules => rules.map .rule
  | .partition property branches fallback =>
    .partition property (branchKeys branches)
      :: (RuleTree.waypointsIn branches ++ RuleTree.waypoints fallback)

/-- The partitions and rules in the branches of a partition. -/
def RuleTree.waypointsIn : List (String × RuleTree) → List Waypoint
  | [] => []
  | (_, branch) :: rest => RuleTree.waypoints branch ++ RuleTree.waypointsIn rest

end

namespace Waypoint

/-- The rule that a waypoint is, if it is one. -/
def rule? : Waypoint → Option Rule
  | .partition _ _ => none
  | .rule r => some r

/-- A waypoint that comes after `index` rules has a fault. A key is reported where it stands for the
second time, if the partition has a name. -/
inductive Fault (index : Nat) : Waypoint → RuleSetError → Prop
  | unnamed (keys : List String) : Fault index (.partition "" keys) .emptyPartitionProperty
  | repeated {property key : String} {before after : List String} (named : property ≠ "")
      (distinct : before.Nodup) (again : key ∈ before) :
      Fault index (.partition property (before ++ key :: after))
        (.duplicatePartitionKey property key)
  | ownerless {r : Rule} (owner : r.value.owner? = some "") :
      Fault index (.rule r) (.emptyOwnerType index)

/-- Checks a waypoint that comes after `index` rules. -/
def inspect (index : Nat) : Waypoint → Except RuleSetError Nat
  | .partition property keys =>
    if property = "" then .error .emptyPartitionProperty
    else
      match firstRepeated? [] keys with
      | some key => .error (.duplicatePartitionKey property key)
      | none => .ok index
  | .rule r => if r.value.owner? = some "" then .error (.emptyOwnerType index) else .ok (index + 1)

end Waypoint

/-! ## Repeated keys -/

section Repeated

variable {seen before after : List String} {key : String}

/-- A text is reported where it repeats one of the texts before it, which differ from each other. -/
theorem split_of_firstRepeated? {l : List String} (hseen : seen.Nodup)
    (h : firstRepeated? seen l = some key) : ∃ before after, l = before ++ key :: after
      ∧ (before.reverse ++ seen).Nodup ∧ key ∈ before.reverse ++ seen := by
  induction l generalizing seen with
  | nil => exact absurd h nofun
  | cons s rest ih =>
    rw [firstRepeated?] at h
    split at h
    · rename_i hs
      cases h
      exact ⟨[], rest, rfl, hseen, hs⟩
    · rename_i hs
      obtain ⟨before, after, rfl, hnodup, hkey⟩ := ih (List.nodup_cons.mpr ⟨hs, hseen⟩) h
      refine ⟨s :: before, after, rfl, ?_⟩
      rw [List.reverse_cons, List.append_assoc]
      exact ⟨hnodup, hkey⟩

theorem firstRepeated?_append (hnodup : (before.reverse ++ seen).Nodup)
    (hkey : key ∈ before.reverse ++ seen) :
    firstRepeated? seen (before ++ key :: after) = some key := by
  induction before generalizing seen with
  | nil => exact if_pos hkey
  | cons s before ih =>
    rw [List.reverse_cons, List.append_assoc] at hnodup hkey
    have hs : s ∉ seen := (List.nodup_cons.mp (List.nodup_append.mp hnodup).2.1).1
    rw [List.cons_append, firstRepeated?, if_neg hs]
    exact ih hnodup hkey

theorem firstRepeated?_nil_eq_some_iff {l : List String} :
    firstRepeated? [] l = some key
      ↔ ∃ before after, l = before ++ key :: after ∧ before.Nodup ∧ key ∈ before := by
  constructor
  · intro h
    obtain ⟨before, after, rfl, hnodup, hkey⟩ := split_of_firstRepeated? List.nodup_nil h
    rw [List.append_nil] at hnodup hkey
    exact ⟨before, after, rfl, List.nodup_reverse.mp hnodup, List.mem_reverse.mp hkey⟩
  · rintro ⟨before, after, rfl, hnodup, hkey⟩
    apply firstRepeated?_append
    · rw [List.append_nil]
      exact List.nodup_reverse.mpr hnodup
    · rw [List.append_nil]
      exact List.mem_reverse.mpr hkey

end Repeated

/-! ## Checking waypoints -/

namespace Waypoint

theorem fault_partition_iff {index : Nat} {property : String} {keys : List String}
    {fault : RuleSetError} : Fault index (.partition property keys) fault
      ↔ (property = "" ∧ fault = .emptyPartitionProperty)
        ∨ property ≠ "" ∧ ∃ key, firstRepeated? [] keys = some key
          ∧ fault = .duplicatePartitionKey property key := by
  constructor
  · intro h
    cases h with
    | unnamed => exact .inl ⟨rfl, rfl⟩
    | repeated named distinct again =>
      exact .inr ⟨named, _, firstRepeated?_nil_eq_some_iff.mpr ⟨_, _, rfl, distinct, again⟩, rfl⟩
  · rintro (⟨rfl, rfl⟩ | ⟨named, key, hkey, rfl⟩)
    · exact .unnamed keys
    · obtain ⟨before, after, rfl, distinct, again⟩ := firstRepeated?_nil_eq_some_iff.mp hkey
      exact .repeated named distinct again

theorem fault_rule_iff {index : Nat} {r : Rule} {fault : RuleSetError} :
    Fault index (.rule r) fault ↔ r.value.owner? = some "" ∧ fault = .emptyOwnerType index := by
  constructor
  · rintro ⟨⟩
    exact ⟨‹_›, rfl⟩
  · rintro ⟨owner, rfl⟩
    exact .ownerless owner

theorem inspect_eq_error_iff {index : Nat} {w : Waypoint} {fault : RuleSetError} :
    w.inspect index = .error fault ↔ w.Fault index fault := by
  cases w with
  | partition property keys =>
    rw [inspect, fault_partition_iff]
    by_cases named : property = ""
    · simp [named, eq_comm]
    · cases firstRepeated? [] keys <;> simp [named, eq_comm]
  | rule r =>
    rw [inspect, fault_rule_iff]
    by_cases owner : r.value.owner? = some "" <;> simp [owner, eq_comm]

/-- A waypoint that is passed has no fault under any number, and only a rule is counted. -/
theorem inspect_eq_ok {index next : Nat} {w : Waypoint} (h : w.inspect index = .ok next) :
    Faultless Fault w ∧ next = index + ([w].filterMap rule?).length := by
  cases w with
  | partition property keys =>
    rw [inspect] at h
    split at h
    · exact absurd h nofun
    · rename_i named
      split at h
      · exact absurd h nofun
      · rename_i hkey
        cases h
        refine ⟨?_, rfl⟩
        intro i fault hfault
        rcases fault_partition_iff.mp hfault with ⟨unnamed, _⟩ | ⟨_, key, hkey', _⟩
        · exact named unnamed
        · exact absurd (hkey.symm.trans hkey') nofun
  | rule r =>
    rw [inspect] at h
    split at h
    · exact absurd h nofun
    · rename_i howner
      cases h
      exact ⟨fun i fault hfault => howner (fault_rule_iff.mp hfault).1, rfl⟩

theorem inspects : Inspects rule? Fault inspect where
  reports := inspect_eq_error_iff
  passes := inspect_eq_ok

end Waypoint

/-! ## Checking trees -/

/-- The rules among the waypoints of a list are its rules. -/
theorem filterMap_rule?_map (rules : List Rule) :
    (rules.map Waypoint.rule).filterMap Waypoint.rule? = rules := by
  induction rules with
  | nil => rfl
  | cons r rest ih => exact congrArg (r :: ·) ih

theorem checkRules_eq (next : Nat) (rules : List Rule) :
    checkRules next rules
      = (rules.map Waypoint.rule).foldlM Waypoint.inspect next := by
  induction rules generalizing next with
  | nil => rfl
  | cons r rest ih =>
    rw [checkRules, List.map_cons, List.foldlM_cons, Waypoint.inspect]
    split
    · rfl
    · exact ih (next + 1)

namespace RuleTree

theorem waypointsIn_eq (branches : List (String × RuleTree)) :
    waypointsIn branches = branches.flatMap fun b => b.2.waypoints := by
  induction branches with
  | nil => rfl
  | cons b rest ih => rw [waypointsIn, ih, List.flatMap_cons]

/-- The rules that a walk stops at are all the rules of the tree. -/
theorem filterMap_rule?_waypoints (t : RuleTree) :
    t.waypoints.filterMap Waypoint.rule? = t.allRules := by
  induction t with
  | list rules => exact filterMap_rule?_map rules
  | partition property branches fallback ihBranches ihFallback =>
    rw [waypoints, List.filterMap_cons_none rfl, List.filterMap_append, waypointsIn_eq,
      List.filterMap_flatMap, allRules, rulesIn_eq, ihFallback]
    congr 1
    exact List.flatMap_congr ihBranches

theorem checkBranches_eq {branches : List (String × RuleTree)}
    (h : ∀ b ∈ branches, ∀ next,
      b.2.check next = b.2.waypoints.foldlM Waypoint.inspect next) (next : Nat) :
    checkBranches next branches
      = (waypointsIn branches).foldlM Waypoint.inspect next := by
  induction branches generalizing next with
  | nil => rfl
  | cons b rest ih =>
    rw [checkBranches, waypointsIn, List.foldlM_append, h b List.mem_cons_self]
    exact bind_congr (ih fun c hc => h c (List.mem_cons_of_mem _ hc))

/-- A tree is checked by going from one waypoint to the next. -/
theorem check_eq (t : RuleTree) (next : Nat) :
    t.check next = t.waypoints.foldlM Waypoint.inspect next := by
  induction t generalizing next with
  | list rules => rw [check, waypoints, checkRules_eq]
  | partition property branches fallback ihBranches ihFallback =>
    rw [check, waypoints, List.foldlM_cons, Waypoint.inspect]
    by_cases unnamed : property = ""
    · rw [if_pos unnamed, if_pos unnamed]
      rfl
    · rw [if_neg unnamed, if_neg unnamed]
      cases firstRepeated? [] (branchKeys branches) with
      | some key => rfl
      | none =>
        show (checkBranches next branches >>= fun after => check after fallback)
          = (waypointsIn branches ++ fallback.waypoints).foldlM Waypoint.inspect next
        rw [checkBranches_eq ihBranches, List.foldlM_append]
        exact bind_congr ihFallback

end RuleTree

theorem RuleSet.validate_eq_error_iff {s : RuleSet} {fault : RuleSetError} :
    s.validate = .error fault
      ↔ FirstFault Waypoint.rule? Waypoint.Fault s.rules.waypoints fault := by
  rw [← Waypoint.inspects.foldlM_zero_eq_error_iff, ← RuleTree.check_eq, RuleSet.validate]
  cases s.rules.check 0 <;> simp [Except.map]

/-- **Checking a rule set reports its first fault**: a rule set passes the check if and only if it
has no fault at any level, and what the check reports is the first fault that a walk of the tree
meets, a rule under the number of rules before it. -/
theorem validate_reports_first_fault (s : RuleSet) :
    (s.validate = .ok () ↔ s.rules.WellFormed)
      ∧ ∀ fault, s.validate = .error fault
          ↔ FirstFault Waypoint.rule? Waypoint.Fault s.rules.waypoints fault :=
  ⟨⟨s.wellFormed, RuleSet.validate_of_wellFormed⟩, fun _ => s.validate_eq_error_iff⟩

-- the rule in the fallback is numbered after the one in the branch
example : RuleSet.validate ⟨.partition "plan" [("Free", .list [⟨.all [], .single .null⟩])]
    (.list [⟨.all [], .uniform "" "salt" []⟩]), none⟩ = .error (.emptyOwnerType 1) := by
  decide

end Rollout
