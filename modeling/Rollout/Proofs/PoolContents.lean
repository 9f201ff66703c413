import Mathlib.Data.List.Induction
import Mathlib.Data.List.Nodup
import Rollout.Decimal.Reader
import Rollout.Proofs.Compilation
import Rollout.Proofs.Walk

/-!
# Pools hold first uses

A walk of a rule set meets literals and tables, and compiling the rule set interns each of them where
the walk meets it. The finished pool therefore holds what the walk meets, once each, in the order of
first use. Entries are the same only verbatim: numbers of different scale have places of their own, and
so have a zero and a negative zero.
-/

namespace Rollout

/-! ## First uses -/

section FirstUses

variable {α : Type} [DecidableEq α]

/-- A list without the entries that repeat an earlier one verbatim. -/
def firstUses (l : List α) : List α :=
  l.eraseDups

theorem mem_firstUses {a : α} {l : List α} : a ∈ firstUses l ↔ a ∈ l :=
  List.mem_eraseDups

theorem firstUses_concat (l : List α) (a : α) :
    firstUses (l ++ [a]) = if a ∈ l then firstUses l else firstUses l ++ [a] := by
  rw [firstUses, List.eraseDups_append, List.removeAll]
  by_cases h : a ∈ l <;> simp [h, firstUses, List.eraseDups_cons]

theorem nodup_firstUses (l : List α) : (firstUses l).Nodup := by
  induction l using List.reverseRecOn with
  | nil => exact List.nodup_nil
  | append_singleton l a ih =>
    rw [firstUses_concat]
    by_cases h : a ∈ l
    · rw [if_pos h]
      exact ih
    · rw [if_neg h, ← List.concat_eq_append]
      exact List.Nodup.concat (fun hmem => h (mem_firstUses.mp hmem)) ih

end FirstUses

/-! ## Interners -/

namespace Interner

variable {α : Type} [DecidableEq α]

/-- The interner holds the first uses of the entries that were met. -/
def Holds (t : Interner α) (met : List α) : Prop :=
  t.entries.toList = firstUses met

theorem holds_empty : (empty : Interner α).Holds [] := rfl

theorem Holds.mem_iff {t : Interner α} {met : List α} (h : t.Holds met) {a : α} :
    a ∈ t.entries ↔ a ∈ met := by
  rw [← Array.mem_toList_iff, show t.entries.toList = firstUses met from h, mem_firstUses]

/-- Interning an entry is meeting it, if entries are alike only verbatim. -/
theorem Holds.intern {t : Interner α} {met : List α} (h : t.Holds met) {alike : α → α → Bool}
    (halike : ∀ {b c}, alike b c = true ↔ b = c) (a : α) :
    (t.intern alike a).2.Holds (met ++ [a]) := by
  rw [Holds, firstUses_concat, Interner.intern]
  split
  · -- an entry that has a place was met before
    rename_i i hi
    obtain ⟨hlt, hsame, _⟩ := Array.findIdx?_eq_some_iff_getElem.mp hi
    have hmem : a ∈ met := by
      rw [← h.mem_iff, ← halike.mp hsame]
      exact Array.getElem_mem hlt
    rw [if_pos hmem]
    exact h
  · rename_i hnone
    have hnew : a ∉ met := by
      intro hmem
      have hdiffers := Array.findIdx?_eq_none_iff.mp hnone a (h.mem_iff.mpr hmem)
      exact Bool.false_ne_true (hdiffers.symm.trans (halike.mpr rfl))
    rw [if_neg hnew, Array.toList_push]
    exact congrArg (· ++ [a]) h

end Interner

/-! ## Uses of a pool -/

/-- What a walk meets that has a place in the pool. -/
inductive Use where
  | literal (v : Value)
  /-- The table of a weighted distribution. -/
  | weighted (table : List (Value × Nat))
  /-- The table of a uniform distribution. -/
  | uniform (values : List Value)

namespace Use

def literal? : Use → Option Value
  | literal v => some v
  | _ => none

def weighted? : Use → Option (List (Value × Nat))
  | weighted table => some table
  | _ => none

def uniform? : Use → Option (List Value)
  | uniform values => some values
  | _ => none

end Use

namespace Pool

/-- The pool holds the first uses of what was met. -/
structure Holds (p : Pool) (met : List Use) : Prop where
  literals : p.literals.Holds (met.filterMap Use.literal?)
  weighted : p.weighted.Holds (met.filterMap Use.weighted?)
  uniform : p.uniform.Holds (met.filterMap Use.uniform?)

theorem holds_empty : empty.Holds [] := ⟨rfl, rfl, rfl⟩

/-- An emitting function meets the given uses, in order. -/
def Meets {β : Type} (emit : Pool → β × Pool) (uses : List Use) : Prop :=
  ∀ p met, p.Holds met → (emit p).2.Holds (met ++ uses)

theorem meets_literal (v : Value) : Meets (·.literal v) [.literal v] := by
  intro p met h
  constructor <;> rw [List.filterMap_append]
  case literals => exact h.literals.intern Value.writtenAlike_iff v
  case weighted => exact (List.append_nil _).symm ▸ h.weighted
  case uniform => exact (List.append_nil _).symm ▸ h.uniform

theorem meets_weightedTable (table : List (Value × Nat)) :
    Meets (·.weightedTable table) [.weighted table] := by
  intro p met h
  constructor <;> rw [List.filterMap_append]
  case literals => exact (List.append_nil _).symm ▸ h.literals
  case weighted => exact h.weighted.intern sharesWrittenAlike_iff table
  case uniform => exact (List.append_nil _).symm ▸ h.uniform

theorem meets_uniformTable (values : List Value) :
    Meets (·.uniformTable values) [.uniform values] := by
  intro p met h
  constructor <;> rw [List.filterMap_append]
  case literals => exact (List.append_nil _).symm ▸ h.literals
  case weighted => exact (List.append_nil _).symm ▸ h.weighted
  case uniform => exact h.uniform.intern Value.allWrittenAlike_iff values

namespace Meets

variable {α β γ : Type} {uses uses' : List Use}

/-- Emitting nothing new. -/
theorem const (a : α) : Meets (fun p => (a, p)) [] := by
  intro p met h
  rw [List.append_nil]
  exact h

theorem map {emit : Pool → α × Pool} (h : Meets emit uses) (g : α → β) :
    Meets (fun p => (g (emit p).1, (emit p).2)) uses :=
  h

/-- One emission after another meets what both meet. -/
theorem seq {emit : Pool → α × Pool} {emit' : Pool → β × Pool} (h : Meets emit uses)
    (h' : Meets emit' uses') (g : α → β → γ) :
    Meets (fun p => (g (emit p).1 (emit' (emit p).2).1, (emit' (emit p).2).2))
      (uses ++ uses') := by
  intro p met hp
  rw [← List.append_assoc]
  exact h' _ _ (h p met hp)

theorem all {emit : Pool → α → β × Pool} {uses : α → List Use} {l : List α}
    (h : ∀ a ∈ l, Meets (emit · a) (uses a)) : Meets (emitAll emit · l) (l.flatMap uses) := by
  induction l with
  | nil => exact const []
  | cons a rest ih =>
    rw [List.flatMap_cons]
    exact (h a List.mem_cons_self).seq (ih fun b hb => h b (List.mem_cons_of_mem _ hb))
      fun b bs => b :: bs

end Meets

end Pool

/-! ## What a walk meets -/

/-- The literal of a condition that is not joined from others, if it has one. A list of alternatives
is one array, and a beginning or an end of a text is one string. -/
def Condition.literal? : Condition → Option Value
  | .compare _ literal _ => some literal
  | .oneOf literals _ => some (.array literals)
  | .contains literal _ => some literal
  | .startsWith text => some (.string text)
  | .endsWith text => some (.string text)
  | .within _ | .all _ | .any _ | .not _ => none

/-- The uses in a condition, from left to right. -/
def Condition.uses (c : Condition) : List Use :=
  (c.tests.filterMap Condition.literal?).map .literal

/-- The uses in a matcher, from left to right. -/
def Matcher.uses (m : Matcher) : List Use :=
  (m.tests.filterMap fun test => test.2.literal?).map .literal

/-- The use in a distribution: a fixed value is a literal, and a table is used as a whole. -/
def Distribution.use : Distribution → Use
  | .single value => .literal value
  | .weighted _ _ table => .weighted table
  | .uniform _ _ values => .uniform values

/-- The uses in a rule: those in its matcher and then its value. -/
def Rule.uses (r : Rule) : List Use :=
  r.matcher.uses ++ [r.value.use]

/-- The uses that a walk of a rule set meets: those in its rules and then the default. -/
def RuleSet.uses (s : RuleSet) : List Use :=
  s.rules.allRules.flatMap Rule.uses ++ s.default?.toList.map .literal

/-- The literals that a walk of a rule set meets, with repeats. -/
def RuleSet.literals (s : RuleSet) : List Value :=
  s.uses.filterMap Use.literal?

/-- The tables of weighted distributions that a walk of a rule set meets, with repeats. -/
def RuleSet.weightedTables (s : RuleSet) : List (List (Value × Nat)) :=
  s.uses.filterMap Use.weighted?

/-- The tables of uniform distributions that a walk of a rule set meets, with repeats. -/
def RuleSet.uniformTables (s : RuleSet) : List (List Value) :=
  s.uses.filterMap Use.uniform?

/-! ## Compiling meets what a walk meets -/

theorem Condition.flatMap_uses (items : List Condition) :
    ((items.flatMap Condition.tests).filterMap Condition.literal?).map Use.literal
      = items.flatMap Condition.uses := by
  rw [List.filterMap_flatMap, List.map_flatMap]
  rfl

theorem Condition.meets_compile (c : Condition) : Pool.Meets (Condition.compile · c) c.uses := by
  induction c with
  | compare op literal comparer =>
    exact (Pool.meets_literal literal).map (Program.Test.compare op · comparer)
  | oneOf literals comparer =>
    exact (Pool.meets_literal (.array literals)).map (Program.Test.oneOf · comparer)
  | contains literal comparer =>
    exact (Pool.meets_literal literal).map (Program.Test.contains · comparer)
  | startsWith text => exact (Pool.meets_literal (.string text)).map Program.Test.startsWith
  | endsWith text => exact (Pool.meets_literal (.string text)).map Program.Test.endsWith
  | within window => exact .const (Program.Test.within window)
  | all items ih =>
    simp only [compile, compileAll_eq]
    rw [uses, tests, testsAll_eq, flatMap_uses]
    exact (Pool.Meets.all ih).map Program.Test.all
  | any items ih =>
    simp only [compile, compileAll_eq]
    rw [uses, tests, testsAll_eq, flatMap_uses]
    exact (Pool.Meets.all ih).map Program.Test.any
  | not item ih => exact ih.map Program.Test.not

theorem Matcher.flatMap_uses (items : List Matcher) :
    ((items.flatMap Matcher.tests).filterMap fun test => test.2.literal?).map Use.literal
      = items.flatMap Matcher.uses := by
  rw [List.filterMap_flatMap, List.map_flatMap]
  rfl

theorem Matcher.meets_compile (m : Matcher) : Pool.Meets (Matcher.compile · m) m.uses := by
  induction m with
  | property name condition =>
    have huses : (Matcher.property name condition).uses = condition.uses := by
      rw [uses, tests, List.filterMap_map]
      rfl
    rw [huses]
    exact condition.meets_compile.map (Program.Guard.fetch name)
  | all items ih =>
    simp only [compile, compileAll_eq]
    rw [uses, tests, testsAll_eq, flatMap_uses]
    exact (Pool.Meets.all ih).map Program.Guard.all
  | any items ih =>
    simp only [compile, compileAll_eq]
    rw [uses, tests, testsAll_eq, flatMap_uses]
    exact (Pool.Meets.all ih).map Program.Guard.any
  | not item ih => exact ih.map Program.Guard.not

theorem Distribution.meets_compile (d : Distribution) :
    Pool.Meets (Distribution.compile · d) [d.use] := by
  cases d with
  | single value => exact (Pool.meets_literal value).map Program.Source.constant
  | weighted owner salt table =>
    exact (Pool.meets_weightedTable table).map (Program.Source.weighted (ownerKey owner) salt)
  | uniform owner salt values =>
    exact (Pool.meets_uniformTable values).map (Program.Source.uniform (ownerKey owner) salt)

theorem Rule.meets_compile (r : Rule) : Pool.Meets (Rule.compile · r) r.uses :=
  r.matcher.meets_compile.seq r.value.meets_compile Prod.mk

theorem RuleTree.meets_compile (t : RuleTree) :
    Pool.Meets (RuleTree.compile · t) (t.allRules.flatMap Rule.uses) := by
  induction t with
  | list rules =>
    simp only [compile, compileRules_eq]
    exact (Pool.Meets.all fun r _ => r.meets_compile).map Program.Step.arms
  | partition property branches fallback ihBranches ihFallback =>
    have htable : Pool.Meets (Pool.emitAll compileBranch · branches)
        (branches.flatMap fun b => b.2.allRules.flatMap Rule.uses) :=
      .all fun b hb => (ihBranches b hb).map (Prod.mk (Text.lowerCase b.1))
    simp only [compile, compileBranches_eq, allRules, rulesIn_eq, List.flatMap_append,
      List.flatMap_assoc]
    exact htable.seq ihFallback (Program.Step.dispatch property)

/-- The pool of a compiled rule set holds the first uses of what a walk meets. -/
theorem RuleSet.holds_compile (s : RuleSet) : s.compile.pool.Holds s.uses := by
  have hrules : (s.rules.compile .empty).2.Holds (s.rules.allRules.flatMap Rule.uses) :=
    s.rules.meets_compile _ _ Pool.holds_empty
  cases hdefault : s.default? with
  | none =>
    simp only [compile, uses, hdefault, Option.toList_none, List.map_nil, List.append_nil]
    exact hrules
  | some v =>
    simp only [compile, uses, hdefault, Option.toList_some, List.map_cons, List.map_nil]
    exact Pool.meets_literal v _ _ hrules

theorem RuleSet.stats_compile (s : RuleSet) :
    s.compile.pool.stats = ⟨(firstUses s.literals).length, (firstUses s.weightedTables).length,
      (firstUses s.uniformTables).length⟩ := by
  obtain ⟨hliterals, hweighted, huniform⟩ := s.holds_compile
  rw [Pool.stats, Interner.size, Interner.size, Interner.size, ← Array.length_toList,
    ← Array.length_toList, ← Array.length_toList, hliterals, hweighted, huniform]
  rfl

/-- A rule set without faults has a program. -/
theorem RuleSet.program_of_valid {s : RuleSet} (valid : s.validate = .ok ()) :
    s.program = .ok s.compile := by
  rw [program, valid]
  rfl

/-- **Pools hold first uses**: the program of a rule set without faults has a pool whose three tables
are the literals, the weighted tables and the uniform tables that a walk of the rule set meets, in
order and without those that repeat an earlier one verbatim; its numbers of entries are the lengths of
the three. -/
theorem pool_holds_first_uses {s : RuleSet} (valid : s.validate = .ok ()) :
    ∃ p, s.program = .ok p
      ∧ p.pool.literals.entries.toList = firstUses s.literals
      ∧ p.pool.weighted.entries.toList = firstUses s.weightedTables
      ∧ p.pool.uniform.entries.toList = firstUses s.uniformTables
      ∧ p.pool.stats = ⟨(firstUses s.literals).length, (firstUses s.weightedTables).length,
          (firstUses s.uniformTables).length⟩ := by
  obtain ⟨hliterals, hweighted, huniform⟩ := s.holds_compile
  exact ⟨s.compile, s.program_of_valid valid, hliterals, hweighted, huniform, s.stats_compile⟩

/-- A rule set that repeats a string, an array, a number and a weighted table, and that has one number
with two scales. -/
def RuleSet.repeating : RuleSet where
  rules := .partition "country"
    [("IL", .list
      [⟨.all [.property "plan" (.oneOf [.string "pro", .string "team"] none),
          .property "name" (.any [.startsWith "pro", .not (.endsWith "pro")])],
        .single (.number .shortOne)⟩,
      ⟨.property "score" (.compare .greater (.number .longOne) none),
        .weighted "user" "exp" [(.string "pro", 1), (.number .longOne, 2)]⟩])]
    (.list
      [⟨.property "tags" (.contains (.array [.string "pro", .string "team"]) none),
        .weighted "device" "seed" [(.string "pro", 1), (.number .longOne, 2)]⟩,
      ⟨.always, .uniform "user" "exp" [.string "pro", .null]⟩])
  default? := some (.number .shortOne)

/-- Seven literals are met, and four of them are first uses. -/
theorem pool_holds_first_uses_of_repeating :
    RuleSet.repeating.validate = .ok ()
      ∧ ∃ p, RuleSet.repeating.program = .ok p
        ∧ p.pool.literals.entries.toList = [.array [.string "pro", .string "team"],
            .string "pro", .number .shortOne, .number .longOne]
        ∧ p.pool.weighted.entries.toList = [[(.string "pro", 1), (.number .longOne, 2)]]
        ∧ p.pool.uniform.entries.toList = [[.string "pro", .null]]
        ∧ p.pool.stats = ⟨4, 1, 1⟩ :=
  ⟨rfl, pool_holds_first_uses rfl⟩

/-- A rule set with a zero and a negative zero. -/
def RuleSet.zeros : RuleSet where
  rules := .list [⟨.always, .single (.number (.zero false))⟩]
  default? := some (.number (.zero true))

/-- A zero and a negative zero have the same mantissa and the same scale, and yet both are literals of
the pool: neither repeats the other. -/
theorem pool_holds_both_zeros :
    Decimal.ofText? "0.0000000000000000000000000000" = some (.zero false)
      ∧ Decimal.ofText? "-0.4e-28" = some (.zero true)
      ∧ (Decimal.zero true).signed = (Decimal.zero false).signed
      ∧ (Decimal.zero true).scale = (Decimal.zero false).scale
      ∧ RuleSet.zeros.validate = .ok ()
      ∧ RuleSet.zeros.literals = [.number (.zero false), .number (.zero true)]
      ∧ ∃ p, RuleSet.zeros.program = .ok p
        ∧ p.pool.literals.entries.toList = [.number (.zero false), .number (.zero true)]
        ∧ p.pool.stats = ⟨2, 0, 0⟩ := by
  refine ⟨by decide, by decide, by decide, rfl, rfl, rfl, RuleSet.zeros.compile, ?_, ?_, ?_⟩
  · exact RuleSet.program_of_valid rfl
  · exact RuleSet.zeros.holds_compile.literals
  · exact RuleSet.zeros.stats_compile

end Rollout
