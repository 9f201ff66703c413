import Rollout.Proofs.Assembly
import Rollout.Proofs.Compilation
import Rollout.Proofs.Decimal
import Rollout.Proofs.LowerForms
import Rollout.Proofs.Verbatim

/-!
# Branches under the text of a value

A partition goes by the text of a value, in which a number is in normal form: 1 and 1.00 are one
value, so they take one branch. A branch under the text of a value is therefore taken by that value,
and a branch under what is shown for a number is taken by it exactly if the number is shown in
normal form.
-/

namespace Rollout

/-! ## Texts and keys -/

/-- How a scalar is shown, a string without quotes. The null value and arrays have no such text. -/
def Value.shown? : Value → Option String
  | .null | .array _ => none
  | .string s => some s
  | v => some v.display

/-- The value is not a number or is one in normal form. -/
def Value.Normal : Value → Prop
  | .number d => d.Reduced
  | _ => True

theorem Decimal.normalize_eq_self_iff {d : Decimal} : d.normalize = d ↔ d.Reduced := by
  constructor
  · intro h
    rw [← h]
    exact d.reduced_normalize
  · exact fun h => d.reduced_normalize.eq h d.toRat_normalize

/-- The text of a decimal is made of digits, a point and a sign. -/
theorem Decimal.toNat_le_of_mem_text {d : Decimal} {c : Char} (h : c ∈ d.text.toList) :
    c.toNat ≤ 0x39 := by
  rw [text, String.toList_ofList] at h
  rcases List.mem_append.mp h with h | h
  · cases hsign : d.negative with
    | false => simp [hsign] at h
    | true =>
      obtain rfl : c = '-' := by simpa [hsign] using h
      decide
  · by_cases hpoint : c = '.'
    · rw [hpoint]
      decide
    · have hdigits : c ∈ padDigits (d.scale + 1) d.magnitude := by
        rw [← filter_pointed]
        exact List.mem_filter.mpr ⟨h, bne_iff_ne.mpr hpoint⟩
      exact (Char.isDigit_iff_toNat.mp (isDigit_of_mem_padDigits hdigits)).2

/-- So it has no letters. -/
theorem Decimal.lowerCase_text (d : Decimal) : Text.lowerCase d.text = d.text := by
  have hruns : ∀ r ∈ Text.lowerRuns, 0x39 < r.first := by decide +kernel
  have hspecials : ∀ e ∈ Text.lowerSpecials, 0x39 < e.1 := by decide +kernel
  refine Text.lowerCase_eq_self fun c hc => ?_
  have hlast : c.toNat ≤ 0x39 := toNat_le_of_mem_text hc
  exact Text.caseForm_of_unreached (fun r hr => .inl (Nat.lt_of_le_of_lt hlast (hruns r hr)))
    fun e he => Nat.lt_of_le_of_lt hlast (hspecials e he)

theorem Value.partitionKey?_of_text {v : Value} {key : String} (h : v.text? = some key) :
    v.partitionKey? = some (Text.lowerCase key) := by
  rw [partitionKey?, h]
  rfl

/-- The key of a value is that of what is shown for it if the value is in normal form. -/
theorem Value.partitionKey?_of_shown {v : Value} {key : String} (h : v.shown? = some key) :
    v.partitionKey? = some (Text.lowerCase key) ↔ v.Normal := by
  cases v with
  | null => exact absurd h nofun
  | array items => exact absurd h nofun
  | number d =>
    obtain rfl : d.text = key := Option.some.inj h
    show some (Text.lowerCase d.normalize.text) = _ ↔ d.Reduced
    rw [d.lowerCase_text, d.normalize.lowerCase_text, Option.some.injEq, Decimal.text_inj,
      Decimal.normalize_eq_self_iff]
  | _ => exact iff_of_true (partitionKey?_of_text h) trivial

/-! ## A partition with one branch -/

namespace RuleTree

/-- A partition with one branch goes on with that branch if the value of its property has the key of
it, and with its fallback otherwise. -/
theorem next_single {lookup : Lookup} {property : String} {v : Value}
    (holds : lookup property = some v) (key : String) (branch fallback : RuleTree) :
    next lookup property [(key, branch)] fallback
      = if v.partitionKey? = some (Text.lowerCase key) then branch else fallback := by
  rw [next, holds, Option.bind_some]
  cases v.partitionKey? with
  | none => rfl
  | some k =>
    rw [Option.bind_some, branch?]
    simp only [Option.some.injEq, eq_comm (a := k)]
    split <;> rfl

end RuleTree

/-- In a context with a value for its property, a rule set that is one partition with one branch
asks for the property and then comes to what its branch, or its fallback, comes to by itself. -/
theorem RuleSet.eval_single {s : RuleSet} {property key : String} {branch fallback : RuleTree}
    (hrules : s.rules = .partition property [(key, branch)] fallback) (settings : Settings)
    {lookup : Lookup} {v : Value} (holds : lookup property = some v) :
    s.eval settings lookup = Inquiry.ask lookup property >>= fun _ =>
      RuleSet.eval settings lookup { s with
        rules := if v.partitionKey? = some (Text.lowerCase key) then branch else fallback } := by
  rw [eval_eq, hrules, RuleTree.eval_partition, RuleTree.next_single holds, map_bind]
  rfl

/-! ## Describing a partition with one branch -/

/-- The calls that describe a block by itself, with the defaults that the calls set. -/
def ScriptCall.alone (calls : List ScriptCall) (block : List BlockCall) : List ScriptCall :=
  block.map .block ++ (calls.filterMap ScriptCall.default?).map .default

/-- The calls of the fallback that calls set last. Without one the fallback is empty. -/
def PartitionCall.lastFallback (calls : List PartitionCall) : List BlockCall :=
  (calls.filterMap PartitionCall.fallback?).getLast?.getD []

/-- A block that has nothing to refuse and no fault can be described by itself. -/
theorem Describes.ofScript_alone {block : List BlockCall} {o : Outline} (h : Describes block o)
    (calls : List ScriptCall) (faultless : ∀ e ∈ o.entries, Faultless Entry.Fault e)
    (wf : o.tree.WellFormed) :
    RuleSet.ofScript (ScriptCall.alone calls block) = .ok (o.ruleSet calls)
      ∧ (o.ruleSet calls).validate = .ok () := by
  have hblock : (ScriptCall.alone calls block).filterMap ScriptCall.block? = block := by
    simp [ScriptCall.alone, List.filterMap_map, Function.comp_def, ScriptCall.block?]
  have hdefault : (ScriptCall.alone calls block).filterMap ScriptCall.default?
      = calls.filterMap ScriptCall.default? := by
    simp [ScriptCall.alone, List.filterMap_map, Function.comp_def, ScriptCall.default?]
  have hvalid : (o.ruleSet calls).validate = .ok () := RuleSet.validate_of_wellFormed wf
  have hsame : o.ruleSet (ScriptCall.alone calls block) = o.ruleSet calls := by
    rw [Outline.ruleSet, hdefault, Outline.ruleSet]
  refine ⟨?_, hvalid⟩
  rw [Describes.ofScript_of_faultless (hblock.symm ▸ h) faultless, hsame, hvalid]
  rfl

/-- The outline of a partition with one branch. -/
theorem Describes.of_single {property key : String} {inner : List PartitionCall}
    {branch : List BlockCall} {o : Outline}
    (single : inner.filterMap PartitionCall.branch? = [(key, branch)])
    (h : Describes [.partition property inner] o) :
    ∃ taken missed, Describes branch taken ∧ Describes (PartitionCall.lastFallback inner) missed
      ∧ o = .partition property [(Text.lowerCase key, taken)] missed := by
  cases h with
  | list none => exact absurd none nofun
  | mixed rules _ => exact absurd rfl rules
  | partition _ last inBranches inFallback =>
    cases last
    rw [single] at inBranches
    cases inBranches with
    | cons first others =>
      cases others
      exact ⟨_, _, first, inFallback, rfl⟩

/-- If a partition with one branch is all that calls describe, then the branch and the fallback can
be described by themselves, and they make up the rule set. -/
theorem RuleSet.ofScript_single {calls : List ScriptCall} {property key : String}
    {inner : List PartitionCall} {branch : List BlockCall} {s : RuleSet}
    (root : calls.filterMap ScriptCall.block? = [.partition property inner])
    (single : inner.filterMap PartitionCall.branch? = [(key, branch)])
    (built : RuleSet.ofScript calls = .ok s) :
    ∃ t u, RuleSet.ofScript (ScriptCall.alone calls branch) = .ok t
      ∧ RuleSet.ofScript (ScriptCall.alone calls (PartitionCall.lastFallback inner)) = .ok u
      ∧ s.validate = .ok () ∧ t.validate = .ok () ∧ u.validate = .ok ()
      ∧ s.rules = .partition property [(Text.lowerCase key, t.rules)] u.rules
      ∧ t.default? = s.default? ∧ u.default? = s.default? := by
  obtain ⟨o, h⟩ := exists_describes (calls.filterMap ScriptCall.block?)
  obtain ⟨taken, missed, htaken, hmissed, rfl⟩ := Describes.of_single single (root ▸ h)
  rw [h.ofScript_eq] at built
  obtain ⟨after, hwalk, hcheck⟩ := bind_eq_ok built
  have faultless := Entry.inspects.faultless_of_foldlM hwalk
  cases hvalid : (Outline.ruleSet _ calls).validate with
  | error fault =>
    rw [hvalid] at hcheck
    cases hcheck
  | ok =>
    rw [hvalid] at hcheck
    cases hcheck
    cases RuleSet.wellFormed hvalid with
    | partition _ _ inBranches inFallback =>
      obtain ⟨ht, htvalid⟩ := htaken.ofScript_alone calls
        (fun e he => faultless e (List.mem_append_left _ (List.mem_append_left _ he)))
        (inBranches _ List.mem_cons_self)
      obtain ⟨hu, huvalid⟩ := hmissed.ofScript_alone calls
        (fun e he => faultless e (List.mem_append_right _ he)) inFallback
      exact ⟨_, _, ht, hu, hvalid, htvalid, huvalid, rfl, rfl, rfl⟩

/-! ## Fixed values -/

/-- Describes a partition with one branch, the branch and the fallback each with a fixed value. -/
def fixedBranchCalls (property key : String) (x y : Value) : List ScriptCall :=
  [.block (.partition property [.branchValue key x, .fallback [.rule [.value (.single y)]]])]

/-- The rule set that these calls describe. -/
def RuleSet.fixedBranch (property key : String) (x y : Value) : RuleSet where
  rules := .partition property [(Text.lowerCase key, .list [⟨.all [], .single x⟩])]
    (.list [⟨.all [], .single y⟩])
  default? := none

section

variable {property : String} (key : String) (x y : Value)

theorem RuleSet.ofScript_fixedBranch (named : property ≠ "") :
    RuleSet.ofScript (fixedBranchCalls property key x y) = .ok (.fixedBranch property key x y)
      ∧ (RuleSet.fixedBranch property key x y).validate = .ok () := by
  have hvalid : (RuleSet.fixedBranch property key x y).validate = .ok () := by
    simp only [validate, fixedBranch, RuleTree.check, if_neg named]
    rfl
  have h : Describes ((fixedBranchCalls property key x y).filterMap ScriptCall.block?)
      (.partition property [(Text.lowerCase key, .list [[.value (.single x)]])]
        (.list [[.value (.single y)]])) :=
    .partition rfl rfl (.cons (.list rfl) .nil) (.list rfl)
  have hbuilt : RuleSet.ofScript (fixedBranchCalls property key x y)
      = (RuleSet.fixedBranch property key x y).validate.map
        fun _ => .fixedBranch property key x y :=
    h.ofScript_eq
  refine ⟨?_, hvalid⟩
  rw [hbuilt, hvalid]
  rfl

theorem RuleSet.eval_fixedBranch (settings : Settings) {lookup : Lookup} {v : Value}
    (holds : lookup property = some v) :
    (RuleSet.fixedBranch property key x y).eval settings lookup =
      ⟨.ok (some (if v.partitionKey? = some (Text.lowerCase key) then x else y)), [property]⟩ := by
  rw [eval_single rfl settings holds, Text.lowerCase_lowerCase]
  split <;> rfl

end

/-! ## Which way a value goes -/

/-- In a context, an evaluator asks for a property and then goes on as another one does. -/
structure Evaluator.GoesOnAs (evaluator other : Evaluator) (property : String) (lookup : Lookup) :
    Prop where
  answer : (evaluator lookup).answer = (other lookup).answer
  keys : (evaluator lookup).keys = property :: (other lookup).keys

/-- How the evaluator of a partition with one branch, under `key`, treats the values of its
property, told by the evaluators of the branch and of the fallback by themselves. -/
structure GoesByText (property key : String) (evaluator taken missed : Evaluator) : Prop where
  /-- A value takes the branch if the key is its text, which is in normal form for a number. -/
  text : ∀ lookup v, lookup property = some v → v.text? = some key →
    evaluator.GoesOnAs taken property lookup
  /-- It takes the branch if the key is what is shown for it, unless it is a number that is not in
  normal form. -/
  normal : ∀ lookup v, lookup property = some v → v.shown? = some key → v.Normal →
    evaluator.GoesOnAs taken property lookup
  /-- Such a number takes the fallback. -/
  otherwise : ∀ lookup v, lookup property = some v → v.shown? = some key → ¬v.Normal →
    evaluator.GoesOnAs missed property lookup

/-- In a context with a value for its property, the evaluator of a partition with one branch goes on
as that of the branch or as that of the fallback, by the key of the value. -/
theorem RuleSet.goesOnAs_of_single {s t u : RuleSet} {property key : String} (settings : Settings)
    (hrules : s.rules = .partition property [(Text.lowerCase key, t.rules)] u.rules)
    (htdefault : t.default? = s.default?) (hudefault : u.default? = s.default?)
    {lookup : Lookup} {v : Value} (holds : lookup property = some v) :
    Evaluator.GoesOnAs (s.eval settings)
      (if v.partitionKey? = some (Text.lowerCase key) then t.eval settings else u.eval settings)
      property lookup := by
  have heval : s.eval settings lookup = Inquiry.ask lookup property >>= fun _ =>
      (if v.partitionKey? = some (Text.lowerCase key) then t.eval settings else u.eval settings)
        lookup := by
    rw [s.eval_single hrules settings holds, Text.lowerCase_lowerCase]
    split
    · rw [← htdefault]
    · rw [← hudefault]
  rw [Inquiry.ask_bind] at heval
  constructor <;> rw [heval]

theorem goesByText_of_single {s t u : RuleSet} {property key : String} (settings : Settings)
    (hrules : s.rules = .partition property [(Text.lowerCase key, t.rules)] u.rules)
    (htdefault : t.default? = s.default?) (hudefault : u.default? = s.default?) :
    GoesByText property key (s.eval settings) (t.eval settings) (u.eval settings) := by
  constructor
  case text =>
    intro lookup v holds htext
    have h := RuleSet.goesOnAs_of_single settings hrules htdefault hudefault holds
    rwa [if_pos (Value.partitionKey?_of_text htext)] at h
  case normal =>
    intro lookup v holds hshown hnormal
    have h := RuleSet.goesOnAs_of_single settings hrules htdefault hudefault holds
    rwa [if_pos ((Value.partitionKey?_of_shown hshown).mpr hnormal)] at h
  case otherwise =>
    intro lookup v holds hshown hnormal
    have h := RuleSet.goesOnAs_of_single settings hrules htdefault hudefault holds
    rwa [if_neg (mt (Value.partitionKey?_of_shown hshown).mp hnormal)] at h

/-- **A value takes the branch under its own text**: if a rule set is described as a partition with
one branch, then on either backend and in every context a value of the property whose text is the
key of the branch takes it, and a value that is shown as the key takes it unless it is a number that
is not shown in normal form. -/
theorem own_text_takes_branch {calls : List ScriptCall} {property key : String}
    {inner : List PartitionCall} {branch : List BlockCall} {s : RuleSet}
    (root : calls.filterMap ScriptCall.block? = [.partition property inner])
    (single : inner.filterMap PartitionCall.branch? = [(key, branch)])
    (built : RuleSet.ofScript calls = .ok s) :
    ∃ t u, RuleSet.ofScript (ScriptCall.alone calls branch) = .ok t
      ∧ RuleSet.ofScript (ScriptCall.alone calls (PartitionCall.lastFallback inner)) = .ok u
      ∧ ∀ (settings : Settings) (backend : Backend), ∃ evaluator taken missed,
        settings.evaluator backend s = .ok evaluator
          ∧ settings.evaluator backend t = .ok taken ∧ settings.evaluator backend u = .ok missed
          ∧ GoesByText property key evaluator taken missed := by
  obtain ⟨t, u, ht, hu, hvalid, htvalid, huvalid, hrules, htdefault, hudefault⟩ :=
    RuleSet.ofScript_single root single built
  refine ⟨t, u, ht, hu, fun settings backend => ?_⟩
  exact ⟨_, _, _, settings.evaluator_of_valid backend hvalid,
    settings.evaluator_of_valid backend htvalid, settings.evaluator_of_valid backend huvalid,
    goesByText_of_single settings hrules htdefault hudefault⟩

theorem own_text_takes_branch_of_price :
    ∃ t u,
      RuleSet.ofScript (ScriptCall.alone
        (fixedBranchCalls "price" "1" (.string "branch") (.string "fallback"))
        [.rule [.value (.single (.string "branch"))]]) = .ok t
      ∧ RuleSet.ofScript (ScriptCall.alone
        (fixedBranchCalls "price" "1" (.string "branch") (.string "fallback"))
        [.rule [.value (.single (.string "fallback"))]]) = .ok u
      ∧ ∀ (settings : Settings) (backend : Backend), ∃ evaluator taken missed,
        settings.evaluator backend
            (.fixedBranch "price" "1" (.string "branch") (.string "fallback")) = .ok evaluator
          ∧ settings.evaluator backend t = .ok taken ∧ settings.evaluator backend u = .ok missed
          ∧ GoesByText "price" "1" evaluator taken missed :=
  own_text_takes_branch rfl rfl (RuleSet.ofScript_fixedBranch _ _ _ (by decide)).1

/-- A number with a zero at its end does not take the branch under what is shown for it. -/
theorem shown_number_misses_branch :
    (Value.number .longOne).shown? = some "1.00"
      ∧ RuleSet.ofScript (fixedBranchCalls "price" "1.00" (.string "branch") (.string "fallback"))
        = .ok (.fixedBranch "price" "1.00" (.string "branch") (.string "fallback"))
      ∧ ∀ (settings : Settings) (backend : Backend), ∃ evaluator,
        settings.evaluator backend
            (.fixedBranch "price" "1.00" (.string "branch") (.string "fallback")) = .ok evaluator
          ∧ ∀ lookup, lookup "price" = some (.number .longOne) →
            (evaluator lookup).answer = .ok (some (.string "fallback")) := by
  have hshown : (Value.number .longOne).shown? = some "1.00" := rfl
  have hnormal : ¬(Value.number .longOne).Normal := by
    rintro ⟨hlast, -⟩
    exact absurd hlast (by decide)
  obtain ⟨hbuilt, hvalid⟩ := RuleSet.ofScript_fixedBranch "1.00" (.string "branch")
    (.string "fallback") (by decide : "price" ≠ "")
  refine ⟨hshown, hbuilt, fun settings backend => ?_⟩
  refine ⟨_, settings.evaluator_of_valid backend hvalid, fun lookup holds => ?_⟩
  rw [RuleSet.eval_fixedBranch _ _ _ settings holds,
    if_neg (mt (Value.partitionKey?_of_shown hshown).mp hnormal)]

end Rollout
