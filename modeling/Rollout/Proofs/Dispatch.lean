import Rollout.Proofs.FoldedTests
import Rollout.Proofs.OwnKeys

/-!
# Branches and equality tests

A partition takes the branch for a text by the lower-case forms of whole texts, and an equality test
goes by the upper-case forms of single characters. The two agree as long as the texts are in step:
going along both, the first characters that do not have the same forms have forms that tell the
texts apart in either case. They disagree on texts like Straße and STRASSE, which have the same
upper-case form but not the same lower-case form.
-/

namespace Rollout

/-! ## Lower case, one character at a time -/

namespace Text

/-- The text with a small sigma for each capital one, as lower-casing chooses it. It follows
`before`, which is read backwards. -/
def settleAfter (before : List Char) : List Char → List Char
  | [] => []
  | c :: after =>
    (if c = 'Σ' then lowerSigma before after else c) :: settleAfter (c :: before) after

/-- The characters of a text with the capital sigmas settled. -/
def settle (s : String) : List Char :=
  settleAfter [] s.toList

theorem flatMap_lower_settleAfter (before l : List Char) :
    (settleAfter before l).flatMap lower = lowerAfter before l := by
  induction l generalizing before with
  | nil => rfl
  | cons c after ih =>
    rw [settleAfter, List.flatMap_cons, ih, lowerAfter]
    split
    · rw [lower_lowerSigma]
    · rfl

theorem upper_lowerSigma (before after : List Char) :
    upper (lowerSigma before after) = upper 'Σ' := by
  rw [lowerSigma]
  split <;> decide +kernel

theorem flatMap_upper_settleAfter (before l : List Char) :
    (settleAfter before l).flatMap upper = l.flatMap upper := by
  induction l generalizing before with
  | nil => rfl
  | cons c after ih =>
    rw [settleAfter, List.flatMap_cons, ih, List.flatMap_cons]
    split
    · rename_i hsigma
      rw [hsigma, upper_lowerSigma]
    · rfl

theorem settleAfter_eq_self {before l : List Char} (h : ∀ c ∈ l, c ≠ 'Σ') :
    settleAfter before l = l := by
  induction l generalizing before with
  | nil => rfl
  | cons c after ih =>
    obtain ⟨hc, hafter⟩ := List.forall_mem_cons.mp h
    rw [settleAfter, if_neg hc, ih hafter]

/-- Once the sigmas are settled, both forms of a text are made up of those of its characters. -/
theorem flatMap_lower_settle (s : String) : (settle s).flatMap lower = (lowerCase s).toList := by
  rw [settle, flatMap_lower_settleAfter, lowerCase, String.toList_ofList]

theorem flatMap_upper_settle (s : String) : (settle s).flatMap upper = fold s :=
  flatMap_upper_settleAfter [] s.toList

/-! ## Texts in step -/

/-- The forms differ before either of them ends. -/
def Apart (l m : List Char) : Prop :=
  ¬l <+: m ∧ ¬m <+: l

/-- The first characters of the texts that do not have the same forms have forms that differ, in
lower case and in upper case, before either of them ends. -/
def InStep : List Char → List Char → Prop
  | c :: l, d :: m =>
    (lower c = lower d ∧ upper c = upper d ∧ InStep l m)
      ∨ (Apart (lower c) (lower d) ∧ Apart (upper c) (upper d))
  | _, _ => True

instance (l m : List Char) : Decidable (Apart l m) :=
  inferInstanceAs (Decidable (¬l <+: m ∧ ¬m <+: l))

instance decidableInStep : (l m : List Char) → Decidable (InStep l m)
  | c :: l, d :: m =>
    have := decidableInStep l m
    inferInstanceAs (Decidable ((lower c = lower d ∧ upper c = upper d ∧ InStep l m)
      ∨ (Apart (lower c) (lower d) ∧ Apart (upper c) (upper d))))
  | [], _ => isTrue trivial
  | _ :: _, [] => isTrue trivial

theorem Apart.append_ne {l m : List Char} (h : Apart l m) (r q : List Char) : l ++ r ≠ m ++ q := by
  intro heq
  have hl : l <+: m ++ q := heq ▸ List.prefix_append l r
  rcases List.prefix_or_prefix_of_prefix hl (List.prefix_append m q) with hlm | hml
  · exact h.1 hlm
  · exact h.2 hml

theorem caseForm_ne_nil {runs : List CaseRun} {specials : List (Nat × List Nat)}
    (h : ∀ e ∈ specials, e.2 ≠ []) (c : Char) : caseForm runs specials c ≠ [] := by
  rw [caseForm]
  split
  · exact List.cons_ne_nil _ _
  · split
    · rename_i ns hspecial
      obtain ⟨before, after, rfl, -⟩ := List.lookup_eq_some_iff.mp hspecial
      exact mt List.map_eq_nil_iff.mp (h _ (List.mem_append_right _ List.mem_cons_self))
    · exact List.cons_ne_nil _ _

theorem lower_ne_nil (c : Char) : lower c ≠ [] :=
  caseForm_ne_nil (by decide +kernel) c

theorem upper_ne_nil (c : Char) : upper c ≠ [] :=
  caseForm_ne_nil (by decide +kernel) c

/-- Texts in step have the same lower-case forms if they have the same upper-case forms, and only
then. -/
theorem InStep.flatMap_lower_iff {l m : List Char} (h : InStep l m) :
    l.flatMap lower = m.flatMap lower ↔ l.flatMap upper = m.flatMap upper := by
  induction l generalizing m with
  | nil =>
    cases m with
    | nil => exact iff_of_true rfl rfl
    | cons d m => simp [lower_ne_nil, upper_ne_nil, List.nil_eq]
  | cons c l ih =>
    cases m with
    | nil => simp [lower_ne_nil, upper_ne_nil]
    | cons d m =>
      rw [List.flatMap_cons, List.flatMap_cons, List.flatMap_cons, List.flatMap_cons]
      rcases h with ⟨hlower, hupper, hrest⟩ | ⟨hlower, hupper⟩
      · rw [hlower, hupper, List.append_cancel_left_eq, List.append_cancel_left_eq]
        exact ih hrest
      · exact iff_of_false (hlower.append_ne _ _) (hupper.append_ne _ _)

/-! ## Characters of plain case -/

/-- The character has one character for each of its forms, and these are the forms of each other.
The capital sigma, whose small form depends on its place, is left out. -/
structure Plain (c : Char) : Prop where
  sigma : c ≠ 'Σ'
  lower : (lower c).length = 1
  upper : (upper c).length = 1
  upper_lower : (Text.lower c).flatMap Text.upper = Text.upper c
  lower_upper : (Text.upper c).flatMap Text.lower = Text.lower c

/-- In tables whose first run alone reaches ASCII, that run decides on the characters of ASCII. -/
theorem caseForm_of_ascii {r : CaseRun} {runs : List CaseRun} {specials : List (Nat × List Nat)}
    {f : Char → Char} (hruns : ∀ q ∈ runs, 127 < q.first) (hspecials : ∀ e ∈ specials, 127 < e.1)
    (hletters : ∀ n < 128, caseForm [r] [] (Char.ofNat n) = [f (Char.ofNat n)]) {c : Char}
    (h : c.toNat < 128) : caseForm (r :: runs) specials c = [f c] := by
  have hlast : c.toNat ≤ 127 := Nat.le_of_lt_succ h
  have hc := hletters c.toNat h
  rw [Char.ofNat_toNat] at hc
  rw [← hc]
  exact caseForm_of_first_run (fun q hq => hlast.trans_lt (hruns q hq))
    fun e he => hlast.trans_lt (hspecials e he)

theorem lower_of_ascii {c : Char} (h : c.toNat < 128) : lower c = [c.toLower] :=
  caseForm_of_ascii (by decide +kernel) (by decide +kernel) (by decide +kernel) h

theorem upper_of_ascii {c : Char} (h : c.toNat < 128) : upper c = [c.toUpper] :=
  caseForm_of_ascii (by decide +kernel) (by decide +kernel) (by decide +kernel) h

theorem plain_of_ascii {c : Char} (h : c.toNat < 128) : Plain c := by
  have hletters : ∀ n < 128, (Char.ofNat n).toUpper.toLower = (Char.ofNat n).toLower := by
    decide +kernel
  have hsame := hletters c.toNat h
  rw [Char.ofNat_toNat] at hsame
  have hlower := lower_of_ascii h
  have hupper := upper_of_ascii h
  constructor
  case sigma =>
    rintro rfl
    exact absurd h (by decide)
  case lower => rw [hlower, List.length_singleton]
  case upper => rw [hupper, List.length_singleton]
  case upper_lower => rw [hlower, List.flatMap_singleton, upper_toLower]
  case lower_upper =>
    rw [hupper, List.flatMap_singleton, ← lower_toLower, hsame, lower_toLower]

theorem apart_of_length {l m : List Char} (hl : l.length = 1) (hm : m.length = 1) (hne : l ≠ m) :
    Apart l m :=
  ⟨fun h => hne (h.eq_of_length (hl.trans hm.symm)),
    fun h => hne (h.eq_of_length (hm.trans hl.symm)).symm⟩

theorem Plain.lower_eq_iff {c d : Char} (hc : Plain c) (hd : Plain d) :
    Text.lower c = Text.lower d ↔ Text.upper c = Text.upper d := by
  constructor
  · intro h
    rw [← hc.upper_lower, h, hd.upper_lower]
  · intro h
    rw [← hc.lower_upper, h, hd.lower_upper]

theorem inStep_of_plain {l m : List Char} (hl : ∀ c ∈ l, Plain c) (hm : ∀ c ∈ m, Plain c) :
    InStep l m := by
  induction l generalizing m with
  | nil => exact trivial
  | cons c l ih =>
    cases m with
    | nil => exact trivial
    | cons d m =>
      obtain ⟨hc, hl⟩ := List.forall_mem_cons.mp hl
      obtain ⟨hd, hm⟩ := List.forall_mem_cons.mp hm
      by_cases hlower : lower c = lower d
      · exact .inl ⟨hlower, (hc.lower_eq_iff hd).mp hlower, ih hl hm⟩
      · have hupper : upper c ≠ upper d := mt (hc.lower_eq_iff hd).mpr hlower
        exact .inr ⟨apart_of_length hc.lower hd.lower hlower,
          apart_of_length hc.upper hd.upper hupper⟩

theorem InStep.lowerCase_iff {s t : String} (h : InStep (settle s) (settle t)) :
    lowerCase s = lowerCase t ↔ fold s = fold t := by
  rw [← String.toList_inj, ← flatMap_lower_settle, ← flatMap_lower_settle, h.flatMap_lower_iff,
    flatMap_upper_settle, flatMap_upper_settle]

theorem inStep_settle_of_plain {s t : String} (hs : ∀ c ∈ s.toList, Plain c)
    (ht : ∀ c ∈ t.toList, Plain c) : InStep (settle s) (settle t) := by
  rw [settle, settle, settleAfter_eq_self fun c hc => (hs c hc).sigma,
    settleAfter_eq_self fun c hc => (ht c hc).sigma]
  exact inStep_of_plain hs ht

end Text

/-! ## A rule with an equality test -/

/-- Describes a rule with a fixed value where a property equals a text, and a default. -/
def equalityCalls (property key : String) (x y : Value) : List ScriptCall :=
  [.block (.rule [.when (Property.compare ⟨property, none⟩ .equal (.string key)),
    .value (.single x)]), .default y]

/-- The rule set that these calls describe. -/
def RuleSet.equality (property key : String) (x y : Value) : RuleSet where
  rules := .list [⟨.all [.property property (.compare .equal (.string key) none)], .single x⟩]
  default? := some y

section

variable (property key : String) (x y : Value)

theorem RuleSet.ofScript_equality :
    RuleSet.ofScript (equalityCalls property key x y) = .ok (.equality property key x y)
      ∧ (RuleSet.equality property key x y).validate = .ok () := by
  have h : Describes ((equalityCalls property key x y).filterMap ScriptCall.block?)
      (.list [[.when (Property.compare ⟨property, none⟩ .equal (.string key)),
        .value (.single x)]]) :=
    .list rfl
  exact ⟨h.ofScript_eq, rfl⟩

theorem RuleSet.eval_equality (settings : Settings) {lookup : Lookup} {text : String}
    (holds : lookup property = some (.string text)) :
    (RuleSet.equality property key x y).eval settings lookup
      = ⟨.ok (some (if Text.fold text = Text.fold key then x else y)), [property]⟩ := by
  have hrule : Rule.eval settings lookup
      ⟨.all [.property property (.compare .equal (.string key) none)], .single x⟩
      = ⟨.ok (if Text.fold text = Text.fold key then some x else none), [property]⟩ := by
    rw [Rule.eval, Matcher.eval, Matcher.evalAll, Matcher.eval, Inquiry.ask_bind, holds,
      Condition.eval, compareWith_equal_texts]
    by_cases hfold : Text.fold text = Text.fold key
    · rw [decide_eq_true hfold, if_pos hfold]
      rfl
    · rw [decide_eq_false hfold, if_neg hfold]
      rfl
  rw [eval_eq, equality, RuleTree.eval, evalRules_eq, Inquiry.firstOf, hrule]
  split <;> rfl

end

/-! ## Side by side -/

/-- How a partition with one branch, under `key`, and a rule with an equality test for `key` treat a
text, if they have the same two values. -/
structure DispatchBesideTest (registry : Registry) (key text : String) (x y : Value)
    (dispatched tested : Except EvalError (Option Value)) : Prop where
  /-- The branch is taken if the lower-case forms are the same. -/
  branch : dispatched = .ok (some (if Text.lowerCase text = Text.lowerCase key then x else y))
  /-- The test accepts the text if the folded forms are the same, -/
  compared : compareWith registry none .equal (.string key) (some (.string text))
    = .ok (decide (Text.fold text = Text.fold key))
  /-- and then the rule applies. -/
  rule : tested = .ok (some (if Text.fold text = Text.fold key then x else y))
  /-- They come to the same if the texts are in step, -/
  inStep : Text.InStep (Text.settle text) (Text.settle key) → dispatched = tested
  /-- in particular if their characters are plain, -/
  plain : (∀ c ∈ text.toList, Text.Plain c) → (∀ c ∈ key.toList, Text.Plain c) →
    dispatched = tested
  /-- as those of ASCII are. -/
  ascii : (∀ c ∈ text.toList, c.toNat < 128) → (∀ c ∈ key.toList, c.toNat < 128) →
    dispatched = tested

theorem dispatchBesideTest (settings : Settings) {property : String} (key : String) (x y : Value)
    {lookup : Lookup} {text : String} (holds : lookup property = some (.string text)) :
    DispatchBesideTest settings.registry key text x y
      ((RuleSet.fixedBranch property key x y).eval settings lookup).answer
      ((RuleSet.equality property key x y).eval settings lookup).answer := by
  have hbranch := RuleSet.eval_fixedBranch key x y settings holds
  simp only [Value.partitionKey?_of_text (rfl : (Value.string text).text? = some text),
    Option.some.injEq] at hbranch
  have hrule := RuleSet.eval_equality property key x y settings holds
  rw [hbranch, hrule]
  have hsame (h : Text.InStep (Text.settle text) (Text.settle key)) :
      Except.ok (some (if Text.lowerCase text = Text.lowerCase key then x else y))
        = (Except.ok (some (if Text.fold text = Text.fold key then x else y))
          : Except EvalError (Option Value)) := by
    simp only [h.lowerCase_iff]
  constructor
  case branch => rfl
  case compared => exact compareWith_equal_texts settings.registry text key
  case rule => rfl
  case inStep => exact hsame
  case plain => exact fun htext hkey => hsame (Text.inStep_settle_of_plain htext hkey)
  case ascii =>
    exact fun htext hkey => hsame (Text.inStep_settle_of_plain
      (fun c hc => Text.plain_of_ascii (htext c hc)) fun c hc => Text.plain_of_ascii (hkey c hc))

/-- **A branch and an equality test on texts**: a rule set with one branch for a text takes it for
the texts of the same lower-case form, a rule with an equality test applies to the texts of the same
folded form, and on texts in step they come to the same. -/
theorem dispatch_beside_test {property : String} (named : property ≠ "") (key : String)
    (x y : Value) :
    ∃ s t, RuleSet.ofScript (fixedBranchCalls property key x y) = .ok s
      ∧ RuleSet.ofScript (equalityCalls property key x y) = .ok t
      ∧ ∀ (settings : Settings) (backend : Backend), ∃ dispatch test,
        settings.evaluator backend s = .ok dispatch ∧ settings.evaluator backend t = .ok test
          ∧ ∀ lookup text, lookup property = some (.string text) →
            DispatchBesideTest settings.registry key text x y (dispatch lookup).answer
              (test lookup).answer := by
  obtain ⟨hs, hsvalid⟩ := RuleSet.ofScript_fixedBranch key x y named
  obtain ⟨ht, htvalid⟩ := RuleSet.ofScript_equality property key x y
  refine ⟨_, _, hs, ht, fun settings backend => ?_⟩
  refine ⟨_, _, settings.evaluator_of_valid backend hsvalid,
    settings.evaluator_of_valid backend htvalid, fun lookup text holds => ?_⟩
  exact dispatchBesideTest settings key x y holds

theorem dispatch_beside_test_of_street :
    "street" ≠ ""
      ∧ Text.InStep (Text.settle "STRAßE ΟΔΟΣ") (Text.settle "Straße οδος")
      ∧ ∃ s t,
        RuleSet.ofScript (fixedBranchCalls "street" "Straße οδος" (.bool true) (.bool false))
            = .ok s
        ∧ RuleSet.ofScript (equalityCalls "street" "Straße οδος" (.bool true) (.bool false))
            = .ok t
        ∧ ∀ (settings : Settings) (backend : Backend), ∃ dispatch test,
          settings.evaluator backend s = .ok dispatch ∧ settings.evaluator backend t = .ok test
            ∧ ∀ lookup text, lookup "street" = some (.string text) →
              DispatchBesideTest settings.registry "Straße οδος" text (.bool true) (.bool false)
                (dispatch lookup).answer (test lookup).answer :=
  ⟨by decide, by decide +kernel, dispatch_beside_test (by decide) _ _ _⟩

/-- An equality test for STRASSE accepts Straße, which takes no branch under STRASSE. -/
theorem street_tested_not_dispatched :
    compareWith Settings.standard.registry none .equal (.string "STRASSE") (some (.string "Straße"))
        = .ok true
      ∧ RuleSet.ofScript (fixedBranchCalls "street" "STRASSE" (.bool true) (.bool false))
        = .ok (.fixedBranch "street" "STRASSE" (.bool true) (.bool false))
      ∧ RuleSet.ofScript (equalityCalls "street" "STRASSE" (.bool true) (.bool false))
        = .ok (.equality "street" "STRASSE" (.bool true) (.bool false))
      ∧ ∀ (settings : Settings) (backend : Backend), ∃ dispatch test,
        settings.evaluator backend (.fixedBranch "street" "STRASSE" (.bool true) (.bool false))
            = .ok dispatch
          ∧ settings.evaluator backend (.equality "street" "STRASSE" (.bool true) (.bool false))
            = .ok test
          ∧ ∀ lookup, lookup "street" = some (.string "Straße") →
            (dispatch lookup).answer = .ok (some (.bool false))
              ∧ (test lookup).answer = .ok (some (.bool true)) := by
  have hfold : Text.fold "Straße" = Text.fold "STRASSE" := by decide +kernel
  have hlower : Text.lowerCase "Straße" ≠ Text.lowerCase "STRASSE" := by decide +kernel
  obtain ⟨hs, hsvalid⟩ := RuleSet.ofScript_fixedBranch "STRASSE" (.bool true) (.bool false)
    (by decide : "street" ≠ "")
  obtain ⟨ht, htvalid⟩ := RuleSet.ofScript_equality "street" "STRASSE" (.bool true) (.bool false)
  refine ⟨?_, hs, ht, fun settings backend => ?_⟩
  · rw [compareWith_equal_texts, decide_eq_true hfold]
  · refine ⟨_, _, settings.evaluator_of_valid backend hsvalid,
      settings.evaluator_of_valid backend htvalid, fun lookup holds => ?_⟩
    obtain ⟨hbranch, _, hrule, _⟩ :=
      dispatchBesideTest settings "STRASSE" (.bool true) (.bool false) holds
    rw [hbranch, hrule, if_neg hlower, if_pos hfold]
    exact ⟨rfl, rfl⟩

end Rollout
