import Rollout.Proofs.KeysAsked

/-!
# An absent property is null

A context may lack a property or hold null under it. No test tells the two apart but one, that of
containing the array with null as its only element. Without that test a rule set comes to the same
in both contexts, wherever the property is used: as a subject, to choose a branch, as an owner or as
the clock.
-/

namespace Rollout

/-! ## Absent and null -/

/-- What two contexts hold under one key: the same, or nothing in the one and null in the other. -/
inductive NullForAbsent : Option Value → Option Value → Prop
  | same (v : Option Value) : NullForAbsent v v
  | filled : NullForAbsent none (some .null)
  | emptied : NullForAbsent (some .null) none

/-- The condition tests for containing the array with null as its only element. -/
def Condition.TellsNull : Condition → Prop
  | .contains (.array [.null]) _ => True
  | _ => False

/-- Some condition of the rule set tests for containing the array with null as its only element. -/
def RuleSet.TellsNull (s : RuleSet) : Prop :=
  ∃ test ∈ s.tests, test.2.TellsNull

namespace NullForAbsent

variable {v v' : Option Value}

theorem getD_eq (h : NullForAbsent v v') : v.getD .null = v'.getD .null := by
  cases h <;> rfl

/-- What cannot be read from null is read alike. -/
theorem bind_eq {β : Type} {f : Value → Option β} (h : NullForAbsent v v')
    (hnull : f .null = none) : v.bind f = v'.bind f := by
  cases h with
  | same => rfl
  | filled => exact hnull.symm
  | emptied => exact hnull

end NullForAbsent

/-! ## Tests -/

section Tests

variable (registry : Registry) (comparer : Option String) {v v' : Option Value}

theorem relate_absent (threshold : Value) (h : NullForAbsent v v') :
    relate registry comparer threshold v = relate registry comparer threshold v' := by
  unfold relate
  rw [h.getD_eq]

theorem compareWith_absent (op : Comparison) (threshold : Value) (h : NullForAbsent v v') :
    compareWith registry comparer op threshold v
      = compareWith registry comparer op threshold v' := by
  rw [compareWith, compareWith, relate_absent registry comparer threshold h]

theorem isOneOf_absent (literals : List Value) (h : NullForAbsent v v') :
    isOneOf registry comparer literals v = isOneOf registry comparer literals v' := by
  induction literals with
  | nil => rfl
  | cons literal rest ih =>
    rw [isOneOf, isOneOf, compareWith_absent registry comparer .equal literal h, ih]

/-- Null contains nothing but the array of itself. -/
theorem containsValue_null {literal : Value} (hliteral : literal ≠ .array [.null]) :
    containsValue registry comparer literal (some .null) = .ok false := by
  cases literal with
  | array items =>
    match items with
    | [] => rfl
    | [single] =>
      cases single with
      | null => exact absurd rfl hliteral
      | _ => rfl
    | _ :: _ :: _ => rfl
  | _ => rfl

theorem containsValue_absent {literal : Value} (hliteral : literal ≠ .array [.null])
    (h : NullForAbsent v v') :
    containsValue registry comparer literal v = containsValue registry comparer literal v' := by
  cases h with
  | same => rfl
  | filled => rw [containsValue_null registry comparer hliteral]; rfl
  | emptied => rw [containsValue_null registry comparer hliteral]; rfl

-- the array of null is contained in null, but not in what is absent
example : containsValue registry comparer (.array [.null]) (some .null) = .ok true := rfl

example : containsValue registry comparer (.array [.null]) none = .ok false := rfl

theorem startsWithText_absent (text : String) (h : NullForAbsent v v') :
    startsWithText v text = startsWithText v' text := by
  cases h <;> rfl

theorem endsWithText_absent (text : String) (h : NullForAbsent v v') :
    endsWithText v text = endsWithText v' text := by
  cases h <;> rfl

theorem isWithin_absent {now now' : Option Value} (window : Window) (h : NullForAbsent v v')
    (hnow : NullForAbsent now now') : isWithin v now window = isWithin v' now' window := by
  rw [isWithin, isWithin, h.bind_eq rfl, hnow.bind_eq rfl]

end Tests

/-! ## Evaluation -/

section Evaluation

variable (settings : Settings) {lookup lookup' : Lookup}
  (habsent : ∀ key, NullForAbsent (lookup key) (lookup' key))

include habsent

theorem test_absent {test : Condition} (hsingle : ¬test.Joined) (htells : ¬test.TellsNull)
    {v v' : Option Value} (hv : NullForAbsent v v') :
    test.eval settings lookup' v' = test.eval settings lookup v := by
  cases test with
  | compare op literal comparer =>
    rw [Condition.eval, Condition.eval, compareWith_absent settings.registry comparer op literal hv]
  | oneOf literals comparer =>
    rw [Condition.eval, Condition.eval, isOneOf_absent settings.registry comparer literals hv]
  | contains literal comparer =>
    have hliteral : literal ≠ .array [.null] := by
      rintro rfl
      exact htells trivial
    rw [Condition.eval, Condition.eval, containsValue_absent settings.registry comparer hliteral hv]
  | startsWith text => rw [Condition.eval, Condition.eval, startsWithText_absent text hv]
  | endsWith text => rw [Condition.eval, Condition.eval, endsWithText_absent text hv]
  | within window =>
    rw [Condition.eval, Condition.eval, Inquiry.ask_bind, Inquiry.ask_bind,
      isWithin_absent window hv (habsent clockKey)]
  | all items => exact absurd trivial hsingle
  | any items => exact absurd trivial hsingle
  | not item => exact absurd trivial hsingle

theorem RuleSet.eval_absent {s : RuleSet} (htells : ¬s.TellsNull) :
    s.eval settings lookup' = s.eval settings lookup := by
  refine RuleSet.eval_lookup_congr (V := fun _ => NullForAbsent) habsent (fun hv => hv.bind_eq rfl)
    (fun salt _ hv => hv.bind_eq rfl) fun test htest v v' hv => ?_
  exact test_absent settings habsent (RuleSet.not_joined_of_mem_tests htest)
    (fun h => htells ⟨test, htest, h⟩) hv

end Evaluation

/-! ## Both backends -/

/-- **An absent property is null**: of a rule set without faults, in which no condition tests for
containing the array with null as its only element, both backends make an evaluator that comes to
the same answer or error, after asking for the same keys, in every two contexts that differ only in
that one holds null where the other holds nothing. -/
theorem absent_property_is_null (settings : Settings) (backend : Backend) {s : RuleSet}
    (valid : s.validate = .ok ()) (htells : ¬s.TellsNull) :
    ∃ evaluator, settings.evaluator backend s = .ok evaluator
      ∧ ∀ lookup lookup' : Lookup, (∀ key, NullForAbsent (lookup key) (lookup' key)) →
        (evaluator lookup').answer = (evaluator lookup).answer
          ∧ (evaluator lookup').keys = (evaluator lookup).keys := by
  refine ⟨_, settings.evaluator_of_valid backend valid, fun lookup lookup' habsent => ?_⟩
  have hsame := s.eval_absent settings habsent htells
  exact ⟨congrArg Inquiry.answer hsame, congrArg Inquiry.keys hsame⟩

theorem absent_property_is_null_on_sample :
    RuleSet.sample.validate = .ok () ∧ ¬RuleSet.sample.TellsNull
      ∧ ∃ evaluator, Settings.standard.evaluator .compiled .sample = .ok evaluator
        ∧ ∀ lookup lookup' : Lookup, (∀ key, NullForAbsent (lookup key) (lookup' key)) →
          (evaluator lookup').answer = (evaluator lookup).answer
            ∧ (evaluator lookup').keys = (evaluator lookup).keys := by
  have htells : ¬RuleSet.sample.TellsNull := by
    simp [RuleSet.TellsNull, Condition.TellsNull, RuleSet.sample, RuleSet.tests, RuleTree.tests,
      RuleTree.testsIn, Matcher.tests, Matcher.testsAll, Condition.tests, Condition.testsAll]
  exact ⟨rfl, htells, absent_property_is_null .standard .compiled rfl htells⟩

end Rollout
