import Rollout.Proofs.Comparisons

/-!
# Tests without regard to case

All tests of texts that disregard case go by the folded forms of the texts. Two texts are equal if
their folded forms are the same, and a text starts with, ends with or contains another if its folded
form has that of the other at its start, at its end or anywhere. As folding distributes over
concatenation, the tests fit together.
-/

namespace Rollout

/-! ## Folded forms -/

namespace Text

theorem fold_append (s t : String) : fold (s ++ t) = fold s ++ fold t := by
  rw [fold, String.toList_append, List.flatMap_append]
  rfl

theorem compareFolded_eq_eq_iff {s t : String} : compareFolded s t = .eq ↔ fold s = fold t :=
  have hlawful : Std.LawfulEqCmp (List.compareLex (compare : Char → Char → Ordering)) :=
    inferInstance
  hlawful.compare_eq_iff_eq

theorem occursIn_iff {l m : List Char} : occursIn l m = true ↔ l <:+: m := by
  induction m with
  | nil => rw [occursIn, List.isEmpty_iff, List.infix_nil]
  | cons c rest ih =>
    rw [occursIn, Bool.or_eq_true, ih, List.isPrefixOf_iff_prefix, List.infix_cons_iff]

end Text

section

variable {registry : Registry} {comparer : Option String} {s t : String}

/-- Without a comparer, an operator goes by the order of the folded forms. -/
theorem compareWith_texts (op : Comparison) :
    compareWith registry none op (.string t) (some (.string s))
      = .ok (op.accepts (Text.compareFolded s t)) :=
  rfl

/-- So texts are equal if their folded forms are the same. -/
theorem compareWith_equal_texts (registry : Registry) (s t : String) :
    compareWith registry none .equal (.string t) (some (.string s))
      = .ok (decide (Text.fold s = Text.fold t)) := by
  rw [compareWith_texts, Except.ok.injEq, Bool.eq_iff_iff, decide_eq_true_iff,
    ← Text.compareFolded_eq_eq_iff]
  exact Ordering.isEq_iff_eq_eq

theorem accepts_equal_texts_iff :
    Accepts registry none .equal (.string s) (.string t) ↔ Text.fold s = Text.fold t := by
  rw [Accepts, compareWith_equal_texts, Except.ok.injEq, decide_eq_true_iff]

theorem startsWithText_iff :
    startsWithText (some (.string s)) t = true ↔ Text.fold t <+: Text.fold s :=
  List.isPrefixOf_iff_prefix

theorem endsWithText_iff :
    endsWithText (some (.string s)) t = true ↔ Text.fold t <:+ Text.fold s :=
  List.isSuffixOf_iff_suffix

theorem containsValue_texts_iff :
    containsValue registry comparer (.string t) (some (.string s)) = .ok true
      ↔ Text.fold t <:+: Text.fold s := by
  rw [← Text.occursIn_iff]
  exact ⟨Except.ok.inj, congrArg Except.ok⟩

end

/-! ## How the tests fit together -/

/-- The tests of texts fit together. Two texts are equal here if `==` accepts them without a
comparer. -/
structure CaselessTests (registry : Registry) : Prop where
  /-- A text starts with what equals its beginning, -/
  starts : ∀ t t' b, Accepts registry none .equal (.string t) (.string t') →
    startsWithText (some (.string (t ++ b))) t' = true
  /-- it ends with what equals its end, -/
  ends : ∀ a t t', Accepts registry none .equal (.string t) (.string t') →
    endsWithText (some (.string (a ++ t))) t' = true
  /-- and it contains what equals a part of it. -/
  contains : ∀ comparer a t t' b, Accepts registry none .equal (.string t) (.string t') →
    containsValue registry comparer (.string t') (some (.string (a ++ t ++ b))) = .ok true
  /-- Equal texts may stand for each other on both sides of every test. -/
  replaced : ∀ s s' t t', Accepts registry none .equal (.string s) (.string s') →
    Accepts registry none .equal (.string t) (.string t') →
      startsWithText (some (.string s')) t' = startsWithText (some (.string s)) t
        ∧ endsWithText (some (.string s')) t' = endsWithText (some (.string s)) t
        ∧ (∀ comparer, containsValue registry comparer (.string t') (some (.string s'))
          = containsValue registry comparer (.string t) (some (.string s)))
        ∧ ∀ op, compareWith registry none op (.string t') (some (.string s'))
          = compareWith registry none op (.string t) (some (.string s))
  /-- A text contains what it starts or ends with. -/
  contained : ∀ comparer s t,
    startsWithText (some (.string s)) t = true ∨ endsWithText (some (.string s)) t = true →
      containsValue registry comparer (.string t) (some (.string s)) = .ok true
  /-- Texts that start with each other are equal, and no others. -/
  twoSided : ∀ s t, Accepts registry none .equal (.string s) (.string t)
    ↔ startsWithText (some (.string s)) t = true ∧ startsWithText (some (.string t)) s = true

/-- **Tests without regard to case fit together**, whatever comparers there are. -/
theorem caseless_tests_fit_together (registry : Registry) : CaselessTests registry where
  starts t t' b h := by
    rw [accepts_equal_texts_iff] at h
    rw [startsWithText_iff, Text.fold_append, h]
    exact List.prefix_append _ _
  ends a t t' h := by
    rw [accepts_equal_texts_iff] at h
    rw [endsWithText_iff, Text.fold_append, h]
    exact List.suffix_append _ _
  contains comparer a t t' b h := by
    rw [accepts_equal_texts_iff] at h
    rw [containsValue_texts_iff, Text.fold_append, Text.fold_append, h]
    exact List.infix_append _ _ _
  replaced s s' t t' hs ht := by
    rw [accepts_equal_texts_iff] at hs ht
    simp only [startsWithText, endsWithText, containsValue, compareWith_texts, Text.compareFolded,
      hs, ht, implies_true, and_self]
  contained comparer s t h := by
    rw [startsWithText_iff, endsWithText_iff] at h
    rw [containsValue_texts_iff]
    rcases h with h | h
    · exact h.isInfix
    · exact h.isInfix
  twoSided s t := by
    rw [accepts_equal_texts_iff, startsWithText_iff, startsWithText_iff]
    constructor
    · intro h
      rw [h]
      exact ⟨List.prefix_rfl, List.prefix_rfl⟩
    · rintro ⟨hts, hst⟩
      exact hst.eq_of_length_le hts.length_le

end Rollout
