import Rollout.Proofs.Consistency
import Rollout.Proofs.Relations

/-!
# The laws of comparison

Two theorems about the six operators. Over all values they make one preorder, total within each kind
of values that can be compared: an operator and its flipped form agree, and what stands below passes
on. On one pair of values the six answers follow one of five patterns; outside pairs of texts the
pattern is a matter of the two values alone.
-/

namespace Rollout

/-! ## Operators and relations -/

theorem Comparison.flip_flip (op : Comparison) : op.flip.flip = op := by
  cases op <;> rfl

theorem Comparison.flip_holds_swap (op : Comparison) (r : Relation) :
    op.flip.holds r.swap = op.holds r := by
  cases r with
  | ordered o => cases op <;> cases o <;> rfl
  | _ => cases op <;> rfl

theorem Comparison.lessEqual_holds_iff {r : Relation} :
    lessEqual.holds r = true ↔ ∃ o, r = .ordered o ∧ o.isLE = true := by
  cases r with
  | ordered o => simp [holds, accepts]
  | _ => simp [holds]

theorem Comparison.less_holds_iff {r : Relation} : less.holds r = true ↔ r = .ordered .lt := by
  cases r with
  | ordered o => cases o <;> simp [holds, accepts]
  | _ => simp [holds]

theorem Comparison.equal_holds_iff {r : Relation} :
    equal.holds r = true ↔ r = .bothNull ∨ r = .ordered .eq := by
  cases r with
  | ordered o => cases o <;> simp [holds, accepts]
  | _ => simp [holds]

/-! ## A preorder on every kind -/

/-- The operator accepts `a` against the threshold `b`. -/
def Accepts (registry : Registry) (comparer : Option String) (op : Comparison) (a b : Value) :
    Prop :=
  compareWith registry comparer op b (some a) = .ok true

/-- The value has a place in the order of its kind: it is neither null nor NaN. -/
def Value.Ranked : Value → Prop
  | .null => False
  | .float x => x.isNaN = false
  | _ => True

section

variable {registry : Registry} {comparer : Option String} {a b c : Value}

theorem accepts_iff {op : Comparison} :
    Accepts registry comparer op a b
      ↔ ∃ r, a.Stands registry comparer b r ∧ op.holds r = true :=
  compareWith_eq_ok_iff

theorem accepts_lessEqual_iff :
    Accepts registry comparer .lessEqual a b
      ↔ ∃ o, a.Stands registry comparer b (.ordered o) ∧ o.isLE = true := by
  rw [accepts_iff]
  constructor
  · rintro ⟨r, h, hr⟩
    obtain ⟨o, rfl, ho⟩ := Comparison.lessEqual_holds_iff.mp hr
    exact ⟨o, h, ho⟩
  · rintro ⟨o, h, ho⟩
    exact ⟨_, h, Comparison.lessEqual_holds_iff.mpr ⟨o, rfl, ho⟩⟩

theorem accepts_less_iff :
    Accepts registry comparer .less a b ↔ a.Stands registry comparer b (.ordered .lt) := by
  rw [accepts_iff]
  simp only [Comparison.less_holds_iff, exists_eq_right]

theorem accepts_equal_iff :
    Accepts registry comparer .equal a b
      ↔ a.Stands registry comparer b .bothNull ∨ a.Stands registry comparer b (.ordered .eq) := by
  rw [accepts_iff]
  simp only [Comparison.equal_holds_iff, and_or_left, exists_or, exists_eq_right]

theorem Value.Stands.ordered_of_ranked {r : Relation} (h : a.Stands registry comparer b r)
    (ha : a.Ranked) (hb : b.Ranked) : ∃ o, r = .ordered o := by
  cases h with
  | bothNull => exact ha.elim
  | nullSubject => exact ha.elim
  | nullThreshold => exact hb.elim
  | unordered h =>
    rcases h with h | h
    · exact absurd (h.symm.trans ha) nofun
    · exact absurd (h.symm.trans hb) nofun
  | _ => exact ⟨_, rfl⟩

theorem compareWith_flip {op : Comparison} {accepted : Bool}
    (h : compareWith registry comparer op a (some b) = .ok accepted) :
    compareWith registry comparer op.flip b (some a) = .ok accepted := by
  obtain ⟨r, hr, hop⟩ := compareWith_eq_ok_iff.mp h
  exact compareWith_eq_ok_iff.mpr ⟨r.swap, hr.swap, by rw [Comparison.flip_holds_swap, hop]⟩

theorem accepts_lessEqual_total {kind : ScalarKind} (ha : a.Comparable registry comparer kind)
    (hb : b.Comparable registry comparer kind) (harank : a.Ranked) (hbrank : b.Ranked) :
    Accepts registry comparer .lessEqual a b ∨ Accepts registry comparer .lessEqual b a := by
  obtain ⟨r, hr⟩ := relate_ok hb (s := some a) fun v hv => Option.some.inj hv ▸ ha
  have hstands : a.Stands registry comparer b r := relate_eq_ok_iff.mp hr
  obtain ⟨o, rfl⟩ := hstands.ordered_of_ranked harank hbrank
  rw [accepts_lessEqual_iff, accepts_lessEqual_iff]
  cases o with
  | lt => exact .inl ⟨.lt, hstands, rfl⟩
  | eq => exact .inl ⟨.eq, hstands, rfl⟩
  | gt => exact .inr ⟨.lt, hstands.swap, rfl⟩

/-- The operators make one preorder of all values, total on each kind that can be compared. -/
structure Preordered (registry : Registry) (comparer : Option String) : Prop where
  /-- When the two values change places, the flipped operator comes to an answer if the operator
  does, and to the same one. -/
  flipped : ∀ (op : Comparison) (a b : Value) (accepted : Bool),
    compareWith registry comparer op a (some b) = .ok accepted
      ↔ compareWith registry comparer op.flip b (some a) = .ok accepted
  /-- What is accepted step by step is accepted at once. -/
  trans : ∀ a b c, Accepts registry comparer .lessEqual a b →
    Accepts registry comparer .lessEqual b c → Accepts registry comparer .lessEqual a c
  /-- One strict step is enough for a strict whole. -/
  strict : ∀ a b c, Accepts registry comparer .lessEqual a b →
    Accepts registry comparer .lessEqual b c →
      Accepts registry comparer .less a b ∨ Accepts registry comparer .less b c →
        Accepts registry comparer .less a c
  equal : ∀ a b c, Accepts registry comparer .equal a b → Accepts registry comparer .equal b c →
    Accepts registry comparer .equal a c
  /-- Values of one kind are accepted one way or the other, unless one is null or NaN. -/
  total : ∀ kind a b, a.Comparable registry comparer kind → b.Comparable registry comparer kind →
    a.Ranked → b.Ranked →
      Accepts registry comparer .lessEqual a b ∨ Accepts registry comparer .lessEqual b a

end

/-- **Comparison is a preorder**, whatever comparer is named and whatever comparers there are. -/
theorem comparison_is_preorder (registry : Registry) (comparer : Option String) :
    Preordered registry comparer where
  flipped op a b accepted := by
    constructor
    · exact compareWith_flip
    · intro h
      have hback := compareWith_flip h
      rwa [Comparison.flip_flip] at hback
  trans a b c hab hbc := by
    obtain ⟨o, ho, hole⟩ := accepts_lessEqual_iff.mp hab
    obtain ⟨o', ho', hole'⟩ := accepts_lessEqual_iff.mp hbc
    have hthen : (o.then o').isLE = true := by
      cases o <;> first | rfl | exact hole' | exact absurd hole nofun
    exact accepts_lessEqual_iff.mpr ⟨o.then o', ho.trans ho' hole hole', hthen⟩
  strict a b c hab hbc hstrict := by
    obtain ⟨o, ho, hole⟩ := accepts_lessEqual_iff.mp hab
    obtain ⟨o', ho', hole'⟩ := accepts_lessEqual_iff.mp hbc
    rw [accepts_less_iff, accepts_less_iff] at hstrict
    rw [accepts_less_iff]
    rcases hstrict with hlt | hlt
    · exact hlt.trans ho' rfl hole'
    · have hsum := ho.trans hlt hole rfl
      cases o with
      | lt => exact hsum
      | eq => exact hsum
      | gt => exact absurd hole nofun
  equal a b c hab hbc := by
    rw [accepts_equal_iff] at hab hbc ⊢
    rcases hab with hab | hab
    · -- null equals null alone
      cases hab
      exact hbc
    · rcases hbc with hbc | hbc
      · cases hbc
        cases hab
      · exact .inr (hab.trans hbc rfl rfl)
  total kind a b := accepts_lessEqual_total

/-! ## The six answers on one pair -/

/-- How the six operators together answer on one pair of values. -/
inductive Pattern where
  | failing
  | bothNull
  | oneNull
  | unordered
  | ordered

/-- What the six answers are under each pattern, and for which values it can come up. -/
def Pattern.Fits (registry : Registry) (comparer : Option String) (threshold : Value)
    (subject : Option Value) : Pattern → Prop
  | failing => ∃ e, ∀ op, compareWith registry comparer op threshold subject = .error e
  | bothNull => threshold = .null ∧ subject.getD .null = .null
      ∧ ∀ op, compareWith registry comparer op threshold subject = .ok (op = .equal)
  | oneNull => ¬(threshold = .null ↔ subject.getD .null = .null)
      ∧ ∀ op, compareWith registry comparer op threshold subject = .ok false
  | unordered => (∃ x y, threshold = .float x ∧ subject = some (.float y)
        ∧ (x.isNaN = true ∨ y.isNaN = true))
      ∧ ∀ op, compareWith registry comparer op threshold subject = .ok (op = .notEqual)
  | ordered => ∃ accepted : Comparison → Bool,
      (∀ op, compareWith registry comparer op threshold subject = .ok (accepted op))
        ∧ (∃! op, op ∈ [.less, .equal, .greater] ∧ accepted op = true)
        ∧ accepted .lessEqual = (accepted .less || accepted .equal)
        ∧ accepted .greaterEqual = (accepted .greater || accepted .equal)
        ∧ accepted .notEqual = !accepted .equal

/-- The pattern that the answers tell. -/
def Pattern.told (answer : Comparison → Except EvalError Bool) : Pattern :=
  match answer .equal, answer .notEqual with
  | .error _, _ => failing
  | .ok true, _ => if answer .lessEqual = .ok true then ordered else bothNull
  | .ok false, .ok true =>
    if answer .less = .ok true ∨ answer .greater = .ok true then ordered else unordered
  | .ok false, _ => oneNull

section

variable {registry : Registry} {comparer : Option String} {threshold : Value}
  {subject : Option Value}

theorem compareWith_of_relate {r : Relation}
    (h : relate registry comparer threshold subject = .ok r) (op : Comparison) :
    compareWith registry comparer op threshold subject = .ok (op.holds r) := by
  rw [compareWith, h]
  rfl

theorem Pattern.exists_fits : ∃ p : Pattern, p.Fits registry comparer threshold subject := by
  cases h : relate registry comparer threshold subject with
  | error e => exact ⟨failing, e, fun op => by rw [compareWith, h]; rfl⟩
  | ok r =>
    have hanswers := compareWith_of_relate h
    have hstands := relate_eq_ok_iff.mp h
    cases r with
    | bothNull =>
      generalize hs : subject.getD .null = v at hstands
      cases hstands
      exact ⟨bothNull, rfl, hs, hanswers⟩
    | oneNull =>
      refine ⟨oneNull, ?_, hanswers⟩
      generalize subject.getD .null = v at hstands
      cases hstands with
      | nullSubject hne => exact fun hiff => hne (hiff.mpr rfl)
      | nullThreshold hne => exact fun hiff => hne (hiff.mp rfl)
    | unordered =>
      refine ⟨unordered, ?_, hanswers⟩
      cases subject with
      | none => cases hstands
      | some s =>
        cases (hstands : s.Stands registry comparer threshold .unordered) with
        | unordered hnan => exact ⟨_, _, rfl, rfl, hnan.symm⟩
    | ordered o =>
      refine ⟨ordered, _, hanswers, ?_⟩
      cases o <;> simp [Comparison.holds, Comparison.accepts, ExistsUnique]

/-- A pattern that fits is the one that the answers tell, and so there is only one. -/
theorem Pattern.eq_told {p : Pattern} (h : p.Fits registry comparer threshold subject) :
    p = told fun op => compareWith registry comparer op threshold subject := by
  cases p with
  | failing =>
    obtain ⟨e, hfails⟩ := h
    simp only [told, hfails]
  | bothNull =>
    obtain ⟨-, -, hanswers⟩ := h
    simp [told, hanswers]
  | oneNull =>
    obtain ⟨-, hanswers⟩ := h
    simp [told, hanswers]
  | unordered =>
    obtain ⟨-, hanswers⟩ := h
    simp [told, hanswers]
  | ordered =>
    obtain ⟨accepted, hanswers, ⟨op, ⟨hmem, hop⟩, -⟩, hle, -, hne⟩ := h
    simp only [told, hanswers, hle, hne]
    cases hequal : accepted .equal with
    | true => simp
    | false =>
      -- as it is not equality, one of the strict operators accepts
      have hstrict : accepted .less = true ∨ accepted .greater = true := by
        simp only [List.mem_cons, List.not_mem_nil, or_false] at hmem
        rcases hmem with rfl | rfl | rfl
        · exact .inl hop
        · rw [hequal] at hop
          cases hop
        · exact .inr hop
      simp [hstrict]

/-- Only for two texts does it matter which comparer is named and which there are. -/
theorem relate_independent
    (h : ¬∃ s t, threshold = .string t ∧ subject = some (.string s)) (registry' : Registry)
    (comparer' : Option String) :
    relate registry' comparer' threshold subject = relate registry comparer threshold subject := by
  cases subject with
  | none => cases threshold <;> rfl
  | some v =>
    cases v with
    | string s =>
      cases threshold with
      | string t => exact absurd ⟨s, t, rfl, rfl⟩ h
      | _ => rfl
    | _ => cases threshold <;> rfl

end

/-- The six operators fall into one pattern on a pair of values. -/
structure Coheres (threshold : Value) (subject : Option Value) : Prop where
  pattern : ∀ registry comparer, ∃! p : Pattern, p.Fits registry comparer threshold subject
  /-- Unless both are texts, the pattern and the answers hang on nothing but the two values. -/
  independent : (¬∃ s t, threshold = .string t ∧ subject = some (.string s)) →
    ∀ registry comparer registry' comparer',
      (∀ p : Pattern, p.Fits registry comparer threshold subject
        ↔ p.Fits registry' comparer' threshold subject)
      ∧ ∀ op, compareWith registry comparer op threshold subject
        = compareWith registry' comparer' op threshold subject

/-- **The operators cohere**: on every pair of values exactly one of five patterns fits them. -/
theorem operators_cohere (threshold : Value) (subject : Option Value) :
    Coheres threshold subject where
  pattern registry comparer := by
    obtain ⟨p, hp⟩ : ∃ p : Pattern, p.Fits registry comparer threshold subject :=
      Pattern.exists_fits
    exact ⟨p, hp, fun q hq => (Pattern.eq_told hq).trans (Pattern.eq_told hp).symm⟩
  independent htexts registry comparer registry' comparer' := by
    have hrelate : relate registry comparer threshold subject
        = relate registry' comparer' threshold subject :=
      relate_independent htexts registry comparer
    have hanswers (op : Comparison) : compareWith registry comparer op threshold subject
        = compareWith registry' comparer' op threshold subject := by
      rw [compareWith, compareWith, hrelate]
    refine ⟨fun p => ?_, hanswers⟩
    cases p <;> simp only [Pattern.Fits, hanswers]

end Rollout
