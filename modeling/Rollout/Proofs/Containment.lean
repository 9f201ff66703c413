import Rollout.Proofs.Comparisons

/-!
# Containment of arrays

An array is contained in another if each of its elements equals an element of the other. The search
for an element goes from the front, and a comparison that fails ends it, so an equal element behind
one that cannot be compared is never reached. Containment is a subset relation all the same: values
that are equal stand alike to every threshold, so a search that finds the one finds the other, at the
same place and past the same elements.
-/

namespace Rollout

section

variable {registry : Registry} {comparer : Option String} {a b : Value}

/-! ## Equal subjects -/

/-- Equal texts stand alike to every other: if a comparer is named, it has keys for both. -/
theorem orderTexts_eq_of_stands {s t : String}
    (h : (Value.string s).Stands registry comparer (.string t) (.ordered .eq)) (u : String) :
    orderTexts registry comparer s u = orderTexts registry comparer t u := by
  generalize hr : Relation.ordered .eq = r at h
  cases h with
  | texts hnone =>
    subst hnone
    rw [orderTexts, orderTexts, Std.TransCmp.congr_left (Relation.ordered.inj hr).symm]
  | @keys _ _ _ c k l hname hc hs ht =>
    subst hname
    have hlevel (m : OrderKey) : k.compare m = l.compare m :=
      Std.TransCmp.congr_left (Relation.ordered.inj hr).symm
    simp only [orderTexts, hc, orderKey, hs, ht]
    cases c u with
    | none => rfl
    | some m => exact congrArg Except.ok (hlevel m)

theorem relate_texts_congr {s t : String}
    (h : ∀ u, orderTexts registry comparer s u = orderTexts registry comparer t u) (v : Value) :
    relate registry comparer v (some (.string s)) = relate registry comparer v (some (.string t)) := by
  cases v with
  | string u => simp only [relate, Option.getD_some, h u]
  | _ => rfl

/-- Equal values stand alike to every threshold, and fail alike against it. -/
theorem relate_eq_of_accepts_equal (h : Accepts registry comparer .equal a b) (t : Value) :
    relate registry comparer t (some a) = relate registry comparer t (some b) := by
  rcases accepts_equal_iff.mp h with hnull | hlevel
  · cases hnull
    rfl
  · have hstands := hlevel
    generalize hr : Relation.ordered .eq = r at hlevel
    cases hlevel with
    | bothNull => rfl
    | nullSubject | nullThreshold | unordered => cases hr
    | bools x y =>
      obtain rfl : x = y := Std.LawfulEqOrd.eq_of_compare (Relation.ordered.inj hr).symm
      rfl
    | numbers x y =>
      cases t with
      | number z =>
        simp only [relate, Option.getD_some]
        rw [Std.TransCmp.congr_left (Relation.ordered.inj hr).symm]
      | _ => rfl
    | @floats x y hx hy =>
      have hrank : x.rank = y.rank :=
        Std.LawfulEqOrd.eq_of_compare (Relation.ordered.inj hr).symm
      cases t with
      | float z => simp only [relate, Option.getD_some, Binary64.compare?, hx, hy, hrank]
      | _ => rfl
    | texts => exact relate_texts_congr (orderTexts_eq_of_stands hstands) t
    | keys => exact relate_texts_congr (orderTexts_eq_of_stands hstands) t

/-- The search for a value goes as the search for one that is equal to it. -/
theorem isOneOf_eq_of_accepts_equal (h : Accepts registry comparer .equal a b) (l : List Value) :
    isOneOf registry comparer l (some a) = isOneOf registry comparer l (some b) := by
  induction l with
  | nil => rfl
  | cons v rest ih => rw [isOneOf, isOneOf, compareWith, compareWith, relate_eq_of_accepts_equal h, ih]

/-! ## Where a search ends -/

/-- The value equals an element of the list, and with every element before that one it can be compared
and differs. -/
def Value.FoundIn (registry : Registry) (comparer : Option String) (v : Value) (l : List Value) :
    Prop :=
  ∃ before w after, l = before ++ w :: after
    ∧ (∀ u ∈ before, compareWith registry comparer .equal u (some v) = .ok false)
    ∧ Accepts registry comparer .equal v w

theorem isOneOf_eq_true_iff {l : List Value} :
    isOneOf registry comparer l (some a) = .ok true ↔ a.FoundIn registry comparer l := by
  constructor
  · intro h
    induction l with
    | nil => cases h
    | cons v rest ih =>
      rw [isOneOf] at h
      cases hv : compareWith registry comparer .equal v (some a) with
      | error e =>
        rw [hv] at h
        cases h
      | ok accepted =>
        rw [hv] at h
        cases accepted with
        | true => exact ⟨[], v, rest, rfl, List.forall_mem_nil _, hv⟩
        | false =>
          obtain ⟨before, w, after, rfl, hbefore, hw⟩ := ih h
          exact ⟨v :: before, w, after, rfl, List.forall_mem_cons.mpr ⟨hv, hbefore⟩, hw⟩
  · rintro ⟨before, w, after, rfl, hbefore, hw⟩
    induction before with
    | nil =>
      rw [List.nil_append, isOneOf, show compareWith registry comparer .equal w (some a) = _ from hw]
      rfl
    | cons v before ih =>
      obtain ⟨hv, hbefore⟩ := List.forall_mem_cons.mp hbefore
      rw [List.cons_append, isOneOf, hv]
      exact ih hbefore

theorem Value.FoundIn.append {l : List Value} (h : a.FoundIn registry comparer l)
    (more : List Value) : a.FoundIn registry comparer (l ++ more) := by
  obtain ⟨before, w, after, rfl, hbefore, hw⟩ := h
  exact ⟨before, w, after ++ more, by rw [List.append_assoc, List.cons_append], hbefore, hw⟩

/-- Whatever equals a value that is found is found. -/
theorem Value.FoundIn.of_accepts_equal {l : List Value} (hab : Accepts registry comparer .equal a b)
    (h : b.FoundIn registry comparer l) : a.FoundIn registry comparer l := by
  rw [← isOneOf_eq_true_iff] at h ⊢
  rw [isOneOf_eq_of_accepts_equal hab, h]

theorem areAllIn_eq_true_iff {l needles : List Value} :
    areAllIn registry comparer l needles = .ok true
      ↔ ∀ v ∈ needles, v.FoundIn registry comparer l := by
  induction needles with
  | nil => exact ⟨fun _ => List.forall_mem_nil _, fun _ => rfl⟩
  | cons v rest ih =>
    rw [List.forall_mem_cons, ← ih, ← isOneOf_eq_true_iff, areAllIn]
    cases isOneOf registry comparer l (some v) with
    | error e =>
      constructor
      · intro h
        cases h
      · rintro ⟨h, -⟩
        cases h
    | ok found =>
      cases found with
      | true => exact ⟨fun h => ⟨rfl, h⟩, And.right⟩
      | false =>
        constructor
        · intro h
          cases h
        · rintro ⟨h, -⟩
          cases h

end

/-! ## A subset relation -/

/-- The second array contains the first: the test of containment comes to true, and to no error. -/
def ContainedIn (registry : Registry) (comparer : Option String) (part whole : List Value) : Prop :=
  containsValue registry comparer (.array part) (some (.array whole)) = .ok true

theorem containedIn_iff {registry : Registry} {comparer : Option String} {part whole : List Value} :
    ContainedIn registry comparer part whole ↔ ∀ v ∈ part, v.FoundIn registry comparer whole :=
  areAllIn_eq_true_iff

/-- Containment has the laws of subsets. -/
structure SubsetLike (registry : Registry) (comparer : Option String) : Prop where
  /-- An array is contained in another if every element of it is found there. -/
  found : ∀ part whole, ContainedIn registry comparer part whole
    ↔ ∀ v ∈ part, v.FoundIn registry comparer whole
  trans : ∀ a b c, ContainedIn registry comparer a b → ContainedIn registry comparer b c →
    ContainedIn registry comparer a c
  /-- What the whole is followed by does not matter, of whatever kinds it is. -/
  more : ∀ a b d, ContainedIn registry comparer a b → ContainedIn registry comparer a (b ++ d)
  parts : ∀ a b d, ContainedIn registry comparer (a ++ d) b
    ↔ ContainedIn registry comparer a b ∧ ContainedIn registry comparer d b

/-- **Containment of arrays is like that of sets**, whatever comparer is named and whatever comparers
there are. -/
theorem containment_is_subset_like (registry : Registry) (comparer : Option String) :
    SubsetLike registry comparer where
  found _ _ := containedIn_iff
  trans a b c hab hbc := by
    rw [containedIn_iff] at hab hbc ⊢
    intro v hv
    obtain ⟨before, w, after, rfl, -, hw⟩ := hab v hv
    have hfound : w.FoundIn registry comparer c :=
      hbc w (List.mem_append_right _ List.mem_cons_self)
    exact hfound.of_accepts_equal hw
  more a b d hab := by
    rw [containedIn_iff] at hab ⊢
    exact fun v hv => (hab v hv).append d
  parts a b d := by
    simp only [containedIn_iff, List.forall_mem_append]

/-- An element that cannot be compared hides what stands behind it. -/
example : containsValue .empty none (.array [.bool true]) (some (.array [.string "on", .bool true]))
    = .error (.typeMismatch .string .boolean) := by
  rfl

end Rollout
