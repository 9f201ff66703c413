import Mathlib.Data.List.Forall2
import Mathlib.Data.Option.Basic
import Rollout.Proofs.Decimal
import Rollout.Rule.Distribution
import Rollout.Subject

/-!
# Tests respect equality of values

Equal values have one kind, one text and one place in every order, and so no test tells them apart:
neither as subject nor as literal. `Value.Alike` is the equality `==` told by one case for each kind.
-/

namespace Rollout

/-! ## Values that may be absent -/

theorem rel_getD {α : Type} {R : α → α → Prop} {o o' : Option α} {a a' : α}
    (h : Option.Rel R o o') (ha : R a a') : R (o.getD a) (o'.getD a') := by
  cases h with
  | none => exact ha
  | some h => exact h

theorem bind_eq_of_rel {α β : Type} {R : α → α → Prop} {o o' : Option α}
    (h : Option.Rel R o o') {f : α → Option β} (hf : ∀ a b, R a b → f a = f b) :
    o.bind f = o'.bind f := by
  cases h with
  | none => rfl
  | some h => exact hf _ _ h

/-! ## Equality by cases -/

/-- Two values are equal: numbers by value, everything else as it stands. -/
inductive Value.Alike : Value → Value → Prop
  | null : Alike .null .null
  | bool (b : Bool) : Alike (.bool b) (.bool b)
  | number {a b : Decimal} (h : a.sameValue b = true) : Alike (.number a) (.number b)
  | float (x : Binary64) : Alike (.float x) (.float x)
  | string (s : String) : Alike (.string s) (.string s)
  | array {l m : List Value} (h : List.Forall₂ Alike l m) : Alike (.array l) (.array m)

mutual

theorem Value.alike_of_same : ∀ v w : Value, same v w = true → Alike v w
  | .null, w, h => by
    cases w <;> first | exact .null | exact absurd h nofun
  | .bool a, w, h => by
    cases w with
    | bool b =>
      obtain rfl : a = b := by simpa [same] using h
      exact .bool a
    | _ => exact absurd h nofun
  | .number a, w, h => by
    cases w with
    | number b => exact .number h
    | _ => exact absurd h nofun
  | .float x, w, h => by
    cases w with
    | float y =>
      obtain ⟨bits⟩ := x
      obtain ⟨bits'⟩ := y
      obtain rfl : bits = bits' := by simpa [same] using h
      exact .float _
    | _ => exact absurd h nofun
  | .string s, w, h => by
    cases w with
    | string t =>
      obtain rfl : s = t := by simpa [same] using h
      exact .string s
    | _ => exact absurd h nofun
  | .array l, w, h => by
    cases w with
    | array m => exact .array (Value.alike_of_sameAll l m h)
    | _ => exact absurd h nofun

theorem Value.alike_of_sameAll :
    ∀ l m : List Value, sameAll l m = true → List.Forall₂ Alike l m
  | [], m, h => by
    cases m with
    | nil => exact .nil
    | cons => exact absurd h nofun
  | v :: l, m, h => by
    cases m with
    | nil => exact absurd h nofun
    | cons w m =>
      rw [sameAll, Bool.and_eq_true] at h
      exact .cons (Value.alike_of_same v w h.1) (Value.alike_of_sameAll l m h.2)

end

mutual

theorem Value.same_of_alike : ∀ {v w : Value}, Alike v w → same v w = true
  | _, _, .null => rfl
  | _, _, .bool b => by simp [same]
  | _, _, .number h => h
  | _, _, .float x => by simp [same]
  | _, _, .string s => by simp [same]
  | _, _, .array h => Value.sameAll_of_alike h

theorem Value.sameAll_of_alike :
    ∀ {l m : List Value}, List.Forall₂ Alike l m → sameAll l m = true
  | _, _, .nil => rfl
  | _, _, .cons h hrest => by
    rw [sameAll, Value.same_of_alike h, Value.sameAll_of_alike hrest]
    rfl

end

theorem Value.beq_iff_alike {v w : Value} : (v == w) = true ↔ v.Alike w :=
  ⟨alike_of_same v w, same_of_alike⟩

theorem Value.rel_of_beq {s s' : Option Value} (h : (s == s') = true) :
    Option.Rel Alike s s' := by
  cases s <;> cases s'
  · exact .none
  · exact absurd h nofun
  · exact absurd h nofun
  · exact .some (beq_iff_alike.mp h)

theorem Value.beq_of_rel {s s' : Option Value} (h : Option.Rel Alike s s') :
    (s == s') = true := by
  cases h with
  | none => rfl
  | some h => exact beq_iff_alike.mpr h

/-- Lists that are equal are equal one by one. -/
theorem forall₂_of_beq {α : Type} [BEq α] {P : α → α → Prop} {l m : List α}
    (h : (l == m) = true) (hP : ∀ a ∈ l, ∀ b, (a == b) = true → P a b) :
    List.Forall₂ P l m := by
  induction l generalizing m with
  | nil =>
    cases m with
    | nil => exact .nil
    | cons => exact absurd h nofun
  | cons a l ih =>
    cases m with
    | nil => exact absurd h nofun
    | cons b m =>
      rw [List.cons_beq_cons, Bool.and_eq_true] at h
      exact .cons (hP a List.mem_cons_self b h.1)
        (ih h.2 fun c hc => hP c (List.mem_cons_of_mem _ hc))

theorem Value.alike_of_beq {l m : List Value} (h : (l == m) = true) : List.Forall₂ Alike l m :=
  forall₂_of_beq h fun _ _ _ => beq_iff_alike.mp

namespace Value

variable {v w : Value}

theorem Alike.text?_eq (h : v.Alike w) : v.text? = w.text? := by
  cases h with
  | number h => simp only [text?, Decimal.normalize_eq_of_sameValue h]
  | _ => rfl

theorem Alike.instant?_eq (h : v.Alike w) : v.instant? = w.instant? := by
  cases h <;> rfl

/-- Equal values choose one branch of a partition. -/
theorem Alike.partitionKey?_eq (h : v.Alike w) : v.partitionKey? = w.partitionKey? := by
  rw [partitionKey?, partitionKey?, h.text?_eq]

end Value

/-! ## Tests -/

section Tests

variable (registry : Registry) (comparer : Option String)

theorem relate_congr {t t' : Value} {s s' : Option Value} (ht : t.Alike t')
    (hs : Option.Rel Value.Alike s s') :
    relate registry comparer t s = relate registry comparer t' s' := by
  have hsubject : (s.getD .null).Alike (s'.getD .null) := rel_getD hs .null
  unfold relate
  generalize s.getD .null = v at hsubject
  generalize s'.getD .null = v' at hsubject
  cases hsubject with
  | number hv =>
    cases ht with
    | number ht =>
      simp only [Decimal.compare_eq]
      rw [(Decimal.sameValue_iff _ _).mp hv, (Decimal.sameValue_iff _ _).mp ht]
    | _ => rfl
  | _ => cases ht <;> rfl

theorem compareWith_congr (op : Comparison) {t t' : Value} {s s' : Option Value}
    (ht : t.Alike t') (hs : Option.Rel Value.Alike s s') :
    compareWith registry comparer op t s = compareWith registry comparer op t' s' := by
  rw [compareWith, compareWith, relate_congr registry comparer ht hs]

theorem isOneOf_congr {l l' : List Value} {s s' : Option Value}
    (hl : List.Forall₂ Value.Alike l l') (hs : Option.Rel Value.Alike s s') :
    isOneOf registry comparer l s = isOneOf registry comparer l' s' := by
  induction hl with
  | nil => rfl
  | cons hv _ ih => rw [isOneOf, isOneOf, compareWith_congr registry comparer .equal hv hs, ih]

theorem areAllIn_congr {haystack haystack' needles needles' : List Value}
    (hh : List.Forall₂ Value.Alike haystack haystack')
    (hn : List.Forall₂ Value.Alike needles needles') :
    areAllIn registry comparer haystack needles
      = areAllIn registry comparer haystack' needles' := by
  induction hn with
  | nil => rfl
  | cons hv _ ih => rw [areAllIn, areAllIn, isOneOf_congr registry comparer hh (.some hv), ih]

theorem containsValue_congr {v v' : Value} {s s' : Option Value} (hv : v.Alike v')
    (hs : Option.Rel Value.Alike s s') :
    containsValue registry comparer v s = containsValue registry comparer v' s' := by
  have hneedle := Option.Rel.some hv
  cases hs with
  | none => rfl
  | some hs =>
    have hsubject := Option.Rel.some hs
    cases hs with
    | array hh =>
      cases hv with
      | array hn => exact areAllIn_congr registry comparer hh hn
      | _ => exact isOneOf_congr registry comparer hh hneedle
    | _ =>
      cases hv with
      | array hn =>
        -- only a single needle is compared with a scalar
        cases hn with
        | nil => rfl
        | cons hn hrest =>
          cases hrest with
          | nil => exact compareWith_congr registry comparer .equal hn hsubject
          | cons => rfl
      | _ => rfl

theorem startsWithText_congr {s s' : Option Value} (hs : Option.Rel Value.Alike s s')
    (text : String) : startsWithText s text = startsWithText s' text := by
  cases hs with
  | none => rfl
  | some h => cases h <;> rfl

theorem endsWithText_congr {s s' : Option Value} (hs : Option.Rel Value.Alike s s')
    (text : String) : endsWithText s text = endsWithText s' text := by
  cases hs with
  | none => rfl
  | some h => cases h <;> rfl

theorem instant?_congr {s s' : Option Value} (hs : Option.Rel Value.Alike s s') :
    s.bind Value.instant? = s'.bind Value.instant? :=
  bind_eq_of_rel hs fun _ _ h => h.instant?_eq

theorem isWithin_congr {s s' now now' : Option Value} (hs : Option.Rel Value.Alike s s')
    (hnow : Option.Rel Value.Alike now now') (window : Window) :
    isWithin s now window = isWithin s' now' window := by
  rw [isWithin, isWithin, instant?_congr hs, instant?_congr hnow]

end Tests

/-! ## Buckets -/

/-- Equal owners lie in one bucket, under every hash. -/
theorem Value.Alike.ownerBucket_eq {v w : Value} (h : v.Alike w) (hasher : Hasher)
    (salt : String) : ownerBucket hasher salt v = ownerBucket hasher salt w := by
  rw [ownerBucket, ownerBucket, h.text?_eq]

/-- Two tables have equal values with the same weights. -/
abbrev SharesAlike : List (Value × Nat) → List (Value × Nat) → Prop :=
  List.Forall₂ fun entry entry' => entry.1.Alike entry'.1 ∧ entry.2 = entry'.2

theorem sharesAlike_of_beq {table table' : List (Value × Nat)}
    (h : (table == table') = true) : SharesAlike table table' := by
  refine forall₂_of_beq h fun entry _ entry' hentry => ?_
  obtain ⟨v, w⟩ := entry
  obtain ⟨v', w'⟩ := entry'
  have hboth : (v == v') = true ∧ (w == w') = true := Bool.and_eq_true_iff.mp hentry
  exact ⟨Value.beq_iff_alike.mp hboth.1, beq_iff_eq.mp hboth.2⟩

theorem weights_eq_of_alike {table table' : List (Value × Nat)} (h : SharesAlike table table') :
    table.map Prod.snd = table'.map Prod.snd := by
  induction h with
  | nil => rfl
  | cons hentry _ ih => rw [List.map_cons, List.map_cons, hentry.2, ih]

theorem pick_congr {table table' : List (Value × Nat)} (h : SharesAlike table table')
    (target : Nat) : Option.Rel Value.Alike (pick target table) (pick target table') := by
  induction h generalizing target with
  | nil => exact .none
  | @cons entry entry' _ _ hentry _ ih =>
    obtain ⟨v, w⟩ := entry
    obtain ⟨v', w'⟩ := entry'
    obtain ⟨hv, rfl⟩ := hentry
    rw [pick, pick]
    split
    · exact .some hv
    · exact ih _

theorem selectWeighted_congr {table table' : List (Value × Nat)} (h : SharesAlike table table')
    (bucket : UInt64) :
    Option.Rel Value.Alike (selectWeighted table bucket) (selectWeighted table' bucket) := by
  simp only [selectWeighted, weights_eq_of_alike h]
  split
  · exact .none
  · exact pick_congr h _

theorem getElem?_congr {l l' : List Value} (h : List.Forall₂ Value.Alike l l') (i : Nat) :
    Option.Rel Value.Alike l[i]? l'[i]? := by
  induction h generalizing i with
  | nil => exact .none
  | cons hv _ ih =>
    cases i with
    | zero => exact .some hv
    | succ i => exact ih i

theorem selectUniform_congr {values values' : List Value}
    (h : List.Forall₂ Value.Alike values values') (bucket : UInt64) :
    Option.Rel Value.Alike (selectUniform values bucket) (selectUniform values' bucket) := by
  rw [selectUniform, selectUniform, h.length_eq]
  exact getElem?_congr h _

end Rollout
