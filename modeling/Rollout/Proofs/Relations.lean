import Mathlib.Order.Compare
import Rollout.Proofs.Decimal
import Rollout.Subject

/-!
# How values stand to each other

`Value.Stands` tells, one case for each pair of kinds that can be compared, how a subject stands to
a threshold. Decimals, floats, truth values, texts and the keys of comparers each have an order of
their own, and each of these orders is oriented and transitive. So what two values are to each other
can be read from either side, and passes on from one pair to the next.
-/

namespace Rollout

/-! ## The orders -/

/-- Steps that do not go down add up, and the sum is level only if both of them are. -/
theorem compare_chain {α : Type} {cmp : α → α → Ordering} [Std.TransCmp cmp] {a b c : α}
    (hab : (cmp a b).isLE = true) (hbc : (cmp b c).isLE = true) :
    cmp a c = (cmp a b).then (cmp b c) := by
  cases h : cmp a b with
  | lt => exact Std.TransCmp.lt_of_lt_of_isLE h hbc
  | eq => exact Std.TransCmp.congr_left h
  | gt =>
    rw [h] at hab
    exact absurd hab nofun

instance : Std.TransOrd Decimal where
  eq_swap {a b} := by
    rw [Decimal.compare_eq, Decimal.compare_eq]
    exact Std.OrientedOrd.eq_swap
  isLE_trans {a b c} hab hbc := by
    rw [Decimal.compare_eq] at hab hbc ⊢
    exact Std.TransOrd.isLE_trans hab hbc

instance : Std.TransCmp Text.compareFolded :=
  inferInstanceAs (Std.TransCmp (compareOn Text.fold))

/-- Keys of different kinds follow the order of the kinds, and so mixed keys chain as well. -/
instance : Std.TransCmp OrderKey.compare where
  eq_swap {a b} := by
    cases a <;> cases b <;> simp only [OrderKey.compare]
    all_goals first | rfl | exact Std.OrientedCmp.eq_swap
  isLE_trans {a b c} hab hbc := by
    cases a <;> cases b <;> cases c <;> simp only [OrderKey.compare] at hab hbc ⊢
    all_goals first | rfl | contradiction | exact Std.TransCmp.isLE_trans hab hbc

/-! ## Standing to a threshold -/

/-- How a subject stands to a threshold. Values of different kinds, and arrays, stand to each other
only if one of the two is null. -/
inductive Value.Stands (registry : Registry) (comparer : Option String) :
    Value → Value → Relation → Prop
  | bothNull : Stands registry comparer .null .null .bothNull
  | nullSubject {t : Value} (h : t ≠ .null) : Stands registry comparer .null t .oneNull
  | nullThreshold {s : Value} (h : s ≠ .null) : Stands registry comparer s .null .oneNull
  | bools (a b : Bool) : Stands registry comparer (.bool a) (.bool b) (.ordered (compare a b))
  | numbers (a b : Decimal) :
      Stands registry comparer (.number a) (.number b) (.ordered (compare a b))
  | floats {x y : Binary64} (hx : x.isNaN = false) (hy : y.isNaN = false) :
      Stands registry comparer (.float x) (.float y) (.ordered (compare x.rank y.rank))
  | unordered {x y : Binary64} (h : x.isNaN = true ∨ y.isNaN = true) :
      Stands registry comparer (.float x) (.float y) .unordered
  | texts (h : comparer = none) (s t : String) :
      Stands registry comparer (.string s) (.string t) (.ordered (Text.compareFolded s t))
  | keys {name s t : String} {c : Comparer} {k l : OrderKey} (hname : comparer = some name)
      (hc : registry.find? name = some c) (hs : c s = some k) (ht : c t = some l) :
      Stands registry comparer (.string s) (.string t) (.ordered (k.compare l))

/-- The relation as it is from the other side. -/
def Relation.swap : Relation → Relation
  | .ordered o => .ordered o.swap
  | r => r

section

variable {registry : Registry} {comparer : Option String}

theorem orderKey_eq_ok_iff {c : Comparer} {name s : String} {k : OrderKey} :
    orderKey c name s = .ok k ↔ c s = some k := by
  unfold orderKey
  cases c s with
  | none => exact ⟨nofun, nofun⟩
  | some l => simp

theorem stands_of_orderTexts {s t : String} {o : Ordering}
    (h : orderTexts registry comparer s t = .ok o) :
    (Value.string s).Stands registry comparer (.string t) (.ordered o) := by
  cases comparer with
  | none =>
    cases h
    exact .texts rfl s t
  | some name =>
    simp only [orderTexts] at h
    cases hc : registry.find? name with
    | none =>
      rw [hc] at h
      cases h
    | some c =>
      simp only [hc] at h
      cases hs : orderKey c name s with
      | error e =>
        rw [hs] at h
        cases h
      | ok k =>
        cases ht : orderKey c name t with
        | error e =>
          rw [hs, ht] at h
          cases h
        | ok l =>
          rw [hs, ht] at h
          cases h
          exact .keys rfl hc (orderKey_eq_ok_iff.mp hs) (orderKey_eq_ok_iff.mp ht)

theorem stands_of_relate {t : Value} {s : Option Value} {r : Relation}
    (h : relate registry comparer t s = .ok r) : (s.getD .null).Stands registry comparer t r := by
  unfold relate at h
  generalize s.getD .null = v at h ⊢
  cases v with
  | null =>
    cases t with
    | null => cases h; exact .bothNull
    | _ => cases h; exact .nullSubject (by simp)
  | bool a =>
    cases t with
    | null => cases h; exact .nullThreshold (by simp)
    | bool b => cases h; exact .bools a b
    | _ => cases h
  | number a =>
    cases t with
    | null => cases h; exact .nullThreshold (by simp)
    | number b => cases h; exact .numbers a b
    | _ => cases h
  | float x =>
    cases t with
    | null => cases h; exact .nullThreshold (by simp)
    | float y =>
      by_cases hnan : x.isNaN = true ∨ y.isNaN = true
      · simp only [Binary64.compare?, Bool.or_eq_true, if_pos hnan] at h
        cases h
        exact .unordered hnan
      · simp only [Binary64.compare?, Bool.or_eq_true, if_neg hnan] at h
        cases h
        rw [not_or, Bool.not_eq_true, Bool.not_eq_true] at hnan
        exact .floats hnan.1 hnan.2
    | _ => cases h
  | string a =>
    cases t with
    | null => cases h; exact .nullThreshold (by simp)
    | string b =>
      cases ho : orderTexts registry comparer a b with
      | error e =>
        simp only [ho] at h
        cases h
      | ok o =>
        simp only [ho] at h
        cases h
        exact stands_of_orderTexts ho
    | _ => cases h
  | array items =>
    cases t with
    | null => cases h; exact .nullThreshold (by simp)
    | _ => cases h

theorem Value.Stands.relate_eq {t : Value} {s : Option Value} {r : Relation}
    (h : (s.getD .null).Stands registry comparer t r) :
    relate registry comparer t s = .ok r := by
  unfold relate
  generalize s.getD .null = v at h
  cases h with
  | bothNull => rfl
  | nullSubject h => cases t <;> first | rfl | exact absurd rfl h
  | nullThreshold h => cases v <;> first | rfl | exact absurd rfl h
  | bools a b => rfl
  | numbers a b => rfl
  | floats hx hy => simp [Binary64.compare?, hx, hy]
  | unordered h =>
    have hnan : (Binary64.isNaN _ || Binary64.isNaN _) = true := Bool.or_eq_true_iff.mpr h
    simp only [Binary64.compare?, if_pos hnan]
  | texts h s t =>
    subst h
    rfl
  | keys hname hc hs ht =>
    subst hname
    simp only [orderTexts, hc, orderKey, hs, ht]
    rfl

theorem relate_eq_ok_iff {t : Value} {s : Option Value} {r : Relation} :
    relate registry comparer t s = .ok r ↔ (s.getD .null).Stands registry comparer t r :=
  ⟨stands_of_relate, Value.Stands.relate_eq⟩

/-- An operator answers by how the two values stand to each other. -/
theorem compareWith_eq_ok_iff {op : Comparison} {t : Value} {s : Option Value} {accepted : Bool} :
    compareWith registry comparer op t s = .ok accepted
      ↔ ∃ r, (s.getD .null).Stands registry comparer t r ∧ op.holds r = accepted := by
  simp only [← relate_eq_ok_iff, compareWith]
  cases relate registry comparer t s with
  | error e => exact ⟨nofun, nofun⟩
  | ok r => simp [Except.map]

/-! ## From the other side, and from one pair to the next -/

variable {a b c : Value} {o o' : Ordering} {r : Relation}

theorem Value.Stands.swap (h : a.Stands registry comparer b r) :
    b.Stands registry comparer a r.swap := by
  cases h with
  | bothNull => exact .bothNull
  | nullSubject h => exact .nullThreshold h
  | nullThreshold h => exact .nullSubject h
  | bools a b =>
    rw [Relation.swap, ← Std.OrientedOrd.eq_swap]
    exact .bools b a
  | numbers a b =>
    rw [Relation.swap, ← Std.OrientedOrd.eq_swap]
    exact .numbers b a
  | floats hx hy =>
    rw [Relation.swap, ← Std.OrientedOrd.eq_swap]
    exact .floats hy hx
  | unordered h => exact .unordered h.symm
  | texts h s t =>
    rw [Relation.swap, ← Std.OrientedCmp.eq_swap]
    exact .texts h t s
  | keys hname hc hs ht =>
    rw [Relation.swap, ← Std.OrientedCmp.eq_swap]
    exact .keys hname hc ht hs

/-- Steps that do not go down add up, within every kind. -/
theorem Value.Stands.trans (hab : a.Stands registry comparer b (.ordered o))
    (hbc : b.Stands registry comparer c (.ordered o')) (ho : o.isLE = true) (ho' : o'.isLE = true) :
    a.Stands registry comparer c (.ordered (o.then o')) := by
  cases hab with
  | bools =>
    cases hbc with
    | bools => rw [← compare_chain ho ho']; exact .bools _ _
  | numbers =>
    cases hbc with
    | numbers => rw [← compare_chain ho ho']; exact .numbers _ _
  | floats hx hy =>
    cases hbc with
    | floats _ hz => rw [← compare_chain ho ho']; exact .floats hx hz
  | texts h =>
    cases hbc with
    | texts => rw [← compare_chain ho ho']; exact .texts h _ _
    | keys hname => exact absurd (h.symm.trans hname) nofun
  | keys hname hc hs ht =>
    cases hbc with
    | texts h => exact absurd (h.symm.trans hname) nofun
    | keys hname' hc' hs' ht' =>
      -- both steps use one comparer, which has one key for the text in the middle
      obtain rfl := Option.some.inj (hname.symm.trans hname')
      obtain rfl := Option.some.inj (hc.symm.trans hc')
      obtain rfl := Option.some.inj (ht.symm.trans hs')
      rw [← compare_chain ho ho']
      exact .keys hname hc hs ht'

end

end Rollout
