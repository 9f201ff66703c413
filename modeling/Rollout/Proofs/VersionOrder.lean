import Mathlib.Data.List.DropRight
import Mathlib.Data.List.Lex
import Rollout.Proofs.Relations
import Rollout.Proofs.Versions
import Rollout.Settings

/-!
# The order of versions

Under the standard settings, texts can be compared as versions. Their numbers are padded with zeros
to four and compared from the front, so two versions of different length are compared as if the
shorter one were written out, and the first number in which they differ decides. A text that is no
version is rejected, the subject before the threshold.
-/

namespace Rollout

open Literal

/-! ## Operators on an ordered type -/

/-- The operator holds of two members of an ordered type. -/
def Comparison.Relates {α : Type} [LinearOrder α] : Comparison → α → α → Prop
  | equal, a, b => a = b
  | notEqual, a, b => a ≠ b
  | less, a, b => a < b
  | lessEqual, a, b => a ≤ b
  | greater, a, b => b < a
  | greaterEqual, a, b => b ≤ a

theorem Comparison.accepts_iff_relates {α : Type} [LinearOrder α] {a b : α} {o : Ordering}
    (h : o.Compares a b) (op : Comparison) : op.accepts o = true ↔ op.Relates a b := by
  cases op with
  | equal => rw [accepts, Relates, ← h.eq_eq, Ordering.isEq_iff_eq_eq]
  | notEqual => rw [accepts, Relates, Ne, ← h.eq_eq, Ordering.isNe_iff_ne_eq]
  | less => rw [accepts, Relates, ← h.eq_lt, Ordering.isLT_iff_eq_lt]
  | lessEqual => rw [accepts, Relates, ← h.ne_gt, Ordering.isLE_iff_ne_gt]
  | greater => rw [accepts, Relates, ← h.eq_gt, Ordering.isGT_iff_eq_gt]
  | greaterEqual => rw [accepts, Relates, ← h.ne_lt, Ordering.isGE_iff_ne_lt]

/-! ## Padded lists -/

/-- Comparing number by number is comparing by the order of lists. -/
theorem compareLex_compares (p q : List Nat) : (List.compareLex compare p q).Compares p q := by
  induction p generalizing q with
  | nil =>
    cases q with
    | nil => rfl
    | cons n q => exact List.nil_lt_cons n q
  | cons m p ih =>
    cases q with
    | nil => exact List.nil_lt_cons m p
    | cons n q =>
      rw [List.compareLex_cons_cons]
      rcases Nat.lt_trichotomy m n with h | rfl | h
      · rw [Nat.compare_eq_lt.mpr h]
        exact List.cons_lt_cons_iff.mpr (.inl h)
      · rw [Nat.compare_eq_eq.mpr rfl, Ordering.eq_then]
        have hrest := ih q
        generalize List.compareLex compare p q = o at hrest
        cases o with
        | lt => exact List.cons_lt_cons_iff.mpr (.inr ⟨rfl, hrest⟩)
        | eq => exact congrArg (List.cons m) hrest
        | gt => exact List.cons_lt_cons_iff.mpr (.inr ⟨rfl, hrest⟩)
      · rw [Nat.compare_eq_gt.mpr h]
        exact List.cons_lt_cons_iff.mpr (.inl h)

/-- The number at a place of a version. Missing numbers are zero. -/
def part (parts : List Nat) (i : Nat) : Nat :=
  parts.getD i 0

theorem part_of_length_le {parts : List Nat} {i : Nat} (h : parts.length ≤ i) : part parts i = 0 := by
  rw [part, List.getD_eq_getElem?_getD, List.getElem?_eq_none h, Option.getD_none]

theorem getElem_rightpad {parts : List Nat} {n i : Nat} (h : i < (parts.rightpad n 0).length) :
    (parts.rightpad n 0)[i] = part parts i := by
  rw [part, List.getD_eq_getElem?_getD]
  simp only [List.rightpad, List.getElem_append]
  split
  · rename_i hi
    rw [List.getElem?_eq_getElem hi, Option.getD_some]
  · rename_i hi
    rw [List.getElem_replicate, List.getElem?_eq_none (Nat.le_of_not_lt hi), Option.getD_none]

/-- The first place in which two padded lists differ decides. -/
theorem rightpad_lt_of_part {p q : List Nat} {n i : Nat} (hlength : p.length ≤ n)
    (hbefore : ∀ j < i, part p j = part q j) (hraised : part q i < part p i) :
    q.rightpad n 0 < p.rightpad n 0 := by
  have hi : i < p.length := by
    by_contra hout
    rw [part_of_length_le (Nat.le_of_not_lt hout)] at hraised
    exact absurd hraised (Nat.not_lt_zero _)
  have hp : i < (p.rightpad n 0).length := by rw [List.length_rightpad]; omega
  have hq : i < (q.rightpad n 0).length := by rw [List.length_rightpad]; omega
  refine List.lt_iff_exists.mpr (.inr ⟨i, hq, hp, fun j hj => ?_, ?_⟩)
  · rw [getElem_rightpad, getElem_rightpad, hbefore j hj]
  · rw [getElem_rightpad, getElem_rightpad]
    exact hraised

/-- The list without the zeros at its end. -/
def withoutEndZeros (parts : List Nat) : List Nat :=
  parts.rdropWhile (· == 0)

theorem withoutEndZeros_rightpad (parts : List Nat) (n : Nat) :
    withoutEndZeros (parts.rightpad n 0) = withoutEndZeros parts := by
  rw [List.rightpad, withoutEndZeros, withoutEndZeros]
  induction n - parts.length with
  | zero => rw [List.replicate_zero, List.append_nil]
  | succ k ih =>
    rw [List.replicate_succ', ← List.append_assoc, List.rdropWhile_concat_pos _ _ _ rfl, ih]

theorem rightpad_withoutEndZeros {parts : List Nat} {n : Nat} (h : parts.length ≤ n) :
    (withoutEndZeros parts).rightpad n 0 = parts.rightpad n 0 := by
  induction parts using List.reverseRecOn with
  | nil => rfl
  | append_singleton parts m ih =>
    rw [List.length_append, List.length_singleton] at h
    by_cases hm : m = 0
    · subst hm
      have hdrop : withoutEndZeros (parts ++ [0]) = withoutEndZeros parts :=
        List.rdropWhile_concat_pos _ _ _ rfl
      have hcount : n - parts.length = n - (parts.length + 1) + 1 := by omega
      rw [hdrop, ih (by omega), List.rightpad, List.rightpad, hcount, List.replicate_succ,
        List.length_append, List.length_singleton, List.append_assoc, List.singleton_append]
    · have hkeep : withoutEndZeros (parts ++ [m]) = parts ++ [m] :=
        List.rdropWhile_concat_neg _ _ _ (by simpa using hm)
      rw [hkeep]

/-- Padded to one length, two lists are the same if they are but for zeros at the end. -/
theorem rightpad_eq_iff {p q : List Nat} {n : Nat} (hp : p.length ≤ n) (hq : q.length ≤ n) :
    p.rightpad n 0 = q.rightpad n 0 ↔ withoutEndZeros p = withoutEndZeros q := by
  constructor
  · intro h
    rw [← withoutEndZeros_rightpad p n, h, withoutEndZeros_rightpad]
  · intro h
    rw [← rightpad_withoutEndZeros hp, h, rightpad_withoutEndZeros hq]

/-! ## Comparing texts as versions -/

/-- Compares two texts by the comparer for versions, under the standard settings. -/
def compareVersions (op : Comparison) (threshold subject : String) : Except EvalError Bool :=
  compareWith Settings.standard.registry (some "version") op (.string threshold)
    (some (.string subject))

section

variable {s t : String} {p q : List Nat} {e : LiteralError} (op : Comparison)

theorem find?_version : Settings.standard.registry.find? "version" = some versionComparer := rfl

theorem versionComparer_of_ok (h : parseVersion s = .ok p) :
    versionComparer s = some (.version (p.rightpad 4 0)) := by
  rw [versionComparer, h]
  rfl

theorem versionComparer_of_error (h : parseVersion s = .error e) : versionComparer s = none := by
  rw [versionComparer, h]

theorem compareVersions_of_ok (hs : parseVersion s = .ok p) (ht : parseVersion t = .ok q) :
    ∃ accepted, compareVersions op t s = .ok accepted
      ∧ (accepted = true ↔ op.Relates (p.rightpad 4 0) (q.rightpad 4 0)) := by
  have hstands : (Value.string s).Stands Settings.standard.registry (some "version") (.string t)
      (.ordered (List.compareLex compare (p.rightpad 4 0) (q.rightpad 4 0))) :=
    .keys rfl find?_version (versionComparer_of_ok hs) (versionComparer_of_ok ht)
  exact ⟨_, compareWith_eq_ok_iff.mpr ⟨_, hstands, rfl⟩,
    Comparison.accepts_iff_relates (compareLex_compares _ _) op⟩

theorem compareVersions_of_subject (hs : parseVersion s = .error e) :
    compareVersions op t s = .error (.comparerRejected "version" s) := by
  simp only [compareVersions, compareWith, relate, Option.getD_some, orderTexts, find?_version,
    orderKey, versionComparer_of_error hs]
  rfl

theorem compareVersions_of_threshold (hs : parseVersion s = .ok p) (ht : parseVersion t = .error e) :
    compareVersions op t s = .error (.comparerRejected "version" t) := by
  simp only [compareVersions, compareWith, relate, Option.getD_some, orderTexts, find?_version,
    orderKey, versionComparer_of_ok hs, versionComparer_of_error ht]
  rfl

/-- An operator accepts two versions if it holds of their padded lists. -/
theorem compareVersions_eq_ok_true_iff (hs : parseVersion s = .ok p) (ht : parseVersion t = .ok q) :
    compareVersions op t s = .ok true ↔ op.Relates (p.rightpad 4 0) (q.rightpad 4 0) := by
  obtain ⟨accepted, hanswer, haccepted⟩ := compareVersions_of_ok op hs ht
  rw [hanswer, Except.ok.injEq, haccepted]

theorem length_le_of_parseVersion (h : parseVersion s = .ok p) : p.length ≤ 4 :=
  (eq_versionText_of_parseVersion h).1.atMostFour

end

/-- Of two texts compared as versions, `s` the subject and `t` the threshold, what the answer is. -/
structure VersionsOrdered (s t : String) : Prop where
  /-- There is an answer if both texts are versions, and only then. -/
  answers : ∀ op, (∃ accepted, compareVersions op t s = .ok accepted) ↔
    (∃ p, parseVersion s = .ok p) ∧ ∃ q, parseVersion t = .ok q
  /-- The answer is whether the operator holds of the padded lists, in the order of lists. -/
  order : ∀ p q, parseVersion s = .ok p → parseVersion t = .ok q → ∀ op,
    ∃ accepted, compareVersions op t s = .ok accepted
      ∧ (accepted = true ↔ op.Relates (p.rightpad 4 0) (q.rightpad 4 0))
  /-- Versions are equal if their lists are but for zeros at the end. -/
  equal : ∀ p q, parseVersion s = .ok p → parseVersion t = .ok q →
    (compareVersions .equal t s = .ok true ↔ withoutEndZeros p = withoutEndZeros q)
  /-- A version with a number raised is greater, whatever stands behind it. -/
  raised : ∀ p q, parseVersion s = .ok p → parseVersion t = .ok q →
    ∀ i, (∀ j < i, part p j = part q j) → part q i < part p i →
      compareVersions .greater t s = .ok true
  /-- A subject that is no version is rejected, whatever the threshold. -/
  subject : ∀ e, parseVersion s = .error e → ∀ op,
    compareVersions op t s = .error (.comparerRejected "version" s)
  /-- Then a threshold that is no version is. -/
  threshold : ∀ p e, parseVersion s = .ok p → parseVersion t = .error e → ∀ op,
    compareVersions op t s = .error (.comparerRejected "version" t)

theorem answers_iff_both_versions (s t : String) (op : Comparison) :
    (∃ accepted, compareVersions op t s = .ok accepted) ↔
      (∃ p, parseVersion s = .ok p) ∧ ∃ q, parseVersion t = .ok q := by
  constructor
  · rintro ⟨accepted, hanswer⟩
    rcases hs : parseVersion s with e | p
    · rw [compareVersions_of_subject op hs] at hanswer
      contradiction
    · rcases ht : parseVersion t with e | q
      · rw [compareVersions_of_threshold op hs ht] at hanswer
        contradiction
      · exact ⟨⟨p, rfl⟩, q, rfl⟩
  · rintro ⟨⟨p, hs⟩, q, ht⟩
    obtain ⟨accepted, hanswer, -⟩ := compareVersions_of_ok op hs ht
    exact ⟨accepted, hanswer⟩

/-- **Versions are compared number by number, and missing numbers are zero.** -/
theorem versions_compare_by_numbers (s t : String) : VersionsOrdered s t where
  answers := answers_iff_both_versions s t
  order p q hs ht op := compareVersions_of_ok op hs ht
  equal p q hs ht := by
    rw [compareVersions_eq_ok_true_iff .equal hs ht]
    exact rightpad_eq_iff (length_le_of_parseVersion hs) (length_le_of_parseVersion ht)
  raised p q hs ht i hbefore hraised := by
    rw [compareVersions_eq_ok_true_iff .greater hs ht]
    exact rightpad_lt_of_part (length_le_of_parseVersion hs) hbefore hraised
  subject e hs op := compareVersions_of_subject op hs
  threshold p e hs ht op := compareVersions_of_threshold op hs ht

/-- Numbers are no digits: ten is more than nine. -/
example : compareVersions .greater "1.9.9" "1.10" = .ok true := by rfl

end Rollout
