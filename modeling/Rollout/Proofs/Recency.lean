import Mathlib.Algebra.Order.Group.Abs
import Mathlib.Algebra.Order.Group.Int
import Mathlib.Data.Int.Order.Basic
import Mathlib.Order.Compare
import Rollout.Proofs.Literals
import Rollout.Subject

/-!
# Recency and distance

A recency test takes the difference of two instants from the earlier to the later of them. The order
of instants and their difference agree, so this is the distance of the two, with one exception: a
leap second that ends a day runs on into the next day, whose first second is counted from the moment
at which the leap second began. An instant of the next day that is less far into its first second
than another is into the leap second is later than that one, and yet at a negative difference.
-/

namespace Rollout

-- powers are those of the core library, whatever else is in scope
attribute [local instance (high)] instPowNat

/-! ## Instants of timestamps -/

namespace Instant

/-- The second is one of a day, and only the last second of a minute goes on as a leap second, which
is as long as any other. -/
structure Proper (t : Instant) : Prop where
  second : t.second < secondsPerDay
  nano : t.nano < 2 * nanosPerSecond
  leap : nanosPerSecond ≤ t.nano → t.second % 60 = 59

theorem proper_ofCivil? {date : Date} {hour minute second nano : Nat}
    (hnano : nano < nanosPerSecond) : ∀ t ∈ ofCivil? date hour minute second nano, t.Proper := by
  intro t ht
  unfold ofCivil? at ht
  split at ht
  · rename_i h
    obtain ⟨-, hhour, hminute, hsecond⟩ := h
    obtain rfl := Option.some.inj ht
    unfold nanosPerSecond at hnano
    by_cases hleap : second = 60
    · simp only [if_pos hleap]
      constructor <;> simp only [secondsPerDay, nanosPerSecond] <;> omega
    · simp only [if_neg hleap]
      constructor <;> simp only [secondsPerDay, nanosPerSecond] <;> omega
  · cases ht

/-- Moving by whole minutes leaves a leap second at the end of a minute. -/
theorem Proper.earlier {t : Instant} (h : t.Proper) {seconds : Int} (hshift : seconds % 60 = 0) :
    (t.earlier seconds).Proper := by
  obtain ⟨hsecond, hnano, hleap⟩ := h
  unfold secondsPerDay at hsecond
  refine ⟨?_, hnano, fun hlong => ?_⟩
  · simp only [Instant.earlier, secondsPerDay]
    omega
  · have := hleap hlong
    simp only [Instant.earlier, secondsPerDay]
    omega

end Instant

namespace Timestamp

theorem ofDigitChars_lt {ds : List Char} (h : ∀ c ∈ ds, c.isDigit = true) (n : Nat) :
    Nat.ofDigitChars 10 ds n < 10 ^ ds.length * (n + 1) := by
  induction ds generalizing n with
  | nil => simp
  | cons c ds ih =>
    have hc := (Literal.bounds_of_isDigit (h c List.mem_cons_self)).2
    rw [Nat.ofDigitChars_cons, List.length_cons, Nat.pow_succ, Nat.mul_assoc]
    calc Nat.ofDigitChars 10 ds (10 * n + (c.toNat - '0'.toNat))
        < 10 ^ ds.length * (10 * n + (c.toNat - '0'.toNat) + 1) :=
          ih (fun d hd => h d (List.mem_cons_of_mem _ hd)) _
      _ ≤ 10 ^ ds.length * (10 * (n + 1)) := Nat.mul_le_mul_left _ (by omega)

/-- A fraction is less than a second, however many digits it has. -/
theorem fraction_lt {l rest : List Char} {n : Nat} (h : (n, rest) ∈ fraction l) :
    n < Instant.nanosPerSecond := by
  unfold fraction at h
  split at h
  · rename_i r
    simp only at h
    split at h
    · cases h
    · cases h
      generalize hkept : (r.takeWhile Char.isDigit).take 9 = kept
      have hlength : kept.length ≤ 9 := by
        rw [← hkept]
        exact List.length_take_le 9 _
      have hdigits : ∀ c ∈ kept, c.isDigit = true := by
        intro c hc
        rw [← hkept] at hc
        exact List.all_eq_true.mp List.all_takeWhile c (List.mem_of_mem_take hc)
      have hlt := ofDigitChars_lt hdigits 0
      rw [Nat.zero_add, Nat.mul_one] at hlt
      have hpos : 0 < 10 ^ (9 - kept.length) := Nat.pow_pos (by decide)
      calc Nat.ofDigitChars 10 kept 0 * 10 ^ (9 - kept.length)
          < 10 ^ kept.length * 10 ^ (9 - kept.length) := Nat.mul_lt_mul_of_pos_right hlt hpos
        _ = 10 ^ 9 := by rw [← Nat.pow_add, Nat.add_sub_cancel' hlength]
        _ = Instant.nanosPerSecond := rfl
  · cases h
    decide

theorem forall_mem_bind {α β : Type} {o : Option α} {f : α → Option β} {P : β → Prop}
    (h : ∀ a ∈ o, ∀ b ∈ f a, P b) : ∀ b ∈ o >>= f, P b := by
  intro b hb
  obtain ⟨a, ha, hb⟩ := Option.bind_eq_some_iff.mp hb
  exact h a ha b hb

theorem forall_mem_orElse {α : Type} {o o' : Option α} {P : α → Prop} (h : ∀ a ∈ o, P a)
    (h' : ∀ a ∈ o', P a) : ∀ a ∈ (o <|> o'), P a := by
  cases o with
  | none => exact h'
  | some a => exact h

/-- Offsets are whole minutes. -/
theorem offset_mod (l : List Char) : ∀ shift ∈ offset l, shift.1 % 60 = 0 := by
  cases l with
  | nil => nofun
  | cons c r =>
    simp only [offset]
    split
    · rintro _ ⟨⟩
      rfl
    · refine forall_mem_bind fun hours _ => ?_
      refine forall_mem_bind fun r _ => ?_
      refine forall_mem_bind fun minutes _ => ?_
      intro shift hshift
      split at hshift
      · cases hshift
      · split at hshift
        · cases hshift
          simp only
          omega
        · split at hshift
          · cases hshift
            simp only
            omega
          · cases hshift

theorem proper_zoned? (l : List Char) : ∀ t ∈ zoned? l, t.Proper := by
  unfold zoned?
  -- a date and a time, with marks between the numbers
  iterate 11 refine forall_mem_bind fun _ _ => ?_
  refine forall_mem_bind fun nano hnano => ?_
  refine forall_mem_bind fun shift hshift => ?_
  dsimp only
  split
  · nofun
  · refine forall_mem_bind fun local? hlocal => ?_
    rintro _ ⟨⟩
    exact (Instant.proper_ofCivil? (fraction_lt hnano) _ hlocal).earlier (offset_mod _ _ hshift)

theorem proper_looseTime? (date : Date) (l : List Char) : ∀ t ∈ looseTime? date l, t.Proper := by
  unfold looseTime?
  iterate 5 refine forall_mem_bind fun _ _ => ?_
  refine forall_mem_bind fun nano hnano => ?_
  dsimp only
  split
  · nofun
  · exact Instant.proper_ofCivil? (fraction_lt hnano)

theorem proper_joined? (l : List Char) : ∀ t ∈ joined? l, t.Proper :=
  forall_mem_bind fun _ _ => forall_mem_bind fun _ _ => proper_looseTime? _ _

theorem proper_spaced? (l : List Char) : ∀ t ∈ spaced? l, t.Proper :=
  forall_mem_bind fun _ _ => proper_looseTime? _ _

theorem proper_bare? (l : List Char) : ∀ t ∈ bare? l, t.Proper := by
  unfold bare?
  refine forall_mem_bind fun _ _ => ?_
  dsimp only
  split
  · nofun
  · exact Instant.proper_ofCivil? (by decide)

/-- Whatever its form, a timestamp names a proper instant. -/
theorem proper_read? (s : String) : ∀ t ∈ read? s, t.Proper :=
  forall_mem_orElse (proper_zoned? _) <| forall_mem_orElse (proper_joined? _) <|
    forall_mem_orElse (proper_spaced? _) (proper_bare? _)

end Timestamp

theorem Value.proper_instant? {v : Value} {t : Instant} (h : v.instant? = some t) : t.Proper := by
  cases v with
  | string s => exact Timestamp.proper_read? s t h
  | _ => cases h

/-! ## Order and difference -/

namespace Instant

theorem isGE_compare_iff (t u : Instant) :
    (t.compare u).isGE = true ↔ ¬(t.day < u.day ∨ t.day = u.day ∧
      (t.second < u.second ∨ t.second = u.second ∧ t.nano < u.nano)) := by
  have hlt : t.compare u = .lt ↔ t.day < u.day ∨ t.day = u.day ∧
      (t.second < u.second ∨ t.second = u.second ∧ t.nano < u.nano) := by
    simp only [compare, Ordering.then_eq_lt, compare_lt_iff_lt, compare_eq_iff_eq]
  rw [← hlt]
  cases t.compare u <;> simp

/-- The difference from the other side has the other sign. -/
theorem since_swap (t u : Instant) : u.since t = -t.since u := by
  simp only [since, unixSeconds, secondsPerDay, nanosPerSecond]
  split_ifs <;> omega

/-- `u` is in the leap second that ends a day, `t` in the first second of the next day, and less far
into it than `u` is into the leap second. -/
structure Outruns (u t : Instant) : Prop where
  day : t.day = u.day + 1
  last : u.second + 1 = secondsPerDay
  first : t.second = 0
  nano : t.nano + nanosPerSecond < u.nano

/-- Only an instant that is outrun is later at a negative difference. -/
theorem since_neg_iff {t u : Instant} (ht : t.Proper) (hu : u.Proper)
    (hge : (t.compare u).isGE = true) : t.since u < 0 ↔ u.Outruns t := by
  rw [isGE_compare_iff] at hge
  obtain ⟨htsecond, htnano, htleap⟩ := ht
  obtain ⟨husecond, hunano, huleap⟩ := hu
  simp only [since, unixSeconds, secondsPerDay, nanosPerSecond] at *
  constructor
  · intro hneg
    have hday : t.day = u.day + 1 := by split_ifs at hneg <;> omega
    have hlast : u.second + 1 = 86400 := by split_ifs at hneg <;> omega
    have hfirst : t.second = 0 := by split_ifs at hneg <;> omega
    have hnano : t.nano + 1000000000 < u.nano := by split_ifs at hneg <;> omega
    exact ⟨hday, hlast, hfirst, hnano⟩
  · rintro ⟨hday, hlast, hfirst, hnano⟩
    simp only [secondsPerDay, nanosPerSecond] at hlast hnano
    split_ifs <;> omega

theorem Outruns.isGE {t u : Instant} (h : u.Outruns t) : (t.compare u).isGE = true := by
  rw [isGE_compare_iff]
  have := h.day
  omega

/-- One of two instants is later than the other, or both are the same. -/
theorem isGE_total (t u : Instant) : (t.compare u).isGE = true ∨ (u.compare t).isGE = true := by
  rw [isGE_compare_iff, isGE_compare_iff]
  omega

theorem eq_of_isGE {t u : Instant} (h : (t.compare u).isGE = true)
    (h' : (u.compare t).isGE = true) : t = u := by
  rw [isGE_compare_iff] at h h'
  obtain ⟨tday, tsecond, tnano⟩ := t
  obtain ⟨uday, usecond, unano⟩ := u
  simp only at h h'
  simp only [mk.injEq]
  omega

theorem distance_of_isGE {t u : Instant} (h : (t.compare u).isGE = true) :
    t.distance u = t.since u :=
  if_pos h

theorem distance_comm (t u : Instant) : t.distance u = u.distance t := by
  by_cases h : (t.compare u).isGE = true
  · by_cases h' : (u.compare t).isGE = true
    · rw [eq_of_isGE h h']
    · rw [distance, distance, if_pos h, if_neg h']
  · have h' := (isGE_total t u).resolve_left h
    rw [distance, distance, if_neg h, if_pos h']

/-- Instants of which neither outruns the other are as far apart as their difference says. -/
theorem distance_eq_abs {t u : Instant} (ht : t.Proper) (hu : u.Proper)
    (h : ¬(u.Outruns t ∨ t.Outruns u)) : t.distance u = |t.since u| := by
  rw [not_or] at h
  rcases isGE_total t u with hge | hge
  · have hnonneg : 0 ≤ t.since u := not_lt.mp fun hneg => h.1 ((since_neg_iff ht hu hge).mp hneg)
    rw [distance_of_isGE hge, abs_of_nonneg hnonneg]
  · have hnonneg : 0 ≤ u.since t := not_lt.mp fun hneg => h.2 ((since_neg_iff hu ht hge).mp hneg)
    rw [distance_comm, distance_of_isGE hge, ← abs_neg, ← since_swap, abs_of_nonneg hnonneg]

theorem Outruns.distance_eq {t u : Instant} (ht : t.Proper) (hu : u.Proper) (h : u.Outruns t) :
    t.distance u = -|t.since u| ∧ t.distance u < 0 := by
  have hneg : t.since u < 0 := (since_neg_iff ht hu h.isGE).mpr h
  rw [distance_of_isGE h.isGE, abs_of_neg hneg, neg_neg]
  exact ⟨rfl, hneg⟩

/-- Instants of which one outruns the other are at the negative of their distance. -/
theorem distance_eq_neg_abs {t u : Instant} (ht : t.Proper) (hu : u.Proper)
    (h : u.Outruns t ∨ t.Outruns u) : t.distance u = -|t.since u| ∧ t.distance u < 0 := by
  rcases h with h | h
  · exact h.distance_eq ht hu
  · have heq := h.distance_eq hu ht
    rwa [distance_comm, since_swap u t, abs_neg]

end Instant

/-! ## The test -/

section

variable {subject now : Value} {t u : Instant}

theorem isWithin_eq (ht : subject.instant? = some t) (hu : now.instant? = some u)
    (window : Window) :
    isWithin (some subject) (some now) window = .ok (decide (t.distance u < window.nanos)) := by
  simp only [isWithin, Option.bind_some, ht, hu]

theorem isWithin_of_apart (ht : subject.instant? = some t) (hu : now.instant? = some u)
    (h : ¬(u.Outruns t ∨ t.Outruns u)) (window : Window) :
    isWithin (some subject) (some now) window = .ok (decide (|t.since u| < window.nanos)) := by
  rw [isWithin_eq ht hu,
    Instant.distance_eq_abs (Value.proper_instant? ht) (Value.proper_instant? hu) h]

theorem isWithin_of_outrun (ht : subject.instant? = some t) (hu : now.instant? = some u)
    (h : u.Outruns t ∨ t.Outruns u) (window : Window) :
    isWithin (some subject) (some now) window = .ok (decide (-|t.since u| < window.nanos)) := by
  rw [isWithin_eq ht hu,
    (Instant.distance_eq_neg_abs (Value.proper_instant? ht) (Value.proper_instant? hu) h).1]

/-- An instant that is outrun is within no time of the other. -/
theorem isWithin_nothing_of_outrun (ht : subject.instant? = some t) (hu : now.instant? = some u)
    (h : u.Outruns t ∨ t.Outruns u) : isWithin (some subject) (some now) ⟨0⟩ = .ok true := by
  have hneg : t.distance u < 0 :=
    (Instant.distance_eq_neg_abs (Value.proper_instant? ht) (Value.proper_instant? hu) h).2
  rw [isWithin_eq ht hu, decide_eq_true hneg]

end

/-- What a recency test says of a subject at the instant `t` when it is `u`. -/
structure MeasuresDistance (subject now : Value) (t u : Instant) : Prop where
  /-- Unless one of the instants outruns the other, the test is whether their difference, taken
  without its sign, is less than the window. -/
  apart : ¬(u.Outruns t ∨ t.Outruns u) → ∀ window,
    isWithin (some subject) (some now) window = .ok (decide (|t.since u| < window.nanos))
  /-- If one outruns the other, the sign stays. -/
  outrun : u.Outruns t ∨ t.Outruns u → ∀ window,
    isWithin (some subject) (some now) window = .ok (decide (-|t.since u| < window.nanos))
  /-- So these are all the cases in which the distance is not what is tested. -/
  exact : (∀ window, isWithin (some subject) (some now) window = .ok true
    ↔ |t.since u| < window.nanos) ↔ ¬(u.Outruns t ∨ t.Outruns u)
  /-- The difference without its sign does not depend on which instant it is taken from, -/
  symmetric : |u.since t| = |t.since u|
  /-- and neither does the test. -/
  swapped : ∀ window, isWithin (some now) (some subject) window
    = isWithin (some subject) (some now) window
  /-- A wider window loses nothing. -/
  wider : ∀ window window', window.nanos ≤ window'.nanos →
    isWithin (some subject) (some now) window = .ok true →
      isWithin (some subject) (some now) window' = .ok true
  /-- Nothing lies in a window without width, unless it is outrun. -/
  empty : ¬(u.Outruns t ∨ t.Outruns u) → ∀ window, window.nanos ≤ 0 →
    isWithin (some subject) (some now) window = .ok false

/-- **Recency is distance**, up to a leap second that outruns the next day. -/
theorem recency_measures_distance {subject now : Value} {t u : Instant}
    (ht : subject.instant? = some t) (hu : now.instant? = some u) :
    MeasuresDistance subject now t u where
  apart := isWithin_of_apart ht hu
  outrun := isWithin_of_outrun ht hu
  exact := by
    constructor
    · intro htests h
      -- a window without width tells the two apart
      have hlt : |t.since u| < 0 := (htests ⟨0⟩).mp (isWithin_nothing_of_outrun ht hu h)
      exact absurd hlt (not_lt.mpr (abs_nonneg _))
    · intro h window
      rw [isWithin_of_apart ht hu h]
      simp
  symmetric := by rw [Instant.since_swap t u, abs_neg]
  swapped window := by rw [isWithin_eq ht hu, isWithin_eq hu ht, Instant.distance_comm]
  wider window window' hle := by
    rw [isWithin_eq ht hu, isWithin_eq ht hu]
    simp only [Except.ok.injEq, decide_eq_true_eq]
    exact fun hlt => lt_of_lt_of_le hlt hle
  empty h window hle := by
    have hnot : ¬|t.since u| < window.nanos := not_lt.mpr (le_trans hle (abs_nonneg _))
    rw [isWithin_of_apart ht hu h, decide_eq_false hnot]

/-- Half way through a leap second and at the end of the first second of the next day. -/
theorem recency_measures_distance_of_leap_second :
    (Value.string "2016-12-31T23:59:60.5Z").instant? = some ⟨17166, 86399, 1500000000⟩
      ∧ (Value.string "2017-01-01 00:00:01").instant? = some ⟨17167, 1, 0⟩
      ∧ MeasuresDistance (.string "2016-12-31T23:59:60.5Z") (.string "2017-01-01 00:00:01")
        ⟨17166, 86399, 1500000000⟩ ⟨17167, 1, 0⟩ :=
  ⟨by decide, by decide, recency_measures_distance (by decide) (by decide)⟩

/-- Half a second lies between the middle of a leap second and the next day, and yet the one is
within no time of the other. -/
theorem outrun_within_nothing :
    ∃ t u, (Value.string "2016-12-31T23:59:60.5Z").instant? = some t
      ∧ (Value.string "2017-01-01T00:00:00Z").instant? = some u
      ∧ |t.since u| = 500000000
      ∧ isWithin (some (.string "2016-12-31T23:59:60.5Z")) (some (.string "2017-01-01T00:00:00Z"))
        ⟨0⟩ = .ok true :=
  ⟨⟨17166, 86399, 1500000000⟩, ⟨17167, 0, 0⟩, by decide, by decide, by decide, by decide⟩

end Rollout
