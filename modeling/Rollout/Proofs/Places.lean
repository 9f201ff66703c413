import Mathlib.Data.List.Induction
import Std.Data.HashMap.Lemmas
import Rollout.Proofs.Pool

/-!
# Places by first use

An interner is asked for one entry after another. Which entry came first decides on the places: every
call gets the place of the first entry that is alike, and that entry never moves. The same places are
handed out by a table that does not search its entries but looks their keys up in an index.
-/

namespace Rollout

/-! ## Calls one after another -/

namespace Interner

variable {α : Type}

/-- Interns entries one after another: their places, and the interner in the end. -/
def internAll (alike : α → α → Bool) (t : Interner α) : List α → List Nat × Interner α
  | [] => ([], t)
  | a :: rest =>
    let (i, u) := t.intern alike a
    let (places, w) := u.internAll alike rest
    (i :: places, w)

/-- The places that an interner without entries hands out for the calls. -/
def places (alike : α → α → Bool) (calls : List α) : List Nat :=
  ((empty : Interner α).internAll alike calls).1

/-- What an interner without entries has become after the calls. -/
def table (alike : α → α → Bool) (calls : List α) : Interner α :=
  ((empty : Interner α).internAll alike calls).2

variable (alike : α → α → Bool)

theorem internAll_append (t : Interner α) (calls later : List α) :
    t.internAll alike (calls ++ later)
      = ((t.internAll alike calls).1 ++ ((t.internAll alike calls).2.internAll alike later).1,
        ((t.internAll alike calls).2.internAll alike later).2) := by
  induction calls generalizing t with
  | nil => rfl
  | cons a rest ih => simp only [List.cons_append, internAll, ih]

theorem extends_internAll (t : Interner α) (calls : List α) :
    t.Extends (t.internAll alike calls).2 := by
  induction calls generalizing t with
  | nil => exact .refl t
  | cons a rest ih => exact (t.extends_intern alike a).trans (ih _)

theorem length_internAll (t : Interner α) (calls : List α) :
    (t.internAll alike calls).1.length = calls.length := by
  induction calls generalizing t with
  | nil => rfl
  | cons a rest ih => simp only [internAll, List.length_cons, ih]

theorem places_concat (calls : List α) (a : α) :
    places alike (calls ++ [a])
      = places alike calls ++ [((table alike calls).intern alike a).1] := by
  simp only [places, table, internAll_append, internAll]

theorem table_concat (calls : List α) (a : α) :
    table alike (calls ++ [a]) = ((table alike calls).intern alike a).2 := by
  simp only [table, internAll_append, internAll]

/-- Later calls do not change the places of earlier ones. -/
theorem places_take (calls : List α) (m : Nat) :
    places alike (calls.take m) = (places alike calls).take m := by
  by_cases hm : calls.length ≤ m
  · have hplaces : (places alike calls).length ≤ m := by
      rw [places, length_internAll]
      exact hm
    rw [List.take_of_length_le hm, List.take_of_length_le hplaces]
  · have hlength : (places alike (calls.take m)).length = m := by
      rw [places, length_internAll, List.length_take]
      omega
    have hsplit : places alike (calls.take m ++ calls.drop m)
        = places alike (calls.take m)
          ++ ((table alike (calls.take m)).internAll alike (calls.drop m)).1 := by
      simp only [places, table, internAll_append]
    rw [List.take_append_drop] at hsplit
    rw [hsplit, List.take_left' hlength]

/-- Later calls move no entry. -/
theorem extends_table_take (calls : List α) (m : Nat) :
    (table alike (calls.take m)).Extends (table alike calls) := by
  have hsplit : table alike (calls.take m ++ calls.drop m)
      = ((table alike (calls.take m)).internAll alike (calls.drop m)).2 := by
    simp only [table, internAll_append]
  rw [List.take_append_drop] at hsplit
  rw [hsplit]
  exact extends_internAll alike _ _

theorem extends_table_take_take (calls : List α) {n m : Nat} (h : n ≤ m) :
    (table alike (calls.take n)).Extends (table alike (calls.take m)) := by
  have hextends := extends_table_take alike (calls.take m) n
  rwa [List.take_take, Nat.min_eq_left h] at hextends

/-! ## What one call does -/

/-- An entry that is alike to one that is there gets the place of that one. Any other gets the next
place. -/
theorem intern_cases (t : Interner α) (a : α) :
    (∃ i b, t.entries[i]? = some b ∧ alike b a = true ∧ t.intern alike a = (i, t))
      ∨ ((∀ b ∈ t.entries, alike b a = false)
        ∧ t.intern alike a = (t.entries.size, ⟨t.entries.push a⟩)) := by
  unfold intern
  split
  · rename_i i hi
    obtain ⟨hlt, halike, -⟩ := Array.findIdx?_eq_some_iff_getElem.mp hi
    exact .inl ⟨i, _, Array.getElem?_eq_getElem hlt, halike, rfl⟩
  · rename_i hnone
    exact .inr ⟨fun b hb => Array.findIdx?_eq_none_iff.mp hnone b hb, rfl⟩

variable {alike}

/-- No two entries of the interner are alike. -/
def Distinct (alike : α → α → Bool) (t : Interner α) : Prop :=
  ∀ ⦃i j : Nat⦄ ⦃a b : α⦄, t.entries[i]? = some a → t.entries[j]? = some b →
    alike a b = true → i = j

section

variable (equiv : Equivalence fun a b => alike a b = true)
include equiv

/-- The place of an entry holds one that is alike. -/
theorem exists_entry_intern (t : Interner α) (a : α) :
    ∃ b, (t.intern alike a).2.entries[(t.intern alike a).1]? = some b ∧ alike b a = true := by
  rcases t.intern_cases alike a with ⟨i, b, hb, halike, h⟩ | ⟨-, h⟩
  · rw [h]
    exact ⟨b, hb, halike⟩
  · rw [h]
    exact ⟨a, Array.getElem?_push_size, equiv.refl a⟩

theorem Distinct.intern {t : Interner α} (h : t.Distinct alike) (a : α) :
    (t.intern alike a).2.Distinct alike := by
  rcases t.intern_cases alike a with ⟨i, b, -, -, hintern⟩ | ⟨hnew, hintern⟩
  · rw [hintern]
    exact h
  · rw [hintern]
    have hold : ∀ {i : Nat} {b : α}, t.entries[i]? = some b → alike b a = false := by
      intro i b hb
      exact hnew b (Array.mem_of_getElem? hb)
    intro i j b c hb hc hbc
    rw [Array.getElem?_push] at hb hc
    by_cases hi : i = t.entries.size
    · by_cases hj : j = t.entries.size
      · rw [hi, hj]
      · rw [if_pos hi] at hb
        rw [if_neg hj] at hc
        obtain rfl := Option.some.inj hb
        exact absurd (equiv.symm hbc) (by simp [hold hc])
    · by_cases hj : j = t.entries.size
      · rw [if_neg hi] at hb
        rw [if_pos hj] at hc
        obtain rfl := Option.some.inj hc
        exact absurd hbc (by simp [hold hb])
      · rw [if_neg hi] at hb
        rw [if_neg hj] at hc
        exact h hb hc hbc

theorem distinct_table (calls : List α) : (table alike calls).Distinct alike := by
  induction calls using List.reverseRecOn with
  | nil => exact fun i j a b ha => absurd ha (by simp [table, internAll, empty])
  | append_singleton calls a ih =>
    rw [table_concat]
    exact ih.intern equiv a

/-! ## Every call is kept -/

/-- A call has a place, and from then on that place holds an entry that is alike. -/
theorem exists_place {calls : List α} {n : Nat} {a : α} (h : calls[n]? = some a) :
    ∃ i b, (places alike calls)[n]? = some i ∧ alike b a = true
      ∧ ∀ m, n < m → (table alike (calls.take m)).entries[i]? = some b := by
  have hn : n < calls.length := (List.getElem?_eq_some_iff.mp h).1
  have htake : calls.take (n + 1) = calls.take n ++ [a] := by
    rw [List.take_add_one, h]
    rfl
  obtain ⟨b, hb, halike⟩ := exists_entry_intern equiv (table alike (calls.take n)) a
  rw [← table_concat, ← htake] at hb
  refine ⟨_, b, ?_, halike, fun m hm => extends_table_take_take alike calls hm hb⟩
  have hlength : ((places alike calls).take n).length = n := by
    rw [List.length_take, places, length_internAll]
    omega
  have hfirst : (places alike calls).take (n + 1) = (places alike calls).take n
      ++ [((table alike (calls.take n)).intern alike a).1] := by
    rw [← places_take, htake, places_concat, places_take]
  calc (places alike calls)[n]?
      = ((places alike calls).take (n + 1))[n]? := by
        rw [List.getElem?_take, if_pos (Nat.lt_succ_self n)]
    _ = some ((table alike (calls.take n)).intern alike a).1 := by
        rw [hfirst, List.getElem?_append_right (by omega), hlength, Nat.sub_self]
        rfl

/-- Two calls have one place exactly if their entries are alike. -/
theorem place_eq_iff {calls : List α} {m n : Nat} {a b : α} (ha : calls[m]? = some a)
    (hb : calls[n]? = some b) :
    (places alike calls)[m]? = (places alike calls)[n]? ↔ alike a b = true := by
  obtain ⟨i, a', hi, haa', ha'⟩ := exists_place equiv ha
  obtain ⟨j, b', hj, hbb', hb'⟩ := exists_place equiv hb
  have hfirst : (table alike (calls.take (m + n + 1))).entries[i]? = some a' := ha' _ (by omega)
  have hsecond : (table alike (calls.take (m + n + 1))).entries[j]? = some b' := hb' _ (by omega)
  rw [hi, hj, Option.some.injEq]
  constructor
  · rintro rfl
    obtain rfl : a' = b' := Option.some.inj (hfirst.symm.trans hsecond)
    exact equiv.trans (equiv.symm haa') hbb'
  · intro hab
    have hentries : alike a' b' = true := equiv.trans haa' (equiv.trans hab (equiv.symm hbb'))
    exact distinct_table equiv _ hfirst hsecond hentries

end

end Interner

namespace Interner

variable {α κ : Type} [BEq κ] {key : α → κ}

/-- If entries are alike by their keys, an entry is found by its key, and nothing else is. -/
theorem Distinct.findIdx?_key_eq_some_iff [PartialEquivBEq κ] {t : Interner α}
    (h : t.Distinct fun b a => key b == key a) {k : κ} {i : Nat} :
    t.entries.findIdx? (key · == k) = some i ↔ ∃ a, t.entries[i]? = some a ∧ (key a == k) = true := by
  constructor
  · intro hi
    obtain ⟨hlt, hk, -⟩ := Array.findIdx?_eq_some_iff_getElem.mp hi
    exact ⟨_, Array.getElem?_eq_getElem hlt, hk⟩
  · rintro ⟨a, ha, hak⟩
    cases hfind : t.entries.findIdx? (key · == k) with
    | none =>
      have hnone := Array.findIdx?_eq_none_iff.mp hfind a (Array.mem_of_getElem? ha)
      exact absurd (hnone.symm.trans hak) Bool.false_ne_true
    | some j =>
      obtain ⟨hlt, hbk, -⟩ := Array.findIdx?_eq_some_iff_getElem.mp hfind
      rw [h (Array.getElem?_eq_getElem hlt) ha (BEq.trans hbk (BEq.symm hak))]

end Interner

/-! ## Tables with an index -/

/-- A table that finds an entry by looking its key up. -/
structure KeyedTable (α κ : Type) [BEq κ] [Hashable κ] where
  /-- The places of the entries by their keys. -/
  index : Std.HashMap κ Nat
  /-- The entries in the order of their first use. -/
  entries : Array α

namespace KeyedTable

variable {α κ : Type} [BEq κ] [Hashable κ] (key : α → κ)

/-- The table without entries. -/
def empty : KeyedTable α κ := ⟨∅, #[]⟩

/-- The place of an entry, and the table that holds it there. -/
def place (t : KeyedTable α κ) (a : α) : Nat × KeyedTable α κ :=
  match t.index[key a]? with
  | some i => (i, t)
  | none => (t.entries.size, ⟨t.index.insert (key a) t.entries.size, t.entries.push a⟩)

/-- The places of entries one after another, and the table in the end. -/
def placeAll (t : KeyedTable α κ) : List α → List Nat × KeyedTable α κ
  | [] => ([], t)
  | a :: rest =>
    let (i, u) := t.place key a
    let (places, w) := u.placeAll rest
    (i :: places, w)

/-- The index leads to the first entry that has the key, and nowhere if there is none. -/
def Coherent (t : KeyedTable α κ) : Prop :=
  ∀ k, t.index[k]? = t.entries.findIdx? fun a => key a == k

theorem coherent_empty : (empty : KeyedTable α κ).Coherent key := by
  intro k
  simp [empty]

variable {key}

/-- Looking a key up finds the place that a search of the entries finds. -/
theorem Coherent.place_eq {t : KeyedTable α κ} (h : t.Coherent key) (a : α) :
    (t.place key a).1 = (Interner.intern (fun b a => key b == key a) ⟨t.entries⟩ a).1
      ∧ (⟨(t.place key a).2.entries⟩ : Interner α)
        = (Interner.intern (fun b a => key b == key a) ⟨t.entries⟩ a).2 := by
  unfold KeyedTable.place Interner.intern
  simp only [← h (key a)]
  cases t.index[key a]? with
  | none => exact ⟨rfl, rfl⟩
  | some i => exact ⟨rfl, rfl⟩

variable [EquivBEq κ] [LawfulHashable κ]

theorem Coherent.place {t : KeyedTable α κ} (h : t.Coherent key) (a : α) :
    (t.place key a).2.Coherent key := by
  unfold KeyedTable.place
  split
  · exact h
  · rename_i hnone
    intro k
    show (t.index.insert (key a) t.entries.size)[k]? = (t.entries.push a).findIdx? fun b => key b == k
    rw [Std.HashMap.getElem?_insert, Array.findIdx?_push, ← h k]
    by_cases hk : (key a == k) = true
    · -- a key that is new leads to no place yet
      have hnew : t.index[k]? = none := by rw [← Std.HashMap.getElem?_congr hk, hnone]
      simp [hk, hnew]
    · simp [hk]

theorem Coherent.placeAll_eq {t : KeyedTable α κ} (h : t.Coherent key) (calls : List α) :
    (t.placeAll key calls).2.Coherent key
      ∧ (t.placeAll key calls).1
        = (Interner.internAll (fun b a => key b == key a) ⟨t.entries⟩ calls).1
      ∧ (⟨(t.placeAll key calls).2.entries⟩ : Interner α)
        = (Interner.internAll (fun b a => key b == key a) ⟨t.entries⟩ calls).2 := by
  induction calls generalizing t with
  | nil => exact ⟨h, rfl, rfl⟩
  | cons a rest ih =>
    obtain ⟨hplace, htable⟩ := h.place_eq a
    obtain ⟨hcoherent, hplaces, hentries⟩ := ih (h.place a)
    rw [htable] at hplaces hentries
    refine ⟨hcoherent, ?_, hentries⟩
    show (t.place key a).1 :: ((t.place key a).2.placeAll key rest).1 = _
    rw [hplace, hplaces]
    rfl

variable (key) in
/-- **Looking up is searching**: a table with an index hands out the places of an interner, and its
index leads from a key to the place of the entry that has it. -/
theorem placeAll_empty (calls : List α) :
    ((empty : KeyedTable α κ).placeAll key calls).1
        = Interner.places (fun b a => key b == key a) calls
      ∧ ((empty : KeyedTable α κ).placeAll key calls).2.entries
        = (Interner.table (fun b a => key b == key a) calls).entries
      ∧ ∀ k i, ((empty : KeyedTable α κ).placeAll key calls).2.index[k]? = some i
        ↔ ∃ a, (Interner.table (fun b a => key b == key a) calls).entries[i]? = some a
          ∧ (key a == k) = true := by
  have equiv : Equivalence fun b a => (key b == key a) = true :=
    ⟨fun _ => BEq.rfl, BEq.symm, BEq.trans⟩
  obtain ⟨hcoherent, hplaces, htable⟩ := (coherent_empty key).placeAll_eq calls
  have hentries : ((empty : KeyedTable α κ).placeAll key calls).2.entries
      = (Interner.table (fun b a => key b == key a) calls).entries := congrArg Interner.entries htable
  refine ⟨hplaces, hentries, fun k i => ?_⟩
  rw [hcoherent k, hentries]
  exact (Interner.distinct_table equiv calls).findIdx?_key_eq_some_iff

end KeyedTable

end Rollout
