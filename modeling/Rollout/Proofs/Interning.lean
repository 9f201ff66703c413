import Rollout.Proofs.Places
import Rollout.Proofs.PoolContents

/-!
# Interners keep their entries

Whatever is interned, and in whatever order: two calls get one place exactly if their entries are the
same verbatim, first uses get the places 0, 1, 2, and so on, and what stands at a place stays there. An
index of keys hands out the same places. The key of a value is made of its kind and its content, with
the text of a number and the bits of a float, so verbatim copies have one key and nothing else has it.
The text shows the sign of a zero as well.
-/

namespace Rollout

/-! ## Keys -/

/-- What an index knows of a value. -/
inductive PoolKey where
  | null
  | bool (b : Bool)
  /-- The text of a number, which shows every place. -/
  | number (text : String)
  | float (bits : UInt64)
  | string (s : String)
  | array (items : List PoolKey)

namespace PoolKey

mutual

/-- Whether two keys are the same. -/
def same : PoolKey → PoolKey → Bool
  | null, null => true
  | bool a, bool b => a == b
  | number a, number b => a == b
  | float a, float b => a == b
  | string a, string b => a == b
  | array a, array b => sameAll a b
  | _, _ => false

/-- Whether two lists of keys are the same. -/
def sameAll : List PoolKey → List PoolKey → Bool
  | [], [] => true
  | k :: rest, l :: rest' => same k l && sameAll rest rest'
  | _, _ => false

end

mutual

theorem same_iff : ∀ {k l : PoolKey}, k.same l = true ↔ k = l
  | null, l => by cases l <;> simp [same]
  | bool a, l => by cases l <;> simp [same]
  | number a, l => by cases l <;> simp [same]
  | float a, l => by cases l <;> simp [same]
  | string a, l => by cases l <;> simp [same]
  | array a, l => by
    cases l with
    | array b => rw [same, sameAll_iff, array.injEq]
    | _ => simp [same]

theorem sameAll_iff : ∀ {k l : List PoolKey}, sameAll k l = true ↔ k = l
  | [], l => by cases l <;> simp [sameAll]
  | k :: rest, l => by
    cases l with
    | nil => simp [sameAll]
    | cons l rest' => rw [sameAll, Bool.and_eq_true, same_iff, sameAll_iff, List.cons.injEq]

end

instance : BEq PoolKey := ⟨same⟩

instance : LawfulBEq PoolKey where
  eq_of_beq := same_iff.mp
  rfl := same_iff.mpr rfl

end PoolKey

namespace Value

mutual

/-- The key of a value. -/
def poolKey : Value → PoolKey
  | null => .null
  | bool b => .bool b
  | number d => .number d.text
  | float x => .float x.bits
  | string s => .string s
  | array items => .array (poolKeys items)

/-- The keys of values. -/
def poolKeys : List Value → List PoolKey
  | [] => []
  | v :: rest => poolKey v :: poolKeys rest

end

mutual

/-- Verbatim copies have one key, and nothing else has it. -/
theorem poolKey_inj : ∀ {v w : Value}, v.poolKey = w.poolKey ↔ v = w
  | null, w => by cases w <;> simp [poolKey]
  | bool a, w => by cases w <;> simp [poolKey]
  | number d, w => by cases w <;> simp [poolKey, Decimal.text_inj]
  | float x, w => by
    cases w with
    | float y =>
      obtain ⟨a⟩ := x
      obtain ⟨b⟩ := y
      simp [poolKey]
    | _ => simp [poolKey]
  | string s, w => by cases w <;> simp [poolKey]
  | array items, w => by
    cases w with
    | array items' => rw [poolKey, poolKey, PoolKey.array.injEq, poolKeys_inj, array.injEq]
    | _ => simp [poolKey]

theorem poolKeys_inj : ∀ {l m : List Value}, poolKeys l = poolKeys m ↔ l = m
  | [], m => by cases m <;> simp [poolKeys]
  | v :: l, m => by
    cases m with
    | nil => simp [poolKeys]
    | cons w m =>
      rw [poolKeys, poolKeys, List.cons.injEq, poolKey_inj, poolKeys_inj, List.cons.injEq]

end

end Value

/-- The key of a weighted table: entry by entry, with the weights. -/
def sharesKey : List (Value × Nat) → List (PoolKey × Nat)
  | [] => []
  | (v, n) :: rest => (v.poolKey, n) :: sharesKey rest

theorem sharesKey_inj {l m : List (Value × Nat)} : sharesKey l = sharesKey m ↔ l = m := by
  induction l generalizing m with
  | nil => cases m <;> simp [sharesKey]
  | cons a l ih =>
    cases m with
    | nil => simp [sharesKey]
    | cons b m =>
      obtain ⟨v, n⟩ := a
      obtain ⟨w, k⟩ := b
      rw [sharesKey, sharesKey, List.cons.injEq, Prod.mk.injEq, Value.poolKey_inj, ih,
        List.cons.injEq, Prod.mk.injEq]

/-! ## First uses -/

section FirstCalls

variable {α : Type} [DecidableEq α]

/-- The calls whose entry no earlier call had, by their numbers. -/
def firstCalls (calls : List α) : List Nat :=
  (List.range calls.length).filter fun n => (calls[n]?).any fun a => a ∉ calls.take n

theorem lt_length_of_mem_firstCalls {calls : List α} {n : Nat} (h : n ∈ firstCalls calls) :
    n < calls.length :=
  List.mem_range.mp (List.mem_filter.mp h).1

theorem firstCalls_concat (calls : List α) (a : α) :
    firstCalls (calls ++ [a])
      = if a ∈ calls then firstCalls calls else firstCalls calls ++ [calls.length] := by
  have hearlier : (List.range calls.length).filter (fun n => ((calls ++ [a])[n]?).any fun b =>
      b ∉ (calls ++ [a]).take n) = firstCalls calls := by
    refine List.filter_congr fun n hn => ?_
    have hlt : n < calls.length := List.mem_range.mp hn
    rw [List.getElem?_append_left hlt, List.take_append_of_le_length (Nat.le_of_lt hlt)]
  have hlast : ((calls ++ [a])[calls.length]?).any (fun b => b ∉ (calls ++ [a]).take calls.length)
      = decide (a ∉ calls) := by
    simp
  rw [firstCalls, List.length_append, List.length_singleton, List.range_succ, List.filter_append,
    hearlier, List.filter_cons, hlast]
  by_cases h : a ∈ calls <;> simp [h]

end FirstCalls

namespace Interner

variable {α : Type} {alike : α → α → Bool}

theorem lt_size_of_getElem? {t : Interner α} {i : Nat} {a : α} (h : t.entries[i]? = some a) :
    i < t.size :=
  (Array.getElem?_eq_some_iff.mp h).1

theorem equivalence_of_verbatim (halike : ∀ {b c}, alike b c = true ↔ b = c) :
    Equivalence fun b c => alike b c = true where
  refl _ := halike.mpr rfl
  symm h := halike.mpr (halike.mp h).symm
  trans h h' := halike.mpr ((halike.mp h).trans (halike.mp h'))

/-- The place of a call holds the entry of it, now and later. -/
theorem getElem?_table_take (halike : ∀ {b c}, alike b c = true ↔ b = c) {calls : List α}
    {n i : Nat} {a : α} (ha : calls[n]? = some a) (hi : (places alike calls)[n]? = some i) {m : Nat}
    (hm : n < m) : (table alike (calls.take m)).entries[i]? = some a := by
  obtain ⟨j, b, hj, hba, hkept⟩ := exists_place (equivalence_of_verbatim halike) ha
  obtain rfl : j = i := Option.some.inj (hj.symm.trans hi)
  obtain rfl := halike.mp hba
  exact hkept m hm

variable [DecidableEq α]

theorem holds_table (halike : ∀ {b c}, alike b c = true ↔ b = c) (calls : List α) :
    (table alike calls).Holds calls := by
  induction calls using List.reverseRecOn with
  | nil => exact holds_empty
  | append_singleton calls a ih =>
    rw [table_concat]
    exact ih.intern halike a

/-- First uses get the places in order. -/
theorem map_places_firstCalls (halike : ∀ {b c}, alike b c = true ↔ b = c) (calls : List α) :
    (firstCalls calls).map ((places alike calls)[·]?)
      = (List.range (firstUses calls).length).map some := by
  induction calls using List.reverseRecOn with
  | nil => rfl
  | append_singleton calls a ih =>
    have hlength : (places alike calls).length = calls.length := length_internAll alike empty calls
    have hearlier : (firstCalls calls).map ((places alike (calls ++ [a]))[·]?)
        = (firstCalls calls).map ((places alike calls)[·]?) := by
      refine List.map_congr_left fun n hn => ?_
      have hlt : n < (places alike calls).length := by
        rw [hlength]
        exact lt_length_of_mem_firstCalls hn
      rw [places_concat, List.getElem?_append_left hlt]
    rw [firstCalls_concat, firstUses_concat]
    by_cases hmem : a ∈ calls
    · rw [if_pos hmem, if_pos hmem, hearlier, ih]
    · have hholds : (table alike calls).entries.toList = firstUses calls := holds_table halike calls
      have hnew : (places alike (calls ++ [a]))[calls.length]? = some (firstUses calls).length := by
        rw [places_concat, List.getElem?_append_right (by omega), hlength, Nat.sub_self]
        rcases (table alike calls).intern_cases alike a with ⟨i, b, hb, hba, -⟩ | ⟨-, hintern⟩
        · -- an entry that is there was met
          obtain rfl := halike.mp hba
          have hb : b ∈ (table alike calls).entries := Array.mem_of_getElem? hb
          exact absurd ((holds_table halike calls).mem_iff.mp hb) hmem
        · rw [hintern, ← hholds, Array.length_toList]
          rfl
      rw [if_neg hmem, if_neg hmem, List.map_append, hearlier, ih, List.length_append,
        List.length_singleton, List.range_succ, List.map_append, List.map_singleton,
        List.map_singleton, hnew]

/-! ## All calls -/

/-- What an interner without entries does with the calls. -/
structure KeepsEntries {κ : Type} [BEq κ] (alike : α → α → Bool) (key : α → κ) (calls : List α) :
    Prop where
  /-- Each call gets a place. -/
  answers : (places alike calls).length = calls.length
  /-- Two calls get one place exactly if their entries are the same verbatim. -/
  same : ∀ {m n : Nat} {a b : α}, calls[m]? = some a → calls[n]? = some b →
    ((places alike calls)[m]? = (places alike calls)[n]? ↔ a = b)
  /-- The places of first uses are 0, 1, 2, and so on, in the order of the calls. -/
  first : (firstCalls calls).map ((places alike calls)[·]?)
    = (List.range (firstCalls calls).length).map some
  /-- After a call, whatever calls follow, its place is one of the table and holds its entry. -/
  kept : ∀ {n i : Nat} {a : α}, calls[n]? = some a → (places alike calls)[n]? = some i →
    ∀ m, n < m → i < (table alike (calls.take m)).size
      ∧ (table alike (calls.take m)).entries[i]? = some a
  /-- So it does in the end. -/
  frozen : ∀ {n i : Nat} {a : α}, calls[n]? = some a → (places alike calls)[n]? = some i →
    i < (table alike calls).size ∧ (table alike calls).entries[i]? = some a
  /-- A table with an index of keys, whatever their hash, hands out the same places and holds the same
  entries, and its index leads from a key to the place of the entry that has it. -/
  indexed : ∀ [Hashable κ], ((KeyedTable.empty : KeyedTable α κ).placeAll key calls).1
      = places alike calls
    ∧ ((KeyedTable.empty : KeyedTable α κ).placeAll key calls).2.entries
      = (table alike calls).entries
    ∧ ∀ k i, ((KeyedTable.empty : KeyedTable α κ).placeAll key calls).2.index[k]? = some i
      ↔ ∃ a, (table alike calls).entries[i]? = some a ∧ key a = k

theorem keepsEntries {κ : Type} [BEq κ] [LawfulBEq κ] {key : α → κ}
    (halike : ∀ {b c}, alike b c = true ↔ b = c) (hkey : ∀ {b c}, key b = key c ↔ b = c)
    (calls : List α) : KeepsEntries alike key calls where
  answers := length_internAll alike empty calls
  same ha hb := by rw [place_eq_iff (equivalence_of_verbatim halike) ha hb, halike]
  first := by
    have hplaces := map_places_firstCalls halike calls
    have hlength := congrArg List.length hplaces
    rw [List.length_map, List.length_map, List.length_range] at hlength
    rw [hplaces, hlength]
  kept ha hi m hm := by
    have hentry := getElem?_table_take halike ha hi hm
    exact ⟨lt_size_of_getElem? hentry, hentry⟩
  frozen {n i a} ha hi := by
    have hn : n < calls.length := (List.getElem?_eq_some_iff.mp ha).1
    have hentry := getElem?_table_take halike ha hi hn
    rw [List.take_length] at hentry
    exact ⟨lt_size_of_getElem? hentry, hentry⟩
  indexed := by
    intro _
    -- entries are alike by their keys
    obtain rfl : alike = fun b a => key b == key a := by
      funext b a
      rw [Bool.eq_iff_iff, halike, beq_iff_eq, hkey]
    obtain ⟨hplaces, hentries, hindex⟩ := KeyedTable.placeAll_empty key calls
    refine ⟨hplaces, hentries, fun k i => ?_⟩
    simpa only [beq_iff_eq] using hindex k i

end Interner

/-- **Interners keep their entries**, values as well as weighted and uniform tables. -/
theorem interners_keep_entries :
    (∀ calls, Interner.KeepsEntries Value.writtenAlike Value.poolKey calls)
      ∧ (∀ calls, Interner.KeepsEntries sharesWrittenAlike sharesKey calls)
      ∧ ∀ calls, Interner.KeepsEntries Value.allWrittenAlike Value.poolKeys calls := by
  refine ⟨fun calls => ?_, fun calls => ?_, fun calls => ?_⟩
  · exact Interner.keepsEntries Value.writtenAlike_iff Value.poolKey_inj calls
  · exact Interner.keepsEntries sharesWrittenAlike_iff sharesKey_inj calls
  · exact Interner.keepsEntries Value.allWrittenAlike_iff Value.poolKeys_inj calls

/-- The literals 1.0 and 1.00 are two entries. -/
example :
    let number (magnitude scale : Nat) (h : magnitude < 2 ^ 96 ∧ scale ≤ 28) : Value :=
      .number ⟨false, magnitude, scale, h.1, h.2⟩
    Interner.places Value.writtenAlike
      [number 10 1 (by decide), number 100 2 (by decide), number 10 1 (by decide)] = [0, 1, 0] := by
  decide +kernel

/-- A zero and a negative zero have the same mantissa and the same scale, and yet they are two entries,
as values and in tables. -/
theorem zeros_have_two_places :
    (Decimal.zero true).signed = (Decimal.zero false).signed
      ∧ (Decimal.zero true).scale = (Decimal.zero false).scale
      ∧ Interner.places Value.writtenAlike [.number (.zero false), .number (.zero true)] = [0, 1]
      ∧ Interner.places sharesWrittenAlike
          [[(.number (.zero false), 1)], [(.number (.zero true), 1)]] = [0, 1]
      ∧ Interner.places Value.allWrittenAlike
          [[.number (.zero false)], [.number (.zero true)]] = [0, 1] := by
  refine ⟨by decide, rfl, ?_, ?_, ?_⟩ <;> decide +kernel

end Rollout
