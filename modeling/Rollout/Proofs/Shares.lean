import Mathlib.Data.Nat.Periodic
import Rollout.Rule.Distribution

/-!
# The shares of a weighted table

A bucket modulo the total weight is the target of a walk along the table, and the entries divide the
targets among them: each takes as many neighbouring targets as its weight, in the order of the
table. The walk finds the entry to which the target belongs, so among as many buckets in a row as
the table has weight, every entry is found as often as its weight says.

Machines make the sums in registers. In 128 bits no sum of 64-bit weights overflows, however large
the total.
-/

namespace Rollout

-- powers and sums are those of the core library, whatever else is in scope
attribute [local instance (high)] instPowNat Zero.ofOfNat0

/-! ## Prefix sums -/

/-- The weight of all entries together. -/
def totalWeight (table : List (Value × Nat)) : Nat :=
  (table.map Prod.snd).sum

/-- The weight of the entries before the one at `i`. -/
def weightBefore (table : List (Value × Nat)) (i : Nat) : Nat :=
  totalWeight (table.take i)

@[simp] theorem totalWeight_nil : totalWeight [] = 0 := rfl

@[simp] theorem totalWeight_cons (e : Value × Nat) (rest : List (Value × Nat)) :
    totalWeight (e :: rest) = e.2 + totalWeight rest := rfl

@[simp] theorem totalWeight_append (before rest : List (Value × Nat)) :
    totalWeight (before ++ rest) = totalWeight before + totalWeight rest := by
  induction before with
  | nil => simp
  | cons e before ih => simp only [List.cons_append, totalWeight_cons, ih, Nat.add_assoc]

section

variable {table : List (Value × Nat)}

theorem weightBefore_succ (i : Fin table.length) :
    weightBefore table (i + 1) = weightBefore table i + table[i].2 := by
  rw [weightBefore, weightBefore, List.take_add_one, List.getElem?_eq_getElem i.isLt,
    totalWeight_append]
  rfl

theorem weightBefore_mono {i j : Nat} (h : i ≤ j) :
    weightBefore table i ≤ weightBefore table j := by
  obtain ⟨d, rfl⟩ := Nat.exists_eq_add_of_le h
  rw [weightBefore, weightBefore, List.take_add, totalWeight_append]
  exact Nat.le_add_right _ _

theorem weightBefore_le_total (i : Nat) : weightBefore table i ≤ totalWeight table := by
  calc weightBefore table i
      ≤ totalWeight (table.take i) + totalWeight (table.drop i) := Nat.le_add_right _ _
    _ = totalWeight table := by rw [← totalWeight_append, List.take_append_drop]

theorem totalWeight_le {bound : Nat} (h : ∀ e ∈ table, e.2 ≤ bound) :
    totalWeight table ≤ table.length * bound := by
  induction table with
  | nil => exact Nat.zero_le _
  | cons e rest ih =>
    have he := h e List.mem_cons_self
    have hrest := ih fun f hf => h f (List.mem_cons_of_mem _ hf)
    rw [totalWeight_cons, List.length_cons, Nat.succ_mul]
    omega

/-! ## The entry to which a target belongs -/

/-- The target belongs to the entry at `i`: the entries before it do not reach the target, and with
it they do. -/
def InShare (table : List (Value × Nat)) (target : Nat) (i : Fin table.length) : Prop :=
  weightBefore table i ≤ target ∧ target < weightBefore table i + table[i].2

instance (target : Nat) (i : Fin table.length) : Decidable (InShare table target i) :=
  inferInstanceAs (Decidable (_ ∧ _))

theorem exists_inShare {target : Nat} (h : target < totalWeight table) :
    ∃ i, InShare table target i := by
  induction table generalizing target with
  | nil => exact absurd h (Nat.not_lt_zero _)
  | cons e rest ih =>
    rw [totalWeight_cons] at h
    by_cases he : target < e.2
    · exact ⟨⟨0, Nat.zero_lt_succ _⟩, Nat.zero_le _, by simpa [weightBefore] using he⟩
    · have hrest : target - e.2 < totalWeight rest := by omega
      obtain ⟨i, hlow, hhigh⟩ := ih hrest
      have hbefore : weightBefore (e :: rest) i.succ = e.2 + weightBefore rest i := rfl
      have hentry : (e :: rest)[i.succ].2 = rest[i].2 := rfl
      refine ⟨i.succ, ?_, ?_⟩
      · rw [hbefore]
        omega
      · rw [hbefore, hentry]
        omega

theorem not_inShare_of_lt {target : Nat} {i j : Fin table.length} (hij : i < j)
    (hi : InShare table target i) : ¬InShare table target j := by
  intro hj
  have hmono : weightBefore table (i + 1) ≤ weightBefore table j :=
    weightBefore_mono (Nat.succ_le_of_lt hij)
  rw [weightBefore_succ] at hmono
  exact absurd (Nat.lt_of_lt_of_le hi.2 hmono) (Nat.not_lt_of_le hj.1)

theorem inShare_unique {target : Nat} {i j : Fin table.length} (hi : InShare table target i)
    (hj : InShare table target j) : i = j := by
  rcases lt_trichotomy i j with h | h | h
  · exact absurd hj (not_inShare_of_lt h hi)
  · exact h
  · exact absurd hi (not_inShare_of_lt h hj)

/-! ## The walk -/

theorem pick_append {before : List (Value × Nat)} {target : Nat} (h : totalWeight before ≤ target)
    (rest : List (Value × Nat)) :
    pick target (before ++ rest) = pick (target - totalWeight before) rest := by
  induction before generalizing target with
  | nil => rfl
  | cons e before ih =>
    rw [totalWeight_cons] at h
    have he : ¬target < e.2 := by omega
    rw [List.cons_append, pick, if_neg he, ih (by omega), totalWeight_cons, Nat.sub_sub]

/-- The walk stops at the entry to which the target belongs. -/
theorem pick_of_inShare {target : Nat} {i : Fin table.length} (h : InShare table target i) :
    pick target table = some table[i].1 := by
  have hsplit : table = table.take i ++ table[i] :: table.drop (i + 1) := by
    rw [Fin.getElem_fin, List.getElem_cons_drop, List.take_append_drop]
  have hreach : target - weightBefore table i < table[i].2 := by
    have := h.1
    have := h.2
    omega
  calc pick target table
      = pick target (table.take i ++ table[i] :: table.drop (i + 1)) := by rw [← hsplit]
    _ = pick (target - weightBefore table i) (table[i] :: table.drop (i + 1)) := pick_append h.1 _
    _ = some table[i].1 := by rw [pick, if_pos hreach]

/-! ## Selection -/

/-- The bucket chooses the entry at `i`. -/
def Chooses (table : List (Value × Nat)) (bucket : UInt64) (i : Fin table.length) : Prop :=
  InShare table (bucket.toNat % totalWeight table) i

instance (bucket : UInt64) (i : Fin table.length) : Decidable (Chooses table bucket i) :=
  inferInstanceAs (Decidable (InShare _ _ _))

theorem target_lt (h : totalWeight table ≠ 0) (bucket : UInt64) :
    bucket.toNat % totalWeight table < totalWeight table :=
  Nat.mod_lt _ (Nat.pos_of_ne_zero h)

theorem selectWeighted_of_weight (h : totalWeight table ≠ 0) (bucket : UInt64) :
    selectWeighted table bucket = pick (bucket.toNat % totalWeight table) table :=
  if_neg h

theorem totalWeight_ne_zero_of_inShare {target : Nat} {i : Fin table.length}
    (h : InShare table target i) : totalWeight table ≠ 0 := by
  have hle : weightBefore table (i + 1) ≤ totalWeight table := weightBefore_le_total _
  rw [weightBefore_succ] at hle
  have := h.1
  have := h.2
  omega

theorem selectWeighted_of_chooses {bucket : UInt64} {i : Fin table.length}
    (h : Chooses table bucket i) : selectWeighted table bucket = some table[i].1 := by
  rw [selectWeighted_of_weight (totalWeight_ne_zero_of_inShare h)]
  exact pick_of_inShare h

theorem selectWeighted_eq_none_iff (bucket : UInt64) :
    selectWeighted table bucket = none ↔ totalWeight table = 0 := by
  constructor
  · intro hnone
    by_contra hweight
    obtain ⟨i, hi⟩ := exists_inShare (target_lt hweight bucket)
    rw [selectWeighted_of_chooses hi] at hnone
    cases hnone
  · intro hweight
    exact if_pos hweight

/-! ## Counting buckets -/

theorem count_inShare (i : Fin table.length) :
    Nat.count (InShare table · i) (totalWeight table) = table[i].2 := by
  have hle : weightBefore table i + table[i].2 ≤ totalWeight table := by
    rw [← weightBefore_succ]
    exact weightBefore_le_total _
  have hfilter : (Finset.range (totalWeight table)).filter (InShare table · i)
      = Finset.Ico (weightBefore table i) (weightBefore table i + table[i].2) := by
    ext target
    rw [Finset.mem_filter, Finset.mem_range, Finset.mem_Ico, InShare]
    omega
  rw [Nat.count_eq_card_filter_range, hfilter, Nat.card_Ico, Nat.add_sub_cancel_left]

/-- The weight of the entries with this value. -/
def weightOf (table : List (Value × Nat)) (v : Value) : Nat :=
  totalWeight (table.filter fun e => e.1 = v)

theorem count_pick (v : Value) :
    Nat.count (fun target => pick target table = some v) (totalWeight table)
      = weightOf table v := by
  induction table with
  | nil => rfl
  | cons e rest ih =>
    obtain ⟨u, w⟩ := e
    have hnext (k : Nat) : pick (w + k) ((u, w) :: rest) = pick k rest := by
      rw [pick, if_neg (by omega), Nat.add_sub_cancel_left]
    -- the first `w` targets stop at the first entry, the others go on behind it
    rw [totalWeight_cons, Nat.count_add]
    simp only [hnext, ih]
    by_cases huv : u = v
    · have hfirst : Nat.count (fun target => pick target ((u, w) :: rest) = some v) w = w :=
        Nat.count_of_forall fun target ht => by rw [pick, if_pos ht, huv]
      rw [hfirst, weightOf, weightOf, List.filter_cons_of_pos (by simpa using huv),
        totalWeight_cons]
    · have hfirst : Nat.count (fun target => pick target ((u, w) :: rest) = some v) w = 0 :=
        Nat.count_of_forall_not fun target ht => by
          rw [pick, if_pos ht]
          exact fun h => huv (Option.some.inj h)
      rw [hfirst, Nat.zero_add, weightOf, weightOf, List.filter_cons_of_neg (by simpa using huv)]

/-- As many buckets in a row as there are targets reach every target once. -/
theorem card_buckets (P : Nat → Prop) [DecidablePred P] {first total : Nat}
    (hfirst : first + total ≤ 2 ^ 64) :
    ((Finset.Ico first (first + total)).filter fun n => P ((UInt64.ofNat n).toNat % total)).card
      = Nat.count P total := by
  have hbucket : ∀ n ∈ Finset.Ico first (first + total), (UInt64.ofNat n).toNat = n := by
    intro n hn
    exact UInt64.toNat_ofNat_of_lt' (Nat.lt_of_lt_of_le (Finset.mem_Ico.mp hn).2 hfirst)
  have hperiod : Function.Periodic (fun n => P (n % total)) total := fun n => by
    simp only [Nat.add_mod_right]
  calc ((Finset.Ico first (first + total)).filter fun n => P ((UInt64.ofNat n).toNat % total)).card
      = ((Finset.Ico first (first + total)).filter fun n => P (n % total)).card := by
        rw [Finset.filter_congr fun n hn => by rw [hbucket n hn]]
    _ = Nat.count (fun n => P (n % total)) total :=
        Nat.filter_Ico_card_eq_of_periodic first total _ hperiod
    _ = Nat.count P total := by
        rw [Nat.count_eq_card_filter_range, Nat.count_eq_card_filter_range]
        refine congrArg Finset.card (Finset.filter_congr fun n hn => ?_)
        rw [Nat.mod_eq_of_lt (Finset.mem_range.mp hn)]

/-! ## Equal weights -/

theorem totalWeight_of_ones (h : ∀ e ∈ table, e.2 = 1) : totalWeight table = table.length := by
  induction table with
  | nil => rfl
  | cons e rest ih =>
    rw [totalWeight_cons, h e List.mem_cons_self, ih fun f hf => h f (List.mem_cons_of_mem _ hf),
      List.length_cons, Nat.add_comm]

theorem pick_of_ones (h : ∀ e ∈ table, e.2 = 1) (target : Nat) :
    pick target table = (table.map Prod.fst)[target]? := by
  induction table generalizing target with
  | nil => rfl
  | cons e rest ih =>
    obtain ⟨v, w⟩ := e
    obtain rfl : w = 1 := h _ List.mem_cons_self
    cases target with
    | zero => rfl
    | succ target => exact ih (fun f hf => h f (List.mem_cons_of_mem _ hf)) target

theorem selectWeighted_of_ones (h : ∀ e ∈ table, e.2 = 1) (bucket : UInt64) :
    selectWeighted table bucket = selectUniform (table.map Prod.fst) bucket := by
  have htotal := totalWeight_of_ones h
  by_cases hweight : totalWeight table = 0
  · obtain rfl : table = [] := List.length_eq_zero_iff.mp (htotal ▸ hweight)
    rfl
  · rw [selectWeighted_of_weight hweight, pick_of_ones h, selectUniform, List.length_map, htotal]

/-! ## Registers of 128 bits -/

/-- The total weight as a register of 128 bits holds it. -/
def registerTotal (table : List (Value × Nat)) : BitVec 128 :=
  table.foldl (fun sum e => sum + BitVec.ofNat 128 e.2) 0

/-- The first entry with which the sum in the register exceeds the target. -/
def registerPick (target : BitVec 128) : BitVec 128 → List (Value × Nat) → Option Value
  | _, [] => none
  | sum, (v, w) :: rest =>
    if target < sum + BitVec.ofNat 128 w then some v
    else registerPick target (sum + BitVec.ofNat 128 w) rest

/-- The entry that a bucket selects when all sums are made in registers. -/
def registerSelect (table : List (Value × Nat)) (bucket : UInt64) : Option Value :=
  if registerTotal table = 0 then none
  else registerPick (BitVec.ofNat 128 bucket.toNat % registerTotal table) 0 table

theorem toNat_foldl_register (sum : BitVec 128) :
    (table.foldl (fun sum e => sum + BitVec.ofNat 128 e.2) sum).toNat
      = (sum.toNat + totalWeight table) % 2 ^ 128 := by
  induction table generalizing sum with
  | nil => exact (Nat.mod_eq_of_lt sum.isLt).symm
  | cons e rest ih =>
    rw [List.foldl_cons, ih, totalWeight_cons, BitVec.toNat_add, BitVec.toNat_ofNat]
    omega

theorem toNat_registerTotal (h : totalWeight table < 2 ^ 128) :
    (registerTotal table).toNat = totalWeight table := by
  rw [registerTotal, toNat_foldl_register]
  simpa using Nat.mod_eq_of_lt h

/-- As long as the total fits the register, walking with the sum is walking with what is left of the
target. -/
theorem registerPick_eq {target sum : BitVec 128} (hsum : sum.toNat ≤ target.toNat)
    (hfits : sum.toNat + totalWeight table < 2 ^ 128) :
    registerPick target sum table = pick (target.toNat - sum.toNat) table := by
  induction table generalizing sum with
  | nil => rfl
  | cons e rest ih =>
    obtain ⟨v, w⟩ := e
    rw [totalWeight_cons] at hfits
    have hnext : (sum + BitVec.ofNat 128 w).toNat = sum.toNat + w := by
      rw [BitVec.toNat_add, BitVec.toNat_ofNat]
      omega
    rw [registerPick, pick]
    by_cases hreach : target.toNat < sum.toNat + w
    · rw [if_pos (BitVec.lt_def.mpr (hnext ▸ hreach)), if_pos (by omega)]
    · rw [if_neg fun h => hreach (hnext ▸ BitVec.lt_def.mp h), if_neg (by omega),
        ih (by omega) (by omega), hnext, Nat.sub_sub]

theorem registerSelect_eq (h : totalWeight table < 2 ^ 128) (bucket : UInt64) :
    registerSelect table bucket = selectWeighted table bucket := by
  have htotal := toNat_registerTotal h
  have hzero : registerTotal table = 0 ↔ totalWeight table = 0 := by
    rw [← htotal]
    exact BitVec.toNat_inj.symm
  rw [registerSelect]
  by_cases hweight : totalWeight table = 0
  · rw [if_pos (hzero.mpr hweight), (selectWeighted_eq_none_iff bucket).mpr hweight]
  · have hbucket : bucket.toNat < 2 ^ 128 := Nat.lt_trans bucket.toNat_lt (by decide)
    rw [if_neg (hzero.not.mpr hweight), registerPick_eq (Nat.zero_le _) (by simpa using h),
      selectWeighted_of_weight hweight, BitVec.toNat_umod, BitVec.toNat_ofNat, htotal,
      Nat.mod_eq_of_lt hbucket]
    rfl

/-- Weights of 64 bits fit the register, as many as a table in memory can have. -/
theorem totalWeight_lt (hweights : ∀ e ∈ table, e.2 < 2 ^ 64) (hlength : table.length ≤ 2 ^ 64) :
    totalWeight table < 2 ^ 128 := by
  have hle : totalWeight table ≤ table.length * (2 ^ 64 - 1) :=
    totalWeight_le fun e he => Nat.le_pred_of_lt (hweights e he)
  have hmul : table.length * (2 ^ 64 - 1) ≤ 2 ^ 64 * (2 ^ 64 - 1) := Nat.mul_le_mul_right _ hlength
  omega

end

/-! ## All together -/

/-- The entries of a table have the shares of the buckets that their weights say. -/
structure Apportioned (table : List (Value × Nat)) : Prop where
  selectsNone : ∀ bucket, selectWeighted table bucket = none ↔ totalWeight table = 0
  /-- A table with weight has exactly one entry for a bucket, -/
  chooses : totalWeight table ≠ 0 → ∀ bucket, ∃! i, Chooses table bucket i
  /-- whose value is selected, -/
  selects : ∀ bucket i, Chooses table bucket i → selectWeighted table bucket = some table[i].1
  /-- and which has weight. -/
  positive : ∀ bucket i, Chooses table bucket i → 0 < table[i].2
  /-- Among as many buckets in a row as the table has weight, each entry is chosen as often as its
  weight says, -/
  entries : ∀ first, first + totalWeight table ≤ 2 ^ 64 → ∀ i,
    ((Finset.Ico first (first + totalWeight table)).filter
      fun n => Chooses table (UInt64.ofNat n) i).card = table[i].2
  /-- and each value is selected as often as the weights of its entries say. -/
  values : ∀ first, first + totalWeight table ≤ 2 ^ 64 → ∀ v,
    ((Finset.Ico first (first + totalWeight table)).filter
      fun n => selectWeighted table (UInt64.ofNat n) = some v).card = weightOf table v
  /-- Registers of 128 bits hold every sum of 64-bit weights on the way, -/
  sums : (∀ e ∈ table, e.2 < 2 ^ 64) → table.length ≤ 2 ^ 64 →
    ∀ i, (registerTotal (table.take i)).toNat = weightBefore table i
  /-- so nothing is lost in them. -/
  registers : (∀ e ∈ table, e.2 < 2 ^ 64) → table.length ≤ 2 ^ 64 →
    ∀ bucket, registerSelect table bucket = selectWeighted table bucket
  /-- Entries of weight one share alike. -/
  uniform : (∀ e ∈ table, e.2 = 1) →
    ∀ bucket, selectWeighted table bucket = selectUniform (table.map Prod.fst) bucket

/-- **Every entry has exactly its share** of the buckets. -/
theorem entries_have_their_shares (table : List (Value × Nat)) : Apportioned table where
  selectsNone := selectWeighted_eq_none_iff
  chooses hweight bucket := by
    obtain ⟨i, hi⟩ := exists_inShare (target_lt hweight bucket)
    exact ⟨i, hi, fun j hj => inShare_unique hj hi⟩
  selects bucket i := selectWeighted_of_chooses
  positive bucket i hi := by
    have := hi.1
    have := hi.2
    omega
  entries first hfirst i := by
    rw [← count_inShare i]
    exact card_buckets (InShare table · i) hfirst
  values first hfirst v := by
    by_cases hweight : totalWeight table = 0
    · have hnone : weightOf table v = 0 := by
        rw [← count_pick, hweight, Nat.count_zero]
      rw [hnone, hweight, Nat.add_zero, Finset.Ico_self]
      rfl
    · simp only [selectWeighted_of_weight hweight]
      rw [← count_pick]
      exact card_buckets (fun target => pick target table = some v) hfirst
  sums hweights hlength i :=
    toNat_registerTotal <|
      Nat.lt_of_le_of_lt (weightBefore_le_total i) (totalWeight_lt hweights hlength)
  registers hweights hlength := registerSelect_eq (totalWeight_lt hweights hlength)
  uniform := selectWeighted_of_ones

/-- A total of more than 64 bits is not cut. -/
example : selectWeighted [(.bool true, 2 ^ 64 - 1), (.bool false, 2 ^ 64 - 1)] (2 ^ 64 - 1)
    = some (.bool false) := by
  decide +kernel

end Rollout
