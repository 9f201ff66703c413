import Rollout.Proofs.KeysAsked
import Rollout.Proofs.Places
import Rollout.Value.Hash

/-!
# Equal values are one key

Equality of values is an equivalence, and equal values feed the same to a hash function. This is what a
hash table asks of its keys: whatever the hash function makes of what it is fed, the table never holds
two equal values as keys, and under a value it finds what it holds under an equal one. Numbering values
by first appearance is numbering them by such a table.
-/

namespace Rollout

/-! ## An equivalence -/

namespace Value

mutual

theorem Alike.symm : ∀ {v w : Value}, v.Alike w → w.Alike v
  | _, _, .null => .null
  | _, _, .bool b => .bool b
  | _, _, .number h => by
    refine .number ?_
    rw [Decimal.sameValue_iff] at h ⊢
    exact h.symm
  | _, _, .float x => .float x
  | _, _, .string s => .string s
  | _, _, .array h => .array (Alike.symm_all h)

theorem Alike.symm_all : ∀ {l m : List Value}, List.Forall₂ Alike l m → List.Forall₂ Alike m l
  | _, _, .nil => .nil
  | _, _, .cons h hrest => .cons (Alike.symm h) (Alike.symm_all hrest)

end

mutual

theorem Alike.trans : ∀ {u v w : Value}, u.Alike v → v.Alike w → u.Alike w
  | _, _, _, .null, h => h
  | _, _, _, .bool _, h => h
  | _, _, _, .number h, .number h' => by
    refine .number ?_
    rw [Decimal.sameValue_iff] at h h' ⊢
    exact h.trans h'
  | _, _, _, .float _, h => h
  | _, _, _, .string _, h => h
  | _, _, _, .array h, .array h' => .array (Alike.trans_all h h')

theorem Alike.trans_all : ∀ {k l m : List Value},
    List.Forall₂ Alike k l → List.Forall₂ Alike l m → List.Forall₂ Alike k m
  | _, _, _, .nil, h => h
  | _, _, _, .cons h hrest, .cons h' hrest' => .cons (Alike.trans h h') (Alike.trans_all hrest hrest')

end

instance : EquivBEq Value where
  rfl := beq_iff_alike.mpr (.refl _)
  symm h := beq_iff_alike.mpr (beq_iff_alike.mp h).symm
  trans h h' := beq_iff_alike.mpr ((beq_iff_alike.mp h).trans (beq_iff_alike.mp h'))

/-! ## What is hashed -/

mutual

/-- Equal values feed the same to a hash function: equal numbers have one normal form. -/
theorem Alike.hashPieces_eq : ∀ {v w : Value}, v.Alike w → v.hashPieces = w.hashPieces
  | _, _, .null => rfl
  | _, _, .bool _ => rfl
  | _, _, .number h => by rw [hashPieces, hashPieces, Decimal.normalize_eq_of_sameValue h]
  | _, _, .float _ => rfl
  | _, _, .string _ => rfl
  | _, _, .array h => by rw [hashPieces, hashPieces, h.length_eq, Alike.hashPiecesAll_eq h]

theorem Alike.hashPiecesAll_eq : ∀ {l m : List Value},
    List.Forall₂ Alike l m → hashPiecesAll l = hashPiecesAll m
  | _, _, .nil => rfl
  | _, _, .cons h hrest => by
    rw [hashPiecesAll, hashPiecesAll, Alike.hashPieces_eq h, Alike.hashPiecesAll_eq hrest]

end

theorem hashPieces_eq_of_beq {v w : Value} (h : (v == w) = true) : v.hashPieces = w.hashPieces :=
  (beq_iff_alike.mp h).hashPieces_eq

/-- The hash of values under a function of what they feed to it. -/
abbrev hashedBy (finish : List HashPiece → UInt64) : Hashable Value :=
  ⟨fun v => finish v.hashPieces⟩

theorem lawfulHashable_hashedBy (finish : List HashPiece → UInt64) :
    letI := hashedBy finish
    LawfulHashable Value :=
  letI := hashedBy finish
  ⟨fun _ _ h => congrArg finish (hashPieces_eq_of_beq h)⟩

/-! ## Numbering -/

/-- Numbering goes on from the values that have their numbers as an interner does. -/
theorem numbering_go_eq (seen values : List Value) :
    numbering.go seen values
      = (Interner.internAll (fun w v => w == v) ⟨seen.toArray⟩ values).1 := by
  induction values generalizing seen with
  | nil => rfl
  | cons v rest ih =>
    rw [numbering.go, Interner.internAll, Interner.intern, List.findIdx?_toArray]
    cases seen.findIdx? (· == v) with
    | none => simp only [ih, List.size_toArray, List.push_toArray]
    | some i => simp only [ih]

theorem numbering_eq (values : List Value) :
    numbering values = Interner.places (fun w v => w == v) values :=
  numbering_go_eq [] values

end Value

/-! ## Keys of a table -/

/-- What is promised of a hash table with values as keys. -/
structure KeepsKeysApart [Hashable Value] {β : Type} (table : Std.HashMap Value β) : Prop where
  /-- No two keys are equal. -/
  distinct : table.keys.Pairwise fun v w => (v == w) = false
  /-- Under equal values the same is found. -/
  found : ∀ v w : Value, (v == w) = true → table[v]? = table[w]?
  /-- What is put under a value is found under the values that are equal to it, and under no other. -/
  inserted : ∀ (v w : Value) (b : β),
    (table.insert v b)[w]? = if (v == w) = true then some b else table[w]?

/-- What makes values fit for keys. -/
structure ValuesAreKeys : Prop where
  refl : ∀ v : Value, (v == v) = true
  symm : ∀ v w : Value, (v == w) = true → (w == v) = true
  trans : ∀ u v w : Value, (u == v) = true → (v == w) = true → (u == w) = true
  /-- Two numbers are equal exactly if they stand for one rational number. -/
  numbers : ∀ a b : Decimal, (Value.number a == Value.number b) = true ↔ a.toRat = b.toRat
  /-- Two floats are equal exactly if they have the same bits. -/
  floats : ∀ x y : Binary64, (Value.float x == Value.float y) = true ↔ x.bits = y.bits
  /-- Equal values feed the same to a hash function. -/
  hashed : ∀ v w : Value, (v == w) = true → v.hashPieces = w.hashPieces
  /-- So they make lawful keys, whatever a hash function does with what it is fed. -/
  tables : ∀ (finish : List HashPiece → UInt64) {β : Type},
    letI := Value.hashedBy finish
    ∀ table : Std.HashMap Value β, KeepsKeysApart table
  /-- The numbers of values by first appearance are those that such a table hands out, -/
  numbered : ∀ (finish : List HashPiece → UInt64) (values : List Value),
    letI := Value.hashedBy finish
    Value.numbering values
      = ((KeyedTable.empty : KeyedTable Value Value).placeAll id values).1
  /-- and two values have one number exactly if they are equal. -/
  numbers_eq : ∀ {values : List Value} {m n : Nat} {v w : Value}, values[m]? = some v →
    values[n]? = some w →
      ((Value.numbering values)[m]? = (Value.numbering values)[n]? ↔ (v == w) = true)

/-- **Equal values are one key**. -/
theorem equal_values_are_one_key : ValuesAreKeys where
  refl _ := BEq.rfl
  symm _ _ := BEq.symm
  trans _ _ _ := BEq.trans
  numbers a b := Decimal.sameValue_iff a b
  floats x y := by
    show (x.bits == y.bits) = true ↔ x.bits = y.bits
    exact beq_iff_eq
  hashed _ _ := Value.hashPieces_eq_of_beq
  tables finish := by
    intro β table
    let := Value.hashedBy finish
    have := Value.lawfulHashable_hashedBy finish
    constructor
    case distinct => exact Std.HashMap.distinct_keys
    case found => exact fun v w h => Std.HashMap.getElem?_congr h
    case inserted => exact fun v w b => Std.HashMap.getElem?_insert
  numbered finish values := by
    let := Value.hashedBy finish
    have := Value.lawfulHashable_hashedBy finish
    rw [Value.numbering_eq]
    exact (KeyedTable.placeAll_empty id values).1.symm
  numbers_eq {values m n v w} hv hw := by
    have equiv : Equivalence fun v w : Value => (v == w) = true :=
      ⟨fun _ => BEq.rfl, BEq.symm, BEq.trans⟩
    rw [Value.numbering_eq]
    exact Interner.place_eq_iff equiv hv hw

end Rollout
