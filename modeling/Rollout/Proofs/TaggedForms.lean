import Rollout.Proofs.DecimalTexts
import Rollout.Proofs.WrittenDocuments
import Rollout.Value.Tagged

/-!
# Values in tagged form

A value without floats is read back from the text of its tagged document: kinds, texts and the places
of decimals come back as they were. Two things do not survive. A zero comes back without its sign, and
a value with more than 63 arrays around each other does not come back at all, since each of them takes
two of the levels that the reader goes down.
-/

namespace Rollout

namespace Value

/-- There is no float anywhere in the value. -/
inductive FloatFree : Value → Prop
  | null : FloatFree .null
  | bool (b : Bool) : FloatFree (.bool b)
  | number (d : Decimal) : FloatFree (.number d)
  | string (s : String) : FloatFree (.string s)
  | array {items : List Value} (h : ∀ v ∈ items, FloatFree v) : FloatFree (.array items)

/-- There is no negative zero among the decimals of the value. -/
inductive Signless : Value → Prop
  | null : Signless .null
  | bool (b : Bool) : Signless (.bool b)
  | number {d : Decimal} (h : d.Signless) : Signless (.number d)
  | float (x : Binary64) : Signless (.float x)
  | string (s : String) : Signless (.string s)
  | array {items : List Value} (h : ∀ v ∈ items, Signless v) : Signless (.array items)

mutual

/-- How many arrays stand around each other in a value. -/
def nesting : Value → Nat
  | .array items => nestingAll items + 1
  | .null | .bool _ | .number _ | .float _ | .string _ => 0

/-- The greatest nesting of the items of an array. -/
def nestingAll : List Value → Nat
  | [] => 0
  | v :: rest => max (nesting v) (nestingAll rest)

end

mutual

/-- The value with no sign on any zero. -/
def withoutZeroSigns : Value → Value
  | .null => .null
  | .bool b => .bool b
  | .number d => .number d.withoutZeroSign
  | .float x => .float x
  | .string s => .string s
  | .array items => .array (allWithoutZeroSigns items)

/-- The values with no sign on any zero. -/
def allWithoutZeroSigns : List Value → List Value
  | [] => []
  | v :: rest => withoutZeroSigns v :: allWithoutZeroSigns rest

end

/-! ## What is lost -/

mutual

theorem withoutZeroSigns_eq_self_iff : ∀ v : Value, v.withoutZeroSigns = v ↔ v.Signless
  | .null => ⟨fun _ => .null, fun _ => rfl⟩
  | .bool b => ⟨fun _ => .bool b, fun _ => rfl⟩
  | .number d => by
    rw [withoutZeroSigns, number.injEq, Decimal.withoutZeroSign_eq_self_iff]
    exact ⟨.number, fun | .number h => h⟩
  | .float x => ⟨fun _ => .float x, fun _ => rfl⟩
  | .string s => ⟨fun _ => .string s, fun _ => rfl⟩
  | .array items => by
    rw [withoutZeroSigns, array.injEq, allWithoutZeroSigns_eq_self_iff]
    exact ⟨.array, fun | .array h => h⟩

theorem allWithoutZeroSigns_eq_self_iff :
    ∀ l : List Value, allWithoutZeroSigns l = l ↔ ∀ v ∈ l, v.Signless
  | [] => by simp [allWithoutZeroSigns]
  | v :: l => by
    rw [allWithoutZeroSigns, List.cons.injEq, withoutZeroSigns_eq_self_iff,
      allWithoutZeroSigns_eq_self_iff, List.forall_mem_cons]

end

mutual

/-- The sign of a zero does not count for equality of value. -/
theorem withoutZeroSigns_same : ∀ v : Value, same v.withoutZeroSigns v = true
  | .null => rfl
  | .bool b => by simp [withoutZeroSigns, same]
  | .number d => by
    rw [withoutZeroSigns, same, Decimal.sameValue, Decimal.signed_withoutZeroSign]
    exact beq_self_eq_true _
  | .float x => by simp [withoutZeroSigns, same]
  | .string s => by simp [withoutZeroSigns, same]
  | .array items => by
    rw [withoutZeroSigns, same]
    exact allWithoutZeroSigns_same items

theorem allWithoutZeroSigns_same : ∀ l : List Value, sameAll (allWithoutZeroSigns l) l = true
  | [] => rfl
  | v :: l => by
    rw [allWithoutZeroSigns, sameAll, withoutZeroSigns_same, allWithoutZeroSigns_same]
    rfl

end

/-! ## Tagged documents -/

mutual

/-- An array takes two levels of the document, and a scalar at most one. -/
theorem depth_toTagged :
    ∀ v : Value, 2 * v.nesting ≤ v.toTagged.depth ∧ v.toTagged.depth ≤ 2 * v.nesting + 1
  | .null | .bool _ | .number _ | .float _ | .string _ => by
    simp [nesting, toTagged, Json.tagged, Json.depth, Json.membersDepth]
  | .array items => by
    have hitems := itemsDepth_toTaggedAll items
    simp only [nesting, toTagged, Json.tagged, Json.depth, Json.membersDepth]
    omega

theorem itemsDepth_toTaggedAll :
    ∀ l : List Value, 2 * nestingAll l ≤ Json.itemsDepth (toTaggedAll l)
      ∧ Json.itemsDepth (toTaggedAll l) ≤ 2 * nestingAll l + 1
  | [] => by decide
  | v :: l => by
    have hv := depth_toTagged v
    have hl := itemsDepth_toTaggedAll l
    simp only [nestingAll, toTaggedAll, Json.itemsDepth]
    omega

end

theorem toTaggedAll_eq_map (l : List Value) : toTaggedAll l = l.map toTagged := by
  induction l with
  | nil => rfl
  | cons v l ih => rw [toTaggedAll, ih, List.map_cons]

/-- The reader goes down far enough for 63 arrays around each other. -/
theorem depth_toTagged_le_iff (v : Value) : v.toTagged.depth ≤ taggedDepth ↔ v.nesting ≤ 63 := by
  have hdepth := depth_toTagged v
  rw [taggedDepth]
  omega

theorem FloatFree.numberless_toTagged {v : Value} (h : v.FloatFree) : v.toTagged.Numberless := by
  have htagged {tag : String} {content : Json} (hcontent : content.Numberless) :
      (Json.tagged tag content).Numberless :=
    .object fun m hm => List.mem_singleton.mp hm ▸ hcontent
  induction h with
  | null => exact .string _
  | bool b => exact htagged (.bool b)
  | number d => exact htagged (.string _)
  | string s => exact htagged (.string s)
  | array _ ih =>
    refine htagged (.array ?_)
    rw [toTaggedAll_eq_map, List.forall_mem_map]
    exact ih

theorem ofTaggedAll?_toTaggedAll {l : List Value}
    (h : ∀ v ∈ l, ofTagged? v.toTagged = some v.withoutZeroSigns) :
    ofTaggedAll? (toTaggedAll l) = some (allWithoutZeroSigns l) := by
  induction l with
  | nil => rfl
  | cons v l ih =>
    obtain ⟨hv, hl⟩ := List.forall_mem_cons.mp h
    rw [toTaggedAll, ofTaggedAll?, hv, ih hl, allWithoutZeroSigns]

/-- From its tagged document a value comes back with every kind, text and place. -/
theorem FloatFree.ofTagged?_toTagged {v : Value} (h : v.FloatFree) :
    ofTagged? v.toTagged = some v.withoutZeroSigns := by
  induction h with
  | null => rfl
  | bool b => rfl
  | number d =>
    simp [toTagged, Json.tagged, ofTagged?, taggedDecimal?, Decimal.ofText?_text, withoutZeroSigns]
  | string s => rfl
  | array _ ih =>
    simp [toTagged, Json.tagged, ofTagged?, ofTaggedItems?, ofTaggedAll?_toTaggedAll ih,
      withoutZeroSigns]

/-- What is read from the text of a value without floats. -/
theorem FloatFree.ofTaggedText?_taggedText {v : Value} (h : v.FloatFree) :
    ofTaggedText? v.taggedText = if v.nesting ≤ 63 then some v.withoutZeroSigns else none := by
  rw [ofTaggedText?, taggedText, Json.parse?_render h.numberless_toTagged]
  simp only [depth_toTagged_le_iff, h.ofTagged?_toTagged]

/-- How a value comes back from the text of its tagged document. -/
structure ReadsBack (v : Value) : Prop where
  /-- It is read if it has no more than 63 arrays around each other, and refused if it has. -/
  read : ofTaggedText? v.taggedText = if v.nesting ≤ 63 then some v.withoutZeroSigns else none
  /-- What is read is equal to the value. -/
  equal : v.withoutZeroSigns == v
  /-- It is the value verbatim if there is no negative zero in it. -/
  verbatim : v.withoutZeroSigns = v ↔ v.Signless

end Value

/-- Every value without floats is read back from its tagged text: up to 63 arrays deep, equal to what
was written, and verbatim but for the signs of zeros. -/
theorem tagged_texts_read_back (v : Value) (h : v.FloatFree) : v.ReadsBack where
  read := h.ofTaggedText?_taggedText
  equal := v.withoutZeroSigns_same
  verbatim := v.withoutZeroSigns_eq_self_iff

/-- A line feed, a quote, a control and a scale of two come back as they were. -/
theorem tagged_texts_read_back_escapes :
    let d : Decimal := ⟨true, 150, 2, by decide, by decide⟩
    let v : Value := .array [.null, .number d, .string "\n\"\x01é"]
    v.FloatFree ∧ Value.ofTaggedText? v.taggedText = some v := by
  intro d v
  have hfloat : v.FloatFree := .array (by simpa using ⟨.null, .number d, .string _⟩)
  have hsign : v.Signless := .array (by simpa using ⟨.null, .number nofun, .string _⟩)
  have hback := tagged_texts_read_back v hfloat
  refine ⟨hfloat, ?_⟩
  rw [hback.read, if_pos (by decide), hback.verbatim.mpr hsign]

/-- The null value in `n` arrays around each other. -/
def Value.nested : Nat → Value
  | 0 => .null
  | n + 1 => .array [nested n]

theorem Value.floatFree_nested : ∀ n, (nested n).FloatFree
  | 0 => .null
  | n + 1 => .array (by simpa using floatFree_nested n)

theorem Value.nesting_nested : ∀ n, (nested n).nesting = n
  | 0 => rfl
  | n + 1 => by rw [nested, nesting, nestingAll, nestingAll, nesting_nested n, Nat.max_zero]

/-- Sixty-four arrays around each other are too many, and a negative zero loses its sign. -/
theorem tagged_text_not_read_back :
    let zero (negative : Bool) : Value := .number ⟨negative, 0, 28, by decide, by decide⟩
    ((Value.nested 64).FloatFree ∧ Value.ofTaggedText? (Value.nested 64).taggedText = none)
    ∧ (zero true).FloatFree ∧ Value.ofTaggedText? (zero true).taggedText = some (zero false)
      ∧ zero true ≠ zero false := by
  intro zero
  refine ⟨⟨Value.floatFree_nested 64, ?_⟩, .number _, ?_, by simp [zero]⟩
  · rw [(Value.floatFree_nested 64).ofTaggedText?_taggedText, Value.nesting_nested]
    rfl
  · rw [(Value.FloatFree.number _).ofTaggedText?_taggedText]
    rfl

end Rollout
