import Mathlib.Data.List.Basic
import Mathlib.Data.List.Induction
import Rollout.Context.Basic

/-!
# Contexts hold the last writes

Two keys overlap if the segments of one begin those of the other: they are one key, or one of them
stands above the other. A write leaves its value under its own key and none under the keys that
overlap with it, and it does not touch any other key. What a context holds under a key is therefore
told by the last write under a key that overlaps with it.
-/

namespace Rollout

/-! ## Places -/

namespace Node

theorem lookup_cons (s t : String) (node : Node) (l : List (String × Node)) :
    ((t, node) :: l).lookup s = if s = t then some node else l.lookup s := by
  rw [List.lookup_cons]
  by_cases h : s = t
  · simp [h]
  · have hbeq : (s == t) = false := by simpa using h
    simp [h, hbeq]

theorem lookup_replace (segment s : String) (node : Node) (l : List (String × Node)) :
    (replace segment node l).lookup s = if s = segment then some node else l.lookup s := by
  induction l with
  | nil => exact lookup_cons s segment node []
  | cons e rest ih =>
    obtain ⟨t, n⟩ := e
    rw [replace]
    by_cases ht : t = segment
    · subst ht
      by_cases hs : s = t <;> simp [lookup_cons, hs]
    · rw [if_neg ht, lookup_cons, lookup_cons, ih]
      by_cases hst : s = t
      · subst hst
        simp [ht]
      · simp [hst]

theorem read?_empty (path : List String) : read? path (inner []) = none := by
  cases path <;> rfl

/-- What stands at a path after a write at another one. -/
theorem read?_write (value : Value) (path path' : List String) (node : Node) :
    read? path' (write value path node)
      = if path = path' then some value
        else if path <+: path' ∨ path' <+: path then none
        else read? path' node := by
  induction path generalizing path' node with
  | nil =>
    -- the place becomes a leaf, and there is nothing below a leaf
    cases path' with
    | nil => rfl
    | cons s rest => simp [write, read?, children]
  | cons segment path ih =>
    cases path' with
    | nil => simp [write, read?]
    | cons s path' =>
      rw [write, read?, children, lookup_replace]
      by_cases hs : s = segment
      · subst hs
        have hbelow : read? path' ((node.children.lookup s).getD (inner []))
            = read? (s :: path') node := by
          rw [read?]
          cases node.children.lookup s with
          | none => exact read?_empty path'
          | some n => rfl
        simp [ih, hbelow, List.cons_prefix_cons]
      · have hs' : ¬segment = s := fun h => hs h.symm
        simp [hs, hs', List.cons_prefix_cons, read?]

end Node

/-! ## Keys -/

theorem segments_ne_nil (key : String) : segments key ≠ [] := by
  simp [segments, List.splitOn_ne_nil]

theorem eq_of_segments_eq {key key' : String} (h : segments key = segments key') : key = key' := by
  have hsplit : key.toList.splitOn '.' = key'.toList.splitOn '.' :=
    List.map_injective_iff.mpr (fun _ _ => String.ofList_injective) h
  have hlist : key.toList = key'.toList := calc
    key.toList = ['.'].intercalate (key.toList.splitOn '.') := (List.intercalate_splitOn '.').symm
    _ = ['.'].intercalate (key'.toList.splitOn '.') := by rw [hsplit]
    _ = key'.toList := List.intercalate_splitOn '.'
  exact String.toList_injective hlist

/-- Two keys are one key, or one of them stands above the other. -/
def KeysOverlap (key key' : String) : Prop :=
  segments key <+: segments key' ∨ segments key' <+: segments key

instance (key key' : String) : Decidable (KeysOverlap key key') :=
  inferInstanceAs (Decidable (_ ∨ _))

theorem KeysOverlap.refl (key : String) : KeysOverlap key key :=
  .inl (List.prefix_refl _)

/-! ## One write -/

namespace Context

/-- A write gives its key the value, takes the value of every other key that overlaps with it, and
leaves the rest alone. -/
theorem get?_insert (c : Context) (key key' : String) (value : Value) :
    (c.insert key value).get? key'
      = if key = key' then some value
        else if KeysOverlap key key' then none
        else c.get? key' := by
  have hroot : Node.inner (Node.write value (segments key) (.inner c.root)).children
      = Node.write value (segments key) (.inner c.root) := by
    obtain ⟨segment, path, hpath⟩ := List.exists_cons_of_ne_nil (segments_ne_nil key)
    rw [hpath]
    rfl
  have hkeys : segments key = segments key' ↔ key = key' :=
    ⟨eq_of_segments_eq, congrArg segments⟩
  rw [get?, insert, hroot, Node.read?_write]
  simp only [hkeys]
  rfl

end Context

/-! ## Many writes -/

/-- A call that writes to a context. -/
inductive Write where
  /-- Writes a value under a key. -/
  | insert (key : String) (value : Value)
  /-- Writes the identity of an owner. -/
  | owner (owner : String) (id : Value)
  /-- Writes the current time. -/
  | now (timestamp : String)

namespace Write

/-- The key that is written under. -/
def key : Write → String
  | insert key _ => key
  | owner type _ => ownerKey type
  | now _ => clockKey

/-- The value that is written. -/
def value : Write → Value
  | insert _ value => value
  | owner _ id => id
  | now timestamp => .string timestamp

end Write

namespace Context

/-- The context after a write. -/
def apply (c : Context) : Write → Context
  | .insert key value => c.insert key value
  | .owner owner id => c.setOwner owner id
  | .now timestamp => c.setNow timestamp

/-- The context without properties, after writes in order. -/
def ofWrites (writes : List Write) : Context :=
  writes.foldl apply empty

theorem get?_empty (key : String) : empty.get? key = none :=
  Node.read?_empty (segments key)

theorem apply_eq (c : Context) (w : Write) : c.apply w = c.insert w.key w.value := by
  cases w <;> rfl

theorem ofWrites_concat (writes : List Write) (w : Write) :
    ofWrites (writes ++ [w]) = (ofWrites writes).apply w := by
  rw [ofWrites, List.foldl_append]
  rfl

theorem SegmentsOnce.apply {c : Context} (h : c.SegmentsOnce) (w : Write) :
    (c.apply w).SegmentsOnce := by
  rw [apply_eq]
  exact h.insert w.key w.value

/-- Whatever is written, no segment stands twice. -/
theorem segmentsOnce_ofWrites (writes : List Write) : (ofWrites writes).SegmentsOnce := by
  induction writes using List.reverseRecOn with
  | nil => exact segmentsOnce_empty
  | append_singleton writes w ih =>
    rw [ofWrites_concat]
    exact ih.apply w

end Context

/-- The last of the writes under a key that overlaps with the given one. -/
def lastOverlapping? (key : String) (writes : List Write) : Option Write :=
  writes.reverse.find? fun w => KeysOverlap w.key key

theorem lastOverlapping?_concat (key : String) (writes : List Write) (w : Write) :
    lastOverlapping? key (writes ++ [w])
      = if KeysOverlap w.key key then some w else lastOverlapping? key writes := by
  by_cases h : KeysOverlap w.key key <;> simp [lastOverlapping?, h]

/-- Writes under keys that do not overlap with the given one are passed over. -/
theorem lastOverlapping?_middle {key : String} {w : Write} (h : ¬KeysOverlap w.key key)
    (before after : List Write) :
    lastOverlapping? key (before ++ w :: after) = lastOverlapping? key (before ++ after) := by
  simp [lastOverlapping?, List.find?_append, h]

/-- What a context holds under a key is told by the last of the writes that overlaps with it. -/
theorem Context.get?_ofWrites (writes : List Write) (key : String) :
    (ofWrites writes).get? key
      = match lastOverlapping? key writes with
        | some w => if w.key = key then some w.value else none
        | none => none := by
  induction writes using List.reverseRecOn with
  | nil => exact get?_empty key
  | append_singleton writes w ih =>
    rw [ofWrites_concat, apply_eq, get?_insert, lastOverlapping?_concat, ih]
    by_cases hkey : w.key = key
    · simp [hkey, KeysOverlap.refl]
    · by_cases hoverlap : KeysOverlap w.key key <;> simp [hkey, hoverlap]

/-- **Reads follow the last write that overlaps**: a key holds the value of the last write under a key
that overlaps with it if that was the key itself, and nothing if it was a key above or below it or if
there is none. A write under a key that does not overlap with it makes no difference, whatever was
written before and after. -/
theorem reads_follow_last_overlap (writes : List Write) (key : String) :
    (Context.ofWrites writes).get? key
        = (match lastOverlapping? key writes with
          | some w => if w.key = key then some w.value else none
          | none => none)
      ∧ ∀ before w after, writes = before ++ w :: after → ¬KeysOverlap w.key key →
          (Context.ofWrites writes).get? key = (Context.ofWrites (before ++ after)).get? key := by
  refine ⟨Context.get?_ofWrites writes key, ?_⟩
  rintro before w after rfl hapart
  rw [Context.get?_ofWrites, Context.get?_ofWrites, lastOverlapping?_middle hapart]

-- a point at the end makes an empty segment below the key in front of it
example : let c := Context.ofWrites [.insert "a" .null, .insert "b" .null, .insert "a." (.bool true)]
    c.get? "a" = none ∧ c.get? "b" = some .null ∧ c.get? "a." = some (.bool true) := by
  decide +kernel

end Rollout
