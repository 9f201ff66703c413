import Rollout.Named
import Rollout.Rule.Distribution
import Rollout.Subject

/-!
# Contexts

A context holds the properties of one request in a tree. A key names a place in the tree by its
segments, which are separated by points and may be empty. Only leaves hold values: writing a leaf
replaces what was below it, and writing below a leaf replaces the leaf.
-/

namespace Rollout

/-- A place in a context. -/
inductive Node where
  /-- A value. -/
  | leaf (value : Value)
  /-- Places by segment. Writing puts no segment twice (`Node.SegmentsOnce.write`). -/
  | inner (children : List (String × Node))

/-- The segments of a key. There is always at least one. -/
def segments (key : String) : List String :=
  (key.toList.splitOn '.').map String.ofList

namespace Node

/-- The places below a place. -/
def children : Node → List (String × Node)
  | leaf _ => []
  | inner children => children

/-- Puts a place under a segment. It replaces a place under the same segment. -/
def replace (segment : String) (node : Node) : List (String × Node) → List (String × Node)
  | [] => [(segment, node)]
  | (s, n) :: rest =>
    if s = segment then (segment, node) :: rest else (s, n) :: replace segment node rest

/-- The place after writing a value at a path below it. The empty path is the place itself. -/
def write (value : Value) : List String → Node → Node
  | [], _ => leaf value
  | segment :: path, node =>
    let below := (node.children.lookup segment).getD (inner [])
    inner (replace segment (write value path below) node.children)

/-- The value at a path below a place, if the path ends at a leaf. -/
def read? : List String → Node → Option Value
  | [], leaf value => some value
  | [], inner _ => none
  | segment :: path, node => (node.children.lookup segment).bind (read? path)

/-! ## Each segment once -/

/-- No segment stands twice, neither here nor at any place below. -/
inductive SegmentsOnce : Node → Prop
  | leaf (value : Value) : SegmentsOnce (leaf value)
  | inner {children : List (String × Node)} (here : NamesOnce children)
    (below : ∀ e ∈ children, SegmentsOnce e.2) : SegmentsOnce (inner children)

theorem mem_replace {segment : String} {node : Node} {l : List (String × Node)}
    {e : String × Node} (h : e ∈ replace segment node l) : e = (segment, node) ∨ e ∈ l := by
  induction l with
  | nil => exact .inl (List.mem_singleton.mp h)
  | cons f rest ih =>
    obtain ⟨s, n⟩ := f
    rw [replace] at h
    split at h
    · exact (List.mem_cons.mp h).imp_right (List.mem_cons_of_mem _)
    · rcases List.mem_cons.mp h with rfl | h
      · exact .inr List.mem_cons_self
      · exact (ih h).imp_right (List.mem_cons_of_mem _)

theorem namesOnce_replace {l : List (String × Node)} (h : NamesOnce l) (segment : String)
    (node : Node) : NamesOnce (replace segment node l) := by
  induction l with
  | nil => exact NamesOnce.cons_iff.mpr ⟨List.not_mem_nil, .nil⟩
  | cons e rest ih =>
    obtain ⟨s, n⟩ := e
    obtain ⟨hnew, hrest⟩ := NamesOnce.cons_iff.mp h
    rw [replace]
    by_cases hs : s = segment
    · subst hs
      rw [if_pos rfl]
      exact NamesOnce.cons_iff.mpr ⟨hnew, hrest⟩
    · rw [if_neg hs]
      refine NamesOnce.cons_iff.mpr ⟨fun hmem => ?_, ih hrest⟩
      obtain ⟨f, hf, hname⟩ := List.mem_map.mp hmem
      rcases mem_replace hf with rfl | hf
      · exact hs hname.symm
      · exact hnew (List.mem_map.mpr ⟨f, hf, hname⟩)

namespace SegmentsOnce

theorem children {node : Node} (h : node.SegmentsOnce) :
    NamesOnce node.children ∧ ∀ e ∈ node.children, e.2.SegmentsOnce := by
  cases h with
  | leaf value => exact ⟨.nil, nofun⟩
  | inner here below => exact ⟨here, below⟩

/-- Writing a value puts no segment twice, here or below. -/
theorem write {node : Node} (h : node.SegmentsOnce) (value : Value) (path : List String) :
    (Node.write value path node).SegmentsOnce := by
  induction path generalizing node with
  | nil => exact .leaf value
  | cons segment path ih =>
    obtain ⟨here, below⟩ := h.children
    have hplace : ((node.children.lookup segment).getD (.inner [])).SegmentsOnce := by
      cases hfound : node.children.lookup segment with
      | none => exact .inner .nil nofun
      | some n => exact below _ (here.lookup_eq_some_iff.mp hfound)
    refine .inner (namesOnce_replace here _ _) fun e he => ?_
    rcases mem_replace he with rfl | he
    · exact ih hplace
    · exact below e he

end SegmentsOnce

end Node

/-- The properties of a request. -/
structure Context where
  /-- The places of the first segments. -/
  root : List (String × Node)

namespace Context

/-- The context without properties. -/
def empty : Context := ⟨[]⟩

/-- Writes a value under a key. -/
def insert (c : Context) (key : String) (value : Value) : Context :=
  ⟨(Node.write value (segments key) (.inner c.root)).children⟩

/-- The value under a key. -/
def get? (c : Context) (key : String) : Option Value :=
  Node.read? (segments key) (.inner c.root)

/-- Writes the identity of an owner. -/
def setOwner (c : Context) (owner : String) (id : Value) : Context :=
  c.insert (ownerKey owner) id

/-- Writes the current time. -/
def setNow (c : Context) (timestamp : String) : Context :=
  c.insert clockKey (.string timestamp)

/-- Writes values under keys in order. -/
def insertAll (c : Context) (entries : List (String × Value)) : Context :=
  entries.foldl (fun c e => c.insert e.1 e.2) c

/-- No segment stands twice at any place of the context. -/
def SegmentsOnce (c : Context) : Prop :=
  (Node.inner c.root).SegmentsOnce

theorem segmentsOnce_empty : empty.SegmentsOnce :=
  .inner .nil nofun

namespace SegmentsOnce

variable {c : Context}

theorem insert (h : c.SegmentsOnce) (key : String) (value : Value) :
    (c.insert key value).SegmentsOnce := by
  obtain ⟨here, below⟩ := (Node.SegmentsOnce.write h value (segments key)).children
  exact .inner here below

theorem insertAll (h : c.SegmentsOnce) (entries : List (String × Value)) :
    (c.insertAll entries).SegmentsOnce := by
  induction entries generalizing c with
  | nil => exact h
  | cons e rest ih => exact ih (h.insert e.1 e.2)

end SegmentsOnce

end Context

end Rollout
