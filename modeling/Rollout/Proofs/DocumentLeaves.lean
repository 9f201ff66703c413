import Mathlib.Data.List.Nodup
import Rollout.Context.OfJson
import Rollout.Proofs.Induction
import Rollout.Proofs.Writes

/-!
# A context of a document holds its leaves

The leaves of a document are its values that are no objects, each at the end of a path of member names.
Depth first, with the members of every object in ascending order of their names, is the order of the
paths, as no path of a leaf begins another one. A context is written from the leaves in this order, each
under the names on its path joined by points, so what it holds under a key is told by the last leaf whose
key overlaps with it.
-/

namespace Rollout

/-! ## Entries by name -/

section ByName

variable {α β : Type}

theorem lastOfEach_map (f : String × α → β) (l : List (String × α)) :
    lastOfEach (l.map fun e => (e.1, f e)) = (lastOfEach l).map fun e => (e.1, f e) := by
  induction l with
  | nil => rfl
  | cons e rest ih =>
    have hany : ((rest.map fun e => (e.1, f e)).any fun g => g.1 = e.1)
        = rest.any fun g => g.1 = e.1 := by
      rw [List.any_map]
      rfl
    rw [List.map_cons, lastOfEach, lastOfEach, hany, ih]
    split <;> rfl

theorem byName_map (f : String × α → β) (l : List (String × α)) :
    byName (l.map fun e => (e.1, f e)) = (byName l).map fun e => (e.1, f e) := by
  rw [byName, byName, lastOfEach_map, List.map_mergeSort]
  exact fun _ _ _ _ => rfl

theorem lookup_reverse_cons (name : String) (d : String × α) (rest : List (String × α)) :
    (d :: rest).reverse.lookup name
      = (rest.reverse.lookup name).or (if name = d.1 then some d.2 else none) := by
  rw [List.reverse_cons, List.lookup_append, List.lookup_cons]
  by_cases h : name = d.1
  · simp [h]
  · have hbeq : (name == d.1) = false := by simpa using h
    simp [h, hbeq]

theorem any_name_eq (name : String) (l : List (String × α)) :
    (l.any fun e => e.1 = name) = (l.reverse.lookup name).isSome := by
  rw [Bool.eq_iff_iff, List.lookup_isSome_iff, List.any_eq_true]
  constructor
  · rintro ⟨e, he, hname⟩
    exact ⟨e, List.mem_reverse.mpr he, beq_iff_eq.mpr (of_decide_eq_true hname).symm⟩
  · rintro ⟨e, he, hname⟩
    exact ⟨e, List.mem_reverse.mp he, decide_eq_true (beq_iff_eq.mp hname).symm⟩

theorem mem_lastOfEach {e : String × α} {l : List (String × α)} :
    e ∈ lastOfEach l ↔ l.reverse.lookup e.1 = some e.2 := by
  induction l with
  | nil => simp [lastOfEach]
  | cons d rest ih =>
    rw [lastOfEach, any_name_eq, lookup_reverse_cons]
    by_cases hname : e.1 = d.1
    · -- of the entries with the name of the first one, it counts itself if no later one does
      rw [hname] at ih ⊢
      cases hrest : rest.reverse.lookup d.1 with
      | none =>
        have hnot : e ∉ lastOfEach rest := by
          rw [ih, hrest]
          nofun
        have hself : e = d ↔ d.2 = e.2 :=
          ⟨fun h => by rw [h], fun h => Prod.ext hname h.symm⟩
        simp [hnot, hself]
      | some a => simp [ih, hrest]
    · have hne : e ≠ d := fun h => hname (by rw [h])
      cases rest.reverse.lookup d.1 <;> simp [ih, hne, hname]

theorem mem_byName {e : String × α} {l : List (String × α)} :
    e ∈ byName l ↔ l.reverse.lookup e.1 = some e.2 := by
  rw [byName, List.mem_mergeSort, mem_lastOfEach]

theorem mem_of_mem_byName {e : String × α} {l : List (String × α)} (h : e ∈ byName l) : e ∈ l := by
  obtain ⟨before, after, hl, -⟩ := List.lookup_eq_some_iff.mp (mem_byName.mp h)
  have hmem : e ∈ l.reverse := by
    rw [hl]
    exact List.mem_append_right _ List.mem_cons_self
  exact List.mem_reverse.mp hmem

theorem pairwise_lastOfEach (l : List (String × α)) :
    (lastOfEach l).Pairwise fun a b => a.1 ≠ b.1 := by
  induction l with
  | nil => exact List.Pairwise.nil
  | cons d rest ih =>
    rw [lastOfEach, any_name_eq]
    split
    · exact ih
    · rename_i hlater
      refine List.pairwise_cons.mpr ⟨fun e he hname => hlater ?_, ih⟩
      rw [hname, mem_lastOfEach.mp he]
      rfl

/-- Entries by name have ascending names. -/
theorem pairwise_byName (l : List (String × α)) :
    (byName l).Pairwise fun a b => a.1 < b.1 := by
  have hsorted : (byName l).Pairwise fun a b => (compare a.1 b.1).isLE = true := by
    refine List.pairwise_mergeSort (fun _ _ _ => Std.TransCmp.isLE_trans) (fun a b => ?_) _
    have hswap : compare b.1 a.1 = (compare a.1 b.1).swap := Std.OrientedCmp.eq_swap
    rw [hswap]
    cases compare a.1 b.1 <;> rfl
  have hnames : (byName l).Pairwise fun a b => a.1 ≠ b.1 :=
    ((List.mergeSort_perm _ _).pairwise_iff Ne.symm).mpr (pairwise_lastOfEach l)
  refine hsorted.imp₂ (fun a b hle hne => ?_) hnames
  cases hcompare : compare a.1 b.1 with
  | lt => exact compareOfLessAndEq_eq_lt.mp hcompare
  | eq => exact absurd (Std.LawfulEqCmp.eq_of_compare hcompare) hne
  | gt =>
    rw [hcompare] at hle
    exact absurd hle nofun

end ByName

namespace Json

/-! ## Leaves and their paths -/

/-- The member with a name. Of several members with one name the last one counts. -/
def member? (members : List (String × Json)) (name : String) : Option Json :=
  members.reverse.lookup name

/-- A document that is no object. -/
def IsLeaf : Json → Prop
  | .object _ => False
  | _ => True

/-- The names of a path lead from a document through members of objects to a leaf. -/
inductive Reaches : Json → List String → Json → Prop
  | leaf {x : Json} (isLeaf : x.IsLeaf) : Reaches x [] x
  | member {members : List (String × Json)} {name : String} {j x : Json} {path : List String}
      (found : member? members name = some j) (onward : Reaches j path x) :
      Reaches (.object members) (name :: path) x

/-- The leaves of a document with their paths, in ascending order of the paths. A document that is
no object has none. -/
structure ListsLeaves (document : Json) (leaves : List (List String × Json)) : Prop where
  mem_iff : ∀ path x, (path, x) ∈ leaves ↔ path ≠ [] ∧ document.Reaches path x
  ascending : leaves.Pairwise fun a b => a.1 < b.1

theorem reaches_leaf_iff {j x : Json} {path : List String} (h : j.IsLeaf) :
    j.Reaches path x ↔ path = [] ∧ x = j := by
  constructor
  · rintro (_ | _)
    · exact ⟨rfl, rfl⟩
    · exact absurd h id
  · rintro ⟨rfl, rfl⟩
    exact .leaf h

/-- No path of a leaf begins the path of another one. -/
theorem Reaches.eq_of_prefix {j x y : Json} {path path' : List String} (hx : j.Reaches path x)
    (hy : j.Reaches path' y) (h : path <+: path') : path = path' ∧ x = y := by
  induction hx generalizing path' with
  | leaf hleaf =>
    obtain ⟨rfl, rfl⟩ := (reaches_leaf_iff hleaf).mp hy
    exact ⟨rfl, rfl⟩
  | member hfound _ ih =>
    cases hy with
    | leaf hleaf => exact absurd hleaf id
    | member hfound' honward =>
      obtain ⟨rfl, hprefix⟩ := List.cons_prefix_cons.mp h
      cases hfound.symm.trans hfound'
      obtain ⟨rfl, rfl⟩ := ih honward hprefix
      exact ⟨rfl, rfl⟩

theorem ListsLeaves.unique {document : Json} {leaves leaves' : List (List String × Json)}
    (h : document.ListsLeaves leaves) (h' : document.ListsLeaves leaves') : leaves' = leaves := by
  have hnodup {l : List (List String × Json)} (hl : document.ListsLeaves l) : l.Nodup := by
    refine List.Pairwise.imp (fun {a b} hlt => ?_) hl.ascending
    rintro rfl
    exact List.lt_irrefl _ hlt
  have hmem (leaf : List String × Json) : leaf ∈ leaves' ↔ leaf ∈ leaves :=
    (h'.mem_iff leaf.1 leaf.2).trans (h.mem_iff leaf.1 leaf.2).symm
  refine List.Perm.eq_of_pairwise (fun a b _ _ hab hba => ?_) h'.ascending h.ascending
    ((List.perm_ext_iff_of_nodup (hnodup h') (hnodup h)).mpr hmem)
  exact absurd hba (List.lt_asymm hab)

/-! ## Listing the leaves -/

mutual

/-- The leaves of a document with their paths, depth first and by ascending names. -/
def leafPaths : Json → List (List String × Json)
  | .object members =>
    (byName (memberPaths members)).flatMap fun m =>
      m.2.map fun leaf => (m.1 :: leaf.1, leaf.2)
  | .null => [([], .null)]
  | .bool b => [([], .bool b)]
  | .number n => [([], .number n)]
  | .string s => [([], .string s)]
  | .array items => [([], .array items)]

/-- The leaves of each member of an object, beside its name. -/
def memberPaths : List (String × Json) → List (String × List (List String × Json))
  | [] => []
  | (name, j) :: rest => (name, leafPaths j) :: memberPaths rest

end

theorem memberPaths_eq (members : List (String × Json)) :
    memberPaths members = members.map fun m => (m.1, leafPaths m.2) := by
  induction members with
  | nil => rfl
  | cons m rest ih => rw [memberPaths, ih, List.map_cons]

theorem memberLeaves_eq (path : Option String) (members : List (String × Json)) :
    memberLeaves path members = members.map fun m => (m.1, leaves (joinKey path m.1) m.2) := by
  induction members with
  | nil => rfl
  | cons m rest ih => rw [memberLeaves, ih, List.map_cons]

theorem leafPaths_object (members : List (String × Json)) :
    leafPaths (.object members)
      = (byName members).flatMap fun m =>
          (leafPaths m.2).map fun leaf => (m.1 :: leaf.1, leaf.2) := by
  rw [leafPaths, memberPaths_eq, byName_map, List.flatMap_map]

theorem leafPaths_leaf {j : Json} (h : j.IsLeaf) : leafPaths j = [([], j)] := by
  cases j with
  | object => exact absurd h id
  | _ => rfl

theorem mem_leafPaths_iff {j x : Json} {path : List String} :
    (path, x) ∈ leafPaths j ↔ j.Reaches path x := by
  have hleaf {j : Json} (h : j.IsLeaf) {path : List String} :
      (path, x) ∈ leafPaths j ↔ j.Reaches path x := by
    rw [leafPaths_leaf h, reaches_leaf_iff h, List.mem_singleton, Prod.mk.injEq]
  induction j generalizing path with
  | object members ih =>
    have hih {m : String × Json} (hm : m ∈ byName members) {path : List String} :
        (path, x) ∈ leafPaths m.2 ↔ m.2.Reaches path x :=
      ih m (mem_of_mem_byName hm)
    rw [leafPaths_object, List.mem_flatMap]
    constructor
    · rintro ⟨m, hm, hmem⟩
      obtain ⟨leaf, hbelow, heq⟩ := List.mem_map.mp hmem
      cases heq
      exact .member (mem_byName.mp hm) ((hih hm).mp hbelow)
    · rintro (hisLeaf | ⟨hfound, honward⟩)
      · exact absurd hisLeaf id
      · rename_i name j path
        have hm : (name, j) ∈ byName members := mem_byName.mpr hfound
        exact ⟨(name, j), hm, List.mem_map.mpr ⟨(path, x), (hih hm).mpr honward, rfl⟩⟩
  | _ => exact hleaf (by trivial)

/-- The leaves are listed in ascending order of their paths. -/
theorem pairwise_leafPaths (j : Json) : (leafPaths j).Pairwise fun a b => a.1 < b.1 := by
  have hleaf {j : Json} (h : j.IsLeaf) : (leafPaths j).Pairwise fun a b => a.1 < b.1 := by
    rw [leafPaths_leaf h]
    exact List.pairwise_singleton _ _
  induction j with
  | object members ih =>
    rw [leafPaths_object, List.pairwise_flatMap]
    constructor
    · intro m hm
      have hmem := mem_of_mem_byName hm
      refine List.pairwise_map.mpr ((ih m hmem).imp fun hlt => ?_)
      exact List.cons_lt_cons_iff.mpr (.inr ⟨rfl, hlt⟩)
    · -- the leaves of one member come before those of a member with a greater name
      refine (pairwise_byName members).imp fun hlt a ha b hb => ?_
      obtain ⟨_, _, rfl⟩ := List.mem_map.mp ha
      obtain ⟨_, _, rfl⟩ := List.mem_map.mp hb
      exact List.cons_lt_cons_iff.mpr (.inl hlt)
  | _ => exact hleaf trivial

/-- The leaves of a whole document with their paths. -/
def documentPaths : Json → List (List String × Json)
  | .object members => leafPaths (.object members)
  | _ => []

theorem listsLeaves_documentPaths (document : Json) :
    document.ListsLeaves document.documentPaths := by
  have hleaf {j : Json} (h : j.IsLeaf) : j.ListsLeaves [] := by
    refine ⟨fun path x => ?_, List.Pairwise.nil⟩
    rw [reaches_leaf_iff h]
    simp +contextual
  cases document with
  | object members =>
    refine ⟨fun path x => mem_leafPaths_iff.trans ?_, pairwise_leafPaths _⟩
    refine (and_iff_right_of_imp ?_).symm
    rintro (h | _)
    · exact absurd h id
    · exact List.cons_ne_nil _ _
  | _ => exact hleaf trivial

/-! ## Keys of leaves -/

/-- The key of a leaf: the names on its path, joined by points. -/
def leafKey (leaf : List String × Json) : String :=
  ".".intercalate leaf.1

theorem intercalate_join (a b : String) (l : List String) :
    ".".intercalate ((a ++ "." ++ b) :: l) = ".".intercalate (a :: b :: l) := by
  cases l with
  | nil => simp [String.intercalate_cons_cons]
  | cons c l => simp [String.intercalate_cons_cons, String.append_assoc]

/-- The leaves that are written under a key are those of the document, each under the names on its
path behind the key. -/
theorem leaves_eq (j : Json) (key : String) :
    j.leaves key
      = (leafPaths j).map fun leaf => (".".intercalate (key :: leaf.1), Value.ofJson leaf.2) := by
  induction j generalizing key with
  | object members ih =>
    rw [leaves, memberLeaves_eq, byName_map, List.flatMap_map, leafPaths_object, List.map_flatMap]
    refine List.flatMap_congr fun m hm => ?_
    have hmem := mem_of_mem_byName hm
    rw [joinKey, ih m hmem, List.map_map]
    refine List.map_congr_left fun leaf _ => ?_
    rw [intercalate_join]
    rfl
  | _ => rfl

theorem documentLeaves_eq (document : Json) :
    document.documentLeaves
      = document.documentPaths.map fun leaf => (leafKey leaf, Value.ofJson leaf.2) := by
  cases document with
  | object members =>
    rw [documentLeaves, memberLeaves_eq, byName_map, List.flatMap_map, documentPaths,
      leafPaths_object, List.map_flatMap]
    refine List.flatMap_congr fun m _ => ?_
    rw [joinKey, leaves_eq, List.map_map]
    rfl
  | _ => rfl

/-- Names without points are the segments of their key. -/
theorem segments_intercalate {path : List String} (hpath : path ≠ [])
    (hplain : ∀ name ∈ path, '.' ∉ name.toList) : segments (".".intercalate path) = path := by
  have hsplit : (".".intercalate path).toList.splitOn '.' = path.map String.toList := by
    rw [String.toList_intercalate]
    refine List.splitOn_intercalate '.' ?_ (by simpa using hpath)
    intro l hl
    obtain ⟨name, hname, rfl⟩ := List.mem_map.mp hl
    exact hplain name hname
  rw [segments, hsplit, List.map_map]
  simp [Function.comp_def]

/-- The last of the leaves whose key overlaps with the given one. -/
def lastOverlappingLeaf? (key : String) (leaves : List (List String × Json)) :
    Option (List String × Json) :=
  leaves.reverse.find? fun leaf => KeysOverlap (leafKey leaf) key

end Json

/-! ## Contexts of documents -/

/-- The write of a leaf. -/
def Write.ofLeaf (leaf : List String × Json) : Write :=
  .insert (Json.leafKey leaf) (Value.ofJson leaf.2)

theorem Context.ofJson_eq (document : Json) :
    ofJson document = ofWrites (document.documentPaths.map Write.ofLeaf) := by
  rw [ofJson, insertAll, Json.documentLeaves_eq, ofWrites, List.foldl_map, List.foldl_map]
  rfl

theorem lastOverlapping?_ofLeaf (key : String) (leaves : List (List String × Json)) :
    lastOverlapping? key (leaves.map Write.ofLeaf)
      = (Json.lastOverlappingLeaf? key leaves).map Write.ofLeaf := by
  rw [lastOverlapping?, ← List.map_reverse, List.find?_map]
  rfl

/-- What a context of a document holds under a key is told by the last leaf whose key overlaps. -/
theorem Context.get?_ofJson (document : Json) (key : String) :
    (ofJson document).get? key
      = match Json.lastOverlappingLeaf? key document.documentPaths with
        | some leaf => if Json.leafKey leaf = key then some (Value.ofJson leaf.2) else none
        | none => none := by
  rw [ofJson_eq, get?_ofWrites, lastOverlapping?_ofLeaf]
  cases Json.lastOverlappingLeaf? key document.documentPaths <;> rfl

/-- Among names without points, a leaf is the only one whose key overlaps with its own. -/
theorem Json.lastOverlappingLeaf?_of_mem {document : Json} {leaves : List (List String × Json)}
    (h : document.ListsLeaves leaves)
    (hplain : ∀ leaf ∈ leaves, ∀ name ∈ leaf.1, '.' ∉ name.toList)
    {leaf : List String × Json} (hleaf : leaf ∈ leaves) :
    lastOverlappingLeaf? (leafKey leaf) leaves = some leaf := by
  have hsegments {l : List String × Json} (hl : l ∈ leaves) : segments (leafKey l) = l.1 :=
    segments_intercalate ((h.mem_iff l.1 l.2).mp hl).1 (hplain l hl)
  have honly {l : List String × Json} (hl : l ∈ leaves)
      (hoverlap : KeysOverlap (leafKey l) (leafKey leaf)) : l = leaf := by
    have hreaches := ((h.mem_iff l.1 l.2).mp hl).2
    have hreaches' := ((h.mem_iff leaf.1 leaf.2).mp hleaf).2
    rw [KeysOverlap, hsegments hl, hsegments hleaf] at hoverlap
    rcases hoverlap with hprefix | hprefix
    · obtain ⟨hpath, hvalue⟩ := hreaches.eq_of_prefix hreaches' hprefix
      exact Prod.ext hpath hvalue
    · obtain ⟨hpath, hvalue⟩ := hreaches'.eq_of_prefix hreaches hprefix
      exact Prod.ext hpath.symm hvalue.symm
  cases hfind : lastOverlappingLeaf? (leafKey leaf) leaves with
  | none =>
    have hnone := List.find?_eq_none.mp hfind leaf (List.mem_reverse.mpr hleaf)
    exact absurd (decide_eq_true (KeysOverlap.refl (leafKey leaf))) hnone
  | some l =>
    have hl := List.mem_reverse.mp (List.mem_of_find?_eq_some hfind)
    have hoverlap := List.find?_some hfind
    rw [honly hl (of_decide_eq_true hoverlap)]

/-- **A context of a document holds its leaves**: the leaves of a document make one list in ascending
order of their paths, and what the context of the document holds under a key is the value of the last
leaf of the list whose key overlaps with it, if that is the key itself, and nothing otherwise. So where
no name on the way to a leaf has a point in it, every leaf is held under its own key; and under a key
that is not one of a leaf nothing is held. -/
theorem document_leaves_held (document : Json) :
    document.ListsLeaves document.documentPaths
      ∧ (∀ leaves, document.ListsLeaves leaves → leaves = document.documentPaths)
      ∧ (∀ key, (Context.ofJson document).get? key
          = match Json.lastOverlappingLeaf? key document.documentPaths with
            | some leaf => if Json.leafKey leaf = key then some (Value.ofJson leaf.2) else none
            | none => none)
      ∧ ((∀ leaf ∈ document.documentPaths, ∀ name ∈ leaf.1, '.' ∉ name.toList) →
          ∀ leaf ∈ document.documentPaths,
            (Context.ofJson document).get? (Json.leafKey leaf) = some (Value.ofJson leaf.2))
      ∧ ∀ key, (∀ leaf ∈ document.documentPaths, Json.leafKey leaf ≠ key) →
          (Context.ofJson document).get? key = none := by
  have hlists := document.listsLeaves_documentPaths
  refine ⟨hlists, fun _ => hlists.unique, Context.get?_ofJson document,
    fun hplain leaf hleaf => ?_, fun key hno => ?_⟩
  · rw [Context.get?_ofJson, Json.lastOverlappingLeaf?_of_mem hlists hplain hleaf]
    exact if_pos rfl
  · rw [Context.get?_ofJson]
    cases hfind : Json.lastOverlappingLeaf? key document.documentPaths with
    | none => rfl
    | some leaf =>
      have hleaf := List.mem_reverse.mp (List.mem_of_find?_eq_some hfind)
      exact if_neg (hno leaf hleaf)

-- of two members whose keys come to one, the one with the greater name is held
example : (Context.ofJson (.object [("a.b", .bool true), ("a", .object [("b", .null)])])).get? "a.b"
    = some (.bool true) := by
  cbv

end Rollout
