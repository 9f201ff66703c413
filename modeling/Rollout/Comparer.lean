import Rollout.Decimal.Basic
import Rollout.Literal.Version
import Rollout.Named

/-!
# Comparers

A comparer maps a text to a key, and texts are then ordered by their keys. Comparers are found by
name in a registry.
-/

namespace Rollout

/-- What a comparer orders a text by. -/
inductive OrderKey where
  | text (s : String)
  | number (d : Decimal)
  /-- The numbers of a version. -/
  | version (parts : List Nat)
deriving DecidableEq

/-- Keys are ordered by kind first: texts, numbers, versions. Texts go by code points, numbers by
value, and versions part by part, a version before every longer one that starts with it. -/
def OrderKey.compare : OrderKey → OrderKey → Ordering
  | text s, text t => Ord.compare s t
  | text _, _ => .lt
  | number _, text _ => .gt
  | number a, number b => Ord.compare a b
  | number _, version _ => .lt
  | version p, version q => List.compareLex Ord.compare p q
  | version _, _ => .gt

/-- Maps a text to its key, if it has one. -/
abbrev Comparer := String → Option OrderKey

/-- The parts of a version with zeros behind them, up to four. -/
def padVersion (parts : List Nat) : List Nat :=
  parts ++ List.replicate (4 - parts.length) 0

/-- Orders versions number by number. Missing numbers count as zero. -/
def versionComparer : Comparer := fun s =>
  match Literal.parseVersion s with
  | .ok parts => some (.version (padVersion parts))
  | .error _ => none

/-- Comparers by name. -/
structure Registry where
  /-- The comparers with their names. Adding comparers one by one puts no name twice
  (`Registry.namesOnce_insert`). -/
  entries : List (String × Comparer)

namespace Registry

/-- The registry without comparers. -/
def empty : Registry := ⟨[]⟩

/-- The comparer with this name. -/
def find? (r : Registry) (name : String) : Option Comparer :=
  r.entries.lookup name

/-- Adds a comparer. It takes the place of one of the same name. -/
def insert (r : Registry) (name : String) (c : Comparer) : Registry :=
  ⟨(name, c) :: r.entries.filter fun e => e.1 ≠ name⟩

/-- The names in ascending order. -/
def names (r : Registry) : List String :=
  (r.entries.map Prod.fst).mergeSort

/-- The registry that knows versions. -/
def standard : Registry :=
  empty.insert "version" versionComparer

/-! ## Each name once -/

theorem namesOnce_empty : NamesOnce empty.entries :=
  .nil

/-- A comparer that is added leaves each name there once. -/
theorem namesOnce_insert {r : Registry} (h : NamesOnce r.entries) (name : String) (c : Comparer) :
    NamesOnce (r.insert name c).entries := by
  refine NamesOnce.cons_iff.mpr ⟨fun hmem => ?_, h.filter _⟩
  obtain ⟨e, he, hname⟩ := List.mem_map.mp hmem
  have hne : e.1 ≠ name := by simpa using (List.mem_filter.mp he).2
  exact hne hname

theorem namesOnce_standard : NamesOnce standard.entries :=
  namesOnce_insert namesOnce_empty _ _

/-- Every comparer that is there is found by its name. -/
theorem find?_eq_some_iff {r : Registry} (h : NamesOnce r.entries) {name : String} {c : Comparer} :
    r.find? name = some c ↔ (name, c) ∈ r.entries :=
  h.lookup_eq_some_iff

/-- No name is listed twice. -/
theorem nodup_names {r : Registry} (h : NamesOnce r.entries) : r.names.Nodup :=
  (List.mergeSort_perm _ _).nodup_iff.mpr h

end Registry

end Rollout
