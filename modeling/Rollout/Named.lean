/-!
# Entries by name

The places of a context and the comparers of a registry stand in lists and are found by their names. If
no name stands twice, none of the entries is hidden behind another: an entry is found exactly if it is
there.
-/

namespace Rollout

variable {α : Type} {l : List (String × α)}

/-- No two entries have the same name. -/
def NamesOnce (l : List (String × α)) : Prop :=
  (l.map Prod.fst).Nodup

instance : Decidable (NamesOnce l) :=
  inferInstanceAs (Decidable (l.map Prod.fst).Nodup)

namespace NamesOnce

theorem nil : NamesOnce ([] : List (String × α)) :=
  List.nodup_nil

theorem cons_iff {e : String × α} : NamesOnce (e :: l) ↔ e.1 ∉ l.map Prod.fst ∧ NamesOnce l :=
  List.nodup_cons

theorem filter (h : NamesOnce l) (p : String × α → Bool) : NamesOnce (l.filter p) :=
  List.Nodup.sublist (List.filter_sublist.map Prod.fst) h

/-- What is found under a name is what stands there under it. -/
theorem lookup_eq_some_iff (h : NamesOnce l) {name : String} {a : α} :
    l.lookup name = some a ↔ (name, a) ∈ l := by
  constructor
  · intro hfound
    obtain ⟨before, after, rfl, -⟩ := List.lookup_eq_some_iff.mp hfound
    exact List.mem_append_right before List.mem_cons_self
  · intro hmem
    obtain ⟨before, after, rfl⟩ := List.append_of_mem hmem
    refine List.lookup_eq_some_iff.mpr ⟨before, after, rfl, fun e he => ?_⟩
    rw [NamesOnce, List.map_append, List.map_cons, List.nodup_append] at h
    have hne : e.1 ≠ name := h.2.2 e.1 (List.mem_map_of_mem he) name List.mem_cons_self
    simpa using hne.symm

end NamesOnce

end Rollout
