import Mathlib.Data.List.Forall2
import Rollout.Proofs.Verbatim

/-!
# Pools that grow

A place that an interner hands out keeps its entry, whatever is interned later. What is compiled
while the pool grows therefore means the same over every later pool: `Pool.Emits` says so of one
emitting function, and is kept when emitting functions are put one after another.
-/

namespace Rollout

/-! ## Interners -/

namespace Interner

variable {α : Type}

/-- Every entry of the first interner stands in the second at its place. -/
def Extends (t u : Interner α) : Prop :=
  ∀ ⦃i : Nat⦄ ⦃a : α⦄, t.entries[i]? = some a → u.entries[i]? = some a

theorem Extends.refl (t : Interner α) : t.Extends t := fun _ _ h => h

theorem Extends.trans {t u w : Interner α} (htu : t.Extends u) (huw : u.Extends w) :
    t.Extends w :=
  fun _ _ h => huw (htu h)

theorem extends_intern (alike : α → α → Bool) (t : Interner α) (a : α) :
    t.Extends (t.intern alike a).2 := by
  intro i b hb
  unfold intern
  split
  · exact hb
  · have hlt : i < t.entries.size := (Array.getElem?_eq_some_iff.mp hb).1
    rw [Array.getElem?_push_lt hlt, ← Array.getElem?_eq_getElem hlt]
    exact hb

/-- The place handed out for an entry holds that entry, if entries are alike only verbatim. -/
theorem getElem?_intern {alike : α → α → Bool} (halike : ∀ {b c}, alike b c = true ↔ b = c)
    (t : Interner α) (a : α) : (t.intern alike a).2.entries[(t.intern alike a).1]? = some a := by
  unfold intern
  split
  · rename_i i hi
    obtain ⟨hlt, hsame, _⟩ := Array.findIdx?_eq_some_iff_getElem.mp hi
    rw [Array.getElem?_eq_getElem hlt, halike.mp hsame]
  · exact Array.getElem?_push_size

end Interner

/-! ## Pools -/

namespace Pool

/-- Every entry of the first pool stands in the second at its place. -/
structure Extends (p q : Pool) : Prop where
  literals : p.literals.Extends q.literals
  weighted : p.weighted.Extends q.weighted
  uniform : p.uniform.Extends q.uniform

theorem Extends.refl (p : Pool) : p.Extends p := ⟨.refl _, .refl _, .refl _⟩

theorem Extends.trans {p q r : Pool} (hpq : p.Extends q) (hqr : q.Extends r) : p.Extends r :=
  ⟨hpq.literals.trans hqr.literals, hpq.weighted.trans hqr.weighted,
    hpq.uniform.trans hqr.uniform⟩

/-- An emitting function only adds to the pool, and what it emits has its meaning over every pool
that the result grows into. -/
structure Emits {β : Type} (means : Pool → β → Prop) (emit : Pool → β × Pool) : Prop where
  grows : ∀ p : Pool, p.Extends (emit p).2
  holds : ∀ p q, (emit p).2.Extends q → means q (emit p).1

theorem emits_literal (v : Value) : Emits (fun q i => q.literalAt i = v) (·.literal v) where
  grows p := ⟨p.literals.extends_intern _ v, .refl _, .refl _⟩
  holds p q h := by
    have hentry := h.literals (p.literals.getElem?_intern Value.writtenAlike_iff v)
    show (q.literals.entries[(p.literals.intern Value.writtenAlike v).1]?).getD .null = v
    rw [hentry, Option.getD_some]

theorem emits_weightedTable (table : List (Value × Nat)) :
    Emits (fun q i => q.weightedAt i = table) (·.weightedTable table) where
  grows p := ⟨.refl _, p.weighted.extends_intern _ table, .refl _⟩
  holds p q h := by
    have hentry := h.weighted (p.weighted.getElem?_intern sharesWrittenAlike_iff table)
    show (q.weighted.entries[(p.weighted.intern sharesWrittenAlike table).1]?).getD [] = table
    rw [hentry, Option.getD_some]

theorem emits_uniformTable (values : List Value) :
    Emits (fun q i => q.uniformAt i = values) (·.uniformTable values) where
  grows p := ⟨.refl _, .refl _, p.uniform.extends_intern _ values⟩
  holds p q h := by
    have hentry := h.uniform (p.uniform.getElem?_intern Value.allWrittenAlike_iff values)
    show (q.uniform.entries[(p.uniform.intern Value.allWrittenAlike values).1]?).getD [] = values
    rw [hentry, Option.getD_some]

namespace Emits

variable {α β γ : Type} {P : Pool → α → Prop} {Q : Pool → β → Prop} {R : Pool → γ → Prop}

/-- Emitting nothing new. -/
theorem const {a : α} (h : ∀ q, P q a) : Emits P (fun p => (a, p)) where
  grows p := .refl p
  holds _ q _ := h q

theorem map {emit : Pool → α × Pool} (h : Emits P emit) (g : α → β)
    (hg : ∀ q a, P q a → Q q (g a)) : Emits Q (fun p => (g (emit p).1, (emit p).2)) where
  grows p := h.grows p
  holds p q hq := hg q _ (h.holds p q hq)

/-- One emission after another: the first goes on to hold while the second adds to the pool. -/
theorem seq {emit : Pool → α × Pool} {emit' : Pool → β × Pool} (h : Emits P emit)
    (h' : Emits Q emit') (g : α → β → γ) (hg : ∀ q a b, P q a → Q q b → R q (g a b)) :
    Emits R (fun p => (g (emit p).1 (emit' (emit p).2).1, (emit' (emit p).2).2)) where
  grows p := (h.grows p).trans (h'.grows _)
  holds p q hq := hg q _ _ (h.holds p q ((h'.grows _).trans hq)) (h'.holds _ q hq)

end Emits

/-- Emits for each item in turn. -/
def emitAll {α β : Type} (emit : Pool → α → β × Pool) (p : Pool) : List α → List β × Pool
  | [] => ([], p)
  | a :: rest =>
    let (b, p) := emit p a
    let (bs, p) := emitAll emit p rest
    (b :: bs, p)

theorem Emits.all {α β : Type} {means : α → Pool → β → Prop} {emit : Pool → α → β × Pool}
    {l : List α} (h : ∀ a ∈ l, Emits (means a) (emit · a)) :
    Emits (fun q bs => List.Forall₂ (fun a b => means a q b) l bs) (emitAll emit · l) := by
  induction l with
  | nil => exact .const fun _ => .nil
  | cons a rest ih =>
    have hrest := ih fun b hb => h b (List.mem_cons_of_mem _ hb)
    exact (h a List.mem_cons_self).seq hrest (fun b bs => b :: bs) fun _ _ _ hb hbs => .cons hb hbs

end Pool

end Rollout
