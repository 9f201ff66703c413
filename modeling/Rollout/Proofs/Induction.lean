import Rollout.Json.Basic
import Rollout.RuleSet.Basic

/-!
# Induction over conditions, matchers, trees and documents

Conditions, matchers, trees and documents hold lists of their own kind. The principles below have one
case for each constructor, and in a case with a list the hypothesis is there for every member of it.
-/

namespace Rollout

@[elab_as_elim, induction_eliminator]
theorem Condition.induction {motive : Condition → Prop}
    (compare : ∀ op literal comparer, motive (.compare op literal comparer))
    (oneOf : ∀ literals comparer, motive (.oneOf literals comparer))
    (contains : ∀ literal comparer, motive (.contains literal comparer))
    (startsWith : ∀ text, motive (.startsWith text))
    (endsWith : ∀ text, motive (.endsWith text))
    (within : ∀ window, motive (.within window))
    (all : ∀ items, (∀ c ∈ items, motive c) → motive (.all items))
    (any : ∀ items, (∀ c ∈ items, motive c) → motive (.any items))
    (not : ∀ item, motive item → motive (.not item)) :
    ∀ c, motive c
  | .compare op literal comparer => compare op literal comparer
  | .oneOf literals comparer => oneOf literals comparer
  | .contains literal comparer => contains literal comparer
  | .startsWith text => startsWith text
  | .endsWith text => endsWith text
  | .within window => within window
  | .all items => all items fun c _ =>
      Condition.induction compare oneOf contains startsWith endsWith within all any not c
  | .any items => any items fun c _ =>
      Condition.induction compare oneOf contains startsWith endsWith within all any not c
  | .not item => not item
      (Condition.induction compare oneOf contains startsWith endsWith within all any not item)

@[elab_as_elim, induction_eliminator]
theorem Matcher.induction {motive : Matcher → Prop}
    (property : ∀ name condition, motive (.property name condition))
    (all : ∀ items, (∀ m ∈ items, motive m) → motive (.all items))
    (any : ∀ items, (∀ m ∈ items, motive m) → motive (.any items))
    (not : ∀ item, motive item → motive (.not item)) :
    ∀ m, motive m
  | .property name condition => property name condition
  | .all items => all items fun m _ => Matcher.induction property all any not m
  | .any items => any items fun m _ => Matcher.induction property all any not m
  | .not item => not item (Matcher.induction property all any not item)

@[elab_as_elim, induction_eliminator]
theorem RuleTree.induction {motive : RuleTree → Prop}
    (list : ∀ rules, motive (.list rules))
    (partition : ∀ property branches fallback, (∀ b ∈ branches, motive b.2) → motive fallback →
      motive (.partition property branches fallback)) :
    ∀ t, motive t
  | .list rules => list rules
  | .partition property branches fallback =>
      partition property branches fallback
        (fun b _ => RuleTree.induction list partition b.2)
        (RuleTree.induction list partition fallback)
termination_by t => sizeOf t
decreasing_by
  · rename_i hb
    have hmem := List.sizeOf_lt_of_mem hb
    obtain ⟨key, branch⟩ := b
    simp only [RuleTree.partition.sizeOf_spec, Prod.mk.sizeOf_spec] at hmem ⊢
    omega
  · simp only [RuleTree.partition.sizeOf_spec]
    omega

@[elab_as_elim, induction_eliminator]
theorem Json.induction {motive : Json → Prop}
    (null : motive .null)
    (bool : ∀ b, motive (.bool b))
    (number : ∀ n, motive (.number n))
    (string : ∀ s, motive (.string s))
    (array : ∀ items, (∀ j ∈ items, motive j) → motive (.array items))
    (object : ∀ members, (∀ m ∈ members, motive m.2) → motive (.object members)) :
    ∀ j, motive j
  | .null => null
  | .bool b => bool b
  | .number n => number n
  | .string s => string s
  | .array items => array items fun j _ =>
      Json.induction null bool number string array object j
  | .object members => object members fun m _ =>
      Json.induction null bool number string array object m.2
termination_by j => sizeOf j
decreasing_by
  · rename_i hj
    have hmem := List.sizeOf_lt_of_mem hj
    simp only [Json.array.sizeOf_spec]
    omega
  · rename_i hm
    have hmem := List.sizeOf_lt_of_mem hm
    obtain ⟨name, j⟩ := m
    simp only [Json.object.sizeOf_spec, Prod.mk.sizeOf_spec] at hmem ⊢
    omega

end Rollout
