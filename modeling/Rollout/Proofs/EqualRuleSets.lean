import Rollout.Proofs.Compilation
import Rollout.Proofs.EqualValues
import Rollout.RuleSet.Equality

/-!
# Evaluation respects equality

Rule sets that are equal under `==` ask contexts that are equal key by key for the same keys, and
come to equal values or to the same error. Scales may differ everywhere: what a number is used for
depends on its value alone.
-/

namespace Rollout

/-! ## Equality one by one -/

theorem Condition.sameAll_eq (l m : List Condition) : sameAll l m = (l == m) := by
  induction l generalizing m with
  | nil => cases m <;> rfl
  | cons c l ih =>
    cases m with
    | nil => rfl
    | cons d m => rw [sameAll, List.cons_beq_cons, ih]; rfl

theorem Matcher.sameAll_eq (l m : List Matcher) : sameAll l m = (l == m) := by
  induction l generalizing m with
  | nil => cases m <;> rfl
  | cons c l ih =>
    cases m with
    | nil => rfl
    | cons d m => rw [sameAll, List.cons_beq_cons, ih]; rfl

theorem RuleTree.sameBranches_eq (l m : List (String × RuleTree)) :
    sameBranches l m = (l == m) := by
  induction l generalizing m with
  | nil => cases m <;> rfl
  | cons b l ih =>
    obtain ⟨key, branch⟩ := b
    cases m with
    | nil => rfl
    | cons b' m =>
      obtain ⟨key', branch'⟩ := b'
      rw [sameBranches, List.cons_beq_cons, ih]
      rfl

/-! ## Conditions and matchers -/

/-- Two contexts hold equal values under every key. -/
def Lookup.Alike (lookup lookup' : Lookup) : Prop :=
  ∀ key, Option.Rel Value.Alike (lookup key) (lookup' key)

variable (settings : Settings) {lookup lookup' : Lookup}

theorem Condition.eval_congr (hlookup : lookup.Alike lookup') {c d : Condition}
    (h : (c == d) = true) {s s' : Option Value} (hs : Option.Rel Value.Alike s s') :
    d.eval settings lookup' s' = c.eval settings lookup s := by
  induction c generalizing d with
  | compare op v comparer =>
    cases d with
    | compare op' v' comparer' =>
      replace h : ((op == op' && v == v') && comparer == comparer') = true := h
      simp only [Bool.and_eq_true, beq_iff_eq, Value.beq_iff_alike] at h
      obtain ⟨⟨rfl, hv⟩, rfl⟩ := h
      rw [Condition.eval, Condition.eval, compareWith_congr settings.registry comparer op hv hs]
    | _ => exact absurd h Bool.false_ne_true
  | oneOf literals comparer =>
    cases d with
    | oneOf literals' comparer' =>
      replace h : (literals == literals' && comparer == comparer') = true := h
      simp only [Bool.and_eq_true, beq_iff_eq] at h
      obtain ⟨hl, rfl⟩ := h
      rw [Condition.eval, Condition.eval,
        isOneOf_congr settings.registry comparer (Value.alike_of_beq hl) hs]
    | _ => exact absurd h Bool.false_ne_true
  | contains v comparer =>
    cases d with
    | contains v' comparer' =>
      replace h : (v == v' && comparer == comparer') = true := h
      simp only [Bool.and_eq_true, beq_iff_eq, Value.beq_iff_alike] at h
      obtain ⟨hv, rfl⟩ := h
      rw [Condition.eval, Condition.eval, containsValue_congr settings.registry comparer hv hs]
    | _ => exact absurd h Bool.false_ne_true
  | startsWith text =>
    cases d with
    | startsWith text' =>
      obtain rfl : text = text' := beq_iff_eq.mp h
      rw [Condition.eval, Condition.eval, startsWithText_congr hs]
    | _ => exact absurd h Bool.false_ne_true
  | endsWith text =>
    cases d with
    | endsWith text' =>
      obtain rfl : text = text' := beq_iff_eq.mp h
      rw [Condition.eval, Condition.eval, endsWithText_congr hs]
    | _ => exact absurd h Bool.false_ne_true
  | within window =>
    cases d with
    | within window' =>
      obtain rfl : window = window' := beq_iff_eq.mp h
      -- the clock is a key like any other, so its two values are only equal too
      rw [Condition.eval, Condition.eval, Inquiry.ask_bind, Inquiry.ask_bind,
        isWithin_congr hs (hlookup clockKey)]
    | _ => exact absurd h Bool.false_ne_true
  | all items ih =>
    cases d with
    | all items' =>
      rw [Condition.eval, Condition.eval, Condition.evalAll_eq, Condition.evalAll_eq]
      replace h : Condition.sameAll items items' = true := h
      rw [Condition.sameAll_eq] at h
      exact Inquiry.allOf_congr (forall₂_of_beq h fun c hc d hcd => ih c hc hcd)
    | _ => exact absurd h Bool.false_ne_true
  | any items ih =>
    cases d with
    | any items' =>
      rw [Condition.eval, Condition.eval, Condition.evalAny_eq, Condition.evalAny_eq]
      replace h : Condition.sameAll items items' = true := h
      rw [Condition.sameAll_eq] at h
      exact Inquiry.anyOf_congr (forall₂_of_beq h fun c hc d hcd => ih c hc hcd)
    | _ => exact absurd h Bool.false_ne_true
  | not item ih =>
    cases d with
    | not item' => rw [Condition.eval, Condition.eval, ih h]
    | _ => exact absurd h Bool.false_ne_true

theorem Matcher.eval_congr (hlookup : lookup.Alike lookup') {m n : Matcher}
    (h : (m == n) = true) : n.eval settings lookup' = m.eval settings lookup := by
  induction m generalizing n with
  | property name condition =>
    cases n with
    | property name' condition' =>
      replace h : (name == name' && condition == condition') = true := h
      rw [Bool.and_eq_true, beq_iff_eq] at h
      obtain ⟨rfl, hcondition⟩ := h
      rw [Matcher.eval, Matcher.eval, Inquiry.ask_bind, Inquiry.ask_bind,
        Condition.eval_congr settings hlookup hcondition (hlookup name)]
    | _ => exact absurd h Bool.false_ne_true
  | all items ih =>
    cases n with
    | all items' =>
      rw [Matcher.eval, Matcher.eval, Matcher.evalAll_eq, Matcher.evalAll_eq]
      replace h : Matcher.sameAll items items' = true := h
      rw [Matcher.sameAll_eq] at h
      exact Inquiry.allOf_congr (forall₂_of_beq h fun m hm n hmn => ih m hm hmn)
    | _ => exact absurd h Bool.false_ne_true
  | any items ih =>
    cases n with
    | any items' =>
      rw [Matcher.eval, Matcher.eval, Matcher.evalAny_eq, Matcher.evalAny_eq]
      replace h : Matcher.sameAll items items' = true := h
      rw [Matcher.sameAll_eq] at h
      exact Inquiry.anyOf_congr (forall₂_of_beq h fun m hm n hmn => ih m hm hmn)
    | _ => exact absurd h Bool.false_ne_true
  | not item ih =>
    cases n with
    | not item' => rw [Matcher.eval, Matcher.eval, ih h]
    | _ => exact absurd h Bool.false_ne_true

/-! ## Rules -/

/-- Two inquiries ask for the same keys and come to equal values or to the same error. -/
abbrev AnswersAlike : Inquiry (Option Value) → Inquiry (Option Value) → Prop :=
  Inquiry.Related (Option.Rel Value.Alike)

theorem bucketOf_congr (hlookup : lookup.Alike lookup') (owner salt : String) :
    bucketOf settings lookup owner salt = bucketOf settings lookup' owner salt := by
  rw [bucketOf, bucketOf, Inquiry.ask_bind, Inquiry.ask_bind]
  rw [bind_eq_of_rel (hlookup (ownerKey owner)) fun _ _ h =>
    h.ownerBucket_eq settings.hasher salt]

theorem Distribution.eval_congr (hlookup : lookup.Alike lookup') {d d' : Distribution}
    (h : (d == d') = true) :
    AnswersAlike (d.eval settings lookup) (d'.eval settings lookup') := by
  cases d with
  | single v =>
    cases d' with
    | single v' => exact .answered (.some (Value.beq_iff_alike.mp h)) []
    | _ => exact absurd h Bool.false_ne_true
  | weighted owner salt table =>
    cases d' with
    | weighted owner' salt' table' =>
      replace h : ((owner == owner' && salt == salt') && table == table') = true := h
      simp only [Bool.and_eq_true, beq_iff_eq] at h
      obtain ⟨⟨rfl, rfl⟩, htable⟩ := h
      rw [Distribution.eval, Distribution.eval, bucketOf_congr settings hlookup]
      refine Inquiry.Related.bind_same _ fun bucket => .answered ?_ []
      cases bucket with
      | none => exact .none
      | some bucket => exact selectWeighted_congr (sharesAlike_of_beq htable) bucket
    | _ => exact absurd h Bool.false_ne_true
  | uniform owner salt values =>
    cases d' with
    | uniform owner' salt' values' =>
      replace h : ((owner == owner' && salt == salt') && values == values') = true := h
      simp only [Bool.and_eq_true, beq_iff_eq] at h
      obtain ⟨⟨rfl, rfl⟩, hvalues⟩ := h
      rw [Distribution.eval, Distribution.eval, bucketOf_congr settings hlookup]
      refine Inquiry.Related.bind_same _ fun bucket => .answered ?_ []
      cases bucket with
      | none => exact .none
      | some bucket => exact selectUniform_congr (Value.alike_of_beq hvalues) bucket
    | _ => exact absurd h Bool.false_ne_true

theorem Rule.eval_congr (hlookup : lookup.Alike lookup') {r r' : Rule} (h : (r == r') = true) :
    AnswersAlike (r.eval settings lookup) (r'.eval settings lookup') := by
  replace h : (r.matcher == r'.matcher && r.value == r'.value) = true := h
  rw [Bool.and_eq_true] at h
  rw [Rule.eval, Rule.eval, Matcher.eval_congr settings hlookup h.1]
  refine Inquiry.Related.bind_same _ fun accepted => ?_
  cases accepted with
  | false => exact .answered .none []
  | true => exact Distribution.eval_congr settings hlookup h.2

theorem evalRules_congr (hlookup : lookup.Alike lookup') {rules rules' : List Rule}
    (h : (rules == rules') = true) :
    AnswersAlike (evalRules settings lookup rules) (evalRules settings lookup' rules') := by
  rw [evalRules_eq, evalRules_eq]
  exact Inquiry.related_firstOf
    (forall₂_of_beq h fun r _ r' hr => Rule.eval_congr settings hlookup hr)

/-! ## Trees -/

/-- Equal pairs have equal parts. -/
theorem pair_parts {α β : Type} [BEq α] [LawfulBEq α] [BEq β] {p q : α × β}
    (h : (p == q) = true) : p.1 = q.1 ∧ (p.2 == q.2) = true := by
  have hboth : (p.1 == q.1) = true ∧ (p.2 == q.2) = true := Bool.and_eq_true_iff.mp h
  exact ⟨beq_iff_eq.mp hboth.1, hboth.2⟩

/-- Equal partitions go by one property and have equal branches and equal fallbacks. -/
theorem RuleTree.partition_parts {property property' : String}
    {branches branches' : List (String × RuleTree)} {fallback fallback' : RuleTree}
    (h : (RuleTree.partition property branches fallback
      == RuleTree.partition property' branches' fallback') = true) :
    property = property' ∧ (branches == branches') = true ∧ (fallback == fallback') = true := by
  replace h : ((property == property' && RuleTree.sameBranches branches branches')
    && RuleTree.same fallback fallback') = true := h
  simp only [Bool.and_eq_true, beq_iff_eq, RuleTree.sameBranches_eq] at h
  exact ⟨h.1.1, h.1.2, h.2⟩

/-- Trees that are equal branch by branch yield alike under every key. -/
theorem RuleTree.evalBranch?_congr {branches branches' : List (String × RuleTree)}
    (h : List.Forall₂
      (fun b b' => b.1 = b'.1
        ∧ AnswersAlike (b.2.eval settings lookup) (b'.2.eval settings lookup'))
      branches branches') (key : String) :
    Option.Rel AnswersAlike (RuleTree.evalBranch? settings lookup key branches)
      (RuleTree.evalBranch? settings lookup' key branches') := by
  induction h with
  | nil => exact .none
  | @cons b b' _ _ hb _ ih =>
    obtain ⟨k, branch⟩ := b
    obtain ⟨k', branch'⟩ := b'
    obtain ⟨rfl, hbranch⟩ := hb
    rw [RuleTree.evalBranch?, RuleTree.evalBranch?]
    split
    · exact .some hbranch
    · exact ih

theorem RuleTree.eval_congr (hlookup : lookup.Alike lookup') {t t' : RuleTree}
    (h : (t == t') = true) :
    AnswersAlike (t.eval settings lookup) (t'.eval settings lookup') := by
  induction t generalizing t' with
  | list rules =>
    cases t' with
    | list rules' =>
      rw [RuleTree.eval, RuleTree.eval]
      exact evalRules_congr settings hlookup h
    | _ => exact absurd h Bool.false_ne_true
  | partition property branches fallback ihBranches ihFallback =>
    cases t' with
    | partition property' branches' fallback' =>
      obtain ⟨rfl, hbranches, hfallback⟩ := partition_parts h
      have hbranches := forall₂_of_beq hbranches fun b hmem b' hb =>
        And.intro (pair_parts hb).1 (ihBranches b hmem (pair_parts hb).2)
      have hfallback := ihFallback hfallback
      rw [RuleTree.eval, RuleTree.eval]
      -- equal values have one key, so both trees go on at one place of the list of branches
      refine (Inquiry.related_ask (hlookup property)).bind fun value value' hvalue => ?_
      rw [bind_eq_of_rel hvalue fun _ _ h => h.partitionKey?_eq]
      cases value'.bind Value.partitionKey? with
      | none => exact hfallback
      | some key => exact rel_getD (evalBranch?_congr settings hbranches key) hfallback
    | _ => exact absurd h Bool.false_ne_true

/-! ## Rule sets -/

theorem RuleSet.eval_congr (hlookup : lookup.Alike lookup') {s t : RuleSet}
    (h : (s == t) = true) : AnswersAlike (s.eval settings lookup) (t.eval settings lookup') := by
  replace h : (s.rules == t.rules && s.default? == t.default?) = true := h
  rw [Bool.and_eq_true] at h
  refine (RuleTree.eval_congr settings hlookup h.1).bind fun value value' hvalue => ?_
  cases hvalue with
  | none => exact .answered (Value.rel_of_beq h.2) []
  | some hvalue => exact .answered (.some hvalue) []

/-! ## Faults and engines -/

theorem Distribution.owner?_congr {d d' : Distribution} (h : (d == d') = true) :
    d.owner? = d'.owner? := by
  cases d with
  | single v =>
    cases d' with
    | single v' => rfl
    | _ => exact absurd h Bool.false_ne_true
  | weighted owner salt table =>
    cases d' with
    | weighted owner' salt' table' =>
      replace h : ((owner == owner' && salt == salt') && table == table') = true := h
      simp only [Bool.and_eq_true, beq_iff_eq] at h
      exact congrArg some h.1.1
    | _ => exact absurd h Bool.false_ne_true
  | uniform owner salt values =>
    cases d' with
    | uniform owner' salt' values' =>
      replace h : ((owner == owner' && salt == salt') && values == values') = true := h
      simp only [Bool.and_eq_true, beq_iff_eq] at h
      exact congrArg some h.1.1
    | _ => exact absurd h Bool.false_ne_true

theorem checkRules_congr {rules rules' : List Rule}
    (h : List.Forall₂ (fun r r' => r.value.owner? = r'.value.owner?) rules rules') (next : Nat) :
    checkRules next rules = checkRules next rules' := by
  induction h generalizing next with
  | nil => rfl
  | cons hr _ ih => rw [checkRules, checkRules, hr, ih]

section Branches

variable {branches branches' : List (String × RuleTree)}

theorem branchKeys_congr (h : List.Forall₂ (fun b b' => b.1 = b'.1) branches branches') :
    branchKeys branches = branchKeys branches' := by
  induction h with
  | nil => rfl
  | cons hb _ ih =>
    rw [branchKeys, List.map_cons, hb]
    exact congrArg _ ih

theorem RuleTree.checkBranches_congr
    (h : List.Forall₂ (fun b b' => ∀ next, b.2.check next = b'.2.check next) branches branches')
    (next : Nat) :
    RuleTree.checkBranches next branches = RuleTree.checkBranches next branches' := by
  induction h generalizing next with
  | nil => rfl
  | cons hb _ ih =>
    rw [RuleTree.checkBranches, RuleTree.checkBranches, hb]
    exact bind_congr ih

end Branches

/-- Equal trees have the same faults. -/
theorem RuleTree.check_congr {t t' : RuleTree} (h : (t == t') = true) (next : Nat) :
    t.check next = t'.check next := by
  induction t generalizing t' next with
  | list rules =>
    cases t' with
    | list rules' =>
      rw [RuleTree.check, RuleTree.check]
      refine checkRules_congr (forall₂_of_beq h fun r _ r' hr => ?_) next
      exact Distribution.owner?_congr (Bool.and_eq_true_iff.mp hr).2
    | _ => exact absurd h Bool.false_ne_true
  | partition property branches fallback ihBranches ihFallback =>
    cases t' with
    | partition property' branches' fallback' =>
      obtain ⟨rfl, hbranches, hfallback⟩ := partition_parts h
      have hkeys := branchKeys_congr (forall₂_of_beq hbranches fun b _ b' hb => (pair_parts hb).1)
      have hchecks := RuleTree.checkBranches_congr
        (forall₂_of_beq hbranches fun b hmem b' hb => ihBranches b hmem (pair_parts hb).2)
      simp only [RuleTree.check, hkeys, hchecks, ihFallback hfallback]
    | _ => exact absurd h Bool.false_ne_true

theorem RuleSet.validate_congr {s t : RuleSet} (h : (s == t) = true) :
    s.validate = t.validate := by
  rw [RuleSet.validate, RuleSet.validate, RuleTree.check_congr (Bool.and_eq_true_iff.mp h).1]

/-- Two inquiries come to the same error, or to answers that are both absent or equal under `==`,
and ask for the same keys in the same order. -/
abbrev SameOutcome : Inquiry (Option Value) → Inquiry (Option Value) → Prop :=
  Inquiry.Related fun answer answer' => (answer == answer') = true

/-- **Engines respect equality**: of two equal rule sets a backend makes no evaluator, for one and
the same fault, or it makes two that come to the same outcome on every two contexts that hold equal
values under every key. Equal owners lie in one bucket and equal values choose one branch. -/
theorem evaluators_respect_equality (backend : Backend) {s t : RuleSet} (hrules : (s == t) = true)
    {lookup lookup' : Lookup} (hlookup : ∀ key, (lookup key == lookup' key) = true) :
    ((∃ fault, settings.evaluator backend s = .error fault
          ∧ settings.evaluator backend t = .error fault)
        ∨ ∃ evaluator evaluator', settings.evaluator backend s = .ok evaluator
          ∧ settings.evaluator backend t = .ok evaluator'
          ∧ SameOutcome (evaluator lookup) (evaluator' lookup'))
      ∧ (∀ owner salt, (lookup (ownerKey owner)).bind (ownerBucket settings.hasher salt)
          = (lookup' (ownerKey owner)).bind (ownerBucket settings.hasher salt))
      ∧ ∀ property, (lookup property).bind Value.partitionKey?
          = (lookup' property).bind Value.partitionKey? := by
  have halike : lookup.Alike lookup' := fun key => Value.rel_of_beq (hlookup key)
  refine ⟨?_, ?_, ?_⟩
  · have hvalid := RuleSet.validate_congr hrules
    cases hs : s.validate with
    | error fault =>
      left
      exact ⟨fault, settings.evaluator_of_fault backend hs,
        settings.evaluator_of_fault backend (hvalid ▸ hs)⟩
    | ok =>
      right
      refine ⟨_, _, settings.evaluator_of_valid backend hs,
        settings.evaluator_of_valid backend (hvalid ▸ hs), ?_⟩
      exact (RuleSet.eval_congr settings halike hrules).imp fun _ _ => Value.beq_of_rel
  · intro owner salt
    exact bind_eq_of_rel (halike (ownerKey owner)) fun _ _ h =>
      h.ownerBucket_eq settings.hasher salt
  · intro property
    exact bind_eq_of_rel (halike property) fun _ _ h => h.partitionKey?_eq

/-- A rule set that has a number as share and as default, and elsewhere one with one place. -/
def RuleSet.priced (price : Decimal) : RuleSet where
  rules := .partition "level"
    [("1", .list
      [⟨.property "marks" (.contains (.array [.number .shortOne]) none),
        .weighted "user" "exp" [(.number price, 1)]⟩])]
    (.list [⟨.property "level" (.compare .equal (.number .shortOne) none), .single .null⟩])
  default? := some (.number price)

/-- A context that holds a number as owner, as property and in an array. -/
def Lookup.priced (price : Decimal) : Lookup := fun key =>
  if key = "marks" then some (.array [.number price])
  else if key = "level" ∨ key = "user.@@id" then some (.number price)
  else none

/-- The two rule sets are equal, yet the second needs one place more in its pool. -/
theorem evaluators_respect_equality_of_scales :
    (RuleSet.priced .shortOne == RuleSet.priced .longOne) = true
      ∧ (∀ key, (Lookup.priced .shortOne key == Lookup.priced .longOne key) = true)
      ∧ (RuleSet.priced .shortOne).compile.pool.literals.size = 3
      ∧ (RuleSet.priced .longOne).compile.pool.literals.size = 4
      ∧ ((∃ fault, Settings.standard.evaluator .compiled (.priced .shortOne) = .error fault
            ∧ Settings.standard.evaluator .compiled (.priced .longOne) = .error fault)
          ∨ ∃ evaluator evaluator',
            Settings.standard.evaluator .compiled (.priced .shortOne) = .ok evaluator
              ∧ Settings.standard.evaluator .compiled (.priced .longOne) = .ok evaluator'
              ∧ SameOutcome (evaluator (.priced .shortOne)) (evaluator' (.priced .longOne)))
      ∧ (∀ owner salt,
          (Lookup.priced .shortOne (ownerKey owner)).bind (ownerBucket Sha1.digest salt)
            = (Lookup.priced .longOne (ownerKey owner)).bind (ownerBucket Sha1.digest salt))
      ∧ ∀ property, (Lookup.priced .shortOne property).bind Value.partitionKey?
          = (Lookup.priced .longOne property).bind Value.partitionKey? := by
  have hrules : (RuleSet.priced .shortOne == RuleSet.priced .longOne) = true := by decide
  have hlookup : ∀ key, (Lookup.priced .shortOne key == Lookup.priced .longOne key) = true := by
    intro key
    unfold Lookup.priced
    split
    · rfl
    · split <;> rfl
  exact ⟨hrules, hlookup, by decide +kernel, by decide +kernel,
    evaluators_respect_equality .standard .compiled hrules hlookup⟩

end Rollout
