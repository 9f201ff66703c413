import Rollout.Proofs.Walk

/-!
# Two evaluations side by side

One rule set is evaluated twice, in two contexts and under two settings. A relation of inquiries that
is kept by going on from an answer and by asking holds of the two evaluations if it holds of every
test. Two values that are taken for each other must choose one branch, and as owners they must lie in
one bucket. Which values are taken for each other may depend on the key that they stand under.
-/

namespace Rollout

/-- A relation `R` of an inquiry in one context and one in another is kept by every step of an
evaluation. `V` tells which values may stand for each other under a key, `asked` which keys are asked
for, and `owners` whose buckets. -/
structure ParallelAt (settings settings' : Settings) (lookup lookup' : Lookup)
    (V : String → Option Value → Option Value → Prop) (asked owners : String → Prop)
    (R : {α : Type} → Inquiry α → Inquiry α → Prop) : Prop where
  known : ∀ {α : Type} (a : α), R (pure a) (pure a)
  onward : ∀ {α β : Type} {q r : Inquiry α} {f g : α → Inquiry β}, R q r →
    (∀ a, R (f a) (g a)) → R (q >>= f) (r >>= g)
  asking : ∀ {β : Type} {key : String} {f g : Option Value → Inquiry β}, asked key →
    (V key (lookup key) (lookup' key) → R (f (lookup key)) (g (lookup' key))) →
    R (Inquiry.ask lookup key >>= f) (Inquiry.ask lookup' key >>= g)
  branch : ∀ {property : String} {v v' : Option Value}, V property v v' →
    v.bind Value.partitionKey? = v'.bind Value.partitionKey?
  bucket : ∀ {owner : String} {v v' : Option Value} (salt : String), owners owner →
    V (ownerKey owner) v v' →
    v.bind (ownerBucket settings.hasher salt) = v'.bind (ownerBucket settings'.hasher salt)

/-- The case in which the same values may stand for each other under every key. -/
structure Parallel (settings settings' : Settings) (lookup lookup' : Lookup)
    (V : Option Value → Option Value → Prop) (asked : String → Prop)
    (R : {α : Type} → Inquiry α → Inquiry α → Prop) : Prop where
  known : ∀ {α : Type} (a : α), R (pure a) (pure a)
  onward : ∀ {α β : Type} {q r : Inquiry α} {f g : α → Inquiry β}, R q r →
    (∀ a, R (f a) (g a)) → R (q >>= f) (r >>= g)
  asking : ∀ {β : Type} {key : String} {f g : Option Value → Inquiry β}, asked key →
    (V (lookup key) (lookup' key) → R (f (lookup key)) (g (lookup' key))) →
    R (Inquiry.ask lookup key >>= f) (Inquiry.ask lookup' key >>= g)
  branch : ∀ {v v' : Option Value}, V v v' →
    v.bind Value.partitionKey? = v'.bind Value.partitionKey?
  bucket : ∀ {v v' : Option Value} (salt : String), V v v' →
    v.bind (ownerBucket settings.hasher salt) = v'.bind (ownerBucket settings'.hasher salt)

theorem Parallel.parallelAt {settings settings' : Settings} {lookup lookup' : Lookup}
    {V : Option Value → Option Value → Prop} {asked : String → Prop}
    {R : {α : Type} → Inquiry α → Inquiry α → Prop}
    (hR : Parallel settings settings' lookup lookup' V asked R) (owners : String → Prop) :
    ParallelAt settings settings' lookup lookup' (fun _ => V) asked owners R where
  known := hR.known
  onward := hR.onward
  asking := hR.asking
  branch := hR.branch
  bucket salt _ := hR.bucket salt

namespace ParallelAt

variable {settings settings' : Settings} {lookup lookup' : Lookup}
  {V : String → Option Value → Option Value → Prop} {asked owners : String → Prop}
  {R : {α : Type} → Inquiry α → Inquiry α → Prop}
  (hR : ParallelAt settings settings' lookup lookup' V asked owners R)

include hR

/-! ## Lists -/

section Lists

variable {α β : Type} {l : List α}

theorem allOf {f g : α → Inquiry Bool} (h : ∀ a ∈ l, R (f a) (g a)) :
    R (Inquiry.allOf f l) (Inquiry.allOf g l) := by
  induction l with
  | nil => exact hR.known true
  | cons a rest ih =>
    refine hR.onward (h a List.mem_cons_self) fun accepted => ?_
    cases accepted with
    | false => exact hR.known false
    | true => exact ih fun b hb => h b (List.mem_cons_of_mem _ hb)

theorem anyOf {f g : α → Inquiry Bool} (h : ∀ a ∈ l, R (f a) (g a)) :
    R (Inquiry.anyOf f l) (Inquiry.anyOf g l) := by
  induction l with
  | nil => exact hR.known false
  | cons a rest ih =>
    refine hR.onward (h a List.mem_cons_self) fun accepted => ?_
    cases accepted with
    | false => exact ih fun b hb => h b (List.mem_cons_of_mem _ hb)
    | true => exact hR.known true

theorem firstOf {f g : α → Inquiry (Option β)} (h : ∀ a ∈ l, R (f a) (g a)) :
    R (Inquiry.firstOf f l) (Inquiry.firstOf g l) := by
  induction l with
  | nil => exact hR.known none
  | cons a rest ih =>
    refine hR.onward (h a List.mem_cons_self) fun found => ?_
    cases found with
    | none => exact ih fun b hb => h b (List.mem_cons_of_mem _ hb)
    | some b => exact hR.known (some b)

end Lists

/-! ## Conditions and matchers -/

theorem eval_condition {name : String} {c : Condition}
    (htests : ∀ test ∈ c.tests, ∀ v v', V name v v' →
      R (test.eval settings lookup v) (test.eval settings' lookup' v'))
    {v v' : Option Value} (hv : V name v v') :
    R (c.eval settings lookup v) (c.eval settings' lookup' v') := by
  induction c with
  | all items ih =>
    rw [Condition.tests, Condition.testsAll_eq] at htests
    rw [Condition.eval, Condition.eval, Condition.evalAll_eq, Condition.evalAll_eq]
    exact hR.allOf fun c hc => ih c hc fun test h => htests test (List.mem_flatMap_of_mem hc h)
  | any items ih =>
    rw [Condition.tests, Condition.testsAll_eq] at htests
    rw [Condition.eval, Condition.eval, Condition.evalAny_eq, Condition.evalAny_eq]
    exact hR.anyOf fun c hc => ih c hc fun test h => htests test (List.mem_flatMap_of_mem hc h)
  | not item ih =>
    rw [Condition.tests] at htests
    rw [Condition.eval, Condition.eval]
    exact hR.onward (ih htests) fun accepted => hR.known !accepted
  | _ => exact htests _ List.mem_cons_self v v' hv

theorem eval_matcher {m : Matcher}
    (htests : ∀ test ∈ m.tests, ∀ v v', V test.1 v v' →
      R (test.2.eval settings lookup v) (test.2.eval settings' lookup' v'))
    (hasked : ∀ name ∈ m.properties, asked name) :
    R (m.eval settings lookup) (m.eval settings' lookup') := by
  induction m with
  | property name condition =>
    rw [Matcher.eval, Matcher.eval]
    refine hR.asking (hasked name List.mem_cons_self) fun hv => ?_
    exact hR.eval_condition (fun test h => htests (name, test) (List.mem_map_of_mem h)) hv
  | all items ih =>
    rw [Matcher.tests, Matcher.testsAll_eq] at htests
    rw [Matcher.properties, Matcher.propertiesAll_eq] at hasked
    rw [Matcher.eval, Matcher.eval, Matcher.evalAll_eq, Matcher.evalAll_eq]
    exact hR.allOf fun m hm => ih m hm
      (fun test h => htests test (List.mem_flatMap_of_mem hm h))
      fun name h => hasked name (List.mem_flatMap_of_mem hm h)
  | any items ih =>
    rw [Matcher.tests, Matcher.testsAll_eq] at htests
    rw [Matcher.properties, Matcher.propertiesAll_eq] at hasked
    rw [Matcher.eval, Matcher.eval, Matcher.evalAny_eq, Matcher.evalAny_eq]
    exact hR.anyOf fun m hm => ih m hm
      (fun test h => htests test (List.mem_flatMap_of_mem hm h))
      fun name h => hasked name (List.mem_flatMap_of_mem hm h)
  | not item ih =>
    rw [Matcher.tests] at htests
    rw [Matcher.properties] at hasked
    rw [Matcher.eval, Matcher.eval]
    exact hR.onward (ih htests hasked) fun accepted => hR.known !accepted

/-! ## Rules -/

theorem bucketOf {owner : String} (howner : asked (ownerKey owner) ∧ owners owner) (salt : String) :
    R (Rollout.bucketOf settings lookup owner salt)
      (Rollout.bucketOf settings' lookup' owner salt) := by
  refine hR.asking howner.1 fun hv => ?_
  rw [hR.bucket salt howner.2 hv]
  exact hR.known _

theorem eval_distribution {d : Distribution}
    (howners : ∀ owner, d.owner? = some owner → asked (ownerKey owner) ∧ owners owner) :
    R (d.eval settings lookup) (d.eval settings' lookup') := by
  cases d with
  | single value => exact hR.known _
  | weighted owner salt table =>
    exact hR.onward (hR.bucketOf (howners owner rfl) salt) fun _ => hR.known _
  | uniform owner salt values =>
    exact hR.onward (hR.bucketOf (howners owner rfl) salt) fun _ => hR.known _

theorem eval_rule {r : Rule}
    (htests : ∀ test ∈ r.matcher.tests, ∀ v v', V test.1 v v' →
      R (test.2.eval settings lookup v) (test.2.eval settings' lookup' v'))
    (hnames : ∀ name ∈ r.matcher.properties, asked name)
    (howners : ∀ owner, r.value.owner? = some owner → asked (ownerKey owner) ∧ owners owner) :
    R (r.eval settings lookup) (r.eval settings' lookup') := by
  refine hR.onward (hR.eval_matcher htests hnames) fun accepted => ?_
  cases accepted with
  | false => exact hR.known none
  | true => exact hR.eval_distribution howners

/-! ## Trees -/

theorem eval_tree {t : RuleTree}
    (hrules : ∀ r ∈ t.allRules, R (r.eval settings lookup) (r.eval settings' lookup'))
    (hasked : ∀ property ∈ t.properties, asked property) :
    R (t.eval settings lookup) (t.eval settings' lookup') := by
  induction t with
  | list rules =>
    rw [RuleTree.eval, RuleTree.eval, evalRules_eq, evalRules_eq]
    exact hR.firstOf hrules
  | partition property branches fallback ihBranches ihFallback =>
    rw [RuleTree.allRules, RuleTree.rulesIn_eq] at hrules
    rw [RuleTree.properties, RuleTree.propertiesIn_eq] at hasked
    rw [RuleTree.eval_partition, RuleTree.eval_partition]
    refine hR.asking (hasked property List.mem_cons_self) fun hv => ?_
    have hnext : RuleTree.next lookup' property branches fallback
        = RuleTree.next lookup property branches fallback := by
      rw [RuleTree.next, RuleTree.next, hR.branch hv]
    rw [hnext]
    -- both evaluations go on with one tree, a branch or the fallback
    rcases RuleTree.next_cases lookup property branches fallback with ⟨b, hb, heq⟩ | heq
    · rw [← heq]
      refine ihBranches b hb (fun r hr => hrules r ?_) fun p hp => hasked p ?_
      · exact List.mem_append_left _ (List.mem_flatMap_of_mem hb hr)
      · exact List.mem_cons_of_mem _ (List.mem_append_left _ (List.mem_flatMap_of_mem hb hp))
    · rw [← heq]
      refine ihFallback (fun r hr => hrules r ?_) fun p hp => hasked p ?_
      · exact List.mem_append_right _ hr
      · exact List.mem_cons_of_mem _ (List.mem_append_right _ hp)

end ParallelAt

/-! ## Rule sets -/

/-- Some rule of the rule set yields its value by the bucket of an owner of this type. -/
def RuleSet.BucketsBy (s : RuleSet) (owner : String) : Prop :=
  ∃ r ∈ s.rules.allRules, r.value.owner? = some owner

/-- What every step keeps and holds of every test holds of two evaluations of a rule set. Only keys
that the rule set mentions are asked for. -/
theorem RuleSet.eval_parallelAt {settings settings' : Settings} {lookup lookup' : Lookup}
    {V : String → Option Value → Option Value → Prop}
    {R : {α : Type} → Inquiry α → Inquiry α → Prop} {s : RuleSet}
    (hR : ParallelAt settings settings' lookup lookup' V s.Mentions s.BucketsBy R)
    (htests : ∀ test ∈ s.tests, ∀ v v', V test.1 v v' →
      R (test.2.eval settings lookup v) (test.2.eval settings' lookup' v')) :
    R (s.eval settings lookup) (s.eval settings' lookup') := by
  rw [RuleSet.tests, RuleTree.tests_eq] at htests
  refine hR.onward (hR.eval_tree (fun r hr => ?_) fun _ => .partition) fun _ => hR.known _
  exact hR.eval_rule (fun test h => htests test (List.mem_flatMap_of_mem hr h))
    (fun _ => .matcher hr) fun _ howner => ⟨.owner hr howner, r, hr, howner⟩

theorem RuleSet.eval_parallel {settings settings' : Settings} {lookup lookup' : Lookup}
    {V : Option Value → Option Value → Prop} {R : {α : Type} → Inquiry α → Inquiry α → Prop}
    {s : RuleSet} (hR : Parallel settings settings' lookup lookup' V s.Mentions R)
    (htests : ∀ test ∈ s.tests, ∀ v v', V v v' →
      R (test.2.eval settings lookup v) (test.2.eval settings' lookup' v')) :
    R (s.eval settings lookup) (s.eval settings' lookup') :=
  RuleSet.eval_parallelAt (hR.parallelAt s.BucketsBy) htests

/-- Two contexts whose values stand for each other in every branch, bucket and test lead to the same
inquiry. -/
theorem RuleSet.eval_lookup_congr {settings : Settings} {lookup lookup' : Lookup}
    {V : String → Option Value → Option Value → Prop} {s : RuleSet}
    (hlookup : ∀ key, V key (lookup key) (lookup' key))
    (hbranch : ∀ {property v v'}, V property v v' →
      v.bind Value.partitionKey? = v'.bind Value.partitionKey?)
    (hbucket : ∀ {owner v v'} (salt : String), s.BucketsBy owner → V (ownerKey owner) v v' →
      v.bind (ownerBucket settings.hasher salt) = v'.bind (ownerBucket settings.hasher salt))
    (htests : ∀ test ∈ s.tests, ∀ v v', V test.1 v v' →
      test.2.eval settings lookup' v' = test.2.eval settings lookup v) :
    s.eval settings lookup' = s.eval settings lookup := by
  have hsame : ParallelAt settings settings lookup lookup' V s.Mentions s.BucketsBy
      fun q r => r = q := by
    refine ⟨fun _ => rfl, ?_, ?_, hbranch, hbucket⟩
    · rintro _ _ q _ f g rfl hfg
      rw [funext hfg]
    · intro _ key f g _ hfg
      rw [Inquiry.ask_bind, Inquiry.ask_bind, hfg (hlookup key)]
  exact RuleSet.eval_parallelAt hsame htests

end Rollout
