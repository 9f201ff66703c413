import Rollout.Proofs.EqualRuleSets
import Rollout.Proofs.Parallel

/-!
# The keys that are asked for decide

An evaluation sees its context through the keys that it asks for. A second context that holds equal
values under these keys leads to the same inquiry: the same answer or error, and the same keys. No
evaluation asks for a key that the rule set does not mention.
-/

namespace Rollout

/-! ## Values equal themselves -/

mutual

theorem Value.Alike.refl : ∀ v : Value, Alike v v
  | .null => .null
  | .bool b => .bool b
  | .number d => .number ((Decimal.sameValue_iff d d).mpr rfl)
  | .float x => .float x
  | .string s => .string s
  | .array items => .array (Value.Alike.refl_all items)

theorem Value.Alike.refl_all : ∀ items : List Value, List.Forall₂ Alike items items
  | [] => .nil
  | v :: rest => .cons (Value.Alike.refl v) (Value.Alike.refl_all rest)

end

/-! ## Tests are single -/

/-- A condition is joined from others. -/
def Condition.Joined : Condition → Prop
  | .all _ | .any _ | .not _ => True
  | _ => False

theorem Condition.not_joined_of_mem_tests {c test : Condition} (h : test ∈ c.tests) :
    ¬test.Joined := by
  induction c with
  | all items ih =>
    rw [tests, testsAll_eq] at h
    obtain ⟨c, hc, htest⟩ := List.mem_flatMap.mp h
    exact ih c hc htest
  | any items ih =>
    rw [tests, testsAll_eq] at h
    obtain ⟨c, hc, htest⟩ := List.mem_flatMap.mp h
    exact ih c hc htest
  | not item ih => exact ih h
  | _ =>
    rw [List.mem_singleton.mp h]
    exact id

theorem Matcher.not_joined_of_mem_tests {m : Matcher} {test : String × Condition}
    (h : test ∈ m.tests) : ¬test.2.Joined := by
  induction m with
  | property name condition =>
    obtain ⟨c, hc, rfl⟩ := List.mem_map.mp h
    exact Condition.not_joined_of_mem_tests hc
  | all items ih =>
    rw [tests, testsAll_eq] at h
    obtain ⟨m, hm, htest⟩ := List.mem_flatMap.mp h
    exact ih m hm htest
  | any items ih =>
    rw [tests, testsAll_eq] at h
    obtain ⟨m, hm, htest⟩ := List.mem_flatMap.mp h
    exact ih m hm htest
  | not item ih => exact ih h

theorem RuleSet.not_joined_of_mem_tests {s : RuleSet} {test : String × Condition}
    (h : test ∈ s.tests) : ¬test.2.Joined := by
  rw [RuleSet.tests, RuleTree.tests_eq] at h
  obtain ⟨r, _, htest⟩ := List.mem_flatMap.mp h
  exact Matcher.not_joined_of_mem_tests htest

/-! ## A second context -/

section Follows

variable (lookup lookup' : Lookup)

/-- The second inquiry is the first, if the two contexts hold equal values under every key that the
first asks for. -/
def Follows {α : Type} (q r : Inquiry α) : Prop :=
  (∀ key ∈ q.keys, Option.Rel Value.Alike (lookup key) (lookup' key)) → r = q

variable {lookup lookup'} {α β : Type}

theorem Follows.bind {q r : Inquiry α} {f g : α → Inquiry β} (h : Follows lookup lookup' q r)
    (hfg : ∀ a, Follows lookup lookup' (f a) (g a)) :
    Follows lookup lookup' (q >>= f) (r >>= g) := by
  intro hagree
  -- the keys of the next inquiry are asked for only after an answer of the first
  cases hq : q.answer with
  | error e =>
    rw [Inquiry.bind_of_error hq] at hagree ⊢
    rw [h hagree, Inquiry.bind_of_error hq]
  | ok a =>
    rw [Inquiry.bind_of_ok hq] at hagree ⊢
    have hfirst : r = q := h fun key hkey => hagree key (List.mem_append_left _ hkey)
    have hnext : g a = f a := hfg a fun key hkey => hagree key (List.mem_append_right _ hkey)
    rw [hfirst, Inquiry.bind_of_ok hq, hnext]

theorem follows_ask {key : String} {f g : Option Value → Inquiry β}
    (hfg : Option.Rel Value.Alike (lookup key) (lookup' key) →
      Follows lookup lookup' (f (lookup key)) (g (lookup' key))) :
    Follows lookup lookup' (Inquiry.ask lookup key >>= f) (Inquiry.ask lookup' key >>= g) := by
  intro hagree
  rw [Inquiry.ask_bind] at hagree ⊢
  have hkey := hagree key List.mem_cons_self
  have hnext : g (lookup' key) = f (lookup key) :=
    hfg hkey fun k hk => hagree k (List.mem_cons_of_mem _ hk)
  rw [Inquiry.ask_bind, hnext]

theorem parallel_follows (settings : Settings) (asked : String → Prop) :
    Parallel settings settings lookup lookup' (Option.Rel Value.Alike) asked
      (Follows lookup lookup') where
  known _ _ := rfl
  onward := Follows.bind
  asking _ := follows_ask
  branch hv := bind_eq_of_rel hv fun _ _ h => h.partitionKey?_eq
  bucket salt hv := bind_eq_of_rel hv fun _ _ h => h.ownerBucket_eq settings.hasher salt

/-- Equal subjects are tested alike. -/
theorem follows_test (settings : Settings) {test : Condition} (hsingle : ¬test.Joined)
    {v v' : Option Value} (hv : Option.Rel Value.Alike v v') :
    Follows lookup lookup' (test.eval settings lookup v) (test.eval settings lookup' v') := by
  cases test with
  | compare op literal comparer =>
    intro _
    rw [Condition.eval, Condition.eval, compareWith_congr settings.registry comparer op (.refl _) hv]
  | oneOf literals comparer =>
    intro _
    rw [Condition.eval, Condition.eval,
      isOneOf_congr settings.registry comparer (Value.Alike.refl_all literals) hv]
  | contains literal comparer =>
    intro _
    rw [Condition.eval, Condition.eval, containsValue_congr settings.registry comparer (.refl _) hv]
  | startsWith text =>
    intro _
    rw [Condition.eval, Condition.eval, startsWithText_congr hv]
  | endsWith text =>
    intro _
    rw [Condition.eval, Condition.eval, endsWithText_congr hv]
  | within window =>
    rw [Condition.eval, Condition.eval]
    refine follows_ask fun hnow _ => ?_
    rw [isWithin_congr hv hnow]
  | all items => exact absurd trivial hsingle
  | any items => exact absurd trivial hsingle
  | not item => exact absurd trivial hsingle

end Follows

/-- A context that holds equal values under the keys asked for leads to the same inquiry. -/
theorem RuleSet.follows_eval (settings : Settings) (s : RuleSet) (lookup lookup' : Lookup) :
    Follows lookup lookup' (s.eval settings lookup) (s.eval settings lookup') :=
  s.eval_parallel (parallel_follows settings s.Mentions) fun _ htest _ _ hv =>
    follows_test settings (RuleSet.not_joined_of_mem_tests htest) hv

/-! ## Which keys are asked for -/

/-- Every key that the inquiry asks for has the property. -/
def AsksOnly (asked : String → Prop) {α : Type} (q : Inquiry α) : Prop :=
  ∀ key ∈ q.keys, asked key

theorem AsksOnly.bind {asked : String → Prop} {α β : Type} {q : Inquiry α} {f : α → Inquiry β}
    (h : AsksOnly asked q) (hf : ∀ a, AsksOnly asked (f a)) : AsksOnly asked (q >>= f) := by
  cases hq : q.answer with
  | error e =>
    rw [Inquiry.bind_of_error hq]
    exact h
  | ok a =>
    rw [Inquiry.bind_of_ok hq]
    intro key hkey
    rcases List.mem_append.mp hkey with hkey | hkey
    · exact h key hkey
    · exact hf a key hkey

theorem asksOnly_ask {asked : String → Prop} {β : Type} {lookup : Lookup} {key : String}
    {f : Option Value → Inquiry β} (hkey : asked key) (hf : AsksOnly asked (f (lookup key))) :
    AsksOnly asked (Inquiry.ask lookup key >>= f) := by
  rw [Inquiry.ask_bind]
  intro k hk
  rcases List.mem_cons.mp hk with rfl | hk
  · exact hkey
  · exact hf k hk

/-- One evaluation, seen as two of the same context. -/
theorem parallel_asksOnly (settings : Settings) (lookup : Lookup) (asked : String → Prop) :
    Parallel settings settings lookup lookup Eq asked fun q _ => AsksOnly asked q where
  known _ _ hkey := absurd hkey List.not_mem_nil
  onward := AsksOnly.bind
  asking hkey hf := asksOnly_ask hkey (hf rfl)
  branch hv := by rw [hv]
  bucket _ hv := by rw [hv]

/-- Only a test of recency asks, and it asks for the clock. -/
theorem asksOnly_test (settings : Settings) (lookup : Lookup) {asked : String → Prop}
    {test : Condition} (hsingle : ¬test.Joined)
    (hclock : ∀ window, test = .within window → asked clockKey) (v : Option Value) :
    AsksOnly asked (test.eval settings lookup v) := by
  cases test with
  | within window =>
    rw [Condition.eval]
    exact asksOnly_ask (hclock window rfl) fun key hkey => absurd hkey List.not_mem_nil
  | all items => exact absurd trivial hsingle
  | any items => exact absurd trivial hsingle
  | not item => exact absurd trivial hsingle
  | _ =>
    rw [Condition.eval]
    exact fun key hkey => absurd hkey List.not_mem_nil

theorem RuleSet.asksOnly_eval (settings : Settings) (s : RuleSet) (lookup : Lookup) :
    AsksOnly s.Mentions (s.eval settings lookup) := by
  refine s.eval_parallel (parallel_asksOnly settings lookup s.Mentions) ?_
  rintro ⟨name, test⟩ htest v _ rfl
  refine asksOnly_test settings lookup (RuleSet.not_joined_of_mem_tests htest) ?_ v
  rintro window rfl
  exact .clock htest

/-! ## Both backends -/

/-- **The keys that are asked for decide**: of a rule set without faults both backends make an
evaluator that comes to the same answer or error in every two contexts that hold equal values under
the keys asked for in the first, after asking for the same keys in the same order; and it asks only
for keys that the rule set mentions. -/
theorem keys_asked_decide (settings : Settings) (backend : Backend) {s : RuleSet}
    (valid : s.validate = .ok ()) :
    ∃ evaluator, settings.evaluator backend s = .ok evaluator
      ∧ (∀ lookup lookup' : Lookup,
          (∀ key ∈ (evaluator lookup).keys, (lookup key == lookup' key) = true) →
          (evaluator lookup').answer = (evaluator lookup).answer
            ∧ (evaluator lookup').keys = (evaluator lookup).keys)
      ∧ ∀ lookup, ∀ key ∈ (evaluator lookup).keys, s.Mentions key := by
  refine ⟨_, settings.evaluator_of_valid backend valid, ?_, ?_⟩
  · intro lookup lookup' hagree
    have heq := s.follows_eval settings lookup lookup' fun key hkey =>
      Value.rel_of_beq (hagree key hkey)
    exact ⟨congrArg Inquiry.answer heq, congrArg Inquiry.keys heq⟩
  · exact fun lookup => s.asksOnly_eval settings lookup

theorem keys_asked_decide_on_sample :
    RuleSet.sample.validate = .ok ()
      ∧ ∃ evaluator, Settings.standard.evaluator .compiled .sample = .ok evaluator
        ∧ (∀ lookup lookup' : Lookup,
            (∀ key ∈ (evaluator lookup).keys, (lookup key == lookup' key) = true) →
            (evaluator lookup').answer = (evaluator lookup).answer
              ∧ (evaluator lookup').keys = (evaluator lookup).keys)
        ∧ ∀ lookup, ∀ key ∈ (evaluator lookup).keys, RuleSet.sample.Mentions key :=
  ⟨rfl, keys_asked_decide _ .compiled rfl⟩

end Rollout
