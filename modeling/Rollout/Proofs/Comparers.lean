import Rollout.Proofs.KeysAsked

/-!
# Comparers are looked up when they are needed

A registry is asked for a comparer only when two texts are compared under its name. Evaluated under
a larger registry, a rule set therefore comes to the same, unless the smaller one lacks a comparer
that was needed; and one that is reported as unknown is named by the rule set and not registered.
-/

namespace Rollout

/-! ## Registries -/

/-- Every comparer of the registry stands in the other one under the same name. -/
def Registry.Within (r r' : Registry) : Prop :=
  ∀ name c, r.find? name = some c → r'.find? name = some c

theorem Registry.find?_cons (e : String × Comparer) (rest : List (String × Comparer))
    (name : String) :
    Registry.find? ⟨e :: rest⟩ name
      = if name = e.1 then some e.2 else Registry.find? ⟨rest⟩ name := by
  rw [find?, find?, List.lookup_cons]
  by_cases h : name = e.1
  · simp [h]
  · have hbeq : (name == e.1) = false := by simpa using h
    simp [h, hbeq]

theorem Registry.find?_insert (r : Registry) (name : String) (c : Comparer) (other : String) :
    (r.insert name c).find? other = if other = name then some c else r.find? other := by
  rw [insert, find?_cons]
  by_cases hother : other = name
  · rw [if_pos hother, if_pos hother]
  · rw [if_neg hother, if_neg hother]
    obtain ⟨entries⟩ := r
    induction entries with
    | nil => rfl
    | cons e rest ih =>
      by_cases hname : e.1 = name
      · have hne : other ≠ e.1 := fun heq => hother (heq.trans hname)
        rw [List.filter_cons_of_neg (by simpa using hname), find?_cons, if_neg hne, ih]
      · rw [List.filter_cons_of_pos (by simpa using hname), find?_cons, find?_cons, ih]

/-- A comparer under a new name leaves the others where they are. -/
theorem Registry.within_insert {r : Registry} {name : String} (hnew : r.find? name = none)
    (c : Comparer) : r.Within (r.insert name c) := by
  intro other found hfound
  have hne : other ≠ name := by
    rintro rfl
    exact absurd (hnew.symm.trans hfound) nofun
  rw [find?_insert, if_neg hne, hfound]

/-! ## Inquiries that may lack a comparer -/

section Inquiries

variable {α β : Type} (missing : String → Prop)

/-- Only a missing comparer is reported as unknown, and if none is, the other inquiry is the same,
the keys asked for included. -/
structure Resolves (q r : Inquiry α) : Prop where
  unknown : ∀ name, q.answer = .error (.unknownComparer name) → missing name
  same : (∀ name, q.answer ≠ .error (.unknownComparer name)) → r = q

variable {missing}

namespace Resolves

theorem of_known {q : Inquiry α} (h : ∀ name, q.answer ≠ .error (.unknownComparer name)) :
    Resolves missing q q where
  unknown name hq := absurd hq (h name)
  same _ := rfl

theorem ok (a : α) : Resolves missing (.ofExcept (.ok a)) (.ofExcept (.ok a)) :=
  of_known nofun

theorem weaken {missing' : String → Prop} {q r : Inquiry α} (h : Resolves missing q r)
    (hmissing : ∀ name, missing name → missing' name) : Resolves missing' q r where
  unknown name hname := hmissing name (h.unknown name hname)
  same := h.same

theorem bind {q r : Inquiry α} {f g : α → Inquiry β} (h : Resolves missing q r)
    (hfg : ∀ a, Resolves missing (f a) (g a)) : Resolves missing (q >>= f) (r >>= g) := by
  cases hq : q.answer with
  | error e =>
    rw [Inquiry.bind_of_error hq]
    constructor
    · rintro name ⟨⟩
      exact h.unknown name hq
    · intro hknown
      have hsame : r = q := h.same fun name hname => by
        cases hq.symm.trans hname
        exact hknown name rfl
      rw [hsame, Inquiry.bind_of_error hq]
  | ok a =>
    have hsame : r = q := h.same fun name he => absurd (hq.symm.trans he) nofun
    rw [hsame, Inquiry.bind_of_ok hq, Inquiry.bind_of_ok hq]
    -- what is missing, and whether anything is, is decided by the inquiry that follows
    constructor
    · exact (hfg a).unknown
    · intro hknown
      rw [(hfg a).same hknown]

theorem ask {lookup : Lookup} {key : String} {f g : Option Value → Inquiry β}
    (hfg : Resolves missing (f (lookup key)) (g (lookup key))) :
    Resolves missing (Inquiry.ask lookup key >>= f) (Inquiry.ask lookup key >>= g) := by
  rw [Inquiry.ask_bind, Inquiry.ask_bind]
  constructor
  · exact hfg.unknown
  · intro hknown
    rw [hfg.same hknown]

section Answers

variable {x y : Except EvalError α} (h : Resolves missing (.ofExcept x) (.ofExcept y))

include h

theorem andThen {f g : α → Except EvalError β}
    (hfg : ∀ a, Resolves missing (.ofExcept (f a)) (.ofExcept (g a))) :
    Resolves missing (.ofExcept (x >>= f)) (.ofExcept (y >>= g)) := by
  rw [Inquiry.ofExcept_bind, Inquiry.ofExcept_bind]
  exact h.bind hfg

theorem map (f : α → β) : Resolves missing (.ofExcept (x.map f)) (.ofExcept (y.map f)) := by
  have hmap (z : Except EvalError α) : z.map f = z >>= fun a => .ok (f a) := by
    cases z <;> rfl
  rw [hmap, hmap]
  exact h.andThen fun a => ok (f a)

end Answers

end Resolves

end Inquiries

/-! ## Tests -/

section Tests

variable {registry registry' : Registry} (within : registry.Within registry')
  (comparer : Option String)

/-- The comparer that is named, if it is not registered. -/
def Lacks (registry : Registry) (comparer : Option String) (name : String) : Prop :=
  comparer = some name ∧ registry.find? name = none

include within

theorem orderTexts_resolves (s t : String) : Resolves (Lacks registry comparer)
    (.ofExcept (orderTexts registry comparer s t))
    (.ofExcept (orderTexts registry' comparer s t)) := by
  cases comparer with
  | none => exact .ok _
  | some name =>
    cases hfind : registry.find? name with
    | none =>
      simp only [orderTexts, hfind]
      constructor
      · rintro _ ⟨⟩
        exact ⟨rfl, hfind⟩
      · exact fun hknown => absurd rfl (hknown name)
    | some c =>
      simp only [orderTexts, hfind, within name c hfind]
      have hkey (input : String) : Resolves (Lacks registry (some name))
          (.ofExcept (orderKey c name input)) (.ofExcept (orderKey c name input)) := by
        rw [orderKey]
        cases c input with
        | none => exact .of_known nofun
        | some key => exact .ok key
      exact (hkey s).andThen fun _ => (hkey t).andThen fun _ => .ok _

theorem relate_resolves (threshold : Value) (subject : Option Value) :
    Resolves (Lacks registry comparer) (.ofExcept (relate registry comparer threshold subject))
      (.ofExcept (relate registry' comparer threshold subject)) := by
  unfold relate
  cases subject.getD .null with
  | string s =>
    cases threshold with
    | string t => exact (orderTexts_resolves within comparer s t).map _
    | _ => exact .of_known nofun
  | float x =>
    cases threshold with
    | float y => cases h : x.compare? y <;> simp only [h] <;> exact .ok _
    | _ => exact .of_known nofun
  | _ => cases threshold <;> exact .of_known nofun

theorem compareWith_resolves (op : Comparison) (threshold : Value) (subject : Option Value) :
    Resolves (Lacks registry comparer)
      (.ofExcept (compareWith registry comparer op threshold subject))
      (.ofExcept (compareWith registry' comparer op threshold subject)) :=
  (relate_resolves within comparer threshold subject).map _

theorem isOneOf_resolves (literals : List Value) (subject : Option Value) :
    Resolves (Lacks registry comparer) (.ofExcept (isOneOf registry comparer literals subject))
      (.ofExcept (isOneOf registry' comparer literals subject)) := by
  induction literals with
  | nil => exact .ok false
  | cons v rest ih =>
    rw [isOneOf, isOneOf]
    refine (compareWith_resolves within comparer .equal v subject).andThen fun found => ?_
    cases found with
    | true => exact .ok true
    | false => exact ih

theorem areAllIn_resolves (haystack needles : List Value) :
    Resolves (Lacks registry comparer) (.ofExcept (areAllIn registry comparer haystack needles))
      (.ofExcept (areAllIn registry' comparer haystack needles)) := by
  induction needles with
  | nil => exact .ok true
  | cons needle rest ih =>
    rw [areAllIn, areAllIn]
    refine (isOneOf_resolves within comparer haystack (some needle)).andThen fun found => ?_
    cases found with
    | true => exact ih
    | false => exact .ok false

theorem containsValue_resolves (literal : Value) (subject : Option Value) :
    Resolves (Lacks registry comparer) (.ofExcept (containsValue registry comparer literal subject))
      (.ofExcept (containsValue registry' comparer literal subject)) := by
  unfold containsValue
  split
  · exact .ok false
  · split
    · exact .ok _
    · exact areAllIn_resolves within comparer _ _
    · exact compareWith_resolves within comparer _ _ _
    · exact .ok false
    · exact isOneOf_resolves within comparer _ _
    · exact .ok false

end Tests

theorem isWithin_ne_unknown (subject now : Option Value) (window : Window) (name : String) :
    isWithin subject now window ≠ .error (.unknownComparer name) := by
  unfold isWithin
  split
  · nofun
  · split <;> nofun

/-! ## Two registries -/

/-- Some condition of the rule set names the comparer. -/
def RuleSet.NamesComparer (s : RuleSet) (name : String) : Prop :=
  ∃ test ∈ s.tests, test.2.comparer? = some name

/-- The same hash, and a registry that holds every comparer of the first. -/
structure Settings.Within (settings settings' : Settings) : Prop where
  hasher : settings'.hasher = settings.hasher
  registry : settings.registry.Within settings'.registry

theorem Settings.within_withComparer {settings : Settings} {name : String}
    (hnew : settings.registry.find? name = none) (c : Comparer) :
    settings.Within (settings.withComparer name c) :=
  ⟨rfl, Registry.within_insert hnew c⟩

theorem Settings.bare_within_standard : Settings.bare.Within .standard :=
  within_withComparer rfl versionComparer

section Evaluation

variable {settings settings' : Settings} (within : settings.Within settings') (lookup : Lookup)

include within

theorem parallel_resolves (missing asked : String → Prop) :
    Parallel settings settings' lookup lookup Eq asked (Resolves missing) where
  known a := .ok a
  onward := .bind
  asking _ hfg := .ask (hfg rfl)
  branch hv := by rw [hv]
  bucket salt hv := by rw [hv, within.hasher]

/-- A single test needs the comparer that it names, and no other. -/
theorem test_resolves {test : Condition} (hsingle : ¬test.Joined) (v : Option Value) :
    Resolves (Lacks settings.registry test.comparer?)
      (test.eval settings lookup v) (test.eval settings' lookup v) := by
  cases test with
  | compare op literal comparer => exact compareWith_resolves within.registry comparer op literal v
  | oneOf literals comparer => exact isOneOf_resolves within.registry comparer literals v
  | contains literal comparer => exact containsValue_resolves within.registry comparer literal v
  | startsWith text => exact .ok _
  | endsWith text => exact .ok _
  | within window =>
    rw [Condition.eval, Condition.eval]
    exact .ask (.of_known (isWithin_ne_unknown v _ window))
  | all items => exact absurd trivial hsingle
  | any items => exact absurd trivial hsingle
  | not item => exact absurd trivial hsingle

/-- Under a larger registry a rule set is evaluated alike, unless a comparer that it names was
needed and missing. -/
theorem RuleSet.eval_resolves (s : RuleSet) :
    Resolves (fun name => s.NamesComparer name ∧ settings.registry.find? name = none)
      (s.eval settings lookup) (s.eval settings' lookup) := by
  refine s.eval_parallel (parallel_resolves within lookup _ s.Mentions) ?_
  rintro test htest v _ rfl
  have hresolves := test_resolves within lookup (RuleSet.not_joined_of_mem_tests htest) v
  exact hresolves.weaken fun name ⟨hnamed, hlacks⟩ => ⟨⟨test, htest, hnamed⟩, hlacks⟩

end Evaluation

/-! ## Both backends -/

/-- What a backend makes of a rule set under the first settings carries over to the second. -/
structure CarriesOver (settings settings' : Settings) (backend : Backend) (s : RuleSet) : Prop where
  /-- There is an evaluator under the one if there is one under the other. -/
  made : (∃ evaluator, settings.evaluator backend s = .ok evaluator)
    ↔ ∃ evaluator, settings'.evaluator backend s = .ok evaluator
  /-- What does not end with an unknown comparer comes to the same answer or error, after asking for
  the same keys. -/
  same : ∀ evaluator evaluator', settings.evaluator backend s = .ok evaluator →
    settings'.evaluator backend s = .ok evaluator' → ∀ lookup,
    (∀ name, (evaluator lookup).answer ≠ .error (.unknownComparer name)) →
      (evaluator' lookup).answer = (evaluator lookup).answer
        ∧ (evaluator' lookup).keys = (evaluator lookup).keys
  /-- A comparer that is reported as unknown is named by a condition and not registered. -/
  unknown : ∀ evaluator, settings.evaluator backend s = .ok evaluator → ∀ lookup name,
    (evaluator lookup).answer = .error (.unknownComparer name) →
      s.NamesComparer name ∧ settings.registry.find? name = none

/-- **Comparers are looked up when they are needed**: whatever a backend makes of a rule set carries
over to a larger registry. -/
theorem comparers_needed_only {settings settings' : Settings} (within : settings.Within settings')
    (backend : Backend) (s : RuleSet) : CarriesOver settings settings' backend s where
  made := by
    constructor
    · rintro ⟨_, h⟩
      exact ⟨_, settings'.evaluator_of_valid backend (settings.valid_of_evaluator h).1⟩
    · rintro ⟨_, h⟩
      exact ⟨_, settings.evaluator_of_valid backend (settings'.valid_of_evaluator h).1⟩
  same := by
    intro evaluator evaluator' h h' lookup hknown
    obtain ⟨-, rfl⟩ := settings.valid_of_evaluator h
    obtain ⟨-, rfl⟩ := settings'.valid_of_evaluator h'
    have hsame := (RuleSet.eval_resolves within lookup s).same hknown
    exact ⟨congrArg Inquiry.answer hsame, congrArg Inquiry.keys hsame⟩
  unknown := by
    intro evaluator h lookup
    obtain ⟨-, rfl⟩ := settings.valid_of_evaluator h
    exact (RuleSet.eval_resolves within lookup s).unknown

theorem comparers_needed_only_of_bare :
    Settings.bare.Within .standard ∧ CarriesOver .bare .standard .compiled .sample :=
  ⟨Settings.bare_within_standard,
    comparers_needed_only Settings.bare_within_standard .compiled .sample⟩

-- without the comparer for versions the last list of the sample cannot be decided
example : (RuleSet.sample.eval .bare fun _ => some (.string "2")).answer
    = .error (.unknownComparer "version") := by
  rfl

end Rollout
