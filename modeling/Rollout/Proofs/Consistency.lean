import Rollout.Proofs.Compilation
import Rollout.Proofs.Tests

/-!
# Consistent rule sets never fail

Every property that a rule set tests is declared to hold scalars of one kind or arrays of them. If
the literals of the tests and the context keep to the declaration, the comparers know the texts they
meet and the clock is set where it is asked, then an evaluation cannot end in an error.
-/

namespace Rollout

/-! ## Declarations -/

/-- The kinds of scalars that a property can be declared to hold. -/
inductive ScalarKind where
  | boolean
  | number
  | float
  | string

/-- A value is null or of the kind. -/
inductive Value.Fits : ScalarKind → Value → Prop
  | null {k : ScalarKind} : Fits k .null
  | bool (b : Bool) : Fits .boolean (.bool b)
  | number (d : Decimal) : Fits .number (.number d)
  | float (x : Binary64) : Fits .float (.float x)
  | string (s : String) : Fits .string (.string s)

/-- What a property is declared to hold: scalars of one kind, or arrays of them. -/
inductive Form where
  | scalar (kind : ScalarKind)
  | array (kind : ScalarKind)

/-- The kind of the scalars in a form. -/
def Form.kind : Form → ScalarKind
  | scalar kind => kind
  | array kind => kind

/-- A value is null or of the form. -/
inductive Form.Admits : Form → Value → Prop
  | null {form : Form} : Admits form .null
  | scalar {kind : ScalarKind} {v : Value} (h : v.Fits kind) : Admits (.scalar kind) v
  | array {kind : ScalarKind} {items : List Value} (h : ∀ v ∈ items, v.Fits kind) :
      Admits (.array kind) (.array items)

/-- A test suits properties of a form. Only scalars are compared with literals, and the literals are
null or of the kind of the form; where a test is for containment they may also stand in an array. -/
inductive Condition.Suits : Form → Condition → Prop
  | compare {kind : ScalarKind} {literal : Value} (h : literal.Fits kind) (op : Comparison)
      (comparer : Option String) : Suits (.scalar kind) (.compare op literal comparer)
  | oneOf {kind : ScalarKind} {literals : List Value} (h : ∀ v ∈ literals, v.Fits kind)
      (comparer : Option String) : Suits (.scalar kind) (.oneOf literals comparer)
  | contains {form : Form} {literal : Value} (h : literal.Fits form.kind)
      (comparer : Option String) : Suits form (.contains literal comparer)
  | containsAll {form : Form} {needles : List Value} (h : ∀ v ∈ needles, v.Fits form.kind)
      (comparer : Option String) : Suits form (.contains (.array needles) comparer)
  | startsWith {form : Form} (text : String) : Suits form (.startsWith text)
  | endsWith {form : Form} (text : String) : Suits form (.endsWith text)
  | within {form : Form} (window : Window) : Suits form (.within window)

/-- The literals of a test. -/
def Condition.literals : Condition → List Value
  | .compare _ literal _ => [literal]
  | .oneOf literals _ => literals
  | .contains literal _ => [literal]
  | _ => []

/-- A value is the text or an array that holds it. -/
inductive Value.HasText (text : String) : Value → Prop
  | itself : HasText text (.string text)
  | element {items : List Value} (h : .string text ∈ items) : HasText text (.array items)

/-- A comparer that a test names is registered and has a key for the text. -/
def Orderable (registry : Registry) (comparer : Option String) (text : String) : Prop :=
  ∀ name, comparer = some name →
    ∃ c key, registry.find? name = some c ∧ c text = some key

/-- A rule set and a context keep to a declaration of the properties that the rule set tests. -/
structure Consistent (registry : Registry) (form : String → Form) (lookup : Lookup)
    (s : RuleSet) : Prop where
  -- every test suits the form of its property
  suits : ∀ test ∈ s.tests, test.2.Suits (form test.1)
  -- every tested property is absent or null or holds a value of its form
  admits : ∀ test ∈ s.tests, ∀ v, lookup test.1 = some v → (form test.1).Admits v
  -- every comparer that a test names knows the texts in the literals of the test
  literals : ∀ test ∈ s.tests, ∀ v ∈ test.2.literals, ∀ text, v.HasText text →
    Orderable registry test.2.comparer? text
  -- every comparer that a test names knows the texts in the value of the property
  subjects : ∀ test ∈ s.tests, ∀ v, lookup test.1 = some v → ∀ text, v.HasText text →
    Orderable registry test.2.comparer? text
  -- where a recency test stands, the clock is a timestamp
  clock : ∀ name window, (name, .within window) ∈ s.tests →
    ∃ now, (lookup clockKey).bind Value.instant? = some now

/-! ## Comparison -/

section Tests

variable {registry : Registry} {comparer : Option String} {kind : ScalarKind}

theorem orderTexts_ok {s t : String} (hs : Orderable registry comparer s)
    (ht : Orderable registry comparer t) : ∃ o, orderTexts registry comparer s t = .ok o := by
  cases comparer with
  | none => exact ⟨_, rfl⟩
  | some name =>
    obtain ⟨c, key, hc, hkey⟩ := hs name rfl
    obtain ⟨c', key', hc', hkey'⟩ := ht name rfl
    obtain rfl : c = c' := Option.some.inj (hc.symm.trans hc')
    refine ⟨key.compare key', ?_⟩
    simp only [orderTexts, orderKey, hc, hkey, hkey']
    rfl

/-- A value fits the kind, and if it is a text the comparer has a key for it. -/
structure Value.Comparable (registry : Registry) (comparer : Option String) (kind : ScalarKind)
    (v : Value) : Prop where
  fits : v.Fits kind
  orderable : ∀ text, v = .string text → Orderable registry comparer text

theorem Value.comparable_null : Comparable registry comparer kind .null :=
  ⟨.null, nofun⟩

/-- Two values of one kind can be compared, null with either. -/
theorem relate_ok {t : Value} {s : Option Value} (ht : t.Comparable registry comparer kind)
    (hs : ∀ v, s = some v → v.Comparable registry comparer kind) :
    ∃ r, relate registry comparer t s = .ok r := by
  have hsubject : (s.getD .null).Comparable registry comparer kind := by
    cases s with
    | none => exact Value.comparable_null
    | some v => exact hs v rfl
  unfold relate
  generalize s.getD .null = v at hsubject
  obtain ⟨htfits, htorder⟩ := ht
  obtain ⟨hvfits, hvorder⟩ := hsubject
  cases hvfits with
  | null => cases htfits <;> exact ⟨_, rfl⟩
  | bool b => cases htfits <;> exact ⟨_, rfl⟩
  | number d => cases htfits <;> exact ⟨_, rfl⟩
  | float x =>
    cases htfits with
    | null => exact ⟨_, rfl⟩
    | float y =>
      simp only
      cases x.compare? y <;> exact ⟨_, rfl⟩
  | string text =>
    cases htfits with
    | null => exact ⟨_, rfl⟩
    | string text' =>
      obtain ⟨o, ho⟩ := orderTexts_ok (hvorder text rfl) (htorder text' rfl)
      exact ⟨.ordered o, by simp only [ho]; rfl⟩

theorem compareWith_ok {t : Value} {s : Option Value} (op : Comparison)
    (ht : t.Comparable registry comparer kind)
    (hs : ∀ v, s = some v → v.Comparable registry comparer kind) :
    ∃ b, compareWith registry comparer op t s = .ok b := by
  obtain ⟨r, hr⟩ := relate_ok ht hs
  exact ⟨op.holds r, by rw [compareWith, hr]; rfl⟩

/-! ## Membership and containment -/

theorem isOneOf_ok {literals : List Value} {s : Option Value}
    (hl : ∀ v ∈ literals, v.Comparable registry comparer kind)
    (hs : ∀ v, s = some v → v.Comparable registry comparer kind) :
    ∃ b, isOneOf registry comparer literals s = .ok b := by
  induction literals with
  | nil => exact ⟨false, rfl⟩
  | cons v rest ih =>
    obtain ⟨b, hb⟩ := compareWith_ok .equal (hl v List.mem_cons_self) hs
    simp only [isOneOf, hb]
    cases b with
    | true => exact ⟨true, rfl⟩
    | false => exact ih fun w hw => hl w (List.mem_cons_of_mem _ hw)

theorem areAllIn_ok {haystack needles : List Value}
    (hh : ∀ v ∈ haystack, v.Comparable registry comparer kind)
    (hn : ∀ v ∈ needles, v.Comparable registry comparer kind) :
    ∃ b, areAllIn registry comparer haystack needles = .ok b := by
  induction needles with
  | nil => exact ⟨true, rfl⟩
  | cons needle rest ih =>
    obtain ⟨b, hb⟩ := isOneOf_ok hh fun v hv => Option.some.inj hv ▸ hn needle List.mem_cons_self
    simp only [areAllIn, hb]
    cases b with
    | true => exact ih fun w hw => hn w (List.mem_cons_of_mem _ hw)
    | false => exact ⟨false, rfl⟩

/-- A value or each of its elements can be compared, so it can take part in a containment test. -/
inductive Value.Containable (registry : Registry) (comparer : Option String) (kind : ScalarKind) :
    Value → Prop
  | scalar {v : Value} (h : v.Comparable registry comparer kind) :
      Containable registry comparer kind v
  | array {items : List Value} (h : ∀ v ∈ items, v.Comparable registry comparer kind) :
      Containable registry comparer kind (.array items)

theorem containsValue_ok {literal : Value} {s : Option Value}
    (hl : literal.Containable registry comparer kind)
    (hs : ∀ v, s = some v → v.Containable registry comparer kind) :
    ∃ b, containsValue registry comparer literal s = .ok b := by
  cases s with
  | none => exact ⟨false, rfl⟩
  | some v =>
    cases hs v rfl with
    | array hh =>
      cases hl with
      | array hn => exact areAllIn_ok hh hn
      | scalar hneedle =>
        -- the needle is compared as the subject, the elements as thresholds
        have hone := isOneOf_ok hh fun w hw => Option.some.inj hw ▸ hneedle
        obtain ⟨fits, _⟩ := hneedle
        cases fits <;> exact hone
    | scalar hv =>
      have hone {t : Value} (ht : t.Comparable registry comparer kind) :=
        compareWith_ok .equal ht fun w hw => Option.some.inj hw ▸ hv
      obtain ⟨fits, _⟩ := hv
      cases hl with
      | scalar hneedle =>
        obtain ⟨fits', _⟩ := hneedle
        cases fits <;> cases fits' <;> exact ⟨_, rfl⟩
      | @array needles hn =>
        match needles, hn with
        | [], _ => cases fits <;> exact ⟨false, rfl⟩
        | [single], hn =>
          have hsingle := hone (hn single List.mem_cons_self)
          cases fits <;> exact hsingle
        | _ :: _ :: _, _ => cases fits <;> exact ⟨false, rfl⟩

end Tests

/-! ## Tests and rule sets -/

section Consistent

variable {registry : Registry} {comparer : Option String}

theorem Value.Fits.comparable {kind : ScalarKind} {v : Value} (h : v.Fits kind)
    (htexts : ∀ text, v.HasText text → Orderable registry comparer text) :
    v.Comparable registry comparer kind :=
  ⟨h, fun text hv => htexts text (hv ▸ .itself)⟩

theorem Value.comparable_elements {kind : ScalarKind} {items : List Value}
    (h : ∀ v ∈ items, v.Fits kind)
    (htexts : ∀ text, (Value.array items).HasText text → Orderable registry comparer text) :
    ∀ v ∈ items, v.Comparable registry comparer kind :=
  fun v hv => ⟨h v hv, fun text heq => htexts text (.element (heq ▸ hv))⟩

theorem Form.Admits.containable {form : Form} {v : Value} (h : form.Admits v)
    (htexts : ∀ text, v.HasText text → Orderable registry comparer text) :
    v.Containable registry comparer form.kind := by
  cases h with
  | null => exact .scalar Value.comparable_null
  | scalar h => exact .scalar (h.comparable htexts)
  | array h => exact .array (Value.comparable_elements h htexts)

theorem Form.Admits.comparable {kind : ScalarKind} {v : Value} (h : (Form.scalar kind).Admits v)
    (htexts : ∀ text, v.HasText text → Orderable registry comparer text) :
    v.Comparable registry comparer kind := by
  cases h with
  | null => exact Value.comparable_null
  | scalar h => exact h.comparable htexts

variable {settings : Settings} {form : String → Form} {lookup : Lookup} {s : RuleSet}

/-- No test of a consistent rule set fails. -/
theorem Consistent.answers_test (h : Consistent settings.registry form lookup s)
    {test : String × Condition} (mem : test ∈ s.tests) :
    (test.2.eval settings lookup (lookup test.1)).Answers := by
  obtain ⟨name, c⟩ := test
  have hsuits := h.suits _ mem
  have hadmits := h.admits _ mem
  have hliterals := h.literals _ mem
  have hsubjects := h.subjects _ mem
  have hclock := h.clock name
  -- the form must be a variable before the suiting test can be split into cases
  generalize form name = f at hsuits hadmits
  show (c.eval settings lookup (lookup name)).Answers
  cases hsuits with
  | compare hfits op comparer =>
    rw [Condition.eval]
    exact compareWith_ok op (hfits.comparable (hliterals _ List.mem_cons_self))
      fun v hv => (hadmits v hv).comparable (hsubjects v hv)
  | oneOf hfits comparer =>
    rw [Condition.eval]
    exact isOneOf_ok (fun v hv => (hfits v hv).comparable (hliterals v hv))
      fun v hv => (hadmits v hv).comparable (hsubjects v hv)
  | contains hfits comparer =>
    rw [Condition.eval]
    exact containsValue_ok (.scalar (hfits.comparable (hliterals _ List.mem_cons_self)))
      fun v hv => (hadmits v hv).containable (hsubjects v hv)
  | containsAll hfits comparer =>
    rw [Condition.eval]
    have hneedles := Value.comparable_elements hfits (hliterals _ List.mem_cons_self)
    exact containsValue_ok (.array hneedles) fun v hv => (hadmits v hv).containable (hsubjects v hv)
  | startsWith text => exact Inquiry.sequential_answers.known _
  | endsWith text => exact Inquiry.sequential_answers.known _
  | within window =>
    obtain ⟨now, hnow⟩ := hclock window mem
    rw [Condition.eval, Inquiry.ask_bind]
    show ∃ b, isWithin (lookup name) (lookup clockKey) window = .ok b
    rw [isWithin, hnow]
    cases (lookup name).bind Value.instant? <;> exact ⟨_, rfl⟩

/-- **Consistent rule sets never fail**: if a rule set without faults and a context keep to a
declaration of the properties tested, both backends come to an answer. -/
theorem consistent_answers (backend : Backend) (valid : s.validate = .ok ())
    (h : Consistent settings.registry form lookup s) :
    ∃ evaluator, settings.evaluator backend s = .ok evaluator
      ∧ ∃ answer, (evaluator lookup).answer = .ok answer :=
  ⟨_, settings.evaluator_of_valid backend valid,
    RuleSet.eval_sequential settings Inquiry.sequential_answers (fun key => ⟨lookup key, rfl⟩)
      fun _ mem => h.answers_test mem⟩

/-- What the sample rule set takes its properties to hold. -/
def Form.sample : String → Form
  | "age" => .scalar .number
  | "tags" => .array .string
  | _ => .scalar .string

/-- A context for the sample rule set, with a version to be ordered and a clock to be read. -/
def Lookup.sample : Lookup
  | "platform" => some (.string "iOS")
  | "tags" => some (.array [.string "old"])
  | "version" => some (.string "1.10")
  | "seen" => some (.string "2024-01-02 03:04:05")
  | "system.time_utc" => some (.string "2024-01-02 03:30:00")
  | _ => none

theorem consistent_sample :
    Consistent Settings.standard.registry Form.sample Lookup.sample RuleSet.sample := by
  have htests : RuleSet.sample.tests =
      [("age", .compare .greaterEqual (.number ⟨false, 180, 1, by decide, by decide⟩) none),
        ("email", .endsWith "@example.org"),
        ("email", .compare .equal .null none),
        ("tags", .contains (.array [.string "new", .null]) none),
        ("version", .compare .less (.string "2.0") (some "version")),
        ("seen", .within ⟨3600000000000⟩)] := rfl
  have hversion : ∀ text, text = "1.10" ∨ text = "2.0" →
      Orderable Settings.standard.registry (some "version") text := by
    rintro text (rfl | rfl) name hname
    · cases hname
      exact ⟨versionComparer, _, rfl, rfl⟩
    · cases hname
      exact ⟨versionComparer, _, rfl, rfl⟩
  have hnone : ∀ text, Orderable Settings.standard.registry none text := fun _ _ => nofun
  constructor
  case suits =>
    rw [htests]
    simp only [List.forall_mem_cons]
    refine ⟨.compare (.number _) _ _, .endsWith _, .compare .null _ _, .containsAll ?_ _,
      .compare (.string _) _ _, .within _, nofun⟩
    simp only [List.forall_mem_cons]
    exact ⟨.string _, .null, nofun⟩
  case admits =>
    rw [htests]
    simp only [List.forall_mem_cons]
    refine ⟨nofun, nofun, nofun, ?_, ?_, ?_, nofun⟩
    · rintro _ ⟨⟩
      refine .array ?_
      simp only [List.forall_mem_cons]
      exact ⟨.string _, nofun⟩
    · rintro _ ⟨⟩
      exact .scalar (.string _)
    · rintro _ ⟨⟩
      exact .scalar (.string _)
  case literals =>
    rw [htests]
    simp only [List.forall_mem_cons]
    refine ⟨fun _ _ _ _ => hnone _, fun _ _ _ _ => hnone _, fun _ _ _ _ => hnone _,
      fun _ _ _ _ => hnone _, ?_, fun _ _ _ _ => hnone _, nofun⟩
    intro v hv text htext
    cases List.mem_singleton.mp hv
    cases htext
    exact hversion _ (.inr rfl)
  case subjects =>
    rw [htests]
    simp only [List.forall_mem_cons]
    refine ⟨fun _ _ _ _ => hnone _, fun _ _ _ _ => hnone _, fun _ _ _ _ => hnone _,
      fun _ _ _ _ => hnone _, ?_, fun _ _ _ _ => hnone _, nofun⟩
    rintro _ ⟨⟩ text htext
    cases htext
    exact hversion _ (.inl rfl)
  case clock =>
    intro name window _
    exact ⟨_, rfl⟩

/-- The rule set comes to an answer in the sample context, having compared the versions. -/
theorem consistent_answers_on_sample :
    RuleSet.sample.validate = .ok ()
      ∧ Consistent Settings.standard.registry Form.sample Lookup.sample RuleSet.sample
      ∧ ∃ evaluator, Settings.standard.evaluator .compiled .sample = .ok evaluator
        ∧ ∃ answer, (evaluator Lookup.sample).answer = .ok answer :=
  ⟨rfl, consistent_sample, consistent_answers .compiled rfl consistent_sample⟩

end Consistent

end Rollout
