import Rollout.Proofs.Compilation

/-!
# The algebra of connectives

Matchers, and conditions under a subject, are joined by connectives that go from left to right and
stop as soon as they are decided. What a joined test asks for, and whether it fails, therefore hangs
on the order of its parts; but the laws of Boolean algebra that keep this order hold of it, keys and
errors included. They hold in the same way of inquiries for a truth value, and the connectives are
evaluated by these.
-/

namespace Rollout

namespace Inquiry

/-! ## Joined inquiries -/

/-- The opposite of an answer. -/
def negated (q : Inquiry Bool) : Inquiry Bool := do return !(← q)

/-- Whether two answers are both true. The second is inquired only if the first is true. -/
def both (q r : Inquiry Bool) : Inquiry Bool := do if ← q then r else return false

/-- Whether one of two answers is true. The second is inquired only if the first is false. -/
def either (q r : Inquiry Bool) : Inquiry Bool := do if ← q then return true else r

variable {q q' r r' : Inquiry Bool}

theorem negated_negated (q : Inquiry Bool) : q.negated.negated = q := by
  simp only [negated, bind_assoc, pure_bind, Bool.not_not, bind_pure]

theorem both_pure_true (q : Inquiry Bool) : q.both (pure true) = q := by
  calc q.both (pure true)
      = q >>= pure := bind_congr fun b => by cases b <;> rfl
    _ = q := bind_pure q

theorem either_pure_false (q : Inquiry Bool) : q.either (pure false) = q := by
  calc q.either (pure false)
      = q >>= pure := bind_congr fun b => by cases b <;> rfl
    _ = q := bind_pure q

theorem both_assoc (q r s : Inquiry Bool) : (q.both r).both s = q.both (r.both s) := by
  rw [both, both, bind_assoc]
  exact bind_congr fun b => by cases b <;> rfl

theorem either_assoc (q r s : Inquiry Bool) : (q.either r).either s = q.either (r.either s) := by
  rw [either, either, bind_assoc]
  exact bind_congr fun b => by cases b <;> rfl

theorem negated_both (q r : Inquiry Bool) : (q.both r).negated = q.negated.either r.negated := by
  rw [negated, both, either, negated, bind_assoc, bind_assoc]
  exact bind_congr fun b => by cases b <;> rfl

theorem negated_either (q r : Inquiry Bool) : (q.either r).negated = q.negated.both r.negated := by
  rw [negated, either, both, negated, bind_assoc, bind_assoc]
  exact bind_congr fun b => by cases b <;> rfl

/-- Of a joined answer only the answers matter, not what was asked for them. -/
theorem answer_both_congr (hq : q.answer = q'.answer) (hr : r.answer = r'.answer) :
    (q.both r).answer = (q'.both r').answer := by
  rw [both, both, answer_bind, answer_bind, hq]
  exact congrArg _ (funext fun b => by cases b <;> [rfl; exact hr])

theorem answer_either_congr (hq : q.answer = q'.answer) (hr : r.answer = r'.answer) :
    (q.either r).answer = (q'.either r').answer := by
  rw [either, either, answer_bind, answer_bind, hq]
  exact congrArg _ (funext fun b => by cases b <;> [exact hr; rfl])

/-! ## Joined tests of a list -/

variable {α : Type} {test : α → Inquiry Bool}

theorem allOf_concat (l : List α) (a : α) :
    allOf test (l ++ [a]) = (allOf test l).both (test a) := by
  induction l with
  | nil => exact both_pure_true (test a)
  | cons b rest ih =>
    calc allOf test (b :: rest ++ [a])
        = (test b).both (allOf test (rest ++ [a])) := rfl
      _ = (test b).both ((allOf test rest).both (test a)) := by rw [ih]
      _ = ((test b).both (allOf test rest)).both (test a) := (both_assoc _ _ _).symm

theorem anyOf_concat (l : List α) (a : α) :
    anyOf test (l ++ [a]) = (anyOf test l).either (test a) := by
  induction l with
  | nil => exact either_pure_false (test a)
  | cons b rest ih =>
    calc anyOf test (b :: rest ++ [a])
        = (test b).either (anyOf test (rest ++ [a])) := rfl
      _ = (test b).either ((anyOf test rest).either (test a)) := by rw [ih]
      _ = ((test b).either (anyOf test rest)).either (test a) := (either_assoc _ _ _).symm

section Negation

variable {not : α → α} (hnot : ∀ a, test (not a) = (test a).negated)

include hnot

theorem negated_allOf (l : List α) : (allOf test l).negated = anyOf test (l.map not) := by
  induction l with
  | nil => rfl
  | cons a rest ih =>
    calc (allOf test (a :: rest)).negated
        = (test a).negated.either (allOf test rest).negated := negated_both _ _
      _ = (test (not a)).either (anyOf test (rest.map not)) := by rw [ih, hnot]

theorem negated_anyOf (l : List α) : (anyOf test l).negated = allOf test (l.map not) := by
  induction l with
  | nil => rfl
  | cons a rest ih =>
    calc (anyOf test (a :: rest)).negated
        = (test a).negated.both (anyOf test rest).negated := negated_either _ _
      _ = (test (not a)).both (allOf test (rest.map not)) := by rw [ih, hnot]

end Negation

end Inquiry

/-! ## Connectives -/

/-- The connectives of a type of tests. -/
structure Connectives (α : Type) where
  and : α → α → α
  or : α → α → α
  not : α → α
  all : List α → α
  any : List α → α

/-- The connectives of matchers. -/
def Matcher.connectives : Connectives Matcher := ⟨.and, .or, .not, .all, .any⟩

/-- The connectives of conditions. -/
def Condition.connectives : Connectives Condition := ⟨.and, .or, .not, .all, .any⟩

namespace Connectives

variable {α : Type} {c : Connectives α} {eval : α → Inquiry Bool}

/-- Lists of tests are evaluated from left to right, and two tests are joined by adding the second to
the list of the first, or else by a list of the two. -/
structure GoThroughLists (c : Connectives α) (eval : α → Inquiry Bool) : Prop where
  all : ∀ l, eval (c.all l) = Inquiry.allOf eval l
  any : ∀ l, eval (c.any l) = Inquiry.anyOf eval l
  not : ∀ a, eval (c.not a) = (eval a).negated
  and : ∀ a b, (∃ l, a = c.all l ∧ c.and a b = c.all (l ++ [b])) ∨ c.and a b = c.all [a, b]
  or : ∀ a b, (∃ l, a = c.any l ∧ c.or a b = c.any (l ++ [b])) ∨ c.or a b = c.any [a, b]

/-- The laws of Boolean algebra that keep the order of the parts. Equality is that of inquiries: of
answers or errors and of the keys asked for. -/
structure ShortCircuit (c : Connectives α) (eval : α → Inquiry Bool) : Prop where
  and : ∀ a b, eval (c.and a b) = (eval a).both (eval b)
  or : ∀ a b, eval (c.or a b) = (eval a).either (eval b)
  not : ∀ a, eval (c.not a) = (eval a).negated
  all_nil : eval (c.all []) = pure true
  any_nil : eval (c.any []) = pure false
  not_not : ∀ a, eval (c.not (c.not a)) = eval a
  not_all : ∀ l, eval (c.not (c.all l)) = eval (c.any (l.map c.not))
  not_any : ∀ l, eval (c.not (c.any l)) = eval (c.all (l.map c.not))

theorem GoThroughLists.shortCircuit (h : c.GoThroughLists eval) : c.ShortCircuit eval where
  and a b := by
    rcases h.and a b with ⟨l, rfl, hand⟩ | hand
    · rw [hand, h.all, h.all, Inquiry.allOf_concat]
    · rw [hand, h.all]
      exact congrArg (eval a).both (Inquiry.both_pure_true (eval b))
  or a b := by
    rcases h.or a b with ⟨l, rfl, hor⟩ | hor
    · rw [hor, h.any, h.any, Inquiry.anyOf_concat]
    · rw [hor, h.any]
      exact congrArg (eval a).either (Inquiry.either_pure_false (eval b))
  not := h.not
  all_nil := h.all []
  any_nil := h.any []
  not_not a := by rw [h.not, h.not, Inquiry.negated_negated]
  not_all l := by rw [h.not, h.all, h.any, Inquiry.negated_allOf h.not]
  not_any l := by rw [h.not, h.any, h.all, Inquiry.negated_anyOf h.not]

end Connectives

variable (settings : Settings) (lookup : Lookup)

theorem Matcher.goThroughLists :
    connectives.GoThroughLists (Matcher.eval settings lookup) where
  all l := by rw [connectives, eval, evalAll_eq]
  any l := by rw [connectives, eval, evalAny_eq]
  not a := by rw [connectives, eval, Inquiry.negated]
  and a b := by
    cases a with
    | all items => exact .inl ⟨items, rfl, rfl⟩
    | _ => exact .inr rfl
  or a b := by
    cases a with
    | any items => exact .inl ⟨items, rfl, rfl⟩
    | _ => exact .inr rfl

theorem Condition.goThroughLists (subject : Option Value) :
    connectives.GoThroughLists (Condition.eval settings lookup subject) where
  all l := by rw [connectives, eval, evalAll_eq]
  any l := by rw [connectives, eval, evalAny_eq]
  not a := by rw [connectives, eval, Inquiry.negated]
  and a b := by
    cases a with
    | all items => exact .inl ⟨items, rfl, rfl⟩
    | _ => exact .inr rfl
  or a b := by
    cases a with
    | any items => exact .inl ⟨items, rfl, rfl⟩
    | _ => exact .inr rfl

/-! ## On either backend -/

/-- The ways of evaluating parts of rule sets: as they stand, or compiled, each in its place in a
program. What is compiled is read over the finished pool, which has grown since. -/
inductive Evaluation {α β γ : Type} (eval : α → γ) (compile : Pool → α → β × Pool)
    (run : Pool → β → γ) : (α → γ) → Prop
  | direct : Evaluation eval compile run eval
  | compiled (before finished : α → Pool)
      (grown : ∀ a, (compile (before a) a).2.Extends (finished a)) :
      Evaluation eval compile run fun a => run (finished a) (compile (before a) a).1

/-- A way of evaluating matchers. -/
def Matcher.Evaluation : (Matcher → Inquiry Bool) → Prop :=
  Rollout.Evaluation (Matcher.eval settings lookup) Matcher.compile
    (Program.Guard.run settings lookup)

/-- A way of evaluating conditions under a subject. -/
def Condition.Evaluation (subject : Option Value) : (Condition → Inquiry Bool) → Prop :=
  Rollout.Evaluation (Condition.eval settings lookup subject) Condition.compile
    fun pool => Program.Test.run settings lookup pool subject

section

variable {settings lookup}

/-- What compiling keeps the meaning of has only one evaluation. -/
theorem Evaluation.eq {α β γ : Type} {eval f : α → γ} {compile : Pool → α → β × Pool}
    {run : Pool → β → γ} (hf : Evaluation eval compile run f)
    (hmeans : ∀ a, ∃ means : Pool → β → Prop, Pool.Emits means (compile · a)
      ∧ ∀ pool b, means pool b → run pool b = eval a) : f = eval := by
  cases hf with
  | direct => rfl
  | compiled before finished grown =>
    funext a
    obtain ⟨means, hemits, hrun⟩ := hmeans a
    exact hrun _ _ (hemits.holds _ _ (grown a))

theorem Matcher.Evaluation.eq {f : Matcher → Inquiry Bool}
    (hf : Matcher.Evaluation settings lookup f) : f = Matcher.eval settings lookup :=
  Rollout.Evaluation.eq hf fun m =>
    ⟨m.MeantBy settings lookup, m.emits_compile settings lookup, fun _ _ h => h⟩

theorem Condition.Evaluation.eq {subject : Option Value} {f : Condition → Inquiry Bool}
    (hf : Condition.Evaluation settings lookup subject f) :
    f = Condition.eval settings lookup subject :=
  Rollout.Evaluation.eq hf fun c =>
    ⟨c.MeantBy settings lookup, c.emits_compile settings lookup, fun _ _ h => h subject⟩

end

/-! ## One property, several conditions -/

theorem Matcher.answer_property (name : String) (c : Condition) :
    ((Matcher.property name c).eval settings lookup).answer
      = (c.eval settings lookup (lookup name)).answer := by
  rw [eval, Inquiry.ask_bind]

/-- Conditions joined under one property come to the same answer as matchers of the property joined,
if the joined answer hangs on the answers only. -/
theorem Matcher.answer_property_joined {join : Inquiry Bool → Inquiry Bool → Inquiry Bool}
    (hjoin : ∀ {q q' r r'}, q.answer = q'.answer → r.answer = r'.answer →
      (join q r).answer = (join q' r').answer)
    {name : String} {c d condition : Condition} {m : Matcher}
    (hcondition : condition.eval settings lookup (lookup name)
      = join (c.eval settings lookup (lookup name)) (d.eval settings lookup (lookup name)))
    (hm : m.eval settings lookup
      = join ((property name c).eval settings lookup) ((property name d).eval settings lookup)) :
    ((property name condition).eval settings lookup).answer = (m.eval settings lookup).answer := by
  rw [answer_property, hcondition, hm]
  exact hjoin (answer_property settings lookup name c).symm
    (answer_property settings lookup name d).symm

theorem Matcher.answer_property_and (name : String) (c d : Condition) :
    ((Matcher.property name (c.and d)).eval settings lookup).answer
      = (((Matcher.property name c).and (.property name d)).eval settings lookup).answer :=
  answer_property_joined settings lookup Inquiry.answer_both_congr
    ((Condition.goThroughLists settings lookup (lookup name)).shortCircuit.and c d)
    ((goThroughLists settings lookup).shortCircuit.and (.property name c) (.property name d))

theorem Matcher.answer_property_or (name : String) (c d : Condition) :
    ((Matcher.property name (c.or d)).eval settings lookup).answer
      = (((Matcher.property name c).or (.property name d)).eval settings lookup).answer :=
  answer_property_joined settings lookup Inquiry.answer_either_congr
    ((Condition.goThroughLists settings lookup (lookup name)).shortCircuit.or c d)
    ((goThroughLists settings lookup).shortCircuit.or (.property name c) (.property name d))

/-! ## All together -/

/-- The connectives short-circuit on either backend. -/
structure ConnectivesShortCircuit : Prop where
  matchers : ∀ eval, Matcher.Evaluation settings lookup eval →
    Matcher.connectives.ShortCircuit eval
  conditions : ∀ subject eval, Condition.Evaluation settings lookup subject eval →
    Condition.connectives.ShortCircuit eval
  /-- Conditions joined under one property come to the same answer or error as matchers joined; the
  property is only asked for more often. -/
  property_and : ∀ eval, Matcher.Evaluation settings lookup eval → ∀ name c d,
    (eval (.property name (c.and d))).answer
      = (eval ((Matcher.property name c).and (.property name d))).answer
  property_or : ∀ eval, Matcher.Evaluation settings lookup eval → ∀ name c d,
    (eval (.property name (c.or d))).answer
      = (eval ((Matcher.property name c).or (.property name d))).answer

/-- **Connectives form a short-circuit Boolean algebra**, of matchers and of conditions. -/
theorem connectives_short_circuit : ConnectivesShortCircuit settings lookup where
  matchers eval heval := by
    rw [heval.eq]
    exact (Matcher.goThroughLists settings lookup).shortCircuit
  conditions subject eval heval := by
    rw [heval.eq]
    exact (Condition.goThroughLists settings lookup subject).shortCircuit
  property_and eval heval name c d := by
    rw [heval.eq]
    exact Matcher.answer_property_and settings lookup name c d
  property_or eval heval name c d := by
    rw [heval.eq]
    exact Matcher.answer_property_or settings lookup name c d

/-- Two matchers of a property ask for it twice, one matcher with both conditions once. -/
example :
    (((Matcher.property "plan" (.all [])).and (.property "plan" (.any []))).eval settings lookup).keys
        = ["plan", "plan"]
      ∧ ((Matcher.property "plan" ((Condition.all []).and (.any []))).eval settings lookup).keys
        = ["plan"] :=
  ⟨rfl, rfl⟩

end Rollout
