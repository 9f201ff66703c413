import Mathlib.Data.List.Forall2
import Mathlib.Data.Option.Basic
import Rollout.Inquiry

/-!
# Laws of inquiries

Inquiries form a lawful monad, and every evaluation goes through its lists in one of three ways:
`allOf`, `anyOf` and `firstOf`. The relations below compare two inquiries or describe one; each is
kept by sequencing and by the three ways of going through a list.
-/

namespace Rollout

namespace Inquiry

variable {α β γ δ : Type}

/-! ## The monad -/

theorem bind_of_ok {q : Inquiry α} {a : α} (h : q.answer = .ok a) (f : α → Inquiry β) :
    q >>= f = ⟨(f a).answer, q.keys ++ (f a).keys⟩ := by
  show q.andThen f = _
  simp only [andThen, h]

theorem bind_of_error {q : Inquiry α} {e : EvalError} (h : q.answer = .error e)
    (f : α → Inquiry β) : q >>= f = ⟨.error e, q.keys⟩ := by
  show q.andThen f = _
  simp only [andThen, h]

instance : LawfulMonad Inquiry := LawfulMonad.mk' Inquiry
  (by
    intro α q
    show q.andThen (fun a => ⟨.ok a, []⟩) = q
    obtain ⟨_ | a, keys⟩ := q <;> simp [andThen])
  (by
    intro α β a f
    show andThen ⟨.ok a, []⟩ f = f a
    simp [andThen])
  (by
    intro α β γ q f g
    cases h : q.answer with
    | error e => simp only [bind_of_error h]; rw [bind_of_error rfl]
    | ok a =>
      rw [bind_of_ok h, bind_of_ok h]
      cases hf : (f a).answer with
      | error e => rw [bind_of_error hf, bind_of_error rfl]
      | ok b => rw [bind_of_ok hf, bind_of_ok rfl, List.append_assoc])

@[simp] theorem answer_pure (a : α) : (pure a : Inquiry α).answer = .ok a := rfl

@[simp] theorem keys_pure (a : α) : (pure a : Inquiry α).keys = [] := rfl

@[simp] theorem answer_ofExcept (x : Except EvalError α) : (ofExcept x).answer = x := rfl

@[simp] theorem keys_ofExcept (x : Except EvalError α) : (ofExcept x).keys = [] := rfl

theorem ofExcept_bind (x : Except EvalError α) (f : α → Except EvalError β) :
    ofExcept (x >>= f) = ofExcept x >>= fun a => ofExcept (f a) := by
  cases x with
  | error e => rw [bind_of_error rfl]; rfl
  | ok a => rw [bind_of_ok rfl]; rfl

@[simp] theorem answer_ask (lookup : Lookup) (key : String) :
    (ask lookup key).answer = .ok (lookup key) := rfl

@[simp] theorem keys_ask (lookup : Lookup) (key : String) : (ask lookup key).keys = [key] := rfl

@[simp] theorem answer_bind (q : Inquiry α) (f : α → Inquiry β) :
    (q >>= f).answer = q.answer.bind fun a => (f a).answer := by
  cases h : q.answer with
  | error e => rw [bind_of_error h]; rfl
  | ok a => rw [bind_of_ok h]; rfl

@[simp] theorem answer_map (f : α → β) (q : Inquiry α) : (f <$> q).answer = q.answer.map f := by
  rw [← bind_pure_comp, answer_bind]
  cases q.answer <;> rfl

@[simp] theorem keys_map (f : α → β) (q : Inquiry α) : (f <$> q).keys = q.keys := by
  rw [← bind_pure_comp]
  cases h : q.answer with
  | error e => rw [bind_of_error h]
  | ok a => rw [bind_of_ok h, keys_pure, List.append_nil]

/-- Asking first and going on: the key stands before those that are asked afterwards. -/
theorem ask_bind (lookup : Lookup) (key : String) (f : Option Value → Inquiry β) :
    ask lookup key >>= f = ⟨(f (lookup key)).answer, key :: (f (lookup key)).keys⟩ :=
  rfl

/-! ## Going through a list -/

/-- Whether a test accepts every item. The first that it does not accept ends the search. -/
def allOf (test : α → Inquiry Bool) : List α → Inquiry Bool
  | [] => pure true
  | a :: rest => do
    if ← test a then allOf test rest else return false

/-- Whether a test accepts some item. The first that it accepts ends the search. -/
def anyOf (test : α → Inquiry Bool) : List α → Inquiry Bool
  | [] => pure false
  | a :: rest => do
    if ← test a then return true else anyOf test rest

/-- The value of the first item that has one. -/
def firstOf (value : α → Inquiry (Option β)) : List α → Inquiry (Option β)
  | [] => pure none
  | a :: rest => do
    match ← value a with
    | some b => return some b
    | none => firstOf value rest

section Congruence

variable {l : List α} {m : List β}

theorem allOf_congr {f : α → Inquiry Bool} {g : β → Inquiry Bool}
    (h : List.Forall₂ (fun a b => g b = f a) l m) : allOf g m = allOf f l := by
  induction h with
  | nil => rfl
  | cons hab _ ih => rw [allOf, allOf, hab, ih]

theorem anyOf_congr {f : α → Inquiry Bool} {g : β → Inquiry Bool}
    (h : List.Forall₂ (fun a b => g b = f a) l m) : anyOf g m = anyOf f l := by
  induction h with
  | nil => rfl
  | cons hab _ ih => rw [anyOf, anyOf, hab, ih]

theorem firstOf_congr {f : α → Inquiry (Option γ)} {g : β → Inquiry (Option γ)}
    (h : List.Forall₂ (fun a b => g b = f a) l m) : firstOf g m = firstOf f l := by
  induction h with
  | nil => rfl
  | cons hab _ ih => rw [firstOf, firstOf, hab, ih]

end Congruence

/-! ## Which item decides -/

section Deciding

variable {f : α → Inquiry (Option β)}

theorem firstOf_cons_of_passed {a : α} (h : (f a).answer = .ok none) (rest : List α) :
    firstOf f (a :: rest)
      = ⟨(firstOf f rest).answer, (f a).keys ++ (firstOf f rest).keys⟩ := by
  rw [firstOf, bind_of_ok h]

theorem firstOf_cons_of_decided {a : α} (h : (f a).answer ≠ .ok none) (rest : List α) :
    firstOf f (a :: rest) = f a := by
  rw [firstOf]
  cases ha : (f a).answer with
  | error e => rw [bind_of_error ha, ← ha]
  | ok value =>
    cases value with
    | none => exact absurd ha h
    | some b =>
      rw [bind_of_ok ha]
      show Inquiry.mk (.ok (some b)) ((f a).keys ++ []) = f a
      rw [List.append_nil, ← ha]

/-- Items without a value are asked in turn and leave the answer to those that follow. -/
theorem firstOf_append_of_passed {before : List α} (h : ∀ a ∈ before, (f a).answer = .ok none)
    (rest : List α) :
    firstOf f (before ++ rest)
      = ⟨(firstOf f rest).answer,
          (before.flatMap fun a => (f a).keys) ++ (firstOf f rest).keys⟩ := by
  induction before with
  | nil => rfl
  | cons a before ih =>
    rw [List.cons_append, firstOf_cons_of_passed (h a List.mem_cons_self),
      ih fun b hb => h b (List.mem_cons_of_mem _ hb), List.flatMap_cons, List.append_assoc]

/-- The first item that has a value or fails decides, and none after it is asked. -/
theorem firstOf_decided {before : List α} {a : α}
    (hbefore : ∀ b ∈ before, (f b).answer = .ok none) (ha : (f a).answer ≠ .ok none)
    (after : List α) :
    firstOf f (before ++ a :: after)
      = ⟨(f a).answer, (before.flatMap fun b => (f b).keys) ++ (f a).keys⟩ := by
  rw [firstOf_append_of_passed hbefore, firstOf_cons_of_decided ha]

/-- An answer other than none is that of the first item that does not pass. -/
theorem answer_firstOf_iff {l : List α} {answer : Except EvalError (Option β)}
    (hsome : answer ≠ .ok none) :
    (firstOf f l).answer = answer ↔ ∃ before a after, l = before ++ a :: after
      ∧ (∀ b ∈ before, (f b).answer = .ok none) ∧ (f a).answer = answer := by
  constructor
  · intro h
    induction l with
    | nil => exact absurd h.symm hsome
    | cons a rest ih =>
      by_cases ha : (f a).answer = .ok none
      · rw [firstOf_cons_of_passed ha] at h
        obtain ⟨before, b, after, rfl, hbefore, hb⟩ := ih h
        refine ⟨a :: before, b, after, rfl, ?_, hb⟩
        intro c hc
        rcases List.mem_cons.mp hc with rfl | hc
        · exact ha
        · exact hbefore c hc
      · rw [firstOf_cons_of_decided ha] at h
        exact ⟨[], a, rest, rfl, fun b hb => absurd hb List.not_mem_nil, h⟩
  · rintro ⟨before, a, after, rfl, hbefore, ha⟩
    rw [firstOf_decided hbefore (ha ▸ hsome)]
    exact ha

end Deciding

/-! ## Two inquiries side by side -/

/-- Two inquiries ask for the same keys and come to related answers or to the same error. -/
inductive Related (R : α → β → Prop) : Inquiry α → Inquiry β → Prop
  | answered {a : α} {b : β} (h : R a b) (keys : List String) :
      Related R ⟨.ok a, keys⟩ ⟨.ok b, keys⟩
  | failed (e : EvalError) (keys : List String) : Related R ⟨.error e, keys⟩ ⟨.error e, keys⟩

theorem Related.imp {R S : α → β → Prop} {q : Inquiry α} {r : Inquiry β} (h : Related R q r)
    (hRS : ∀ a b, R a b → S a b) : Related S q r := by
  cases h with
  | answered h keys => exact .answered (hRS _ _ h) keys
  | failed e keys => exact .failed e keys

theorem Related.bind {R : α → β → Prop} {S : γ → δ → Prop} {q : Inquiry α} {r : Inquiry β}
    {f : α → Inquiry γ} {g : β → Inquiry δ} (h : Related R q r)
    (hfg : ∀ a b, R a b → Related S (f a) (g b)) : Related S (q >>= f) (r >>= g) := by
  cases h with
  | failed e keys => exact .failed e keys
  | @answered a b hab keys =>
    rw [bind_of_ok rfl, bind_of_ok rfl]
    have hnext := hfg a b hab
    generalize f a = q at hnext
    generalize g b = r at hnext
    cases hnext with
    | answered h keys' => exact .answered h _
    | failed e keys' => exact .failed e _

/-- The same inquiry, gone on with in two ways. -/
theorem Related.bind_same {S : γ → δ → Prop} (q : Inquiry α) {f : α → Inquiry γ}
    {g : α → Inquiry δ} (h : ∀ a, Related S (f a) (g a)) : Related S (q >>= f) (q >>= g) := by
  have hq : Related Eq q q := by
    obtain ⟨_ | a, keys⟩ := q
    · exact .failed _ keys
    · exact .answered rfl keys
  exact hq.bind fun a b hab => hab ▸ h a

theorem related_ask {R : Option Value → Option Value → Prop} {lookup lookup' : Lookup}
    {key : String} (h : R (lookup key) (lookup' key)) :
    Related R (ask lookup key) (ask lookup' key) :=
  .answered h [key]

theorem related_firstOf {f : α → Inquiry (Option γ)} {g : β → Inquiry (Option δ)}
    {R : γ → δ → Prop} {l : List α} {m : List β}
    (h : List.Forall₂ (fun a b => Related (Option.Rel R) (f a) (g b)) l m) :
    Related (Option.Rel R) (firstOf f l) (firstOf g m) := by
  induction h with
  | nil => exact .answered .none []
  | cons hab _ ih =>
    refine hab.bind fun a b hvalue => ?_
    cases hvalue with
    | none => exact ih
    | some h => exact .answered (.some h) []

/-! ## Properties of one inquiry -/

/-- A property of inquiries that holds of what is known without asking and is kept by going on from
an answer. -/
structure Sequential (P : {α : Type} → Inquiry α → Prop) : Prop where
  known : ∀ {α : Type} (a : α), P (pure a : Inquiry α)
  onward : ∀ {α β : Type} {q : Inquiry α} {f : α → Inquiry β}, P q →
    (∀ a, q.answer = .ok a → P (f a)) → P (q >>= f)

namespace Sequential

variable {P : {α : Type} → Inquiry α → Prop} (hP : Sequential P) {l : List α}

include hP

theorem map (f : α → β) {q : Inquiry α} (hq : P q) : P (f <$> q) := by
  rw [← bind_pure_comp]
  exact hP.onward hq fun a _ => hP.known (f a)

theorem allOf {test : α → Inquiry Bool} (h : ∀ a ∈ l, P (test a)) : P (allOf test l) := by
  induction l with
  | nil => exact hP.known true
  | cons a rest ih =>
    refine hP.onward (h a List.mem_cons_self) fun accepted _ => ?_
    cases accepted with
    | false => exact hP.known false
    | true => exact ih fun b hb => h b (List.mem_cons_of_mem _ hb)

theorem anyOf {test : α → Inquiry Bool} (h : ∀ a ∈ l, P (test a)) : P (anyOf test l) := by
  induction l with
  | nil => exact hP.known false
  | cons a rest ih =>
    refine hP.onward (h a List.mem_cons_self) fun accepted _ => ?_
    cases accepted with
    | false => exact ih fun b hb => h b (List.mem_cons_of_mem _ hb)
    | true => exact hP.known true

theorem firstOf {value : α → Inquiry (Option β)} (h : ∀ a ∈ l, P (value a)) :
    P (firstOf value l) := by
  induction l with
  | nil => exact hP.known none
  | cons a rest ih =>
    refine hP.onward (h a List.mem_cons_self) fun found _ => ?_
    cases found with
    | none => exact ih fun b hb => h b (List.mem_cons_of_mem _ hb)
    | some b => exact hP.known (some b)

end Sequential

/-- An inquiry comes to an answer, not to an error. -/
def Answers (q : Inquiry α) : Prop := ∃ a, q.answer = .ok a

theorem sequential_answers : Sequential Answers where
  known a := ⟨a, rfl⟩
  onward := by
    rintro α β q f ⟨a, ha⟩ hf
    obtain ⟨b, hb⟩ := hf a ha
    exact ⟨b, by rw [bind_of_ok ha]; exact hb⟩

end Inquiry

end Rollout
