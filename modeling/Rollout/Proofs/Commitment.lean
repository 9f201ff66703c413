import Mathlib.Data.List.Nodup
import Rollout.Proofs.Compilation
import Rollout.Proofs.Validity

/-!
# Evaluation commits to one list

The partitions of a tree lead a context to one list of rules (`RuleTree.Leads`), and the rules of
that list alone decide, the first that yields a value or fails. Neither the rest of the tree nor the
rules after the deciding one are looked at; the default stands in when none of them decides.
-/

namespace Rollout

variable (settings : Settings) (lookup : Lookup)

/-! ## The way to the list -/

/-- The partitions lead from a tree to a list of rules, past the properties of the path: each to the
branch whose key in lower case is that of the value of the property, or else to the fallback. -/
inductive RuleTree.Leads : RuleTree → List String → List Rule → Prop
  | list {rules : List Rule} : Leads (.list rules) [] rules
  | branch {property : String} {branches : List (String × RuleTree)} {fallback : RuleTree}
      {key : String} {branch : RuleTree} {path : List String} {rules : List Rule}
      (mem : (key, branch) ∈ branches)
      (hit : (lookup property).bind Value.partitionKey? = some (Text.lowerCase key))
      (onward : Leads branch path rules) :
      Leads (.partition property branches fallback) (property :: path) rules
  | fallback {property : String} {branches : List (String × RuleTree)} {fallback : RuleTree}
      {path : List String} {rules : List Rule}
      (miss : ∀ b ∈ branches,
        (lookup property).bind Value.partitionKey? ≠ some (Text.lowerCase b.1))
      (onward : Leads fallback path rules) :
      Leads (.partition property branches fallback) (property :: path) rules

namespace RuleTree

/-- Some list is always reached. -/
theorem exists_leads (t : RuleTree) : ∃ path rules, t.Leads lookup path rules := by
  induction t with
  | list rules => exact ⟨[], rules, .list⟩
  | partition property branches fallback ihBranches ihFallback =>
    by_cases h : ∃ b ∈ branches,
        (lookup property).bind Value.partitionKey? = some (Text.lowerCase b.1)
    · obtain ⟨⟨key, branch⟩, hmem, hhit⟩ := h
      obtain ⟨path, rules, honward⟩ := ihBranches _ hmem
      exact ⟨property :: path, rules, .branch hmem hhit honward⟩
    · obtain ⟨path, rules, honward⟩ := ihFallback
      exact ⟨property :: path, rules, .fallback (fun b hb heq => h ⟨b, hb, heq⟩) honward⟩

theorem eq_of_lowerCase_eq {branches : List (String × RuleTree)}
    (distinct : (branchKeys branches).Nodup) {b b' : String × RuleTree} (hb : b ∈ branches)
    (hb' : b' ∈ branches) (h : Text.lowerCase b.1 = Text.lowerCase b'.1) : b = b' :=
  List.inj_on_of_nodup_map distinct hb hb' h

variable {lookup}

/-- At most one list is reached, since no two branches of a partition answer to one value. -/
theorem Leads.unique {t : RuleTree} (wf : t.WellFormed) {path path' : List String}
    {rules rules' : List Rule} (h : t.Leads lookup path rules)
    (h' : t.Leads lookup path' rules') : path' = path ∧ rules' = rules := by
  induction h generalizing path' rules' with
  | list =>
    cases h'
    exact ⟨rfl, rfl⟩
  | branch mem hit _ ih =>
    cases wf with
    | partition _ distinct inBranches _ =>
      cases h' with
      | branch mem' hit' onward' =>
        -- both branches answer to the value, so they are one
        cases eq_of_lowerCase_eq distinct mem mem' (Option.some.inj (hit.symm.trans hit'))
        obtain ⟨rfl, rfl⟩ := ih (inBranches _ mem) onward'
        exact ⟨rfl, rfl⟩
      | fallback miss' _ => exact absurd hit (miss' (_, _) mem)
  | fallback miss _ ih =>
    cases wf with
    | partition _ _ _ inFallback =>
      cases h' with
      | branch mem' hit' _ => exact absurd hit' (miss (_, _) mem')
      | fallback _ onward' =>
        obtain ⟨rfl, rfl⟩ := ih inFallback onward'
        exact ⟨rfl, rfl⟩

theorem branch?_of_mem {branches : List (String × RuleTree)} {key : String} {branch : RuleTree}
    (distinct : (branchKeys branches).Nodup) (mem : (key, branch) ∈ branches) :
    branch? (Text.lowerCase key) branches = some branch := by
  induction branches with
  | nil => exact absurd mem List.not_mem_nil
  | cons b rest ih =>
    obtain ⟨k, t⟩ := b
    rw [branch?]
    split
    · rename_i hk
      cases eq_of_lowerCase_eq distinct mem List.mem_cons_self hk.symm
      rfl
    · rename_i hk
      rcases List.mem_cons.mp mem with heq | hmem
      · cases heq
        exact absurd rfl hk
      · exact ih (List.nodup_cons.mp distinct).2 hmem

theorem branch?_eq_none {branches : List (String × RuleTree)} {key : String}
    (miss : ∀ b ∈ branches, Text.lowerCase b.1 ≠ key) : branch? key branches = none := by
  induction branches with
  | nil => rfl
  | cons b rest ih =>
    obtain ⟨k, t⟩ := b
    rw [branch?, if_neg (miss (k, t) List.mem_cons_self)]
    exact ih fun b hb => miss b (List.mem_cons_of_mem _ hb)

/-- A tree is evaluated by asking for the properties on the path and then trying the rules of the
list at its end. -/
theorem Leads.eval_eq {t : RuleTree} (wf : t.WellFormed) {path : List String} {rules : List Rule}
    (h : t.Leads lookup path rules) :
    t.eval settings lookup
      = ⟨(evalRules settings lookup rules).answer,
          path ++ (evalRules settings lookup rules).keys⟩ := by
  induction h with
  | list => rw [RuleTree.eval]; rfl
  | @branch property branches fallback key branch path rules mem hit _ ih =>
    cases wf with
    | partition _ distinct inBranches _ =>
      have hnext : next lookup property branches fallback = branch := by
        rw [next, hit, Option.bind_some, branch?_of_mem distinct mem, Option.getD_some]
      rw [eval_partition, hnext, Inquiry.ask_bind, ih (inBranches _ mem)]
      rfl
  | @fallback property branches fallback path rules miss _ ih =>
    cases wf with
    | partition _ _ _ inFallback =>
      have hnext : next lookup property branches fallback = fallback := by
        rw [next]
        cases hkey : (lookup property).bind Value.partitionKey? with
        | none => rfl
        | some key =>
          have hmiss : ∀ b ∈ branches, Text.lowerCase b.1 ≠ key := by
            intro b hb heq
            exact miss b hb (by rw [hkey, heq])
          rw [Option.bind_some, branch?_eq_none hmiss, Option.getD_none]
      rw [eval_partition, hnext, Inquiry.ask_bind, ih inFallback]
      rfl

end RuleTree

/-! ## What becomes of one rule -/

namespace Rule

/-- A rule neither yields a value nor fails: it does not apply, or it applies and has nothing to
yield. -/
def Passes (r : Rule) : Prop :=
  (r.matcher.eval settings lookup).answer = .ok false
    ∨ (r.matcher.eval settings lookup).answer = .ok true
      ∧ (r.value.eval settings lookup).answer = .ok none

/-- A rule applies and yields the value. -/
def Yields (r : Rule) (v : Value) : Prop :=
  (r.matcher.eval settings lookup).answer = .ok true
    ∧ (r.value.eval settings lookup).answer = .ok (some v)

/-- A rule fails, since its matcher does. -/
def Fails (r : Rule) (e : EvalError) : Prop :=
  (r.matcher.eval settings lookup).answer = .error e

theorem answer_eval (r : Rule) :
    (r.eval settings lookup).answer
      = (r.matcher.eval settings lookup).answer.bind fun accepted =>
          if accepted then (r.value.eval settings lookup).answer else .ok none := by
  rw [Rule.eval, Inquiry.answer_bind]
  congr 1
  funext accepted
  cases accepted <;> rfl

theorem passes_iff (r : Rule) :
    r.Passes settings lookup ↔ (r.eval settings lookup).answer = .ok none := by
  rw [Passes, answer_eval]
  cases (r.matcher.eval settings lookup).answer with
  | error e => simp [Except.bind]
  | ok accepted => cases accepted <;> simp [Except.bind]

theorem yields_iff (r : Rule) (v : Value) :
    r.Yields settings lookup v ↔ (r.eval settings lookup).answer = .ok (some v) := by
  rw [Yields, answer_eval]
  cases (r.matcher.eval settings lookup).answer with
  | error e => simp [Except.bind]
  | ok accepted => cases accepted <;> simp [Except.bind]

theorem fails_iff (r : Rule) (e : EvalError) :
    r.Fails settings lookup e ↔ (r.eval settings lookup).answer = .error e := by
  rw [Fails, answer_eval]
  obtain ⟨value, hvalue⟩ := r.value.answer_eval settings lookup
  cases (r.matcher.eval settings lookup).answer with
  | error e => simp [Except.bind]
  | ok accepted => cases accepted <;> simp [Except.bind, hvalue]

end Rule

/-! ## What becomes of a list of rules -/

/-- Some rule yields the value, and every earlier one passes. -/
def FirstYields (rules : List Rule) (v : Value) : Prop :=
  ∃ before r after, rules = before ++ r :: after
    ∧ (∀ q ∈ before, q.Passes settings lookup) ∧ r.Yields settings lookup v

/-- Some rule fails, and every earlier one passes. -/
def FirstFails (rules : List Rule) (e : EvalError) : Prop :=
  ∃ before r after, rules = before ++ r :: after
    ∧ (∀ q ∈ before, q.Passes settings lookup) ∧ r.Fails settings lookup e

/-- No rule is the first to yield a value, and none is the first to fail. -/
def Undecided (rules : List Rule) : Prop :=
  (¬∃ v, FirstYields settings lookup rules v) ∧ ¬∃ e, FirstFails settings lookup rules e

theorem firstYields_iff (rules : List Rule) (v : Value) :
    FirstYields settings lookup rules v
      ↔ (evalRules settings lookup rules).answer = .ok (some v) := by
  rw [evalRules_eq, Inquiry.answer_firstOf_iff (by simp)]
  simp only [FirstYields, Rule.passes_iff, Rule.yields_iff]

theorem firstFails_iff (rules : List Rule) (e : EvalError) :
    FirstFails settings lookup rules e
      ↔ (evalRules settings lookup rules).answer = .error e := by
  rw [evalRules_eq, Inquiry.answer_firstOf_iff (by simp)]
  simp only [FirstFails, Rule.passes_iff, Rule.fails_iff]

theorem undecided_iff (rules : List Rule) :
    Undecided settings lookup rules ↔ (evalRules settings lookup rules).answer = .ok none := by
  simp only [Undecided, firstYields_iff, firstFails_iff]
  cases (evalRules settings lookup rules).answer with
  | error e => simp
  | ok value => cases value <;> simp

/-- The rules after one that does not pass do not matter. -/
theorem evalRules_of_decided {before : List Rule} {r : Rule}
    (hbefore : ∀ q ∈ before, q.Passes settings lookup) (hr : ¬r.Passes settings lookup)
    (after after' : List Rule) :
    evalRules settings lookup (before ++ r :: after)
      = evalRules settings lookup (before ++ r :: after') := by
  have hpassed : ∀ q ∈ before, (q.eval settings lookup).answer = .ok none :=
    fun q hq => (q.passes_iff settings lookup).mp (hbefore q hq)
  have hdecided : (r.eval settings lookup).answer ≠ .ok none :=
    fun h => hr ((r.passes_iff settings lookup).mpr h)
  rw [evalRules_eq, evalRules_eq, Inquiry.firstOf_decided hpassed hdecided,
    Inquiry.firstOf_decided hpassed hdecided]

/-! ## Rule sets -/

/-- What it means that an evaluator of a rule set commits to a list of rules on a context. -/
structure Commits (backend : Backend) (s : RuleSet) (evaluator : Evaluator)
    (path : List String) (rules : List Rule) : Prop where
  -- the partitions lead to the list
  leads : s.rules.Leads lookup path rules
  -- they lead to no other
  only : ∀ path' rules', s.rules.Leads lookup path' rules' → path' = path ∧ rules' = rules
  -- besides the properties on the path, only what the rules of the list ask for is asked
  keys : (evaluator lookup).keys = path ++ (evalRules settings lookup rules).keys
  -- a value comes from the first rule that decides, or else it is the default
  value : ∀ v, (evaluator lookup).answer = .ok (some v)
    ↔ FirstYields settings lookup rules v
      ∨ Undecided settings lookup rules ∧ s.default? = some v
  -- an error comes from the first rule that decides
  error : ∀ e, (evaluator lookup).answer = .error e ↔ FirstFails settings lookup rules e
  -- there is no value only if no rule decides and there is no default
  nothing : (evaluator lookup).answer = .ok none
    ↔ Undecided settings lookup rules ∧ s.default? = none
  -- every rule set that leads to the same list and has the same default gives the same answer
  alone : ∀ t other path', settings.evaluator backend t = .ok other →
    t.rules.Leads lookup path' rules → t.default? = s.default? →
    (other lookup).answer = (evaluator lookup).answer
  -- so does one that leads to a list with other rules after the one that decides
  decided : ∀ t other path' before r after after', settings.evaluator backend t = .ok other →
    rules = before ++ r :: after → (∀ q ∈ before, q.Passes settings lookup) →
    ¬r.Passes settings lookup → t.rules.Leads lookup path' (before ++ r :: after') →
    t.default? = s.default? → (other lookup).answer = (evaluator lookup).answer

/-- The answer of a rule set without faults, told by the list that it leads to. -/
theorem RuleSet.answer_eval_of_leads {s : RuleSet} (valid : s.validate = .ok ())
    {path : List String} {rules : List Rule} (h : s.rules.Leads lookup path rules) :
    (s.eval settings lookup).answer
      = (evalRules settings lookup rules).answer.map (· <|> s.default?) := by
  rw [RuleSet.eval_eq, Inquiry.answer_map, h.eval_eq settings (s.wellFormed valid)]

theorem commits_of_leads (backend : Backend) {s : RuleSet} (valid : s.validate = .ok ())
    {path : List String} {rules : List Rule} (h : s.rules.Leads lookup path rules) :
    Commits settings lookup backend s (fun lookup => s.eval settings lookup) path rules := by
  have hanswer := RuleSet.answer_eval_of_leads settings lookup valid h
  have hother : ∀ t other path' rules', settings.evaluator backend t = .ok other →
      t.rules.Leads lookup path' rules' → t.default? = s.default? →
      (evalRules settings lookup rules').answer = (evalRules settings lookup rules).answer →
      (other lookup).answer = (s.eval settings lookup).answer := by
    intro t other path' rules' hother ht hdefault hrules
    obtain ⟨htvalid, rfl⟩ := settings.valid_of_evaluator hother
    rw [RuleSet.answer_eval_of_leads settings lookup htvalid ht, hanswer, hdefault, hrules]
  constructor
  case leads => exact h
  case only => exact fun path' rules' h' => h.unique (s.wellFormed valid) h'
  case keys =>
    show (s.eval settings lookup).keys = _
    rw [RuleSet.eval_eq, Inquiry.keys_map, h.eval_eq settings (s.wellFormed valid)]
  case value =>
    intro v
    rw [hanswer, firstYields_iff, undecided_iff]
    cases (evalRules settings lookup rules).answer with
    | error e => simp [Except.map]
    | ok value => cases value <;> simp [Except.map]
  case error =>
    intro e
    rw [hanswer, firstFails_iff]
    cases (evalRules settings lookup rules).answer <;> simp [Except.map]
  case nothing =>
    rw [hanswer, undecided_iff]
    cases (evalRules settings lookup rules).answer with
    | error e => simp [Except.map]
    | ok value => cases value <;> simp [Except.map]
  case alone =>
    exact fun t other path' ht hleads hdefault => hother t other path' rules ht hleads hdefault rfl
  case decided =>
    intro t other path' before r after after' ht hrules hbefore hr hleads hdefault
    refine hother t other path' _ ht hleads hdefault ?_
    rw [hrules, evalRules_of_decided settings lookup hbefore hr after' after]

/-- **Evaluation commits to one list**: on either backend and in every context, a rule set without
faults is decided by the first rule of one list that yields a value or fails, and by its default
where no rule of that list does. -/
theorem evaluator_commits (backend : Backend) {s : RuleSet} (valid : s.validate = .ok ()) :
    ∃ evaluator, settings.evaluator backend s = .ok evaluator
      ∧ ∀ lookup, ∃ path rules, Commits settings lookup backend s evaluator path rules := by
  refine ⟨_, settings.evaluator_of_valid backend valid, fun lookup => ?_⟩
  obtain ⟨path, rules, h⟩ := s.rules.exists_leads lookup
  exact ⟨path, rules, commits_of_leads settings lookup backend valid h⟩

theorem evaluator_commits_on_sample :
    RuleSet.sample.validate = .ok ()
      ∧ ∃ evaluator, Settings.standard.evaluator .compiled .sample = .ok evaluator
        ∧ ∀ lookup, ∃ path rules,
          Commits Settings.standard lookup .compiled .sample evaluator path rules :=
  ⟨rfl, evaluator_commits _ .compiled rfl⟩

end Rollout
