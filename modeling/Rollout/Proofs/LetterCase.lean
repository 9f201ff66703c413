import Rollout.Proofs.KeysAsked
import Rollout.Proofs.LetterForms

/-!
# The case of letters decides nothing

The strings of a context may have ASCII letters of either case. Tests without a comparer see texts
through their folded forms, and partitions see them in lower case, where the letters are the same. Only
the identity of an owner is read as it stands: its letters choose a bucket. So with the same owners a
rule set without comparers and without tests of recency comes to the same.
-/

namespace Rollout

/-! ## Values up to the case of letters -/

mutual

/-- The value with small letters for the capital ones A to Z in its strings. -/
def Value.toLower : Value → Value
  | .string s => .string s.toLower
  | .array items => .array (Value.toLowerAll items)
  | .null => .null
  | .bool b => .bool b
  | .number d => .number d
  | .float x => .float x

/-- The values with small letters for the capital ones A to Z in their strings. -/
def Value.toLowerAll : List Value → List Value
  | [] => []
  | v :: rest => Value.toLower v :: Value.toLowerAll rest

end

/-- What two contexts hold under one key: nothing, or values that differ at most in the case of the
letters A to Z in their strings. -/
def SameLetters (v v' : Option Value) : Prop :=
  v.map Value.toLower = v'.map Value.toLower

/-- What capital letters do not change is the same for values with the same letters. -/
theorem SameLetters.eq_of {β : Type} {f : Option Value → β}
    (hf : ∀ v, f (v.map Value.toLower) = f v) {v v' : Option Value} (h : SameLetters v v') :
    f v' = f v := by
  rw [← hf v', ← hf v, h]

theorem partitionKey?_map_toLower (subject : Option Value) :
    (subject.map Value.toLower).bind Value.partitionKey? = subject.bind Value.partitionKey? := by
  cases subject with
  | none => rfl
  | some v =>
    cases v with
    | string s => exact congrArg some (Text.lowerCase_toLower s)
    | _ => rfl

/-! ## Tests -/

section Tests

variable (registry : Registry)

theorem relate_map_toLower (threshold : Value) (subject : Option Value) :
    relate registry none threshold (subject.map Value.toLower)
      = relate registry none threshold subject := by
  cases subject with
  | none => rfl
  | some v =>
    cases v with
    | string s =>
      cases threshold with
      | string t =>
        have hfold : Text.compareFolded s.toLower t = Text.compareFolded s t := by
          rw [Text.compareFolded, Text.compareFolded, Text.fold_toLower]
        exact congrArg (fun o => Except.ok (Relation.ordered o)) hfold
      | _ => rfl
    | array items => cases threshold <;> rfl
    | _ => rfl

theorem relate_toLower (threshold : Value) (subject : Option Value) :
    relate registry none threshold.toLower subject = relate registry none threshold subject := by
  cases threshold with
  | string t =>
    cases subject with
    | none => rfl
    | some v =>
      cases v with
      | string s =>
        have hfold : Text.compareFolded s t.toLower = Text.compareFolded s t := by
          rw [Text.compareFolded, Text.compareFolded, Text.fold_toLower]
        exact congrArg (fun o => Except.ok (Relation.ordered o)) hfold
      | _ => rfl
  | array items =>
    cases subject with
    | none => rfl
    | some v => cases v <;> rfl
  | _ => rfl

theorem compareWith_map_toLower (op : Comparison) (threshold : Value) (subject : Option Value) :
    compareWith registry none op threshold (subject.map Value.toLower)
      = compareWith registry none op threshold subject := by
  rw [compareWith, relate_map_toLower, compareWith]

theorem isOneOf_map_toLower (literals : List Value) (subject : Option Value) :
    isOneOf registry none literals (subject.map Value.toLower)
      = isOneOf registry none literals subject := by
  induction literals with
  | nil => rfl
  | cons v rest ih => rw [isOneOf, isOneOf, compareWith_map_toLower, ih]

/-- The elements of an array in a context are thresholds. -/
theorem isOneOf_toLowerAll (haystack : List Value) (subject : Option Value) :
    isOneOf registry none (Value.toLowerAll haystack) subject
      = isOneOf registry none haystack subject := by
  induction haystack with
  | nil => rfl
  | cons v rest ih =>
    rw [Value.toLowerAll, isOneOf, isOneOf, compareWith, compareWith, relate_toLower, ih]

theorem areAllIn_toLowerAll (haystack needles : List Value) :
    areAllIn registry none (Value.toLowerAll haystack) needles
      = areAllIn registry none haystack needles := by
  induction needles with
  | nil => rfl
  | cons needle rest ih => rw [areAllIn, areAllIn, isOneOf_toLowerAll, ih]

theorem containsValue_map_toLower (literal : Value) (subject : Option Value) :
    containsValue registry none literal (subject.map Value.toLower)
      = containsValue registry none literal subject := by
  cases subject with
  | none => rfl
  | some v =>
    cases v with
    | string haystack =>
      cases literal with
      | string needle =>
        have hfold := Text.fold_toLower haystack
        exact congrArg (fun l => Except.ok (Text.occursIn (Text.fold needle) l)) hfold
      | array items =>
        match items with
        | [] => rfl
        | [single] => exact compareWith_map_toLower registry .equal single (some (.string haystack))
        | _ :: _ :: _ => rfl
      | _ => rfl
    | array haystack =>
      cases literal with
      | array needles => exact areAllIn_toLowerAll registry haystack needles
      | _ => exact isOneOf_toLowerAll registry haystack (some _)
    | _ => rfl

theorem startsWithText_map_toLower (text : String) (subject : Option Value) :
    startsWithText (subject.map Value.toLower) text = startsWithText subject text := by
  cases subject with
  | none => rfl
  | some v =>
    cases v with
    | string s => exact congrArg (Text.fold text).isPrefixOf (Text.fold_toLower s)
    | _ => rfl

theorem endsWithText_map_toLower (text : String) (subject : Option Value) :
    endsWithText (subject.map Value.toLower) text = endsWithText subject text := by
  cases subject with
  | none => rfl
  | some v =>
    cases v with
    | string s => exact congrArg (Text.fold text).isSuffixOf (Text.fold_toLower s)
    | _ => rfl

end Tests

/-! ## Evaluation -/

section Evaluation

variable (settings : Settings) {lookup lookup' : Lookup}

theorem test_letters {test : Condition} (hsingle : ¬test.Joined)
    (hcomparer : test.comparer? = none) (hwithin : ∀ window, test ≠ .within window)
    {v v' : Option Value} (hv : SameLetters v v') :
    test.eval settings lookup' v' = test.eval settings lookup v := by
  cases test with
  | compare op literal comparer =>
    obtain rfl : comparer = none := hcomparer
    rw [Condition.eval, Condition.eval, hv.eq_of (compareWith_map_toLower settings.registry op literal)]
  | oneOf literals comparer =>
    obtain rfl : comparer = none := hcomparer
    rw [Condition.eval, Condition.eval, hv.eq_of (isOneOf_map_toLower settings.registry literals)]
  | contains literal comparer =>
    obtain rfl : comparer = none := hcomparer
    rw [Condition.eval, Condition.eval, hv.eq_of (containsValue_map_toLower settings.registry literal)]
  | startsWith text =>
    have hsame := hv.eq_of (f := (startsWithText · text)) (startsWithText_map_toLower text)
    rw [Condition.eval, Condition.eval, hsame]
  | endsWith text =>
    have hsame := hv.eq_of (f := (endsWithText · text)) (endsWithText_map_toLower text)
    rw [Condition.eval, Condition.eval, hsame]
  | within window => exact absurd rfl (hwithin window)
  | all items => exact absurd trivial hsingle
  | any items => exact absurd trivial hsingle
  | not item => exact absurd trivial hsingle

theorem RuleSet.eval_letters (hletters : ∀ key, SameLetters (lookup key) (lookup' key))
    {s : RuleSet} (hcomparer : ∀ test ∈ s.tests, test.2.comparer? = none)
    (hwithin : ∀ test ∈ s.tests, ∀ window, test.2 ≠ .within window)
    (howners : ∀ owner, s.BucketsBy owner → lookup (ownerKey owner) = lookup' (ownerKey owner)) :
    s.eval settings lookup' = s.eval settings lookup := by
  -- the identity of an owner may be tested too, but stands only for itself
  refine RuleSet.eval_lookup_congr (V := fun key v v' =>
    SameLetters v v' ∧ ∀ owner, s.BucketsBy owner → key = ownerKey owner → v = v')
    ?hlookup ?hbranch ?hbucket ?htests
  case hlookup =>
    refine fun key => ⟨hletters key, ?_⟩
    rintro owner howner rfl
    exact howners owner howner
  case hbranch =>
    rintro _ v v' ⟨hv, -⟩
    exact (hv.eq_of (f := (Option.bind · Value.partitionKey?)) partitionKey?_map_toLower).symm
  case hbucket =>
    rintro owner v v' salt howner ⟨-, hsame⟩
    rw [hsame owner howner rfl]
  case htests =>
    intro test htest v v' hv
    exact test_letters settings (RuleSet.not_joined_of_mem_tests htest) (hcomparer test htest)
      (hwithin test htest) hv.1

end Evaluation

/-! ## Both backends -/

/-- **The case of letters decides nothing**: of a rule set without faults, in which no condition names a
comparer or tests for recency, both backends make an evaluator that comes to the same answer or error,
after asking for the same keys, in every two contexts that differ only in the case of the letters A to Z
in strings and hold the same identities for the owners that values are bucketed by. -/
theorem letter_case_decides_nothing (settings : Settings) (backend : Backend) {s : RuleSet}
    (valid : s.validate = .ok ()) (hcomparer : ∀ test ∈ s.tests, test.2.comparer? = none)
    (hwithin : ∀ test ∈ s.tests, ∀ window, test.2 ≠ .within window) :
    ∃ evaluator, settings.evaluator backend s = .ok evaluator
      ∧ ∀ lookup lookup' : Lookup, (∀ key, SameLetters (lookup key) (lookup' key)) →
        (∀ owner, s.BucketsBy owner → lookup (ownerKey owner) = lookup' (ownerKey owner)) →
        (evaluator lookup').answer = (evaluator lookup).answer
          ∧ (evaluator lookup').keys = (evaluator lookup).keys := by
  refine ⟨_, settings.evaluator_of_valid backend valid, fun lookup lookup' hletters howners => ?_⟩
  have hsame := s.eval_letters settings hletters hcomparer hwithin howners
  exact ⟨congrArg Inquiry.answer hsame, congrArg Inquiry.keys hsame⟩

/-- A rule set without comparers, with tests of texts under a partition and a bucketed value. -/
def RuleSet.invitation : RuleSet where
  rules := .partition "region"
    [("kς", .list
      [⟨.all [.property "email" (.endsWith "@Example.org"),
          .property "tags" (.contains (.string "beta") none)],
        .weighted "user" "exp" [(.string "a", 30), (.string "b", 70)]⟩])]
    (.list [⟨.property "plan" (.oneOf [.string "free", .null] none), .single (.bool true)⟩])
  default? := none

/-- A context with these strings for an owner whose identity is given. -/
def Lookup.visitor (region email tag : String) : Lookup
  | "region" => some (.string region)
  | "email" => some (.string email)
  | "tags" => some (.array [.string tag])
  | "user.@@id" => some (.string "Ann")
  | _ => none

theorem sameLetters_visitor {region region' email email' tag tag' : String}
    (hregion : region.toLower = region'.toLower) (hemail : email.toLower = email'.toLower)
    (htag : tag.toLower = tag'.toLower) (key : String) :
    SameLetters (Lookup.visitor region email tag key) (Lookup.visitor region' email' tag' key) := by
  unfold SameLetters Lookup.visitor
  split
  · exact congrArg (fun s => some (Value.string s)) hregion
  · exact congrArg (fun s => some (Value.string s)) hemail
  · exact congrArg (fun s => some (Value.array [.string s])) htag
  · rfl
  · rfl

theorem letter_case_decides_nothing_on_invitation :
    RuleSet.invitation.validate = .ok ()
      ∧ (∀ test ∈ RuleSet.invitation.tests, test.2.comparer? = none)
      ∧ (∀ test ∈ RuleSet.invitation.tests, ∀ window, test.2 ≠ .within window)
      ∧ ∃ evaluator, Settings.standard.evaluator .compiled .invitation = .ok evaluator
        ∧ (evaluator (.visitor "kΣ" "Ann@example.org" "bETA")).answer
            = (evaluator (.visitor "KΣ" "ANN@EXAMPLE.ORG" "Beta")).answer
        ∧ (evaluator (.visitor "kΣ" "Ann@example.org" "bETA")).keys
            = (evaluator (.visitor "KΣ" "ANN@EXAMPLE.ORG" "Beta")).keys := by
  have htests : RuleSet.invitation.tests =
      [("email", .endsWith "@Example.org"), ("tags", .contains (.string "beta") none),
        ("plan", .oneOf [.string "free", .null] none)] := rfl
  have hcomparer : ∀ test ∈ RuleSet.invitation.tests, test.2.comparer? = none := by
    rw [htests]
    simp only [List.forall_mem_cons]
    exact ⟨rfl, rfl, rfl, nofun⟩
  have hwithin : ∀ test ∈ RuleSet.invitation.tests, ∀ window, test.2 ≠ .within window := by
    rw [htests]
    simp only [List.forall_mem_cons]
    exact ⟨nofun, nofun, nofun, nofun⟩
  have hregion : "KΣ".toLower = "kΣ".toLower := Text.toLower_eq_toLower_iff.mpr (by decide)
  have hemail : "ANN@EXAMPLE.ORG".toLower = "Ann@example.org".toLower :=
    Text.toLower_eq_toLower_iff.mpr (by decide)
  have htag : "Beta".toLower = "bETA".toLower := Text.toLower_eq_toLower_iff.mpr (by decide)
  have howners : ∀ owner, RuleSet.invitation.BucketsBy owner →
      Lookup.visitor "KΣ" "ANN@EXAMPLE.ORG" "Beta" (ownerKey owner)
        = Lookup.visitor "kΣ" "Ann@example.org" "bETA" (ownerKey owner) := by
    rintro owner ⟨r, hr, howner⟩
    have hrules : RuleSet.invitation.rules.allRules.map (·.value.owner?) = [some "user", none] := rfl
    have hmem := List.mem_map_of_mem (f := (·.value.owner?)) hr
    rw [hrules, howner] at hmem
    cases List.mem_pair.mp hmem with
    | inl h => cases h; rfl
    | inr h => cases h
  obtain ⟨evaluator, hmade, hsame⟩ :=
    letter_case_decides_nothing .standard .compiled (s := .invitation) rfl hcomparer hwithin
  have hletters := sameLetters_visitor hregion hemail htag
  exact ⟨rfl, hcomparer, hwithin, evaluator, hmade, hsame _ _ hletters howners⟩

end Rollout
