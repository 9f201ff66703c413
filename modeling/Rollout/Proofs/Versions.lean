import Rollout.Literal.Version
import Rollout.Proofs.Literals

/-!
# Versions and their texts

The texts of versions are the numerals of their numbers with points between them, and white space around
the whole. Reading such a text gives the version back, and what is read as a version is its text. A text
with a component that is no numeral of 64 bits, or with more than four components, is no version.
-/

namespace Rollout.Literal

-- powers are those of the core library, whatever else is in scope
attribute [local instance (high)] instPowNat

/-- The numbers of a version: one to four, and each fits 64 bits. -/
structure IsVersion (parts : List Nat) : Prop where
  nonempty : parts ≠ []
  atMostFour : parts.length ≤ 4
  fits : ∀ n ∈ parts, n < 2 ^ (64 : Nat)

/-- The components of a text, which the points in it separate. -/
def components (l : List Char) : List (List Char) :=
  l.splitOn '.'

/-- A component of a version: a numeral whose number fits 64 bits. -/
structure IsComponent (ds : List Char) : Prop extends IsNumeral ds where
  fits : Nat.ofDigitChars 10 ds 0 < 2 ^ (64 : Nat)

theorem isComponent_toDigits {n : Nat} (h : n < 2 ^ (64 : Nat)) :
    IsComponent (Nat.toDigits 10 n) where
  toIsNumeral := isNumeral_toDigits n
  fits := by rwa [Nat.ofDigitChars_ten_toDigits]

/-! ## Texts of versions -/

theorem toList_versionText (parts : List Nat) :
    (versionText parts).toList = ['.'].intercalate (parts.map (Nat.toDigits 10)) := by
  rw [versionText, String.toList_intercalate, List.map_map]
  congr 1
  exact List.map_congr_left fun n _ => String.toList_ofList

/-- How a number that is not the first stands in the text of a version. -/
def writtenPart (n : Nat) : List Char :=
  '.' :: Nat.toDigits 10 n

theorem toList_versionText_cons (n : Nat) (rest : List Nat) :
    (versionText (n :: rest)).toList = Nat.toDigits 10 n ++ rest.flatMap writtenPart := by
  rw [toList_versionText]
  induction rest generalizing n with
  | nil => simp
  | cons m rest ih =>
    rw [List.map_cons, List.map_cons, List.intercalate_cons_cons, List.append_assoc,
      ← List.map_cons, ih, List.flatMap_cons, writtenPart]
    rfl

theorem point_not_mem_toDigits (n : Nat) : '.' ∉ Nat.toDigits 10 n := fun h =>
  absurd (isDigit_of_mem_toDigits h) (by decide)

/-- The components of the text of a version are the texts of its numbers. -/
theorem components_versionText {parts : List Nat} (h : parts ≠ []) :
    components (versionText parts).toList = parts.map (Nat.toDigits 10) := by
  rw [components, toList_versionText]
  refine List.splitOn_intercalate '.' (fun ds hds => ?_) (by simpa using h)
  obtain ⟨n, -, rfl⟩ := List.mem_map.mp hds
  exact point_not_mem_toDigits n

theorem bare_versionText (parts : List Nat) : Text.Bare (versionText parts).toList := by
  refine .of_forall fun c hc => ?_
  cases parts with
  | nil => exact absurd hc (by simp [versionText])
  | cons n rest =>
    rw [toList_versionText_cons] at hc
    rcases List.mem_append.mp hc with hc | hc
    · exact Text.isBlank_of_isDigit (isDigit_of_mem_toDigits hc)
    · obtain ⟨m, -, hm⟩ := List.mem_flatMap.mp hc
      rcases List.mem_cons.mp hm with rfl | hm
      · decide
      · exact Text.isBlank_of_isDigit (isDigit_of_mem_toDigits hm)

/-! ## Reading -/

theorem endsNumber_parts (parts : List Nat) : EndsNumber (parts.flatMap writtenPart) := by
  intro c hc
  cases parts with
  | nil => exact absurd hc nofun
  | cons n rest =>
    cases hc
    decide

theorem readParts_written {more : Nat} {parts : List Nat} (hlength : parts.length ≤ more)
    (hfits : ∀ n ∈ parts, n < numberBound) :
    readParts more (parts.flatMap writtenPart) = (parts, []) := by
  induction parts generalizing more with
  | nil => cases more <;> rfl
  | cons n rest ih =>
    obtain ⟨more, rfl⟩ : ∃ k, more = k + 1 := Nat.exists_eq_add_one.mpr (by
      simp only [List.length_cons] at hlength
      omega)
    have hn := readNumber?_toDigits_append (hfits n List.mem_cons_self) (endsNumber_parts rest)
    have hrest := ih (Nat.le_of_succ_le_succ hlength) fun m hm => hfits m (List.mem_cons_of_mem _ hm)
    rw [List.flatMap_cons, writtenPart, List.cons_append, readParts]
    simp only [hn, hrest]

/-- What is read as parts is written in front of what is left. -/
theorem eq_written_append_of_readParts (more : Nat) (l : List Char) :
    (readParts more l).1.length ≤ more ∧ (∀ n ∈ (readParts more l).1, n < numberBound)
      ∧ l = (readParts more l).1.flatMap writtenPart ++ (readParts more l).2 := by
  fun_induction readParts more l with
  | case1 l => exact ⟨Nat.le_refl _, nofun, rfl⟩
  | case2 more r n rest hn ns left hread ih =>
    rw [hread] at ih
    obtain ⟨hlength, hfits, hrest⟩ := ih
    obtain ⟨hlt, hr⟩ := eq_toDigits_append_of_readNumber? hn
    refine ⟨Nat.succ_le_succ hlength, List.forall_mem_cons.mpr ⟨hlt, hfits⟩, ?_⟩
    rw [List.flatMap_cons, writtenPart, List.append_assoc, List.cons_append, ← hrest, ← hr]
  | case3 more r hn => exact ⟨Nat.zero_le _, nofun, rfl⟩
  | case4 more l hpoint => exact ⟨Nat.zero_le _, nofun, rfl⟩

theorem readVersion_versionText {parts : List Nat} (h : IsVersion parts) :
    readVersion (versionText parts).toList = .ok parts := by
  cases parts with
  | nil => exact absurd rfl h.nonempty
  | cons n rest =>
    have hn := readNumber?_toDigits_append (h.fits n List.mem_cons_self) (endsNumber_parts rest)
    have hrest := readParts_written (Nat.le_of_succ_le_succ h.atMostFour) fun m hm =>
      h.fits m (List.mem_cons_of_mem _ hm)
    rw [toList_versionText_cons, readVersion]
    simp only [hn, hrest]

theorem eq_versionText_of_readVersion {l : List Char} {parts : List Nat}
    (h : readVersion l = .ok parts) : IsVersion parts ∧ l = (versionText parts).toList := by
  unfold readVersion at h
  split at h
  · cases h
  · rename_i n rest hn
    obtain ⟨hlt, rfl⟩ := eq_toDigits_append_of_readNumber? hn
    obtain ⟨hlength, hfits, hrest⟩ := eq_written_append_of_readParts 3 rest
    split at h
    · rename_i ns hread
      rw [hread] at hlength hfits hrest
      cases h
      constructor
      · exact ⟨List.cons_ne_nil _ _, Nat.succ_le_succ hlength,
          List.forall_mem_cons.mpr ⟨hlt, hfits⟩⟩
      · rw [toList_versionText_cons]
        simpa using hrest
    · cases h

/-! ## Literals -/

theorem parseVersion_eq_ok_iff {input : String} {parts : List Nat} :
    parseVersion input = .ok parts ↔ readVersion (Text.trim input.toList) = .ok parts := by
  rw [parseVersion]
  cases readVersion (Text.trim input.toList) <;> simp

theorem eq_versionText_of_parseVersion {input : String} {parts : List Nat}
    (h : parseVersion input = .ok parts) :
    IsVersion parts ∧ Text.trim input.toList = (versionText parts).toList :=
  eq_versionText_of_readVersion (parseVersion_eq_ok_iff.mp h)

/-- **Versions and their texts correspond**: the text of one to four numbers of 64 bits, with any white
space around it, is read as these numbers; what is read as a version has the text of the version between
its white space; and a text with more than four components, or with one that is no numeral of a number
of 64 bits, is rejected. -/
theorem versions_correspond_to_texts :
    (∀ parts, IsVersion parts → ∀ input : String,
        Text.Padded input.toList (versionText parts).toList → parseVersion input = .ok parts)
      ∧ (∀ input parts, parseVersion input = .ok parts →
          IsVersion parts ∧ versionText parts = String.ofList (Text.trim input.toList))
      ∧ ∀ input : String,
          (4 < (components (Text.trim input.toList)).length
            ∨ ∃ ds ∈ components (Text.trim input.toList), ¬IsComponent ds) →
          ∃ e, parseVersion input = .error e ∧ e.kind = .version ∧ e.input = input := by
  refine ⟨?_, ?_, ?_⟩
  · intro parts hparts input hpadded
    rw [parseVersion_eq_ok_iff, hpadded.trim_eq (bare_versionText parts)]
    exact readVersion_versionText hparts
  · intro input parts hok
    obtain ⟨hparts, htext⟩ := eq_versionText_of_parseVersion hok
    exact ⟨hparts, by rw [htext, String.ofList_toList]⟩
  · intro input hbad
    cases hparse : parseVersion input with
    | error e =>
      rw [parseVersion] at hparse
      split at hparse
      · cases hparse
      · cases hparse
        exact ⟨_, rfl, rfl, rfl⟩
    | ok parts =>
      -- the components of a version are all as they should be
      obtain ⟨hparts, htext⟩ := eq_versionText_of_parseVersion hparse
      rw [htext, components_versionText hparts.nonempty] at hbad
      rcases hbad with hlong | ⟨ds, hds, hno⟩
      · rw [List.length_map] at hlong
        exact absurd hparts.atMostFour (Nat.not_le.mpr hlong)
      · obtain ⟨n, hn, rfl⟩ := List.mem_map.mp hds
        exact absurd (isComponent_toDigits (hparts.fits n hn)) hno

example : parseVersion " 2.10.1\n" = .ok [2, 10, 1] := by
  cbv

example : (parseVersion "2.010.1").toOption = none := by
  cbv

end Rollout.Literal
