import Rollout.Literal.Duration
import Rollout.Proofs.Literals

/-!
# Durations are read as they are written

A duration is written as its segments one after another, each a numeral and a unit, with white space
around the whole. Reading takes such a text apart again in the only possible way, and no other text. The
checks on the way, of each segment and of each sum, come to one bound on the length of the whole.
-/

namespace Rollout.Literal

-- powers and sums are those of the core library, whatever else is in scope
attribute [local instance (high)] instPowNat Zero.ofOfNat0

/-! ## Written durations -/

/-- How a segment is written: its amount, and its unit right behind it. -/
def Segment.written (s : Segment) : List Char :=
  Nat.toDigits 10 s.amount ++ s.unit.symbol

/-- The length of all segments together, in milliseconds. -/
def totalMillis (segments : List Segment) : Nat :=
  (segments.map Segment.inMillis).sum

/-- The text writes the segments, at least one and each of an amount that fits 64 bits, one after
another, with white space around the whole. -/
structure WritesDuration (text : List Char) (segments : List Segment) : Prop where
  nonempty : segments ≠ []
  fits : ∀ s ∈ segments, s.amount < 2 ^ (64 : Nat)
  written : Text.Padded text (segments.flatMap Segment.written)

theorem totalMillis_cons (s : Segment) (rest : List Segment) :
    totalMillis (s :: rest) = s.inMillis + totalMillis rest := by
  simp [totalMillis]

theorem isDigit_head?_written {segments : List Segment} {c : Char}
    (h : c ∈ (segments.flatMap Segment.written).head?) : c.isDigit = true := by
  cases segments with
  | nil => exact absurd h nofun
  | cons s rest =>
    rw [List.flatMap_cons, Segment.written, List.append_assoc,
      List.head?_append_of_ne_nil _ Nat.toDigits_ne_nil] at h
    exact isDigit_of_mem_toDigits (List.mem_of_mem_head? h)

theorem bare_written (segments : List Segment) :
    Text.Bare (segments.flatMap Segment.written) where
  head _ hc := Text.isBlank_of_isDigit (isDigit_head?_written hc)
  last c hc := by
    rcases List.eq_nil_or_concat segments with rfl | ⟨init, s, rfl⟩
    · exact absurd hc nofun
    · -- a written duration ends with the last letter of a unit
      have hsymbol : s.unit.symbol ≠ [] := by cases s.unit <;> nofun
      rw [List.concat_eq_append, List.flatMap_append, List.flatMap_singleton, Segment.written,
        ← List.append_assoc, List.getLast?_append_of_ne_nil _ hsymbol] at hc
      cases hunit : s.unit <;> rw [hunit] at hc <;> cases hc <;> decide

/-! ## Units and segments -/

theorem readUnit?_symbol_append (u : TimeUnit) {rest : List Char} (h : rest.head? ≠ some 's') :
    readUnit? (u.symbol ++ rest) = some (u, rest) := by
  cases u with
  | minutes =>
    cases rest with
    | nil => rfl
    | cons c rest =>
      have hc : c ≠ 's' := fun heq => h (by rw [heq]; rfl)
      simp [TimeUnit.symbol, readUnit?, hc]
  | _ => rfl

theorem eq_symbol_append_of_readUnit? {l rest : List Char} {u : TimeUnit}
    (h : readUnit? l = some (u, rest)) : l = u.symbol ++ rest := by
  unfold readUnit? at h
  split at h <;> cases h <;> rfl

/-- A segment is read back from its text, unless an s behind it would turn minutes into
milliseconds. -/
theorem readSegment?_written_append {s : Segment} (hs : s.amount < numberBound)
    {rest : List Char} (hrest : rest.head? ≠ some 's') :
    readSegment? (s.written ++ rest) = some (s, rest) := by
  have hends : EndsNumber (s.unit.symbol ++ rest) := by
    intro c hc
    cases hunit : s.unit <;> rw [hunit] at hc <;> cases hc <;> decide
  rw [Segment.written, List.append_assoc, readSegment?, readNumber?_toDigits_append hs hends]
  simp only [readUnit?_symbol_append s.unit hrest]
  rfl

theorem eq_written_append_of_readSegment? {l rest : List Char} {s : Segment}
    (h : readSegment? l = some (s, rest)) :
    s.amount < numberBound ∧ l = s.written ++ rest := by
  unfold readSegment? at h
  split at h
  · cases h
  · rename_i n r hn
    obtain ⟨⟨u, rest'⟩, hu, he⟩ := Option.map_eq_some_iff.mp h
    cases he
    obtain ⟨hlt, rfl⟩ := eq_toDigits_append_of_readNumber? hn
    rw [eq_symbol_append_of_readUnit? hu]
    exact ⟨hlt, (List.append_assoc _ _ _).symm⟩

/-! ## Whole durations -/

theorem readSegments_of_some {l rest : List Char} {s : Segment}
    (h : readSegment? l = some (s, rest)) :
    readSegments l = (s :: (readSegments rest).1, (readSegments rest).2) := by
  fun_cases readSegments l with
  | case1 hnone => exact absurd (hnone.symm.trans h) nofun
  | case2 s' rest' hsome more left hmore =>
    cases hsome.symm.trans h
    rw [hmore]

theorem readSegments_of_none {l : List Char} (h : readSegment? l = none) :
    readSegments l = ([], l) := by
  fun_cases readSegments l with
  | case1 => rfl
  | case2 s rest hsome => exact absurd (hsome.symm.trans h) nofun

/-- Reading segment by segment takes a written duration apart. -/
theorem readSegments_written {segments : List Segment}
    (hfits : ∀ s ∈ segments, s.amount < numberBound) :
    readSegments (segments.flatMap Segment.written) = (segments, []) := by
  induction segments with
  | nil => exact readSegments_of_none rfl
  | cons s rest ih =>
    have hs := hfits s List.mem_cons_self
    -- behind a segment stands nothing or the digit of the next one
    have hnext : (rest.flatMap Segment.written).head? ≠ some 's' := by
      intro hhead
      exact absurd (isDigit_head?_written hhead) (by decide)
    rw [List.flatMap_cons, readSegments_of_some (readSegment?_written_append hs hnext),
      ih fun t ht => hfits t (List.mem_cons_of_mem _ ht)]

/-- What is read is written in front of what is left. -/
theorem eq_written_append_of_readSegments {l : List Char} :
    (∀ s ∈ (readSegments l).1, s.amount < numberBound)
      ∧ l = (readSegments l).1.flatMap Segment.written ++ (readSegments l).2 := by
  fun_induction readSegments l with
  | case1 l hnone => exact ⟨nofun, rfl⟩
  | case2 l s rest hsome more left hmore ih =>
    rw [hmore] at ih
    obtain ⟨hlt, hl⟩ := eq_written_append_of_readSegment? hsome
    obtain ⟨hfits, hrest⟩ := ih
    refine ⟨List.forall_mem_cons.mpr ⟨hlt, hfits⟩, ?_⟩
    rw [List.flatMap_cons, List.append_assoc, ← hrest]
    exact hl

/-- Reading succeeds on written durations and on nothing else, and it fails by grammar. -/
theorem readDuration_eq (l : List Char) :
    (∃ segments, readDuration l = .ok segments ∧ segments ≠ []
        ∧ (∀ s ∈ segments, s.amount < numberBound) ∧ l = segments.flatMap Segment.written)
      ∨ ∃ offset expected, readDuration l = .error (.grammar offset expected) := by
  obtain ⟨hfits, hl⟩ := eq_written_append_of_readSegments (l := l)
  unfold readDuration
  split
  · refine .inr ?_
    unfold firstFault
    split
    · exact ⟨_, _, rfl⟩
    · exact ⟨_, _, rfl⟩
  · rename_i segments hnonempty hread
    rw [hread] at hfits hl
    exact .inl ⟨segments, rfl, hnonempty, hfits, by simpa using hl⟩
  · exact .inr ⟨_, _, rfl⟩

theorem readDuration_written {segments : List Segment} (hnonempty : segments ≠ [])
    (hfits : ∀ s ∈ segments, s.amount < numberBound) :
    readDuration (segments.flatMap Segment.written) = .ok segments := by
  rw [readDuration, readSegments_written hfits]
  cases segments with
  | nil => exact absurd rfl hnonempty
  | cons s rest => rfl

/-! ## The sum -/

/-- The checks of every segment and of every sum on the way are one check of the whole. -/
theorem addSegments_eq {total : Nat} (htotal : total < durationBound) (segments : List Segment) :
    addSegments total segments
      = if total + totalMillis segments < durationBound then some (total + totalMillis segments)
        else none := by
  induction segments generalizing total with
  | nil => simp [addSegments, totalMillis, htotal]
  | cons s rest ih =>
    rw [addSegments, totalMillis_cons]
    by_cases h : s.inMillis < durationBound ∧ total + s.inMillis < durationBound
    · rw [if_pos h, ih h.2, Nat.add_assoc]
    · have hlarge : ¬total + (s.inMillis + totalMillis rest) < durationBound := by omega
      rw [if_neg h, if_neg hlarge]

/-! ## Literals -/

theorem parseDuration_of_writes {input : String} {segments : List Segment}
    (h : WritesDuration input.toList segments) :
    parseDuration input
      = if totalMillis segments < durationBound then .ok (totalMillis segments)
        else .error ⟨.duration, input, Text.trim input.toList, .outOfRange⟩ := by
  have hread : readDuration (Text.trim input.toList) = .ok segments := by
    rw [h.written.trim_eq (bare_written segments)]
    exact readDuration_written h.nonempty h.fits
  have hsum : addSegments 0 segments
      = if totalMillis segments < durationBound then some (totalMillis segments) else none := by
    rw [addSegments_eq (by decide), Nat.zero_add]
  rw [parseDuration]
  simp only [hread, hsum]
  by_cases hfits : totalMillis segments < durationBound
  · simp only [if_pos hfits]
  · simp only [if_neg hfits]

theorem parseDuration_of_not_writes {input : String}
    (h : ∀ segments, ¬WritesDuration input.toList segments) :
    ∃ offset expected, parseDuration input
      = .error ⟨.duration, input, Text.trim input.toList, .grammar offset expected⟩ := by
  rcases readDuration_eq (Text.trim input.toList) with
    ⟨segments, -, hnonempty, hfits, hwritten⟩ | ⟨offset, expected, hread⟩
  · refine absurd ⟨hnonempty, hfits, ?_⟩ (h segments)
    rw [← hwritten]
    exact Text.padded_trim input.toList
  · refine ⟨offset, expected, ?_⟩
    rw [parseDuration]
    simp only [hread]

/-- **Durations are read as they are written**: a text is read as a duration exactly if it writes
segments whose length in all is less than 2 to the 63rd milliseconds, and the duration is that length. A
text that writes segments of a greater length is out of range, and every other text is rejected by the
grammar; both errors keep the text as it was given. -/
theorem durations_read_as_written (input : String) :
    (∀ total, parseDuration input = .ok total ↔
        ∃ segments, WritesDuration input.toList segments ∧ totalMillis segments = total
          ∧ total < 2 ^ (63 : Nat))
      ∧ (∀ segments, WritesDuration input.toList segments →
          2 ^ (63 : Nat) ≤ totalMillis segments →
          ∃ e, parseDuration input = .error e ∧ e.kind = .duration ∧ e.input = input
            ∧ e.fault = .outOfRange ∧ e.reason = "out of range")
      ∧ ((∀ segments, ¬WritesDuration input.toList segments) →
          ∃ e, parseDuration input = .error e ∧ e.kind = .duration ∧ e.input = input
            ∧ ∃ offset expected, e.fault = .grammar offset expected) := by
  refine ⟨fun total => ⟨fun hok => ?_, ?_⟩, ?_, ?_⟩
  · by_cases hwrites : ∃ segments, WritesDuration input.toList segments
    · obtain ⟨segments, hwrites⟩ := hwrites
      rw [parseDuration_of_writes hwrites] at hok
      split at hok
      · rename_i hlt
        cases hok
        exact ⟨segments, hwrites, rfl, hlt⟩
      · cases hok
    · obtain ⟨offset, expected, herror⟩ :=
        parseDuration_of_not_writes fun segments h => hwrites ⟨segments, h⟩
      exact absurd (herror.symm.trans hok) nofun
  · rintro ⟨segments, hwrites, rfl, hlt⟩
    rw [parseDuration_of_writes hwrites]
    exact if_pos hlt
  · intro segments hwrites hge
    have hlarge : ¬totalMillis segments < durationBound := Nat.not_lt.mpr hge
    rw [parseDuration_of_writes hwrites, if_neg hlarge]
    exact ⟨_, rfl, rfl, rfl, rfl, rfl⟩
  · intro hnone
    obtain ⟨offset, expected, herror⟩ := parseDuration_of_not_writes hnone
    exact ⟨_, herror, rfl, rfl, offset, expected, rfl⟩

-- the greatest duration, and one that a sum on the way makes too long
example : parseDuration "\t106751991167d7h12m55s807ms " = .ok 9223372036854775807 := by
  cbv

example : parseDuration "106751991167d7h12m55s807ms1ms" = .error
    ⟨.duration, "106751991167d7h12m55s807ms1ms", "106751991167d7h12m55s807ms1ms".toList,
      .outOfRange⟩ := by
  cbv

end Rollout.Literal
