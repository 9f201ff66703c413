import Rollout.Proofs.Literals
import Rollout.Proofs.Verbatim
import Rollout.Subject

/-!
# Forms of a timestamp

A date and a time of day are written with every number at full width. Whatever stands between the two,
and whether or not a mark of universal time follows, the text is read as one and the same instant. An
offset moves that instant back or forward and touches neither its fraction nor its leap second, and a
date alone stands for its first moment.
-/

namespace Rollout

-- powers are those of the core library, whatever else is in scope
attribute [local instance (high)] instPowNat

/-! ## What is written -/

/-- A date of the calendar whose year has four digits. -/
structure CalendarDate where
  year : Nat
  month : Nat
  day : Nat
  year_lt : year < 10000
  valid : (Date.mk year month day).Exists

/-- A time of day, up to a leap second, with or without a fraction. -/
structure ClockTime where
  hour : Nat
  minute : Nat
  second : Nat
  /-- The digits of the fraction, none if there is no point. -/
  places : List Char
  hour_lt : hour < 24
  minute_lt : minute < 60
  second_le : second ≤ 60
  digits : ∀ c ∈ places, c.isDigit = true

/-- A distance of local time from universal time. -/
structure UtcOffset where
  /-- Whether local time is behind. -/
  behind : Bool
  hours : Nat
  minutes : Nat
  hours_le : hours ≤ 23
  minutes_le : minutes ≤ 59

namespace CalendarDate

/-- The date without its bounds. -/
def date (d : CalendarDate) : Date := ⟨d.year, d.month, d.day⟩

/-- The date as `YYYY-MM-DD`. -/
def text (d : CalendarDate) : List Char :=
  Decimal.padDigits 4 d.year ++ '-' :: (Decimal.padDigits 2 d.month ++ '-' :: Decimal.padDigits 2 d.day)

theorem month_lt (d : CalendarDate) : d.month < 100 := by
  obtain ⟨-, -, -, -, n, hn, -⟩ := d.valid
  have hlength := (List.getElem?_eq_some_iff.mp hn).1
  simp only [Date.monthLengths, List.length_cons, List.length_nil] at hlength
  omega

theorem day_lt (d : CalendarDate) : d.day < 100 := by
  obtain ⟨-, -, -, -, n, hn, hday⟩ := d.valid
  have hlengths : ∀ n ∈ Date.monthLengths d.year, n ≤ 31 := by
    unfold Date.monthLengths
    cases Date.isLeap d.year <;> decide
  have hle := hlengths n (List.mem_of_getElem? hn)
  have hday : d.day ≤ n := hday
  omega

end CalendarDate

namespace ClockTime

/-- The fraction behind its point, if there is one. -/
def fractionText (t : ClockTime) : List Char :=
  if t.places = [] then [] else '.' :: t.places

/-- The time as `HH:MM:SS`, and its fraction. -/
def text (t : ClockTime) : List Char :=
  Decimal.padDigits 2 t.hour
    ++ ':' :: (Decimal.padDigits 2 t.minute ++ ':' :: (Decimal.padDigits 2 t.second ++ t.fractionText))

theorem hour_width (t : ClockTime) : t.hour < 100 :=
  Nat.lt_trans t.hour_lt (by decide)

theorem minute_width (t : ClockTime) : t.minute < 100 :=
  Nat.lt_trans t.minute_lt (by decide)

theorem second_width (t : ClockTime) : t.second < 100 :=
  Nat.lt_of_le_of_lt t.second_le (by decide)

/-- The fraction in nanoseconds, which the first nine digits tell. -/
def nano (t : ClockTime) : Nat :=
  Nat.ofDigitChars 10 (t.places.take 9) 0 * 10 ^ (9 - (t.places.take 9).length)

/-- The first moment of a day. -/
def midnight : ClockTime where
  hour := 0
  minute := 0
  second := 0
  places := []
  hour_lt := by decide
  minute_lt := by decide
  second_le := by decide
  digits := nofun

end ClockTime

namespace UtcOffset

/-- The offset as `+hh:mm` or `-hh:mm`. -/
def text (o : UtcOffset) : List Char :=
  (if o.behind then '-' else '+')
    :: (Decimal.padDigits 2 o.hours ++ ':' :: Decimal.padDigits 2 o.minutes)

/-- How many seconds local time is ahead of universal time. -/
def seconds (o : UtcOffset) : Int :=
  if o.behind then -(o.hours * 3600 + o.minutes * 60) else o.hours * 3600 + o.minutes * 60

end UtcOffset

/-- The instant of a date and a time in universal time. The sixtieth second goes on from the one before
it as a leap second. -/
def CalendarDate.at (d : CalendarDate) (t : ClockTime) : Instant where
  day := d.date.dayNumber
  second := t.hour * 3600 + t.minute * 60 + min t.second 59
  nano := if t.second = 60 then t.nano + Instant.nanosPerSecond else t.nano

theorem CalendarDate.ofCivil? (d : CalendarDate) (t : ClockTime) :
    Instant.ofCivil? d.date t.hour t.minute t.second t.nano = some (d.at t) := by
  have hvalid : d.date.Exists ∧ t.hour < 24 ∧ t.minute < 60 ∧ t.second ≤ 60 :=
    ⟨d.valid, t.hour_lt, t.minute_lt, t.second_le⟩
  rw [Instant.ofCivil?, if_pos hvalid]
  rfl

theorem CalendarDate.second_at_lt (d : CalendarDate) (t : ClockTime) :
    (d.at t).second < Instant.secondsPerDay := by
  have hhour := t.hour_lt
  have hminute := t.minute_lt
  simp only [CalendarDate.at, Instant.secondsPerDay]
  omega

/-! ## Moving an instant -/

namespace Instant

/-- Moving counts in whole seconds and keeps the fraction, and with it a leap second. -/
theorem earlier_spec (t : Instant) (seconds : Int) :
    (t.earlier seconds).unixSeconds = t.unixSeconds - seconds
      ∧ (t.earlier seconds).nano = t.nano ∧ (t.earlier seconds).second < secondsPerDay := by
  refine ⟨?_, rfl, ?_⟩
  · simp only [earlier, unixSeconds, secondsPerDay]
    omega
  · simp only [earlier, secondsPerDay]
    omega

theorem earlier_zero {t : Instant} (h : t.second < secondsPerDay) : t.earlier 0 = t := by
  obtain ⟨day, second, nano⟩ := t
  simp only [secondsPerDay] at h
  simp only [earlier, secondsPerDay, mk.injEq, and_true]
  omega

end Instant

/-! ## Numbers at full width -/

namespace Timestamp

section Pieces

variable {width n : Nat}

theorem length_padDigits (hwidth : 0 < width) (h : n < 10 ^ width) :
    (Decimal.padDigits width n).length = width := by
  have hlength : (Nat.toDigits 10 n).length ≤ width :=
    (Nat.length_toDigits_le_iff (by decide) hwidth).mpr h
  rw [Decimal.padDigits, List.length_append, List.length_replicate]
  omega

theorem take_padDigits (hwidth : 0 < width) (h : n < 10 ^ width) (rest : List Char) :
    (Decimal.padDigits width n ++ rest).take width = Decimal.padDigits width n :=
  List.take_left' (length_padDigits hwidth h)

theorem drop_padDigits (hwidth : 0 < width) (h : n < 10 ^ width) (rest : List Char) :
    (Decimal.padDigits width n ++ rest).drop width = rest :=
  List.drop_left' (length_padDigits hwidth h)

theorem fixedNumber_padDigits (hwidth : 0 < width) (h : n < 10 ^ width) (rest : List Char) :
    fixedNumber width (Decimal.padDigits width n ++ rest) = some (n, rest) := by
  have hdigits : (Decimal.padDigits width n).all Char.isDigit = true :=
    List.all_eq_true.mpr fun _ => Decimal.isDigit_of_mem_padDigits
  simp only [fixedNumber, take_padDigits hwidth h, drop_padDigits hwidth h,
    length_padDigits hwidth h, hdigits, and_self, if_true, Decimal.ofDigitChars_padDigits]

theorem twoDigits (h : n < 100) (rest : List Char) :
    fixedNumber 2 (Decimal.padDigits 2 n ++ rest) = some (n, rest) :=
  fixedNumber_padDigits (by decide) h rest

theorem fourDigits (h : n < 10000) (rest : List Char) :
    fixedNumber 4 (Decimal.padDigits 4 n ++ rest) = some (n, rest) :=
  fixedNumber_padDigits (by decide) h rest

theorem shortNumber_padDigits (hwidth : 0 < width) (h : n < 10 ^ width) (rest : List Char) :
    shortNumber width (Decimal.padDigits width n ++ rest) = some (n, rest) := by
  have hlength := length_padDigits hwidth h
  have hdigits : (Decimal.padDigits width n).takeWhile Char.isDigit = Decimal.padDigits width n :=
    List.takeWhile_eq_self_iff.mpr fun _ => Decimal.isDigit_of_mem_padDigits
  have hne : Decimal.padDigits width n ≠ [] := by
    rw [← List.length_pos_iff, hlength]
    exact hwidth
  simp only [shortNumber, take_padDigits hwidth h, hdigits, if_neg hne, hlength,
    drop_padDigits hwidth h, Decimal.ofDigitChars_padDigits]

/-- A number at full width starts with a digit. -/
theorem exists_padDigits_eq_cons (hwidth : 0 < width) (h : n < 10 ^ width) :
    ∃ c r, Decimal.padDigits width n = c :: r ∧ c.isDigit = true := by
  cases hpad : Decimal.padDigits width n with
  | nil =>
    have hlength := length_padDigits hwidth h
    rw [hpad, List.length_nil] at hlength
    omega
  | cons c r =>
    exact ⟨c, r, rfl, Decimal.isDigit_of_mem_padDigits (by rw [hpad]; exact List.mem_cons_self)⟩

theorem trimStart_padDigits (hwidth : 0 < width) (h : n < 10 ^ width) (rest : List Char) :
    Text.trimStart (Decimal.padDigits width n ++ rest) = Decimal.padDigits width n ++ rest := by
  obtain ⟨c, r, hpad, hc⟩ := exists_padDigits_eq_cons hwidth h
  rw [hpad]
  refine Text.trimStart_eq_self fun d hd => ?_
  obtain rfl : c = d := by simpa using hd
  exact Text.isBlank_of_isDigit hc

theorem looseNumber_padDigits (h : n < 100) (rest : List Char) :
    looseNumber (Decimal.padDigits 2 n ++ rest) = some (n, rest) := by
  rw [looseNumber, trimStart_padDigits (by decide) h, shortNumber_padDigits (by decide) h]

theorem looseYear_padDigits (h : n < 10000) (rest : List Char) :
    looseYear (Decimal.padDigits 4 n ++ rest) = some ((n : Int), rest) := by
  have hread := shortNumber_padDigits (by decide : 0 < 4) h rest
  obtain ⟨c, r, hpad, hc⟩ := exists_padDigits_eq_cons (by decide : 0 < 4) h
  rw [looseYear, trimStart_padDigits (by decide) h]
  rw [hpad, List.cons_append] at hread ⊢
  split
  · rename_i heq
    obtain ⟨rfl, -⟩ := List.cons.inj heq
    exact absurd hc (by decide)
  · rename_i heq
    obtain ⟨rfl, -⟩ := List.cons.inj heq
    exact absurd hc (by decide)
  · rw [hread]
    rfl

/-- A step of a reader that succeeds hands its result on. -/
theorem bind_of_eq_some {α β : Type} {o : Option α} {a : α} {f : α → Option β} (h : o = some a) :
    o >>= f = f a := by
  rw [h]
  rfl

theorem mark_self (c : Char) (rest : List Char) : mark c (c :: rest) = some rest := by
  simp [mark]

end Pieces

/-! ## Dates, times and offsets -/

/-- Neither a digit nor a point follows. -/
def EndsTime (l : List Char) : Prop :=
  ∀ c ∈ l.head?, c.isDigit = false ∧ c ≠ '.'

theorem fraction_text (t : ClockTime) {rest : List Char} (h : EndsTime rest) :
    fraction (t.fractionText ++ rest) = some (t.nano, rest) := by
  rw [ClockTime.fractionText]
  by_cases hplaces : t.places = []
  · rw [if_pos hplaces, List.nil_append]
    have hnano : t.nano = 0 := by simp [ClockTime.nano, hplaces]
    unfold fraction
    split
    · exact absurd rfl (h '.' rfl).2
    · rw [hnano]
  · have hstop : rest.takeWhile Char.isDigit = [] := by
      cases rest with
      | nil => rfl
      | cons c rest => simp [(h c rfl).1]
    have htake : (t.places ++ rest).takeWhile Char.isDigit = t.places := by
      rw [List.takeWhile_append_of_pos t.digits, hstop, List.append_nil]
    rw [if_neg hplaces, List.cons_append]
    simp only [fraction, htake, if_neg hplaces, List.drop_left]
    rfl

theorem offset_universal : offset ['Z'] = some (0, []) := rfl

theorem offset_text (o : UtcOffset) : offset o.text = some (o.seconds, []) := by
  have hhours : o.hours < 100 := Nat.lt_of_le_of_lt o.hours_le (by decide)
  have hminutes : o.minutes < 100 := Nat.lt_of_le_of_lt o.minutes_le (by decide)
  have hbounds : ¬(23 < o.hours ∨ 59 < o.minutes) :=
    not_or.mpr ⟨Nat.not_lt.mpr o.hours_le, Nat.not_lt.mpr o.minutes_le⟩
  have hlast : fixedNumber 2 (Decimal.padDigits 2 o.minutes) = some (o.minutes, []) := by
    rw [← List.append_nil (Decimal.padDigits 2 o.minutes)]
    exact fixedNumber_padDigits (by decide) hminutes []
  rw [UtcOffset.text, UtcOffset.seconds]
  cases o.behind <;>
    simp [offset, twoDigits hhours, mark_self, hlast, hbounds]

theorem endsTime_offset (o : UtcOffset) : EndsTime o.text := by
  intro c hc
  obtain rfl : (if o.behind then '-' else '+') = c := by simpa [UtcOffset.text] using hc
  cases o.behind <;> decide

theorem looseDate_text (d : CalendarDate) (rest : List Char) :
    looseDate (d.text ++ rest) = some (d.date, rest) := by
  simp only [looseDate, CalendarDate.text, List.append_assoc, List.cons_append,
    looseYear_padDigits d.year_lt, looseNumber_padDigits d.month_lt, looseNumber_padDigits d.day_lt,
    mark_self, Option.bind_eq_bind, Option.bind_some]
  rfl

theorem looseTime?_text (d : CalendarDate) (t : ClockTime) :
    looseTime? d.date t.text = some (d.at t) := by
  have hends : EndsTime [] := nofun
  have hfraction := fraction_text t hends
  rw [List.append_nil] at hfraction
  simp only [looseTime?, ClockTime.text, looseNumber_padDigits t.hour_width,
    looseNumber_padDigits t.minute_width, looseNumber_padDigits t.second_width, mark_self, hfraction,
    Option.bind_eq_bind, Option.bind_some]
  exact d.ofCivil? t

/-- A date, a mark and a time at full width are read up to what must be an offset. -/
theorem zoned?_text (d : CalendarDate) (t : ClockTime) {sep : Char} (hsep : sep = 'T' ∨ sep = ' ')
    {zone : List Char} (hzone : EndsTime zone) :
    zoned? (d.text ++ sep :: (t.text ++ zone)) = (offset zone).bind fun shift =>
      if shift.2 ≠ [] then none else some ((d.at t).earlier shift.1) := by
  have hmark : ∀ rest, (mark 'T' (sep :: rest) <|> mark 't' (sep :: rest) <|> mark ' ' (sep :: rest))
      = some rest := by
    intro rest
    rcases hsep with rfl | rfl <;> rfl
  have hcivil : Instant.ofCivil? ⟨d.year, d.month, d.day⟩ t.hour t.minute t.second t.nano
      = some (d.at t) := d.ofCivil? t
  simp only [CalendarDate.text, ClockTime.text, List.append_assoc, List.cons_append]
  unfold zoned?
  refine (bind_of_eq_some (fourDigits d.year_lt _)).trans ?_
  refine (bind_of_eq_some (mark_self '-' _)).trans ?_
  refine (bind_of_eq_some (twoDigits d.month_lt _)).trans ?_
  refine (bind_of_eq_some (mark_self '-' _)).trans ?_
  refine (bind_of_eq_some (twoDigits d.day_lt _)).trans ?_
  refine (bind_of_eq_some (hmark _)).trans ?_
  refine (bind_of_eq_some (twoDigits t.hour_width _)).trans ?_
  refine (bind_of_eq_some (mark_self ':' _)).trans ?_
  refine (bind_of_eq_some (twoDigits t.minute_width _)).trans ?_
  refine (bind_of_eq_some (mark_self ':' _)).trans ?_
  refine (bind_of_eq_some (twoDigits t.second_width _)).trans ?_
  refine (bind_of_eq_some (fraction_text t hzone)).trans ?_
  show (offset zone >>= fun shift => if shift.2 ≠ [] then none
    else Instant.ofCivil? ⟨d.year, d.month, d.day⟩ t.hour t.minute t.second t.nano >>= fun u =>
      some (u.earlier shift.1)) = _
  rw [hcivil]
  rfl

theorem zoned?_date (d : CalendarDate) : zoned? d.text = none := by
  have hday : fixedNumber 2 (Decimal.padDigits 2 d.day) = some (d.day, []) := by
    rw [← List.append_nil (Decimal.padDigits 2 d.day)]
    exact twoDigits d.day_lt []
  unfold zoned? CalendarDate.text
  refine (bind_of_eq_some (fourDigits d.year_lt _)).trans ?_
  refine (bind_of_eq_some (mark_self '-' _)).trans ?_
  refine (bind_of_eq_some (twoDigits d.month_lt _)).trans ?_
  refine (bind_of_eq_some (mark_self '-' _)).trans ?_
  refine (bind_of_eq_some hday).trans ?_
  rfl

theorem looseDate_date (d : CalendarDate) : looseDate d.text = some (d.date, []) := by
  rw [← List.append_nil d.text]
  exact looseDate_text d []

theorem joined?_text (d : CalendarDate) (t : ClockTime) :
    joined? (d.text ++ 'T' :: t.text) = some (d.at t) := by
  simp only [joined?, looseDate_text, mark_self, looseTime?_text, Option.bind_eq_bind,
    Option.bind_some]

/-- Without a `T` nothing is joined. -/
theorem joined?_of_ne {d : CalendarDate} {rest : List Char} (h : mark 'T' rest = none) :
    joined? (d.text ++ rest) = none := by
  simp only [joined?, looseDate_text, h, Option.bind_eq_bind, Option.bind_some, Option.bind_none]

theorem trimStart_text (t : ClockTime) : Text.trimStart (' ' :: t.text) = t.text := by
  show Text.trimStart t.text = t.text
  exact trimStart_padDigits (by decide : 0 < 2) t.hour_width _

theorem spaced?_text (d : CalendarDate) (t : ClockTime) :
    spaced? (d.text ++ ' ' :: t.text) = some (d.at t) := by
  simp only [spaced?, looseDate_text, trimStart_text, looseTime?_text, Option.bind_eq_bind,
    Option.bind_some]

theorem spaced?_date (d : CalendarDate) : spaced? d.text = none := by
  simp only [spaced?, looseDate_date, Option.bind_eq_bind, Option.bind_some]
  rfl

theorem bare?_date (d : CalendarDate) : bare? d.text = some (d.at .midnight) := by
  simp only [bare?, looseDate_date, Option.bind_eq_bind, Option.bind_some, ne_eq, not_true,
    if_false]
  exact d.ofCivil? .midnight

end Timestamp

/-! ## Texts without white space at their ends -/

namespace Text

/-- A text without white space, and not an empty one. -/
structure Solid (l : List Char) : Prop where
  nonempty : l ≠ []
  solid : ∀ c ∈ l, isBlank c = false

theorem Solid.append {l m : List Char} (hl : Solid l) (hm : Solid m) : Solid (l ++ m) where
  nonempty := List.append_ne_nil_of_left_ne_nil hl.nonempty m
  solid c hc := by
    rcases List.mem_append.mp hc with hc | hc
    · exact hl.solid c hc
    · exact hm.solid c hc

theorem Solid.cons {c : Char} {l : List Char} (hc : isBlank c = false) (hl : Solid l) :
    Solid (c :: l) where
  nonempty := List.cons_ne_nil c l
  solid := List.forall_mem_cons.mpr ⟨hc, hl.solid⟩

/-- Whatever stands between two solid texts, there is no white space at the ends. -/
theorem Solid.bare {l r : List Char} (hl : Solid l) (hr : Solid r) (m : List Char) :
    Bare (l ++ (m ++ r)) where
  head c hc := by
    rw [List.head?_append_of_ne_nil _ hl.nonempty] at hc
    exact hl.solid c (List.mem_of_mem_head? hc)
  last c hc := by
    rw [← List.append_assoc, List.getLast?_append_of_ne_nil _ hr.nonempty] at hc
    exact hr.solid c (List.mem_of_mem_getLast? hc)

theorem solid_padDigits (width n : Nat) : Solid (Decimal.padDigits width n) where
  nonempty := by
    rw [Decimal.padDigits]
    exact List.append_ne_nil_of_right_ne_nil _ Nat.toDigits_ne_nil
  solid _ hc := isBlank_of_isDigit (Decimal.isDigit_of_mem_padDigits hc)

theorem solid_date (d : CalendarDate) : Solid d.text :=
  (solid_padDigits 4 d.year).append <| .cons (by decide) <|
    (solid_padDigits 2 d.month).append <| .cons (by decide) (solid_padDigits 2 d.day)

theorem isBlank_of_mem_fractionText {t : ClockTime} {c : Char} (h : c ∈ t.fractionText) :
    isBlank c = false := by
  rw [ClockTime.fractionText] at h
  split at h
  · exact absurd h List.not_mem_nil
  · rcases List.mem_cons.mp h with rfl | h
    · decide
    · exact isBlank_of_isDigit (t.digits c h)

theorem solid_time (t : ClockTime) : Solid t.text := by
  have hseconds : Solid (Decimal.padDigits 2 t.second ++ t.fractionText) := by
    refine ⟨List.append_ne_nil_of_left_ne_nil (solid_padDigits 2 t.second).nonempty _, fun c hc => ?_⟩
    rcases List.mem_append.mp hc with hc | hc
    · exact (solid_padDigits 2 t.second).solid c hc
    · exact isBlank_of_mem_fractionText hc
  exact (solid_padDigits 2 t.hour).append <| .cons (by decide) <|
    (solid_padDigits 2 t.minute).append <| .cons (by decide) hseconds

theorem solid_offset (o : UtcOffset) : Solid o.text := by
  refine .cons ?_ ((solid_padDigits 2 o.hours).append (.cons (by decide) (solid_padDigits 2 o.minutes)))
  cases o.behind <;> decide

end Text

/-! ## Reading -/

/-- A text is read by the first form that takes all of it. -/
theorem Timestamp.read?_ofList {l : List Char} (h : Text.Bare l) :
    read? (String.ofList l) = (zoned? l <|> joined? l <|> spaced? l <|> bare? l) := by
  have hpadded : Text.Padded l l := ⟨[], [], nofun, nofun, by simp⟩
  simp only [read?, String.toList_ofList, hpadded.trim_eq h]

/-- The timestamp with these characters. -/
def Value.stamp (l : List Char) : Value := .string (String.ofList l)

theorem Value.instant?_stamp {l : List Char} (h : Text.Bare l) :
    (stamp l).instant? = (Timestamp.zoned? l <|> Timestamp.joined? l <|> Timestamp.spaced? l
      <|> Timestamp.bare? l) :=
  Timestamp.read?_ofList h

theorem Value.instant?_stamp_padded {l body : List Char} (h : Text.Padded l body) :
    (stamp l).instant? = (stamp body).instant? := by
  simp only [stamp, instant?, Timestamp.read?, String.toList_ofList, h.trim_eq_trim]

section

variable (d : CalendarDate) (t : ClockTime)

theorem Text.bare_stamp (c : Char) : Bare (d.text ++ c :: t.text) :=
  (solid_date d).bare (solid_time t) [c]

theorem instant?_joined : (Value.stamp (d.text ++ 'T' :: t.text)).instant? = some (d.at t) := by
  have hends : Timestamp.EndsTime [] := nofun
  have hzoned := Timestamp.zoned?_text d t (.inl rfl) hends
  rw [List.append_nil] at hzoned
  rw [Value.instant?_stamp (Text.bare_stamp d t 'T'), hzoned, Timestamp.joined?_text]
  rfl

theorem instant?_spaced : (Value.stamp (d.text ++ ' ' :: t.text)).instant? = some (d.at t) := by
  have hends : Timestamp.EndsTime [] := nofun
  have hzoned := Timestamp.zoned?_text d t (.inr rfl) hends
  rw [List.append_nil] at hzoned
  rw [Value.instant?_stamp (Text.bare_stamp d t ' '), hzoned, Timestamp.joined?_of_ne rfl,
    Timestamp.spaced?_text]
  rfl

theorem instant?_date : (Value.stamp d.text).instant? = some (d.at .midnight) := by
  have hbare : Text.Bare d.text := .of_forall (Text.solid_date d).solid
  have hmark : Timestamp.mark 'T' [] = none := rfl
  have hjoined := Timestamp.joined?_of_ne (d := d) hmark
  rw [List.append_nil] at hjoined
  rw [Value.instant?_stamp hbare, Timestamp.zoned?_date, hjoined, Timestamp.spaced?_date,
    Timestamp.bare?_date]
  rfl

theorem instant?_zoned {sep : Char} (hsep : sep = 'T' ∨ sep = ' ') {zone : List Char}
    (hends : Timestamp.EndsTime zone) (hsolid : Text.Solid zone) {shift : Int}
    (hoffset : Timestamp.offset zone = some (shift, [])) :
    (Value.stamp (d.text ++ sep :: (t.text ++ zone))).instant? = some ((d.at t).earlier shift) := by
  have hbare : Text.Bare (d.text ++ sep :: (t.text ++ zone)) :=
    (Text.solid_date d).bare ((Text.solid_time t).append hsolid) [sep]
  rw [Value.instant?_stamp hbare, Timestamp.zoned?_text d t hsep hends, hoffset]
  rfl

theorem instant?_universal {sep : Char} (hsep : sep = 'T' ∨ sep = ' ') :
    (Value.stamp (d.text ++ sep :: (t.text ++ ['Z']))).instant? = some (d.at t) := by
  have hends : Timestamp.EndsTime ['Z'] := by
    intro c hc
    obtain rfl := Option.some.inj hc
    decide
  have hsolid : Text.Solid ['Z'] := ⟨List.cons_ne_nil _ _, List.forall_mem_singleton.mpr (by decide)⟩
  rw [instant?_zoned d t hsep hends hsolid Timestamp.offset_universal,
    Instant.earlier_zero (d.second_at_lt t)]

/-- What is read of a date and a time in their written forms. -/
structure FormsAgree : Prop where
  /-- With a `T` or a space between them, and with or without a mark of universal time, a date and a
  time are the same instant. -/
  joined : (Value.stamp (d.text ++ 'T' :: t.text)).instant? = some (d.at t)
  spaced : (Value.stamp (d.text ++ ' ' :: t.text)).instant? = some (d.at t)
  joinedUniversal : (Value.stamp (d.text ++ 'T' :: (t.text ++ ['Z']))).instant? = some (d.at t)
  spacedUniversal : (Value.stamp (d.text ++ ' ' :: (t.text ++ ['Z']))).instant? = some (d.at t)
  /-- A date alone is its first moment in universal time. -/
  alone : (Value.stamp d.text).instant? = some (d.at .midnight)
    ∧ (Value.stamp (d.text ++ "T00:00:00Z".toList)).instant? = some (d.at .midnight)
  /-- An offset is subtracted from the seconds, and the fraction and a leap second are kept. -/
  shifted : ∀ o : UtcOffset, ∃ u,
    (Value.stamp (d.text ++ 'T' :: (t.text ++ o.text))).instant? = some u
      ∧ u.unixSeconds = (d.at t).unixSeconds - o.seconds ∧ u.nano = (d.at t).nano
      ∧ u.second < Instant.secondsPerDay

end

theorem formsAgree (d : CalendarDate) (t : ClockTime) : FormsAgree d t where
  joined := instant?_joined d t
  spaced := instant?_spaced d t
  joinedUniversal := instant?_universal d t (.inl rfl)
  spacedUniversal := instant?_universal d t (.inr rfl)
  alone := ⟨instant?_date d, instant?_universal d .midnight (.inl rfl)⟩
  shifted o := by
    refine ⟨_, ?_, (d.at t).earlier_spec o.seconds⟩
    exact instant?_zoned d t (.inl rfl) (Timestamp.endsTime_offset o) (Text.solid_offset o)
      (Timestamp.offset_text o)

/-- **All forms of a timestamp agree**, white space around it does not matter, and only a string is one. -/
theorem timestamp_forms_agree :
    (∀ d t, FormsAgree d t)
      ∧ (∀ l body, Text.Padded l body → (Value.stamp l).instant? = (Value.stamp body).instant?)
      ∧ ∀ v : Value, (∀ s, v ≠ .string s) → v.instant? = none := by
  refine ⟨formsAgree, fun l body h => Value.instant?_stamp_padded h, fun v hv => ?_⟩
  cases v with
  | string s => exact absurd rfl (hv s)
  | _ => rfl

/-- The leap second at the end of 2016, written half an hour and an hour ahead of universal time. -/
theorem timestamp_forms_agree_on_leap_second :
    ∃ u, (Value.string "2016-12-31T23:59:60.5+01:30").instant? = some u
      ∧ u.unixSeconds = 1483228799 - 5400 ∧ u.nano = 1500000000 := by
  let d : CalendarDate := ⟨2016, 12, 31, by decide, by decide⟩
  let t : ClockTime :=
    ⟨23, 59, 60, ['5'], by decide, by decide, by decide, List.forall_mem_singleton.mpr rfl⟩
  let o : UtcOffset := ⟨false, 1, 30, by decide, by decide⟩
  have htext : d.text ++ 'T' :: (t.text ++ o.text) = "2016-12-31T23:59:60.5+01:30".toList := by
    decide
  obtain ⟨u, hread, hseconds, hnano, -⟩ := (timestamp_forms_agree.1 d t).shifted o
  rw [htext, Value.stamp, String.ofList_toList] at hread
  exact ⟨u, hread, hseconds.trans (by decide), hnano.trans (by decide)⟩

end Rollout
