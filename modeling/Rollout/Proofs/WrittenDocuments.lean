import Rollout.Json.Printer
import Rollout.Json.Reader

/-!
# Written documents are read back

A document without numbers is read back from its text as it was. Texts take any character: the reader
undoes each escape of the writer. For arrays and objects the argument goes along the fuel: a document
takes at most two steps of the reader for each character that was written for it.
-/

namespace Rollout.Json

/-! ## Texts -/

theorem before_some (c : Char) (text rest : List Char) :
    before c (some (text, rest)) = some (c :: text, rest) :=
  rfl

/-- The four digits of a control are read as its number. -/
theorem unit?_hexDigit : ∀ n < 32,
    unit? '0' '0' (hexDigit (n / 16)) (hexDigit n) = some n := by
  decide

/-- However a character is written, it is read as itself. -/
theorem readText?_escapeChar (c : Char) (rest : List Char) :
    readText? (escapeChar c ++ rest) = before c (readText? rest) := by
  have hself : Char.ofNat c.toNat = c := Char.ofNat_toNat c
  unfold escapeChar
  split
  · next hquote => subst hquote; rfl
  split
  · next hbackslash => subst hbackslash; rfl
  split
  · next hnewline => subst hnewline; rfl
  split
  · next hreturn => subst hreturn; rfl
  split
  · next htab => subst htab; rfl
  split
  · next hbackspace => rw [← hself, hbackspace]; rfl
  split
  · next hfeed => rw [← hself, hfeed]; rfl
  split
  · -- the other controls stand as the number of one unit
    next hcontrol =>
    have hunit := unit?_hexDigit c.toNat hcontrol
    have hlow : c.toNat < 0xD800 := by omega
    simp only [List.cons_append, List.nil_append]
    rw [readText?]
    simp [hunit, hlow, hself]
  · next hquote hbackslash _ _ _ _ _ hcontrol =>
    rw [List.singleton_append, readText?]
    · simp [hcontrol, hbackslash]
    all_goals simp [hquote, hbackslash]

/-- The text between its quotes is read up to the closing one. -/
theorem readText?_flatMap (l rest : List Char) :
    readText? (l.flatMap escapeChar ++ '"' :: rest) = some (l, rest) := by
  induction l with
  | nil => rfl
  | cons c l ih =>
    rw [List.flatMap_cons, List.append_assoc, readText?_escapeChar, ih, before_some]

/-! ## Documents without numbers -/

/-- There is no number anywhere in the document. -/
inductive Numberless : Json → Prop
  | null : Numberless .null
  | bool (b : Bool) : Numberless (.bool b)
  | string (s : String) : Numberless (.string s)
  | array {items : List Json} (h : ∀ j ∈ items, Numberless j) : Numberless (.array items)
  | object {members : List (String × Json)} (h : ∀ m ∈ members, Numberless m.2) :
    Numberless (.object members)

theorem skipSpace_cons {c : Char} (h : isSpace c = false) (l : List Char) :
    skipSpace (c :: l) = c :: l :=
  List.dropWhile_cons_of_neg (by simp [h])

/-- A document starts neither with white space nor with a bracket that closes. -/
theorem Numberless.exists_write {j : Json} (h : j.Numberless) :
    ∃ c l, j.write = c :: l ∧ isSpace c = false ∧ c ≠ ']' := by
  cases h with
  | null => exact ⟨_, _, rfl, rfl, by decide⟩
  | bool b => cases b <;> exact ⟨_, _, rfl, rfl, by decide⟩
  | string s => exact ⟨_, _, rfl, rfl, by decide⟩
  | array => exact ⟨_, _, rfl, rfl, by decide⟩
  | object => exact ⟨_, _, rfl, rfl, by decide⟩

/-- A document is read back from its text, whatever follows it. -/
def ReadBack (j : Json) : Prop :=
  ∀ fuel rest, 2 * j.write.length ≤ fuel → readValue? fuel (j.write ++ rest) = some (j, rest)

theorem writeItems_cons (j k : Json) (items : List Json) :
    writeItems (j :: k :: items) = j.write ++ ',' :: writeItems (k :: items) :=
  rfl

theorem writeMembers_cons (name : String) (j : Json) (m : String × Json)
    (members : List (String × Json)) :
    writeMembers ((name, j) :: m :: members)
      = writeText name ++ ':' :: j.write ++ ',' :: writeMembers (m :: members) :=
  rfl

theorem readItems?_writeItems {j : Json} {items : List Json}
    (h : ∀ k ∈ j :: items, ReadBack k) {fuel : Nat} (rest : List Char)
    (hfuel : 2 * (writeItems (j :: items)).length < fuel) :
    readItems? fuel (writeItems (j :: items) ++ ']' :: rest) = some (j :: items, rest) := by
  induction items generalizing j fuel with
  | nil =>
    obtain ⟨fuel, rfl⟩ := Nat.exists_eq_add_one_of_ne_zero (Nat.ne_zero_of_lt hfuel)
    have hj := h j List.mem_cons_self fuel (']' :: rest) (Nat.le_of_lt_succ hfuel)
    rw [readItems?, writeItems, hj]
    rfl
  | cons k items ih =>
    obtain ⟨fuel, rfl⟩ := Nat.exists_eq_add_one_of_ne_zero (Nat.ne_zero_of_lt hfuel)
    rw [writeItems_cons] at hfuel ⊢
    rw [List.length_append, List.length_cons] at hfuel
    have hlater : 2 * (writeItems (k :: items)).length < fuel := by omega
    have hj := h j List.mem_cons_self fuel (',' :: writeItems (k :: items) ++ ']' :: rest) (by omega)
    have hitems := ih (fun i hi => h i (List.mem_cons_of_mem _ hi)) hlater
    rw [readItems?, List.append_assoc, hj]
    simp [skipSpace_cons (c := ',') rfl, hitems]

theorem readMembers?_last (name : String) {j : Json} {fuel : Nat} {rest : List Char}
    (hj : readValue? fuel (j.write ++ '\x7d' :: rest) = some (j, '\x7d' :: rest)) :
    readMembers? (fuel + 1) (writeText name ++ ':' :: j.write ++ '\x7d' :: rest)
      = some ([(name, j)], rest) := by
  have hname := readText?_flatMap name.toList (':' :: (j.write ++ '\x7d' :: rest))
  simp [readMembers?, writeText, skipSpace_cons (c := '"') rfl, skipSpace_cons (c := ':') rfl,
    skipSpace_cons (c := '\x7d') rfl, hname, hj]

theorem readMembers?_next (name : String) {j : Json} {fuel : Nat} {l : List Char}
    (hj : readValue? fuel (j.write ++ ',' :: l) = some (j, ',' :: l)) :
    readMembers? (fuel + 1) (writeText name ++ ':' :: j.write ++ ',' :: l)
      = (readMembers? fuel l).map fun (members, r) => ((name, j) :: members, r) := by
  have hname := readText?_flatMap name.toList (':' :: (j.write ++ ',' :: l))
  simp [readMembers?, writeText, skipSpace_cons (c := '"') rfl, skipSpace_cons (c := ':') rfl,
    skipSpace_cons (c := ',') rfl, hname, hj]

theorem readMembers?_writeMembers {m : String × Json} {members : List (String × Json)}
    (h : ∀ k ∈ m :: members, ReadBack k.2) {fuel : Nat} (rest : List Char)
    (hfuel : 2 * (writeMembers (m :: members)).length < fuel) :
    readMembers? fuel (writeMembers (m :: members) ++ '\x7d' :: rest) = some (m :: members, rest) := by
  induction members generalizing m fuel with
  | nil =>
    obtain ⟨name, j⟩ := m
    obtain ⟨fuel, rfl⟩ := Nat.exists_eq_add_one_of_ne_zero (Nat.ne_zero_of_lt hfuel)
    rw [writeMembers, List.length_append, List.length_cons] at hfuel
    have hlength : 2 * j.write.length ≤ fuel := by omega
    have hj := h (name, j) List.mem_cons_self fuel ('\x7d' :: rest) hlength
    rw [writeMembers, readMembers?_last name hj]
  | cons k members ih =>
    obtain ⟨name, j⟩ := m
    obtain ⟨fuel, rfl⟩ := Nat.exists_eq_add_one_of_ne_zero (Nat.ne_zero_of_lt hfuel)
    rw [writeMembers_cons] at hfuel ⊢
    simp only [List.length_append, List.length_cons] at hfuel
    have hlength : 2 * j.write.length ≤ fuel := by omega
    have hj := h (name, j) List.mem_cons_self fuel
      (',' :: (writeMembers (k :: members) ++ '\x7d' :: rest)) hlength
    have hlater : 2 * (writeMembers (k :: members)).length < fuel := by omega
    have hmembers := ih (fun i hi => h i (List.mem_cons_of_mem _ hi)) hlater
    rw [List.append_assoc, List.cons_append, readMembers?_next name hj, hmembers]
    rfl

theorem exists_writeItems {j : Json} (h : j.Numberless) (items : List Json) :
    ∃ c l, writeItems (j :: items) = c :: l ∧ isSpace c = false ∧ c ≠ ']' := by
  obtain ⟨c, l, hwrite, hstart⟩ := h.exists_write
  cases items with
  | nil => exact ⟨c, l, hwrite, hstart⟩
  | cons k items => exact ⟨c, _, by rw [writeItems_cons, hwrite]; rfl, hstart⟩

theorem exists_writeMembers (m : String × Json) (members : List (String × Json)) :
    ∃ l, writeMembers (m :: members) = '"' :: l := by
  cases members <;> exact ⟨_, rfl⟩

/-- The first step of the reader, and what is left for the characters behind the first one. -/
theorem exists_fuel {c : Char} {l : List Char} {fuel : Nat} (h : 2 * (c :: l).length ≤ fuel) :
    ∃ f, fuel = f + 1 ∧ 2 * l.length < f := by
  rw [List.length_cons] at h
  exact ⟨fuel - 1, by omega, by omega⟩

theorem readBack_string (s : String) : ReadBack (.string s) := by
  intro fuel rest hfuel
  obtain ⟨fuel, rfl, -⟩ := exists_fuel hfuel
  have hread := readText?_flatMap s.toList rest
  rw [readValue?]
  simp [write, writeText, skipSpace_cons (c := '"') rfl, hread]

theorem readBack_array {items : List Json} (hitems : ∀ j ∈ items, j.Numberless)
    (hread : ∀ j ∈ items, ReadBack j) : ReadBack (.array items) := by
  intro fuel rest hfuel
  obtain ⟨fuel, rfl, hrest⟩ := exists_fuel hfuel
  cases items with
  | nil => rfl
  | cons j items =>
    obtain ⟨c, l, hwrite, hspace, hclose⟩ := exists_writeItems (hitems j List.mem_cons_self) items
    rw [List.append_eq, List.length_append] at hrest
    have hlength : 2 * (writeItems (j :: items)).length < fuel := by omega
    have hbody := readItems?_writeItems hread rest hlength
    rw [readValue?, write]
    rw [hwrite] at hbody ⊢
    simp only [List.cons_append, List.append_assoc, List.nil_append, skipSpace_cons (c := '[') rfl,
      skipSpace_cons hspace]
    split
    · next hstart => exact absurd (List.cons.inj hstart).1 hclose
    · rw [← List.cons_append, hbody]
      rfl

theorem readBack_object {members : List (String × Json)} (hread : ∀ m ∈ members, ReadBack m.2) :
    ReadBack (.object members) := by
  intro fuel rest hfuel
  obtain ⟨fuel, rfl, hrest⟩ := exists_fuel hfuel
  cases members with
  | nil => rfl
  | cons m members =>
    obtain ⟨l, hwrite⟩ := exists_writeMembers m members
    rw [List.append_eq, List.length_append] at hrest
    have hlength : 2 * (writeMembers (m :: members)).length < fuel := by omega
    have hbody := readMembers?_writeMembers hread rest hlength
    rw [readValue?, write]
    rw [hwrite] at hbody ⊢
    simpa [skipSpace_cons (c := '\x7b') rfl, skipSpace_cons (c := '"') rfl] using hbody

/-- A document without numbers is read back. -/
theorem Numberless.readBack {j : Json} (h : j.Numberless) : ReadBack j := by
  induction h with
  | null =>
    intro fuel rest hfuel
    obtain ⟨fuel, rfl, -⟩ := exists_fuel hfuel
    rfl
  | bool b =>
    intro fuel rest hfuel
    cases b <;> (obtain ⟨fuel, rfl, -⟩ := exists_fuel hfuel; rfl)
  | string s => exact readBack_string s
  | array hitems ih => exact readBack_array hitems ih
  | object _ ih => exact readBack_object ih

/-- The text of a document without numbers is read back to the document. -/
theorem parse?_render {j : Json} (h : j.Numberless) : parse? j.render = some j := by
  have hread := h.readBack (2 * j.write.length + 2) [] (Nat.le_add_right _ _)
  rw [List.append_nil] at hread
  rw [parse?, render, String.toList_ofList, hread]
  rfl

end Rollout.Json
