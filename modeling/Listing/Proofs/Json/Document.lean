import Listing.Proofs.Json.Literal
import Listing.Proofs.Json.Number

namespace Listing.Json

inductive Sound : Json → Prop
  | null : Sound .null
  | bool (b : Bool) : Sound (.bool b)
  | number {literal : List Char} : IsNumber literal → Sound (.number literal)
  | text {literal : List Char} : IsText literal → Sound (.text literal)
  | array {items : List Json} : (∀ j ∈ items, Sound j) → Sound (.array items)
  | object {members : List (List Char × Json)} : (∀ m ∈ members, IsText m.1) →
      (∀ m ∈ members, Sound m.2) → Sound (.object members)

variable {j : Json}

theorem length_writeItems {items : List Json}
    (longer : ∀ j ∈ items, ∀ rest : List Char, rest.length < (j.write rest).length)
    (rest : List Char) : rest.length ≤ (writeItems items rest).length := by
  induction items with
  | nil => rw [writeItems]
  | cons j items ih =>
    have behind := ih fun j listed => longer j (.tail _ listed)
    have front := longer j (.head _) (writeItems items rest)
    rw [writeItems, List.length_cons]
    omega

theorem length_writeMember {m : List Char × Json}
    (longer : ∀ rest : List Char, rest.length < (m.2.write rest).length) (rest : List Char) :
    rest.length < (writeMember m rest).length := by
  have value := longer rest
  rw [writeMember, writeText]
  simp only [List.length_cons, List.length_append]
  omega

theorem length_writeMembers {members : List (List Char × Json)}
    (longer : ∀ m ∈ members, ∀ rest : List Char, rest.length < (m.2.write rest).length)
    (rest : List Char) : rest.length ≤ (writeMembers members rest).length := by
  induction members with
  | nil => rw [writeMembers]
  | cons m members ih =>
    have behind := ih fun m listed => longer m (.tail _ listed)
    have front := length_writeMember (longer m (.head _)) (writeMembers members rest)
    rw [writeMembers, List.length_cons]
    omega

theorem ne_of_start {c d : Char} (start : c = '-' ∨ c.isDigit = true)
    (other : d ≠ '-' ∧ d.isDigit = false) : c ≠ d := by
  obtain rfl | digit := start
  · exact other.1.symm
  · exact Binary64.Numeral.ne_of_isDigit digit other.2

theorem Sound.length_write (h : j.Sound) : ∀ rest : List Char, rest.length < (j.write rest).length := by
  induction h with
  | null =>
    intro rest
    simp only [write, List.length_cons]
    omega
  | bool b =>
    intro rest
    cases b <;> simp only [write, List.length_cons] <;> omega
  | number isNumber =>
    intro rest
    obtain ⟨c, cs, rfl, -⟩ := isNumber.start
    simp only [write, List.length_cons, List.length_append]
    omega
  | text isText =>
    intro rest
    simp only [write, writeText, List.length_cons, List.length_append]
    omega
  | @array items _ ih =>
    intro rest
    cases items with
    | nil =>
      simp only [write, List.length_cons]
      omega
    | cons j items =>
      have behind := length_writeItems (fun j listed => ih j (.tail _ listed)) (']' :: rest)
      have front := ih j (.head _) (writeItems items (']' :: rest))
      simp only [write, List.length_cons] at behind ⊢
      omega
  | @object members _ _ ih =>
    intro rest
    cases members with
    | nil =>
      simp only [write, List.length_cons]
      omega
    | cons m members =>
      have behind := length_writeMembers (fun m listed => ih m (.tail _ listed)) ('\x7d' :: rest)
      have front := length_writeMember (ih m (.head _)) (writeMembers members ('\x7d' :: rest))
      simp only [write, List.length_cons] at behind ⊢
      omega

theorem Sound.write_cons (h : j.Sound) (rest : List Char) :
    ∃ c cs, j.write rest = c :: cs ∧ isBlank c = false ∧ c ≠ ']' := by
  cases h with
  | null => exact ⟨_, _, rfl, by decide, by decide⟩
  | bool b => cases b <;> exact ⟨_, _, rfl, by decide, by decide⟩
  | number isNumber =>
    obtain ⟨c, cs, rfl, start⟩ := isNumber.start
    have visible : isBlank c = false := by
      have space := ne_of_start start (d := ' ') (by decide)
      have tab := ne_of_start start (d := '\t') (by decide)
      have newline := ne_of_start start (d := '\n') (by decide)
      have carriage := ne_of_start start (d := '\r') (by decide)
      simp [isBlank, space, tab, newline, carriage]
    exact ⟨c, _, rfl, visible, ne_of_start start (by decide)⟩
  | text isText => exact ⟨_, _, rfl, by decide, by decide⟩
  | @array items _ => cases items <;> exact ⟨_, _, rfl, by decide, by decide⟩
  | @object members _ _ => cases members <;> exact ⟨_, _, rfl, by decide, by decide⟩

theorem skipBlanks_cons {c : Char} (visible : isBlank c = false) (cs : List Char) :
    skipBlanks (c :: cs) = c :: cs := by
  rw [skipBlanks, List.dropWhile_cons_of_neg (by simp [visible])]

theorem Sound.skipBlanks_write (h : j.Sound) (rest : List Char) :
    skipBlanks (j.write rest) = j.write rest := by
  obtain ⟨c, cs, start, visible, -⟩ := h.write_cons rest
  rw [start, skipBlanks_cons visible]

theorem readValue_number {literal rest : List Char} (h : IsNumber literal) (closed : Closes rest)
    (fuel : Nat) : readValue (fuel + 1) (literal ++ rest) = some (.number literal, rest) := by
  have scanned := scanNumber_append h closed
  obtain ⟨c, cs, rfl, start⟩ := h.start
  have quote := ne_of_start start (d := '"') (by decide)
  have bracket := ne_of_start start (d := '[') (by decide)
  have brace := ne_of_start start (d := '\x7b') (by decide)
  have n := ne_of_start start (d := 'n') (by decide)
  have t := ne_of_start start (d := 't') (by decide)
  have f := ne_of_start start (d := 'f') (by decide)
  rw [List.cons_append] at scanned ⊢
  obtain ⟨_, _, ⟨⟩, visible, -⟩ := (Sound.number h).write_cons rest
  simp [readValue, skipBlanks_cons visible, scanned, quote, bracket, brace, n, t, f]

/-- Reading gives back what was written, in front of anything that does not go on with a number. A level
of nesting and an item each take one unit of fuel, and there are two for every character. -/
def ReadsBack (j : Json) : Prop :=
  ∀ (rest : List Char) (fuel : Nat), Closes rest → 2 * (j.write rest).length ≤ fuel + 2 * rest.length →
    readValue fuel (j.write rest) = some (j, rest)

theorem closes_of_mem {c : Char} (h : c ∈ [',', ']', '\x7d']) (rest : List Char) : Closes (c :: rest) := by
  rintro _ ⟨⟩
  obtain rfl | rfl | rfl : c = ',' ∨ c = ']' ∨ c = '\x7d' := by simpa using h
  all_goals decide

theorem readItems_write {items : List Json} (sound : ∀ j ∈ items, j.Sound)
    (reads : ∀ j ∈ items, j.ReadsBack) {j : Json} (first : j.Sound) (firstReads : j.ReadsBack)
    (rest : List Char) (fuel : Nat)
    (enough : 2 * (j.write (writeItems items (']' :: rest))).length ≤ fuel + 2 * rest.length) :
    readItems fuel (j.write (writeItems items (']' :: rest))) = some (j :: items, rest) := by
  -- The induction is on the items behind the first, which is read with what they leave of the fuel.
  induction items generalizing j fuel with
  | nil =>
    have longer := first.length_write (']' :: rest)
    rw [writeItems] at enough ⊢
    rw [List.length_cons] at longer
    obtain ⟨fuel, rfl⟩ : ∃ fuel', fuel = fuel' + 1 := ⟨fuel - 1, by omega⟩
    have value := firstReads (']' :: rest) fuel (closes_of_mem (by simp) _)
      (by rw [List.length_cons]; omega)
    have bracket : skipBlanks (']' :: rest) = ']' :: rest := skipBlanks_cons (by decide) rest
    simp only [readItems, value, Option.bind_eq_bind, Option.bind_some, bracket]
  | cons j' items ih =>
    have longer := first.length_write (',' :: j'.write (writeItems items (']' :: rest)))
    have behind := length_writeItems (fun j listed => (sound j (.tail _ listed)).length_write)
      (']' :: rest)
    have longer' := (sound j' (.head _)).length_write (writeItems items (']' :: rest))
    rw [writeItems] at enough ⊢
    simp only [List.length_cons] at longer behind
    obtain ⟨fuel, rfl⟩ : ∃ fuel', fuel = fuel' + 1 := ⟨fuel - 1, by omega⟩
    have value := firstReads (',' :: j'.write (writeItems items (']' :: rest))) fuel
      (closes_of_mem (by simp) _) (by rw [List.length_cons]; omega)
    have others := ih (fun j listed => sound j (.tail _ listed))
      (fun j listed => reads j (.tail _ listed)) (sound j' (.head _)) (reads j' (.head _)) fuel
      (by omega)
    have comma := skipBlanks_cons (c := ',') (by decide) (j'.write (writeItems items (']' :: rest)))
    simp only [readItems, value, Option.bind_eq_bind, Option.bind_some, comma, others,
      Option.map_some]

section

variable {m : List Char × Json} {rest : List Char} {fuel : Nat}

theorem readMembers_last (name : IsText m.1)
    (value : readValue fuel (m.2.write ('\x7d' :: rest)) = some (m.2, '\x7d' :: rest)) :
    readMembers (fuel + 1) (writeMember m ('\x7d' :: rest)) = some ([m], rest) := by
  obtain ⟨literal, j⟩ := m
  simp only [readMembers, writeMember, writeText, skipBlanks_cons (c := '"') (by decide),
    skipBlanks_cons (c := ':') (by decide), skipBlanks_cons (c := '\x7d') (by decide), name _,
    value, Option.bind_eq_bind, Option.bind_some]

theorem readMembers_more (name : IsText m.1)
    (value : readValue fuel (m.2.write (',' :: rest)) = some (m.2, ',' :: rest)) :
    readMembers (fuel + 1) (writeMember m (',' :: rest)) =
      (readMembers fuel rest).map fun (members, rest) => (m :: members, rest) := by
  obtain ⟨literal, j⟩ := m
  simp only [readMembers, writeMember, writeText, skipBlanks_cons (c := '"') (by decide),
    skipBlanks_cons (c := ':') (by decide), skipBlanks_cons (c := ',') (by decide), name _, value,
    Option.bind_eq_bind, Option.bind_some]

end

theorem length_value_lt (m : List Char × Json) (rest : List Char) :
    (m.2.write rest).length + 3 ≤ (writeMember m rest).length := by
  rw [writeMember, writeText]
  simp only [List.length_cons, List.length_append]
  omega

theorem readMembers_write {members : List (List Char × Json)} (names : ∀ m ∈ members, IsText m.1)
    (sound : ∀ m ∈ members, m.2.Sound) (reads : ∀ m ∈ members, m.2.ReadsBack)
    {m : List Char × Json} (name : IsText m.1) (first : m.2.Sound) (firstReads : m.2.ReadsBack)
    (rest : List Char) (fuel : Nat)
    (enough : 2 * (writeMember m (writeMembers members ('\x7d' :: rest))).length ≤
      fuel + 2 * rest.length) :
    readMembers fuel (writeMember m (writeMembers members ('\x7d' :: rest))) =
      some (m :: members, rest) := by
  induction members generalizing m fuel with
  | nil =>
    have longer := first.length_write ('\x7d' :: rest)
    have member := length_value_lt m ('\x7d' :: rest)
    rw [writeMembers] at enough ⊢
    rw [List.length_cons] at longer
    obtain ⟨fuel, rfl⟩ : ∃ fuel', fuel = fuel' + 1 := ⟨fuel - 1, by omega⟩
    have value := firstReads ('\x7d' :: rest) fuel (closes_of_mem (by simp) _)
      (by rw [List.length_cons]; omega)
    exact readMembers_last name value
  | cons m' members ih =>
    have longer := first.length_write (',' :: writeMember m' (writeMembers members ('\x7d' :: rest)))
    have member := length_value_lt m (',' :: writeMember m' (writeMembers members ('\x7d' :: rest)))
    have behind := length_writeMembers (fun m listed => (sound m (.tail _ listed)).length_write)
      ('\x7d' :: rest)
    have longer' := length_writeMember (sound m' (.head _)).length_write
      (writeMembers members ('\x7d' :: rest))
    rw [writeMembers] at enough ⊢
    simp only [List.length_cons] at longer behind
    obtain ⟨fuel, rfl⟩ : ∃ fuel', fuel = fuel' + 1 := ⟨fuel - 1, by omega⟩
    have value := firstReads (',' :: writeMember m' (writeMembers members ('\x7d' :: rest))) fuel
      (closes_of_mem (by simp) _) (by rw [List.length_cons]; omega)
    have others := ih (fun m listed => names m (.tail _ listed))
      (fun m listed => sound m (.tail _ listed)) (fun m listed => reads m (.tail _ listed))
      (names m' (.head _)) (sound m' (.head _)) (reads m' (.head _)) fuel (by omega)
    rw [readMembers_more name value, others, Option.map_some]

theorem Sound.readsBack (h : j.Sound) : j.ReadsBack := by
  induction h with
  | null =>
    intro rest fuel _ enough
    simp only [write, List.length_cons] at enough ⊢
    obtain ⟨fuel, rfl⟩ : ∃ fuel', fuel = fuel' + 1 := ⟨fuel - 1, by omega⟩
    simp only [readValue, skipBlanks_cons (c := 'n') (by decide)]
  | bool b =>
    intro rest fuel _ enough
    cases b
    all_goals
      simp only [write, List.length_cons] at enough ⊢
      obtain ⟨fuel, rfl⟩ : ∃ fuel', fuel = fuel' + 1 := ⟨fuel - 1, by omega⟩
      simp only [readValue, skipBlanks_cons (c := 't') (by decide),
        skipBlanks_cons (c := 'f') (by decide)]
  | number isNumber =>
    intro rest fuel closed enough
    have longer := (Sound.number isNumber).length_write rest
    obtain ⟨fuel, rfl⟩ : ∃ fuel', fuel = fuel' + 1 := ⟨fuel - 1, by omega⟩
    rw [write, readValue_number isNumber closed]
  | text isText =>
    intro rest fuel _ enough
    have longer := (Sound.text isText).length_write rest
    obtain ⟨fuel, rfl⟩ : ∃ fuel', fuel = fuel' + 1 := ⟨fuel - 1, by omega⟩
    rw [write, writeText]
    simp only [readValue, skipBlanks_cons (c := '"') (by decide), isText rest, Option.map_some]
  | @array items sound ih =>
    intro rest fuel _ enough
    have longer := (Sound.array sound).length_write rest
    obtain ⟨fuel, rfl⟩ : ∃ fuel', fuel = fuel' + 1 := ⟨fuel - 1, by omega⟩
    cases items with
    | nil =>
      simp only [write, readValue, skipBlanks_cons (c := '[') (by decide),
        skipBlanks_cons (c := ']') (by decide)]
    | cons j items =>
      obtain ⟨c, cs, start, visible, open_⟩ :=
        (sound j (.head _)).write_cons (writeItems items (']' :: rest))
      have blanks := (sound j (.head _)).skipBlanks_write (writeItems items (']' :: rest))
      rw [write, List.length_cons] at enough
      have listed := readItems_write (fun j listed => sound j (.tail _ listed))
        (fun j listed => ih j (.tail _ listed)) (sound j (.head _)) (ih j (.head _)) rest fuel
        (by omega)
      rw [start] at blanks listed
      simp [write, readValue, skipBlanks_cons (c := '[') (by decide), start, blanks, open_, listed]
  | @object members names sound ih =>
    intro rest fuel _ enough
    have longer := (Sound.object names sound).length_write rest
    obtain ⟨fuel, rfl⟩ : ∃ fuel', fuel = fuel' + 1 := ⟨fuel - 1, by omega⟩
    cases members with
    | nil =>
      simp only [write, readValue, skipBlanks_cons (c := '\x7b') (by decide),
        skipBlanks_cons (c := '\x7d') (by decide)]
    | cons m members =>
      rw [write, List.length_cons] at enough
      have listed := readMembers_write (fun m listed => names m (.tail _ listed))
        (fun m listed => sound m (.tail _ listed)) (fun m listed => ih m (.tail _ listed))
        (names m (.head _)) (sound m (.head _)) (ih m (.head _)) rest fuel (by omega)
      obtain ⟨literal, j⟩ := m
      rw [writeMember, writeText] at listed
      simp [write, writeMember, writeText, readValue, skipBlanks_cons (c := '\x7b') (by decide),
        skipBlanks_cons (c := '"') (by decide), listed]

theorem read?_print (h : j.Sound) : read? j.print = some j := by
  have back := h.readsBack [] (2 * (j.write []).length + 2) (by rintro _ ⟨⟩) (by omega)
  unfold read? print
  simp only [String.toList_ofList, back]
  rfl

end Listing.Json
