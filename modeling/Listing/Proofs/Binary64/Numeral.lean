import Listing.Binary64.Layout
import Listing.Binary64.Reader
import Listing.Proofs.Binary64.Shortest

namespace Listing.Binary64

structure Numeral where
  before : List Char
  after : Option (List Char)
  exponent : Option (List Char × List Char)

namespace Numeral

def fraction (n : Numeral) : List Char := n.after.elim [] ('.' :: ·)

def power (n : Numeral) : List Char := n.exponent.elim [] fun (sign, digits) => 'e' :: (sign ++ digits)

def text (n : Numeral) : List Char := n.before ++ (n.fraction ++ n.power)

def AreDigits (cs : List Char) : Prop := cs ≠ [] ∧ ∀ c ∈ cs, c.isDigit = true

structure WellFormed (n : Numeral) : Prop where
  before : AreDigits n.before
  leading : n.before = ['0'] ∨ n.before.head? ≠ some '0'
  after : ∀ digits, n.after = some digits → AreDigits digits
  sign : ∀ sign digits, n.exponent = some (sign, digits) → sign = [] ∨ sign = ['+'] ∨ sign = ['-']
  exponent : ∀ sign digits, n.exponent = some (sign, digits) → AreDigits digits

def digits (n : Numeral) : Nat := Nat.ofDigitChars 10 (n.before ++ n.after.getD []) 0

def exponentValue (n : Numeral) : Int :=
  n.exponent.elim 0 fun (sign, digits) =>
    if sign = ['-'] then -Nat.ofDigitChars 10 digits 0 else Nat.ofDigitChars 10 digits 0

def scale (n : Numeral) : Int := n.exponentValue - (n.after.getD []).length

def value (n : Numeral) : ℚ := n.digits * 10 ^ n.scale

def isWhole (n : Numeral) : Bool := n.after.isNone && n.exponent.isNone

variable {n : Numeral}

theorem takeWhile_digits {cs rest : List Char} (digits : ∀ c ∈ cs, c.isDigit = true)
    (closed : ∀ c ∈ rest.head?, c.isDigit = false) :
    (cs ++ rest).takeWhile Char.isDigit = cs ∧ (cs ++ rest).dropWhile Char.isDigit = rest := by
  rw [List.takeWhile_append_of_pos digits, List.dropWhile_append_of_pos digits]
  cases rest with
  | nil => exact ⟨List.append_nil _, rfl⟩
  | cons c rest =>
    have other : c.isDigit = false := closed c rfl
    rw [List.takeWhile_cons_of_neg (by simp [other]), List.dropWhile_cons_of_neg (by simp [other])]
    exact ⟨List.append_nil _, rfl⟩

theorem digits?_of_areDigits {cs : List Char} (h : AreDigits cs) :
    Integer.digits? cs = some (Nat.ofDigitChars 10 cs 0) := if_pos ⟨h.1, List.all_eq_true.2 h.2⟩

theorem ne_of_isDigit {c d : Char} (digit : c.isDigit = true) (other : d.isDigit = false) : c ≠ d := by
  rintro rfl
  rw [digit] at other
  cases other

theorem readExponent?_power (h : n.WellFormed) : readExponent? n.power = some n.exponentValue := by
  unfold power exponentValue
  cases parts : n.exponent with
  | none => rfl
  | some pair =>
    obtain ⟨sign, digits⟩ := pair
    have areDigits := h.exponent sign digits parts
    have read := digits?_of_areDigits areDigits
    obtain rfl | rfl | rfl := h.sign sign digits parts
    · obtain ⟨c, cs, rfl⟩ := List.exists_cons_of_ne_nil areDigits.1
      have digit := areDigits.2 c (.head _)
      have minus : c ≠ '-' := ne_of_isDigit digit (by decide)
      have plus : c ≠ '+' := ne_of_isDigit digit (by decide)
      simp [readExponent?, read, minus, plus]
    · simp [readExponent?, read]
    · simp [readExponent?, read]

theorem power_cases (n : Numeral) : n.power = [] ∨ ∃ rest, n.power = 'e' :: rest := by
  unfold power
  cases n.exponent with
  | none => exact .inl rfl
  | some pair => exact .inr ⟨_, rfl⟩

theorem closed_power (n : Numeral) : ∀ c ∈ n.power.head?, c.isDigit = false := by
  obtain none | ⟨rest, some⟩ := n.power_cases
  · simp [none]
  · simp +decide [some]

theorem readUnsigned?_text (h : n.WellFormed) (negative : Bool) :
    readUnsigned? negative n.text = some (ofDecimal negative n.digits n.scale) := by
  have exponent := readExponent?_power h
  have closed := n.closed_power
  have some_digits := h.before.1
  unfold text fraction digits scale
  cases point : n.after with
  | none =>
    obtain ⟨before, rest⟩ := takeWhile_digits h.before.2 closed
    unfold readUnsigned?
    simp only [Option.elim_none, List.nil_append, before, rest, some_digits, false_and, if_false,
      Option.getD_none]
    obtain none | ⟨tail, some⟩ := n.power_cases
    · rw [none] at exponent ⊢
      exact congrArg (Option.map _) exponent
    · rw [some] at exponent ⊢
      exact congrArg (Option.map _) exponent
  | some after =>
    have areDigits := h.after after point
    obtain ⟨before, rest⟩ := @takeWhile_digits n.before ('.' :: (after ++ n.power)) h.before.2
      (by simp +decide)
    obtain ⟨behind, rest'⟩ := takeWhile_digits areDigits.2 closed
    unfold readUnsigned?
    simp only [Option.elim_some, List.cons_append, before, rest, behind, rest', some_digits,
      false_and, if_false, exponent, Option.map_some, Option.getD_some]

theorem text_cons (h : n.WellFormed) : ∃ c cs, n.text = c :: cs ∧ c.isDigit = true := by
  obtain ⟨c, cs, start⟩ := List.exists_cons_of_ne_nil h.before.1
  refine ⟨c, cs ++ (n.fraction ++ n.power), ?_, h.before.2 c (start ▸ .head _)⟩
  rw [text, start, List.cons_append]

theorem read?_text (h : n.WellFormed) :
    read? n.text = some (ofDecimal false n.digits n.scale) := by
  rw [← readUnsigned?_text h]
  obtain ⟨c, cs, start, digit⟩ := text_cons h
  have minus : c ≠ '-' := ne_of_isDigit digit (by decide)
  have plus : c ≠ '+' := ne_of_isDigit digit (by decide)
  simp [start, read?, minus, plus]

theorem exists_mark (broken : n.isWhole = false) : ∃ c ∈ n.text, c = '.' ∨ c = 'e' ∨ c = 'E' := by
  unfold isWhole at broken
  unfold text fraction power
  cases point : n.after with
  | some after => exact ⟨'.', by simp, .inl rfl⟩
  | none =>
    cases parts : n.exponent with
    | some pair => exact ⟨'e', by simp, .inr (.inl rfl)⟩
    | none => simp [point, parts] at broken

variable {before after : List Char}

def whole (before : List Char) : Numeral := ⟨before, none, none⟩

def pointed (before after : List Char) : Numeral := ⟨before, some after, none⟩

def scientific (first : Char) (others sign : List Char) (power : Int) : Numeral where
  before := [first]
  after := if others = [] then none else some others
  exponent := some (sign, Nat.toDigits 10 power.natAbs)

theorem wellFormed_whole (digits : AreDigits before)
    (leading : before = ['0'] ∨ before.head? ≠ some '0') : (whole before).WellFormed where
  before := digits
  leading := leading
  after _ h := nomatch h
  sign _ _ h := nomatch h
  exponent _ _ h := nomatch h

theorem wellFormed_pointed (digits : AreDigits before)
    (leading : before = ['0'] ∨ before.head? ≠ some '0') (behind : AreDigits after) :
    (pointed before after).WellFormed where
  before := digits
  leading := leading
  after _ h := Option.some.inj h ▸ behind
  sign _ _ h := nomatch h
  exponent _ _ h := nomatch h

theorem text_whole (before : List Char) : (whole before).text = before := List.append_nil _

theorem text_pointed (before after : List Char) : (pointed before after).text = before ++ '.' :: after :=
  congrArg (before ++ ·) (List.append_nil _)

theorem value_whole (before : List Char) : (whole before).value = Nat.ofDigitChars 10 before 0 := by
  have digits : (whole before).digits = Nat.ofDigitChars 10 before 0 :=
    congrArg (Nat.ofDigitChars 10 · 0) (List.append_nil _)
  have scale : (whole before).scale = 0 := rfl
  rw [value, digits, scale, zpow_zero, mul_one]

theorem value_pointed (before after : List Char) : (pointed before after).value =
    Nat.ofDigitChars 10 (before ++ after) 0 * (10 : ℚ) ^ (-after.length : ℤ) := by
  have scale : (pointed before after).scale = -after.length := Int.zero_sub _
  rw [value, scale]
  rfl

theorem areDigits_toDigits (n : Nat) : AreDigits (Nat.toDigits 10 n) :=
  ⟨Nat.toDigits_ne_nil, fun _ => Nat.isDigit_of_mem_toDigits (by decide) (by decide)⟩

theorem areDigits_singleton {c : Char} (digit : c.isDigit = true) : AreDigits [c] :=
  ⟨List.cons_ne_nil _ _, fun _ member => List.mem_singleton.1 member ▸ digit⟩

section

variable {first : Char} {others sign : List Char} {power : Int}

theorem wellFormed_scientific (digits : AreDigits (first :: others)) (leading : first ≠ '0')
    (signed : sign = [] ∨ sign = ['+'] ∨ sign = ['-']) :
    (scientific first others sign power).WellFormed where
  before := areDigits_singleton (digits.2 first (.head _))
  leading := .inr fun zero => leading (Option.some.inj zero)
  after := by
    intro behind h
    rw [scientific] at h
    split at h
    · cases h
    · obtain rfl := Option.some.inj h
      exact ⟨‹_›, fun c member => digits.2 c (.tail _ member)⟩
  sign := by
    rintro _ _ ⟨⟩
    exact signed
  exponent := by
    rintro _ _ ⟨⟩
    exact areDigits_toDigits _

theorem exponentValue_scientific (fits : sign = ['-'] ↔ power < 0) :
    (scientific first others sign power).exponentValue = power := by
  unfold exponentValue scientific
  simp only [Option.elim_some, Nat.ofDigitChars_ten_toDigits]
  split
  · have := fits.1 ‹_›
    omega
  · have := mt fits.2 ‹_›
    omega

theorem value_scientific (fits : sign = ['-'] ↔ power < 0) :
    (scientific first others sign power).value =
      Nat.ofDigitChars 10 (first :: others) 0 * (10 : ℚ) ^ (power - others.length) := by
  have behind : (scientific first others sign power).after.getD [] = others := by
    rw [scientific]
    split
    · exact Eq.symm ‹_›
    · rfl
  rw [value, digits, scale, exponentValue_scientific fits, behind]
  rfl

end

end Numeral

end Listing.Binary64
