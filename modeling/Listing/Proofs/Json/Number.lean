import Listing.Json.Number
import Listing.Json.Reader
import Listing.Proofs.Binary64.Layout

namespace Listing

open Binary64 (Numeral)

namespace Json

def Closes (rest : List Char) : Prop :=
  ∀ c ∈ rest.head?, c.isDigit = false ∧ c ≠ '.' ∧ c ≠ 'e' ∧ c ≠ 'E'

def IsNumber (literal : List Char) : Prop := scanNumber literal = some (literal, [])

def IsMarked (literal : List Char) : Prop := ∃ c ∈ literal, c = '.' ∨ c = 'e' ∨ c = 'E'

variable {cs taken behind rest : List Char}

theorem scanDigits_append (cs : List Char) (closed : ∀ c ∈ rest.head?, c.isDigit = false) :
    scanDigits (cs ++ rest) = ((scanDigits cs).1, (scanDigits cs).2 ++ rest) := by
  induction cs with
  | nil =>
    obtain ⟨front, back⟩ := Numeral.takeWhile_digits (List.forall_mem_nil _) closed
    exact Prod.ext front back
  | cons c cs ih =>
    obtain ⟨front, back⟩ := Prod.ext_iff.1 ih
    by_cases digit : c.isDigit = true
    · exact Prod.ext (by simpa [scanDigits, digit] using front) (by simpa [scanDigits, digit] using back)
    · simp [scanDigits, digit]

theorem scanWhole_of_ne {c : Char} (other : c ≠ '0') (cs : List Char) : scanWhole (c :: cs) =
    if (scanDigits (c :: cs)).1 = [] then none else some (scanDigits (c :: cs)) := by
  rw [scanWhole]
  rintro _ ⟨⟩
  exact other rfl

theorem scanFraction_of_ne {c : Char} (other : c ≠ '.') (cs : List Char) :
    scanFraction (c :: cs) = some ([], c :: cs) := by
  rw [scanFraction]
  rintro _ ⟨⟩
  exact other rfl

theorem scanWhole_append (h : scanWhole cs = some (taken, behind))
    (closed : ∀ c ∈ rest.head?, c.isDigit = false) :
    scanWhole (cs ++ rest) = some (taken, behind ++ rest) := by
  cases cs with
  | nil => cases h
  | cons c cs =>
    by_cases zero : c = '0'
    · subst zero
      cases h
      rfl
    · have digits := scanDigits_append (c :: cs) closed
      rw [scanWhole_of_ne zero] at h
      rw [List.cons_append] at digits ⊢
      rw [scanWhole_of_ne zero, digits]
      split at h
      · cases h
      · rw [if_neg ‹_›, Option.some.inj h]

theorem scanFraction_append (h : scanFraction cs = some (taken, behind))
    (closed : ∀ c ∈ rest.head?, c.isDigit = false ∧ c ≠ '.') :
    scanFraction (cs ++ rest) = some (taken, behind ++ rest) := by
  cases cs with
  | nil =>
    cases h
    cases rest with
    | nil => rfl
    | cons c rest => exact scanFraction_of_ne (closed c rfl).2 rest
  | cons c cs =>
    by_cases point : c = '.'
    · subst point
      have digits := scanDigits_append cs fun c member => (closed c member).1
      rw [scanFraction] at h
      rw [List.cons_append, scanFraction, digits]
      split at h
      · cases h
      · rw [if_neg ‹_›]
        cases h
        rfl
    · rw [scanFraction_of_ne point] at h
      cases h
      exact scanFraction_of_ne point (cs ++ rest)

theorem scanSign_append (some : cs ≠ []) :
    scanSign (cs ++ rest) = ((scanSign cs).1, (scanSign cs).2 ++ rest) := by
  obtain ⟨c, cs, rfl⟩ := List.exists_cons_of_ne_nil some
  by_cases plus : c = '+'
  · subst plus
    rfl
  · by_cases minus : c = '-'
    · subst minus
      rfl
    · simp [scanSign, plus, minus]

theorem scanExponent_append (h : scanExponent cs = some (taken, behind)) (closed : Closes rest) :
    scanExponent (cs ++ rest) = some (taken, behind ++ rest) := by
  cases cs with
  | nil =>
    cases h
    cases rest with
    | nil => rfl
    | cons c rest =>
      obtain ⟨-, -, lower, upper⟩ := closed c rfl
      simp [scanExponent, lower, upper]
  | cons c cs =>
    rw [List.cons_append]
    rw [scanExponent] at h ⊢
    by_cases letter : c = 'e' ∨ c = 'E'
    · have digits := scanDigits_append (scanSign cs).2 fun c member => (closed c member).1
      rw [if_pos letter] at h ⊢
      dsimp only at h ⊢
      split at h
      case isTrue => cases h
      case isFalse some =>
        have more : cs ≠ [] := by
          rintro rfl
          exact some rfl
        rw [scanSign_append more, digits, if_neg some]
        cases h
        rfl
    · rw [if_neg letter] at h ⊢
      cases h
      rfl

theorem scanUnsigned_append (h : scanUnsigned cs = some (taken, behind)) (closed : Closes rest) :
    scanUnsigned (cs ++ rest) = some (taken, behind ++ rest) := by
  obtain ⟨_, whole, h⟩ := Option.bind_eq_some_iff.1 h
  obtain ⟨_, fraction, h⟩ := Option.bind_eq_some_iff.1 h
  obtain ⟨_, exponent, h⟩ := Option.bind_eq_some_iff.1 h
  cases h
  have whole' := scanWhole_append whole fun c member => (closed c member).1
  have fraction' := scanFraction_append fraction fun c member =>
    ⟨(closed c member).1, (closed c member).2.1⟩
  have exponent' := scanExponent_append exponent closed
  simp [scanUnsigned, whole', fraction', exponent']

theorem scanNumber_of_ne {c : Char} (other : c ≠ '-') (cs : List Char) :
    scanNumber (c :: cs) = scanUnsigned (c :: cs) := by
  rw [scanNumber]
  rintro _ ⟨⟩
  exact other rfl

theorem scanNumber_append {literal : List Char} (h : IsNumber literal) (closed : Closes rest) :
    scanNumber (literal ++ rest) = some (literal, rest) := by
  cases literal with
  | nil => cases h
  | cons c cs =>
    by_cases minus : c = '-'
    · subst minus
      obtain ⟨⟨digits, behind⟩, unsigned, same⟩ := Option.map_eq_some_iff.1 h
      cases same
      rw [List.cons_append, scanNumber, scanUnsigned_append unsigned closed]
      rfl
    · rw [IsNumber, scanNumber_of_ne minus] at h
      rw [List.cons_append, scanNumber_of_ne minus]
      exact scanUnsigned_append h closed

theorem IsNumber.start {literal : List Char} (h : IsNumber literal) :
    ∃ c cs, literal = c :: cs ∧ (c = '-' ∨ c.isDigit = true) := by
  cases literal with
  | nil => cases h
  | cons c cs =>
    refine ⟨c, cs, rfl, or_iff_not_imp_left.2 fun minus => ?_⟩
    rw [IsNumber, scanNumber_of_ne minus] at h
    obtain ⟨_, whole, -⟩ := Option.bind_eq_some_iff.1 h
    by_contra other
    have zero : c ≠ '0' := by
      rintro rfl
      exact other rfl
    have none : (scanDigits (c :: cs)).1 = [] := List.takeWhile_cons_of_neg other
    rw [scanWhole_of_ne zero, if_pos none] at whole
    cases whole

/-! ## Numerals -/

theorem scanDigits_of_areDigits (h : Numeral.AreDigits cs) : scanDigits cs = (cs, []) :=
  Prod.ext (List.takeWhile_eq_self_iff.2 h.2) (List.dropWhile_eq_nil_iff.2 h.2)

section

variable {n : Numeral} (h : n.WellFormed)
include h

theorem scanWhole_before : scanWhole n.before = some (n.before, []) := by
  obtain zero | leading := h.leading
  · rw [zero]
    rfl
  · have digits := scanDigits_of_areDigits h.before
    obtain ⟨c, cs, start⟩ := List.exists_cons_of_ne_nil h.before.1
    have other : c ≠ '0' := by
      rintro rfl
      exact leading (by rw [start]; rfl)
    rw [start] at digits ⊢
    rw [scanWhole_of_ne other, digits, if_neg (List.cons_ne_nil _ _)]

theorem scanFraction_fraction : scanFraction n.fraction = some (n.fraction, []) := by
  unfold Numeral.fraction
  cases point : n.after with
  | none => rfl
  | some after =>
    have areDigits := h.after after point
    rw [Option.elim_some, scanFraction, scanDigits_of_areDigits areDigits, if_neg areDigits.1]

theorem scanExponent_power : scanExponent n.power = some (n.power, []) := by
  unfold Numeral.power
  cases parts : n.exponent with
  | none => rfl
  | some pair =>
    obtain ⟨sign, digits⟩ := pair
    have areDigits := h.exponent sign digits parts
    have signed : scanSign (sign ++ digits) = (sign, digits) := by
      obtain rfl | rfl | rfl := h.sign sign digits parts
      · obtain ⟨c, cs, rfl⟩ := List.exists_cons_of_ne_nil areDigits.1
        have digit := areDigits.2 c (.head _)
        have minus : c ≠ '-' := Numeral.ne_of_isDigit digit (by decide)
        have plus : c ≠ '+' := Numeral.ne_of_isDigit digit (by decide)
        simp [scanSign, minus, plus]
      · rfl
      · rfl
    simp [scanExponent, signed, scanDigits_of_areDigits areDigits, areDigits.1]

theorem scanUnsigned_text : scanUnsigned n.text = some (n.text, []) := by
  have power_closes : ∀ c ∈ n.power.head?, c.isDigit = false ∧ c ≠ '.' := by
    obtain none | ⟨tail, some⟩ := n.power_cases
    · simp [none]
    · simp +decide [some]
  have fraction_closes : ∀ c ∈ (n.fraction ++ n.power).head?, c.isDigit = false := by
    unfold Numeral.fraction
    cases n.after with
    | none => exact fun c member => (power_closes c member).1
    | some after => simp +decide
  have whole := scanWhole_append (scanWhole_before h) fraction_closes
  have fraction := scanFraction_append (scanFraction_fraction h) power_closes
  simp [Numeral.text, scanUnsigned, whole, fraction, scanExponent_power h]

theorem isNumber_text : IsNumber n.text ∧ IsNumber ('-' :: n.text) := by
  have unsigned := scanUnsigned_text h
  constructor
  · obtain ⟨c, cs, start, digit⟩ := Numeral.text_cons h
    have minus : c ≠ '-' := Numeral.ne_of_isDigit digit (by decide)
    rw [IsNumber, start, scanNumber_of_ne minus, ← start, unsigned]
  · rw [IsNumber, scanNumber, unsigned, Option.map_some]

end

/-! ## Integers -/

theorem isNumber_decimal (n : Int) : IsNumber (Integer.decimal n) := by
  have digits := Numeral.areDigits_toDigits n.natAbs
  have leading : Nat.toDigits 10 n.natAbs = ['0'] ∨ (Nat.toDigits 10 n.natAbs).head? ≠ some '0' := by
    by_cases zero : n.natAbs = 0
    · exact .inl (by rw [zero]; rfl)
    · exact .inr (Binary64.head?_toDigits zero)
  obtain ⟨positive, negative⟩ := isNumber_text (Numeral.wellFormed_whole digits leading)
  rw [Numeral.text_whole] at positive negative
  unfold Integer.decimal
  split
  · exact negative
  · exact positive

theorem integer?_of_ne {c : Char} (minus : c ≠ '-') (cs : List Char) :
    integer? (c :: cs) = (Integer.digits? (c :: cs)).map fun n : Nat => (n : Int) := by
  rw [integer?]
  · cases Integer.digits? (c :: cs) <;> rfl
  · rintro _ ⟨⟩
    exact minus rfl

theorem integer?_decimal (n : Int) : integer? (Integer.decimal n) = some n := by
  have areDigits := Numeral.areDigits_toDigits n.natAbs
  have digits := Numeral.digits?_of_areDigits areDigits
  rw [Nat.ofDigitChars_ten_toDigits] at digits
  unfold Integer.decimal
  split
  case isTrue negative =>
    have nonzero : n.natAbs ≠ 0 := by omega
    rw [integer?, digits, Option.bind_some, if_neg nonzero]
    congr 1
    omega
  case isFalse positive =>
    obtain ⟨c, cs, start⟩ := List.exists_cons_of_ne_nil areDigits.1
    have minus : c ≠ '-' := Numeral.ne_of_isDigit (areDigits.2 c (start ▸ .head _)) (by decide)
    rw [start, integer?_of_ne minus, ← start, digits, Option.map_some]
    congr 1
    omega

theorem fit?_toInt (n : Int64) : Integer.fit? n.toInt = some n := by
  have low := n.le_toInt
  have high := n.toInt_lt
  have fits : -Integer.bound ≤ n.toInt ∧ n.toInt < Integer.bound := by
    unfold Integer.bound
    omega
  rw [Integer.fit?, if_pos fits, Int64.ofInt_toInt]

theorem digits?_of_isMarked {literal : List Char} (h : IsMarked literal) :
    Integer.digits? literal = none := by
  obtain ⟨c, member, mark⟩ := h
  have other : c.isDigit = false := by
    obtain rfl | rfl | rfl := mark <;> decide
  apply if_neg
  rintro ⟨-, digits⟩
  rw [List.all_eq_true.1 digits c member] at other
  cases other

theorem integer?_of_isMarked {literal : List Char} (h : IsMarked literal) : integer? literal = none := by
  unfold integer?
  split
  case h_1 cs =>
    obtain ⟨c, member, mark⟩ := h
    have behind : c ∈ cs := by
      refine List.mem_of_ne_of_mem ?_ member
      rintro rfl
      simp at mark
    rw [digits?_of_isMarked ⟨c, behind, mark⟩, Option.bind_none]
  case h_2 =>
    rw [digits?_of_isMarked h]
    rfl

end Json

/-! ## Floats -/

namespace NumberFormat

open Json

/-- Only finite numbers are read. -/
def IsBounded (format : NumberFormat) : Prop :=
  ∀ literal x, format.read? literal = some x → x.isFinite = true

/-- The number is written as one that is no integer, and is read from what is written. -/
structure Keeps (format : NumberFormat) (x : Binary64) : Prop where
  isNumber : IsNumber (format.write x)
  isMarked : IsMarked (format.write x)
  read?_write : format.read? (format.write x) = some x

def KeepsAll (format : NumberFormat) (xs : List Binary64) : Prop :=
  ∀ x ∈ xs, x.isFinite = true → format.Keeps x

variable {x : Binary64}

theorem write_json (finite : x.isFinite = true) :
    IsNumber (Binary64.Layout.json.write x) ∧ IsMarked (Binary64.Layout.json.write x) := by
  obtain ⟨n, wellFormed, text, pointed, -⟩ := Binary64.exists_numeral Binary64.Layout.json finite
  obtain ⟨positive, negative⟩ := isNumber_text wellFormed
  obtain ⟨c, member, mark⟩ := Numeral.exists_mark (pointed rfl)
  rw [Binary64.write_of_finite _ finite, text]
  split
  · exact ⟨negative, c, .tail _ member, mark⟩
  · exact ⟨positive, c, member, mark⟩

/-- A reader that rounds correctly keeps every finite number. -/
theorem nearest_keeps (finite : x.isFinite = true) : nearest.Keeps x where
  isNumber := (write_json finite).1
  isMarked := (write_json finite).2
  read?_write := by
    have read := Binary64.read?_write Binary64.Layout.json finite
    exact (congrArg _ read).trans (Option.filter_some_pos finite)

theorem nearest_isBounded : nearest.IsBounded := fun _ _ read => (Option.filter_eq_some_iff.1 read).2

theorem isFinite_of_finite? {y : Binary64} (h : x.finite? = some y) : y.isFinite = true := by
  unfold Binary64.finite? at h
  split at h
  · cases h
    assumption
  · cases h

theorem isFinite_of_scale? {exponent : Int} {y : Binary64} (h : scale? x exponent = some y) :
    y.isFinite = true := by
  fun_induction scale? x exponent with
  | case1 => exact isFinite_of_finite? h
  | case2 x exponent large zero =>
    cases h
    exact decide_eq_true (by rw [Binary64.magnitude_of_zero zero]; decide)
  | case3 => cases h
  | case4 x exponent large nonzero negative ih => exact ih h

theorem isFinite_of_readScaled? {negative : Bool} {cs : List Char} (h : readScaled? negative cs = some x) :
    x.isFinite = true := by
  obtain ⟨exponent, -, h⟩ := Option.bind_eq_some_iff.1 h
  obtain ⟨y, scaled, h⟩ := Option.bind_eq_some_iff.1 h
  cases h
  have finite : y.magnitude < Binary64.infinite := of_decide_eq_true (isFinite_of_scale? scaled)
  exact decide_eq_true (by rwa [Binary64.magnitude_ofParts (Nat.le_of_lt finite)])

theorem scaled_isBounded : scaled.IsBounded := by
  intro literal x h
  unfold scaled at h
  dsimp only at h
  split at h
  · exact isFinite_of_readScaled? h
  · exact isFinite_of_readScaled? h

-- a number that is not kept, since it is rounded twice when it is read: the one read from 1e-25
example : scaled.read? (scaled.write ⟨0x3abef2d0f5da7dd8⟩) = some ⟨0x3abef2d0f5da7dd9⟩ := by
  decide +kernel

end NumberFormat

end Listing
