import Mathlib.Data.List.TakeWhile
import Listing.Instant.Printer
import Listing.Instant.Reader
import Listing.Proofs.Binary64.Numeral
import Listing.Proofs.Instant.Calendar

namespace Listing

namespace Integer

variable {width n : Nat}

theorem length_padded (some : 0 < width) (fits : n < 10 ^ width) : (padded width n).length = width := by
  have short : (Nat.toDigits 10 n).length ≤ width := (Nat.length_toDigits_le_iff (by decide) some).2 fits
  rw [padded, List.length_append, List.length_replicate]
  omega

theorem isDigit_of_mem_padded {c : Char} (member : c ∈ padded width n) : c.isDigit = true := by
  obtain zero | digit := List.mem_append.1 member
  · rw [List.eq_of_mem_replicate zero]
    rfl
  · exact Nat.isDigit_of_mem_toDigits (by decide) (by decide) digit

theorem ofDigitChars_padded (width n : Nat) : Nat.ofDigitChars 10 (padded width n) 0 = n := by
  rw [padded, Nat.ofDigitChars_append, Nat.ofDigitChars_replicate_zero, Nat.mul_zero,
    Nat.ofDigitChars_ten_toDigits]

end Integer

namespace Instant

open Integer (padded length_padded isDigit_of_mem_padded ofDigitChars_padded)

variable {width n : Nat} {rest : List Char} {t : Instant}

theorem digits_padded (some : 0 < width) (fits : n < 10 ^ width) (rest : List Char) :
    digits width width (padded width n ++ rest) = .some (n, rest) := by
  have length := length_padded some fits
  have run : ((padded width n ++ rest).take width).takeWhile Char.isDigit = padded width n := by
    rw [List.take_append_of_le_length length.ge, List.take_of_length_le length.le]
    exact List.takeWhile_eq_self_iff.2 fun c => isDigit_of_mem_padded
  simp only [digits, run, length, Nat.lt_irrefl, if_false, ofDigitChars_padded]
  rw [List.drop_append_of_le_length length.ge, List.drop_of_length_le length.le, List.nil_append]

theorem fraction_padded (some : 0 < width) (most : width ≤ 9) (fits : n < 10 ^ width)
    (closed : ∀ c ∈ rest.head?, c.isDigit = false) :
    fraction ('.' :: (padded width n ++ rest)) = .some (n * 10 ^ (9 - width), rest) := by
  have length := length_padded some fits
  have digits : ∀ c ∈ padded width n, c.isDigit = true := fun c => isDigit_of_mem_padded
  obtain ⟨run, behind⟩ := Binary64.Numeral.takeWhile_digits digits closed
  have present : padded width n ≠ [] := by
    rw [← List.length_pos_iff, length]
    exact some
  have kept : (padded width n).take 9 = padded width n := List.take_of_length_le (by omega)
  simp only [fraction, run, behind, present, if_false, kept, ofDigitChars_padded, length]
  rfl

theorem fractionText_cases (nanos : Nat) : nanos = 0 ∧ fractionText nanos = [] ∨
    ∃ width n, 0 < width ∧ width ≤ 9 ∧ n * 10 ^ (9 - width) = nanos ∧
      fractionText nanos = '.' :: padded width n := by
  unfold fractionText
  split
  case isTrue zero => exact .inl ⟨zero, rfl⟩
  case isFalse =>
    right
    split
    case isTrue millis => exact ⟨3, _, by decide, by decide, by omega, rfl⟩
    case isFalse =>
      split
      case isTrue micros => exact ⟨6, _, by decide, by decide, by omega, rfl⟩
      case isFalse => exact ⟨9, _, by decide, by decide, by omega, rfl⟩

theorem fraction_fractionText {nanos : Nat} (bound : nanos < nanosPerSecond)
    (closed : ∀ c ∈ rest.head?, c.isDigit = false ∧ c ≠ '.') :
    fraction (fractionText nanos ++ rest) = some (nanos, rest) := by
  obtain ⟨rfl, text⟩ | ⟨width, n, positive, most, rfl, text⟩ := fractionText_cases nanos
  · rw [text, List.nil_append]
    cases rest with
    | nil => rfl
    | cons c rest =>
      have other : c ≠ '.' := (closed c rfl).2
      simp [fraction, other]
  · have second : nanosPerSecond = 10 ^ width * 10 ^ (9 - width) := by
      rw [← Nat.pow_add, Nat.add_sub_cancel' most]
      rfl
    have fits : n < 10 ^ width := by
      rw [second] at bound
      exact Nat.lt_of_mul_lt_mul_right bound
    rw [text, List.cons_append]
    exact fraction_padded positive most fits fun c member => (closed c member).1

theorem monthLength_le (year : Int) (month : Nat) : Date.monthLength year month ≤ 31 := by
  unfold Date.monthLength
  split
  · split <;> decide
  all_goals decide

theorem oneOf_cons {accepted : List Char} {c : Char} (member : c ∈ accepted) (rest : List Char) :
    oneOf accepted (c :: rest) = some ((), rest) :=
  if_pos member

theorem bind_field {α β : Type} {read : Option (α × List Char)} {a : α}
    (found : read = some (a, rest)) (next : α × List Char → Option β) :
    (read >>= next) = next (a, rest) := by
  rw [found]
  rfl

def zone : List Char := ['+', '0', '0', ':', '0', '0']

theorem readTimestamp?_text {d : Date} {c : Clock} (low : 0 ≤ d.year) (high : d.year ≤ 9999)
    (month : d.month < 10 ^ 2) (day : d.day < 10 ^ 2) (valid : c.Valid) :
    readTimestamp? (dateText d ++ 'T' :: clockText c ++ zone) = ofCivil? d c 0 := by
  obtain ⟨hour, minute, second, nanos⟩ := valid
  have closed : ∀ c ∈ zone.head?, c.isDigit = false ∧ c ≠ '.' := by
    rintro _ ⟨⟩
    decide
  have offset_zone : offset zone = some (0, []) := by decide
  have year : (d.year.toNat : Int) = d.year := Int.toNat_of_nonneg low
  have yearFits : d.year.toNat < 10 ^ 4 := by omega
  have hourFits : c.hour < 10 ^ 2 := by omega
  have minuteFits : c.minute < 10 ^ 2 := by omega
  have secondFits : c.second < 10 ^ 2 := by omega
  have pair : 0 < 2 := by decide
  rw [dateText, yearText, if_pos ⟨low, high⟩, clockText]
  simp only [List.append_assoc, List.cons_append]
  refine (bind_field (digits_padded (by decide) yearFits _) _).trans ?_
  refine (bind_field (oneOf_cons (by decide) _) _).trans ?_
  refine (bind_field (digits_padded pair month _) _).trans ?_
  refine (bind_field (oneOf_cons (by decide) _) _).trans ?_
  refine (bind_field (digits_padded pair day _) _).trans ?_
  refine (bind_field (oneOf_cons (by decide) _) _).trans ?_
  refine (bind_field (digits_padded pair hourFits _) _).trans ?_
  refine (bind_field (oneOf_cons (by decide) _) _).trans ?_
  refine (bind_field (digits_padded pair minuteFits _) _).trans ?_
  refine (bind_field (oneOf_cons (by decide) _) _).trans ?_
  refine (bind_field (digits_padded pair secondFits _) _).trans ?_
  refine (bind_field (fraction_fractionText nanos closed) _).trans ?_
  refine (bind_field offset_zone _).trans ?_
  dsimp only
  rw [year]
  rfl

theorem readTimestamp?_plainText (h : t.OnClock) (low : 0 ≤ t.date.year) (high : t.date.year ≤ 9999) :
    readTimestamp? t.plainText = some t := by
  have calendar : t.date.InCalendar := Date.inCalendar_ofDays _
  have short := monthLength_le t.date.year t.date.month
  unfold Date.InCalendar at calendar
  have valid : t.date.Valid := ⟨by omega, by omega, calendar⟩
  rw [plainText, civilText, ← zone, readTimestamp?_text low high (by omega) (by omega) h.valid_clock,
    ofCivil?, if_pos ⟨valid, h.valid_clock⟩, ofCivil_date_clock h]

theorem read?_plainText (h : t.OnClock) (low : 0 ≤ t.date.year) (high : t.date.year ≤ 9999) :
    read? t.plainText = some t := by
  rw [read?, readTimestamp?_plainText h low high]
  rfl

end Instant

end Listing
