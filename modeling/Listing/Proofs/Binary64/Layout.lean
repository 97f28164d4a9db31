import Mathlib.Data.List.TakeWhile
import Listing.Binary64.Layout
import Listing.Proofs.Binary64.Numeral
import Listing.Proofs.Binary64.Shortest

namespace Listing.Binary64

open Numeral (AreDigits areDigits_toDigits areDigits_singleton)

theorem ofDigitChars_zeros (digits : List Char) (zeros : Nat) :
    Nat.ofDigitChars 10 (digits ++ List.replicate zeros '0') 0 =
      Nat.ofDigitChars 10 digits 0 * 10 ^ zeros := by
  rw [Nat.ofDigitChars_append, Nat.ofDigitChars_replicate_zero, Nat.mul_comm]

theorem head?_toDigits {n : Nat} (nonzero : n ≠ 0) : (Nat.toDigits 10 n).head? ≠ some '0' := by
  induction n using Nat.base_induction 10 (by decide) with
  | single m small =>
    rw [Nat.toDigits_of_lt_base small]
    simpa using nonzero
  | digit m k last more ih =>
    rw [← Nat.toDigits_append_toDigits (by decide) more last,
      List.head?_append_of_ne_nil _ Nat.toDigits_ne_nil]
    exact ih more.ne'

theorem stripZeros_spec (digits : List Char) (scale : Int) : ∃ zeros : Nat,
    digits = (stripZeros digits scale).1 ++ List.replicate zeros '0' ∧
      (stripZeros digits scale).2 = scale + zeros := by
  refine ⟨(digits.reverse.takeWhile (· == '0')).length, ?_, rfl⟩
  have parts := List.takeWhile_append_dropWhile (p := (· == '0')) (l := digits.reverse)
  have zeros : digits.reverse.takeWhile (· == '0') =
      List.replicate (digits.reverse.takeWhile (· == '0')).length '0' :=
    List.eq_replicate_of_mem fun c member => by simpa using List.mem_takeWhile_imp member
  unfold stripZeros
  dsimp only
  generalize digits.reverse.takeWhile (· == '0') = zs at parts zeros ⊢
  generalize digits.reverse.dropWhile (· == '0') = front at parts
  have joined : digits = front.reverse ++ zs.reverse := by
    rw [← List.reverse_append, parts, List.reverse_reverse]
  have cut : digits.length - zs.length = front.reverse.length := by
    rw [joined]
    simp
  rw [cut, joined, List.take_left, ← zeros]
  congr 1
  rw [zeros, List.reverse_replicate]

structure Layout.Writes (layout : Layout) (text : List Char) (value : ℚ) (n : Numeral) : Prop where
  wellFormed : n.WellFormed
  text_eq : text = n.text
  value_eq : n.value = value
  pointed : layout.keepsPoint = true → n.isWhole = false

section

variable {digits : List Char} {scale : Int} (layout : Layout)

theorem areDigits_append_zeros (areDigits : AreDigits digits) (zeros : Nat) :
    AreDigits (digits ++ List.replicate zeros '0') := by
  refine ⟨List.append_ne_nil_of_left_ne_nil areDigits.1 _, fun c member => ?_⟩
  obtain front | zero := List.mem_append.1 member
  · exact areDigits.2 c front
  · rw [List.eq_of_mem_replicate zero]
    rfl

theorem point_whole (areDigits : AreDigits digits) (leading : digits.head? ≠ some '0')
    (whole : 0 ≤ scale) : ∃ n, layout.Writes (layout.point digits scale)
      (Nat.ofDigitChars 10 digits 0 * 10 ^ scale) n := by
  have before := areDigits_append_zeros areDigits scale.toNat
  have head : (digits ++ List.replicate scale.toNat '0').head? ≠ some '0' := by
    rwa [List.head?_append_of_ne_nil _ areDigits.1]
  have power : (10 : ℚ) ^ scale = 10 ^ scale.toNat := by
    rw [← zpow_natCast, Int.toNat_of_nonneg whole]
  rw [Layout.point, if_pos whole, power]
  cases keeps : layout.keepsPoint with
  | true =>
    refine ⟨.pointed (digits ++ List.replicate scale.toNat '0') ['0'],
      Numeral.wellFormed_pointed before (.inr head) ⟨by simp, by simp⟩, ?_, ?_, fun _ => rfl⟩
    · rw [Numeral.text_pointed]
      rfl
    · have digit : ['0'] = List.replicate 1 '0' := rfl
      rw [Numeral.value_pointed, digit, ofDigitChars_zeros, ofDigitChars_zeros,
        List.length_replicate, zpow_neg, zpow_natCast]
      push_cast
      field_simp
  | false =>
    refine ⟨.whole (digits ++ List.replicate scale.toNat '0'),
      Numeral.wellFormed_whole before (.inr head), ?_, ?_, fun h => nomatch keeps.symm.trans h⟩
    · rw [Numeral.text_whole]
      exact List.append_nil _
    · rw [Numeral.value_whole, ofDigitChars_zeros]
      push_cast
      rfl

theorem point_inside (areDigits : AreDigits digits) (leading : digits.head? ≠ some '0')
    (broken : scale < 0) (inside : 0 < digits.length + scale) : ∃ n, layout.Writes
      (layout.point digits scale) (Nat.ofDigitChars 10 digits 0 * 10 ^ scale) n := by
  obtain ⟨k, cut⟩ : ∃ k : Nat, digits.length + scale = k := ⟨_, (Int.toNat_of_nonneg inside.le).symm⟩
  have within : 0 < k ∧ k < digits.length := by omega
  have parts := List.take_append_drop k digits
  have front : AreDigits (digits.take k) := by
    refine ⟨?_, fun c member => areDigits.2 c (List.mem_of_mem_take member)⟩
    rw [Ne, List.take_eq_nil_iff]
    exact not_or.2 ⟨within.1.ne', areDigits.1⟩
  have behind : AreDigits (digits.drop k) := by
    refine ⟨?_, fun c member => areDigits.2 c (List.mem_of_mem_drop member)⟩
    rw [Ne, List.drop_eq_nil_iff]
    omega
  have head : (digits.take k).head? ≠ some '0' := by
    rwa [← parts, List.head?_append_of_ne_nil _ front.1] at leading
  refine ⟨.pointed (digits.take k) (digits.drop k),
    Numeral.wellFormed_pointed front (.inr head) behind, ?_, ?_, fun _ => rfl⟩
  · rw [Numeral.text_pointed, Layout.point, if_neg (by omega), if_pos inside, cut]
    rfl
  · rw [Numeral.value_pointed, parts, List.length_drop]
    congr 2
    omega

theorem point_outside (areDigits : AreDigits digits) (broken : scale < 0)
    (outside : digits.length + scale ≤ 0) : ∃ n, layout.Writes
      (layout.point digits scale) (Nat.ofDigitChars 10 digits 0 * 10 ^ scale) n := by
  obtain ⟨zeros, count⟩ : ∃ zeros : Nat, -(digits.length + scale) = zeros :=
    ⟨_, (Int.toNat_of_nonneg (by omega)).symm⟩
  have behind : AreDigits (List.replicate zeros '0' ++ digits) := by
    refine ⟨List.append_ne_nil_of_right_ne_nil _ areDigits.1, fun c member => ?_⟩
    obtain zero | digit := List.mem_append.1 member
    · rw [List.eq_of_mem_replicate zero]
      rfl
    · exact areDigits.2 c digit
  refine ⟨.pointed ['0'] (List.replicate zeros '0' ++ digits),
    Numeral.wellFormed_pointed ⟨by simp, by simp⟩ (.inl rfl) behind, ?_, ?_, fun _ => rfl⟩
  · rw [Numeral.text_pointed, Layout.point, if_neg (by omega), if_neg (by omega), count]
    rfl
  · have zero : ['0'] = List.replicate 1 '0' := rfl
    rw [Numeral.value_pointed, zero, ← List.append_assoc, List.replicate_append_replicate,
      Nat.ofDigitChars_append, Nat.ofDigitChars_replicate_zero, Nat.mul_zero, List.length_append,
      List.length_replicate]
    congr 2
    push_cast
    omega

theorem point_numeral (areDigits : AreDigits digits) (leading : digits.head? ≠ some '0') (scale : Int) :
    ∃ n, layout.Writes (layout.point digits scale)
      (Nat.ofDigitChars 10 digits 0 * 10 ^ scale) n := by
  obtain broken | whole := lt_or_ge scale 0
  · obtain outside | inside := le_or_gt (digits.length + scale) 0
    · exact point_outside layout areDigits broken outside
    · exact point_inside layout areDigits leading broken inside
  · exact point_whole layout areDigits leading whole

theorem scientific_numeral (areDigits : AreDigits digits) (leading : digits.head? ≠ some '0')
    (scale : Int) : ∃ n, layout.Writes (layout.scientific digits (digits.length + scale - 1))
      (Nat.ofDigitChars 10 digits 0 * 10 ^ scale) n := by
  obtain ⟨first, others, rfl⟩ := List.exists_cons_of_ne_nil areDigits.1
  have front : first ≠ '0' := by
    rintro rfl
    exact leading rfl
  have exponent : ((first :: others).length + scale - 1 : Int) - others.length = scale := by
    rw [List.length_cons]
    omega
  generalize ((first :: others).length + scale - 1 : Int) = power at exponent ⊢
  have signed : ∃ sign, (sign = [] ∨ sign = ['+'] ∨ sign = ['-']) ∧ (sign = ['-'] ↔ power < 0) ∧
      layout.scientific (first :: others) power =
        (Numeral.scientific first others sign power).text := by
    refine ⟨if power < 0 then ['-'] else if layout.signsExponent then ['+'] else [], ?_, ?_, ?_⟩
    · split
      · exact .inr (.inr rfl)
      · split
        · exact .inr (.inl rfl)
        · exact .inl rfl
    · split
      · simpa
      · have positive : 0 ≤ power := by omega
        split <;> simpa
    · cases others <;> rfl
  obtain ⟨sign, signed, fits, text⟩ := signed
  refine ⟨.scientific first others sign power, Numeral.wellFormed_scientific areDigits front signed,
    text, ?_, fun _ => Bool.and_false _⟩
  rw [Numeral.value_scientific fits, exponent]

theorem zero_numeral : ∃ n, layout.Writes (layout.point ['0'] 0) 0 n := by
  have digit : AreDigits ['0'] := areDigits_singleton (by decide)
  cases keeps : layout.keepsPoint with
  | true =>
    refine ⟨.pointed ['0'] ['0'], Numeral.wellFormed_pointed digit (.inl rfl) digit, ?_, ?_, fun _ => rfl⟩
    · rw [Numeral.text_pointed, Layout.point, keeps]
      rfl
    · rw [Numeral.value_pointed]
      simp [Nat.ofDigitChars]
  | false =>
    refine ⟨.whole ['0'], Numeral.wellFormed_whole digit (.inl rfl), ?_, ?_,
      fun h => nomatch keeps.symm.trans h⟩
    · rw [Numeral.text_whole, Layout.point, keeps]
      rfl
    · rw [Numeral.value_whole]
      simp [Nat.ofDigitChars]

end

variable {x : Binary64} (layout : Layout)

theorem unsigned_numeral (finite : x.isFinite = true) (nonzero : x.significand ≠ 0) :
    ∃ n value, layout.Writes (layout.unsigned x) value n ∧ x.interval.Holds value := by
  have holds := shortest_holds finite nonzero layout.tie
  unfold Layout.unsigned
  rw [if_neg nonzero]
  generalize shortest layout.tie x = decimal at holds ⊢
  obtain ⟨d, scale⟩ := decimal
  dsimp only at holds ⊢
  -- The zeros that are taken off the digits go to the power of ten.
  obtain ⟨zeros, joined, shifted⟩ := stripZeros_spec (Nat.toDigits 10 d) scale
  generalize stripZeros (Nat.toDigits 10 d) scale = stripped at joined shifted ⊢
  obtain ⟨digits, power⟩ := stripped
  dsimp only at joined shifted ⊢
  have leading := head?_toDigits (digits_ne_zero_of_holds nonzero holds)
  have areDigits := areDigits_toDigits d
  have value : (Nat.ofDigitChars 10 digits 0 * 10 ^ power : ℚ) = d * 10 ^ scale := by
    have read : Nat.ofDigitChars 10 digits 0 * 10 ^ zeros = d := by
      rw [← ofDigitChars_zeros, ← joined, Nat.ofDigitChars_ten_toDigits]
    rw [shifted, ← read, zpow_add₀ (by norm_num)]
    push_cast
    rw [zpow_natCast]
    ring
  rw [joined] at leading areDigits
  have front : digits ≠ [] := by
    rintro rfl
    cases zeros with
    | zero => exact areDigits.1 rfl
    | succ zeros => exact leading rfl
  rw [List.head?_append_of_ne_nil _ front] at leading
  replace areDigits : AreDigits digits :=
    ⟨front, fun c member => areDigits.2 c (List.mem_append_left _ member)⟩
  rw [← value] at holds
  cases layout.positional with
  | none =>
    obtain ⟨n, writes⟩ := point_numeral layout areDigits leading power
    exact ⟨n, _, writes, holds⟩
  | some range =>
    dsimp only
    split
    · obtain ⟨n, writes⟩ := point_numeral layout areDigits leading power
      exact ⟨n, _, writes, holds⟩
    · obtain ⟨n, writes⟩ := scientific_numeral layout areDigits leading power
      exact ⟨n, _, writes, holds⟩

theorem magnitude_of_zero (zero : x.significand = 0) : x.magnitude = 0 := by
  have parts := x.magnitude_eq
  have normal := x.hiddenBit_le_significand
  have flat : x.doublings = 0 := by
    unfold hiddenBit at normal
    omega
  rw [parts, flat, zero, Nat.zero_mul]

theorem exists_numeral (finite : x.isFinite = true) : ∃ n : Numeral, n.WellFormed ∧
    layout.unsigned x = n.text ∧ (layout.keepsPoint = true → n.isWhole = false) ∧
    ∀ negative, ofDecimal negative n.digits n.scale = ofParts negative x.magnitude := by
  by_cases zero : x.significand = 0
  · obtain ⟨n, writes⟩ := zero_numeral layout
    have text : layout.unsigned x = n.text := by rw [Layout.unsigned, if_pos zero, writes.text_eq]
    have digits : n.digits = 0 := by
      have value : (n.digits * 10 ^ n.scale : ℚ) = 0 := writes.value_eq
      have positive : (10 : ℚ) ^ n.scale ≠ 0 := by positivity
      exact_mod_cast (mul_eq_zero.1 value).resolve_right positive
    refine ⟨n, writes.wellFormed, text, writes.pointed, fun negative => ?_⟩
    rw [ofDecimal, digits, magnitude_of_zero zero]
    exact if_pos (.inl rfl)
  · obtain ⟨n, value, writes, holds⟩ := unsigned_numeral layout finite zero
    rw [← writes.value_eq] at holds
    exact ⟨n, writes.wellFormed, writes.text_eq, writes.pointed, fun negative =>
      ofDecimal_of_holds finite zero negative holds⟩

theorem write_of_finite (finite : x.isFinite = true) : layout.write x =
    if x.negative then '-' :: layout.unsigned x else layout.unsigned x := by
  have below : x.magnitude < infinite := of_decide_eq_true finite
  have number : x.isNaN = false := decide_eq_false (by omega)
  rw [Layout.write, number, finite]
  rfl

theorem read?_write (finite : x.isFinite = true) : read? (layout.write x) = some x := by
  obtain ⟨n, wellFormed, text, -, decimal⟩ := exists_numeral layout finite
  have self := x.ofParts_self
  rw [write_of_finite layout finite, text]
  cases sign : x.negative with
  | true =>
    rw [sign, ← decimal] at self
    rw [if_pos rfl, read?, Numeral.readUnsigned?_text wellFormed, self]
  | false =>
    rw [sign, ← decimal] at self
    rw [if_neg Bool.false_ne_true, Numeral.read?_text wellFormed, self]

end Listing.Binary64
