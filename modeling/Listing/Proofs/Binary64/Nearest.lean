import Mathlib.Algebra.Order.Field.Power
import Mathlib.Tactic.FieldSimp
import Mathlib.Tactic.Linarith
import Mathlib.Tactic.Positivity
import Mathlib.Tactic.Ring
import Listing.Binary64.Shortest
import Listing.Proofs.Binary64.Rounding

/-!
# The numbers that round to a float

A finite float with significand `m` whose unit was doubled `s` times has the magnitude
`s * hiddenBit + m`, and stands for `m * 2 ^ s` of the least units. What lies in its interval rounds to
it (`ofRatio_of_holds`).
-/

namespace Listing.Binary64

theorem roundDiv_eq {num den r : Nat} (positive : 0 < den) (low : 2 * (den * r) ≤ 2 * num + den)
    (high : 2 * num ≤ 2 * (den * r) + den)
    (apart : r % 2 = 1 → 2 * (den * r) < 2 * num + den ∧ 2 * num < 2 * (den * r) + den) :
    roundDiv num den = r := by
  have parts := Nat.div_add_mod num den
  have rest := Nat.mod_lt num positive
  have round := roundDiv_cases num den
  generalize num / den = q at parts round
  generalize num % den = t at parts rest round
  -- The quotient is `r` or the number before it.
  have above : q ≤ r := by
    by_contra less
    have step := Nat.mul_le_mul_left den (Nat.lt_of_not_le less)
    rw [Nat.mul_succ] at step
    omega
  have below : r ≤ q + 1 := by
    by_contra more
    have step := Nat.mul_le_mul_left den (Nat.lt_of_not_le more)
    rw [Nat.succ_eq_add_one, Nat.mul_add, Nat.mul_add] at step
    omega
  obtain rfl | rfl : r = q ∨ r = q + 1 := by omega
  · omega
  · rw [Nat.mul_add] at low high apart
    omega

variable (x : Binary64)

def doublings : Nat := x.magnitude / hiddenBit - 1

theorem magnitude_eq : x.magnitude = x.doublings * hiddenBit + x.significand := by
  unfold doublings significand hiddenBit
  split <;> omega

theorem exponent_eq : x.exponent = x.doublings - 1074 := by
  unfold doublings exponent hiddenBit
  split <;> omega

theorem power_interval : x.interval.power = x.doublings - 1076 := by
  have split : x.interval.power = x.exponent - 2 := rfl
  rw [split, exponent_eq]
  omega

theorem significand_lt : x.significand < 2 * hiddenBit := by
  unfold significand hiddenBit
  split <;> omega

theorem hiddenBit_le_significand (h : 0 < x.doublings) : hiddenBit ≤ x.significand := by
  unfold doublings at h
  unfold significand
  unfold hiddenBit at *
  split <;> omega

theorem ofParts_self : ofParts x.negative x.magnitude = x := by
  have size := x.bits.toNat_lt
  have joined : (if x.negative then signBit + x.magnitude else x.magnitude) = x.bits.toNat := by
    unfold negative magnitude signBit
    simp only [decide_eq_true_eq]
    split <;> omega
  rw [ofParts, joined, UInt64.ofNat_toNat]

theorem shift_eq {units den s : Nat} (positive : 0 < den) (below : units < 2 ^ (53 + s) * den)
    (above : s = 0 ∨ 2 ^ (52 + s) * den ≤ units) : Nat.log2 (units / den) - 52 = s := by
  have less : units / den < 2 ^ (53 + s) := (Nat.div_lt_iff_lt_mul positive).2 below
  obtain rfl | above := above
  · obtain zero | some := Nat.eq_zero_or_pos (units / den)
    · rw [zero]; rfl
    · have := (Nat.log2_lt some.ne').2 less
      omega
  · have least := (Nat.le_div_iff_mul_le positive).2 above
    have some : units / den ≠ 0 := by
      have := Nat.two_pow_pos (52 + s)
      omega
    have := (Nat.log2_lt some).2 less
    have := (Nat.le_log2 some).2 least
    omega

variable {x} {units den : Nat}

theorem pattern_of_near {s m : Nat} (positive : 0 < den)
    (below : units < 2 * hiddenBit * (den * 2 ^ s))
    (above : s = 0 ∨ hiddenBit * (den * 2 ^ s) ≤ units)
    (low : 2 * (den * 2 ^ s * m) ≤ 2 * units + den * 2 ^ s)
    (high : 2 * units ≤ 2 * (den * 2 ^ s * m) + den * 2 ^ s)
    (apart : m % 2 = 1 → 2 * (den * 2 ^ s * m) < 2 * units + den * 2 ^ s ∧
      2 * units < 2 * (den * 2 ^ s * m) + den * 2 ^ s) :
    let shift := Nat.log2 (units / den) - 52
    shift * hiddenBit + roundDiv units (den <<< shift) = s * hiddenBit + m := by
  intro shift
  have power (k : Nat) : 2 ^ (k + s) * den = 2 ^ k * (den * 2 ^ s) := by ring
  have shifted : shift = s := by
    apply shift_eq positive
    · rw [power]
      exact below
    · rw [power]
      exact above
  have unit : 0 < den * 2 ^ s := Nat.mul_pos positive (Nat.two_pow_pos s)
  rw [shifted, Nat.shiftLeft_eq, roundDiv_eq unit low high apart]

theorem pattern_eq (positive : 0 < den) (low : x.interval.low * (den * 2 ^ x.doublings) ≤ 4 * units)
    (high : 4 * units ≤ x.interval.high * (den * 2 ^ x.doublings))
    (apart : x.significand % 2 = 1 → x.interval.low * (den * 2 ^ x.doublings) < 4 * units ∧
      4 * units < x.interval.high * (den * 2 ^ x.doublings)) :
    let shift := Nat.log2 (units / den) - 52
    shift * hiddenBit + roundDiv units (den <<< shift) = x.magnitude := by
  have parts := x.magnitude_eq
  have normal := x.hiddenBit_le_significand
  have bound := x.significand_lt
  have doubled : -1074 < x.exponent ↔ 0 < x.doublings := by rw [exponent_eq]; omega
  simp only [interval, doubled, Nat.sub_mul, Nat.add_mul] at low high apart
  rw [parts]
  generalize x.significand = m at *
  generalize x.doublings = s at *
  have unit : 0 < den * 2 ^ s := Nat.mul_pos positive (Nat.two_pow_pos s)
  have product : 4 * m * (den * 2 ^ s) = 4 * (den * 2 ^ s * m) := by ring
  rw [product] at low high apart
  by_cases beneath : 0 < s ∧ units < hiddenBit * (den * 2 ^ s)
  -- Just below a power of two the unit is half as large.
  · obtain ⟨doubled, beneath⟩ := beneath
    have power : m = hiddenBit := by
      by_contra other
      have more := Nat.mul_le_mul_left (den * 2 ^ s) (Nat.lt_of_le_of_ne (normal doubled) (Ne.symm other))
      rw [if_neg (by simp [other])] at low
      unfold hiddenBit at *
      omega
    subst power
    rw [if_pos ⟨rfl, doubled⟩] at low
    obtain ⟨s, rfl⟩ : ∃ s', s = s' + 1 := ⟨s - 1, by omega⟩
    have halves : den * 2 ^ (s + 1) = 2 * (den * 2 ^ s) := by ring
    rw [halves] at low beneath unit
    have near := @pattern_of_near units den s (2 * hiddenBit) positive
    unfold hiddenBit at *
    exact (near (by omega) (by omega) (by omega) (by omega) (by omega)).trans (by omega)
  · apply pattern_of_near positive
    · have most := Nat.mul_le_mul_left (den * 2 ^ s) (Nat.le_sub_one_of_lt bound)
      unfold hiddenBit at *
      omega
    · omega
    · split at low <;> omega
    · omega
    · intro odd
      have := apart odd
      split at this <;> omega

def Interval.Holds (i : Interval) (q : ℚ) : Prop :=
  if i.closed then i.low * 2 ^ i.power ≤ q ∧ q ≤ i.high * 2 ^ i.power
  else i.low * 2 ^ i.power < q ∧ q < i.high * 2 ^ i.power

theorem Interval.Holds.bounds {i : Interval} {q : ℚ} (h : i.Holds q) :
    i.low * 2 ^ i.power ≤ q ∧ q ≤ i.high * 2 ^ i.power := by
  unfold Holds at h
  split at h
  · exact h
  · exact ⟨h.1.le, h.2.le⟩

section

variable {num : Nat} (bound s k : Nat) (positive : 0 < den)
include positive

theorem scaled_quotient : (num / den : ℚ) * (den * 2 ^ (k + 2)) = (4 * (num <<< k) : Nat) := by
  have some : (den : ℚ) ≠ 0 := by exact_mod_cast positive.ne'
  rw [Nat.shiftLeft_eq]
  push_cast
  field_simp
  ring

omit positive in
theorem scaled_bound : (bound * 2 ^ (s - (k + 2 : Nat) : ℤ) : ℚ) * (den * 2 ^ (k + 2)) =
    (bound * (den * 2 ^ s) : Nat) := by
  rw [zpow_sub₀ two_ne_zero, zpow_natCast, zpow_natCast]
  push_cast
  field_simp

theorem bound_le_quotient_iff : (bound * 2 ^ (s - (k + 2 : Nat) : ℤ) : ℚ) ≤ num / den ↔
    bound * (den * 2 ^ s) ≤ 4 * (num <<< k) := by
  have scale : (0 : ℚ) < den * 2 ^ (k + 2) := by positivity
  rw [← mul_le_mul_iff_left₀ scale, scaled_quotient k positive, scaled_bound, Nat.cast_le]

theorem quotient_le_bound_iff : (num / den : ℚ) ≤ bound * 2 ^ (s - (k + 2 : Nat) : ℤ) ↔
    4 * (num <<< k) ≤ bound * (den * 2 ^ s) := by
  have scale : (0 : ℚ) < den * 2 ^ (k + 2) := by positivity
  rw [← mul_le_mul_iff_left₀ scale, scaled_quotient k positive, scaled_bound, Nat.cast_le]

end

theorem ofRatio_of_holds (finite : x.isFinite = true) (negative : Bool) {num : Nat}
    (positive : 0 < den) (h : x.interval.Holds (num / den)) :
    ofRatio negative num den = ofParts negative x.magnitude := by
  have power : x.interval.power = x.doublings - (1074 + 2 : Nat) := x.power_interval
  have low := h.bounds.1
  have high := h.bounds.2
  rw [power, bound_le_quotient_iff _ _ _ positive] at low
  rw [power, quotient_le_bound_iff _ _ _ positive] at high
  have apart : x.significand % 2 = 1 →
      x.interval.low * (den * 2 ^ x.doublings) < 4 * (num <<< 1074) ∧
        4 * (num <<< 1074) < x.interval.high * (den * 2 ^ x.doublings) := by
    intro odd
    have opened : x.interval.closed = false := decide_eq_false (by omega)
    rw [Interval.Holds, opened, power] at h
    obtain ⟨above, below⟩ := h
    rw [← not_le, quotient_le_bound_iff _ _ _ positive, not_le] at above
    rw [← not_le, bound_le_quotient_iff _ _ _ positive, not_le] at below
    exact ⟨above, below⟩
  have nearest := pattern_eq positive low high apart
  have below : x.magnitude < infinite := of_decide_eq_true finite
  unfold ofRatio
  dsimp only at nearest ⊢
  rw [nearest, Nat.min_eq_right below.le]

end Listing.Binary64
