import Mathlib.Algebra.Order.Field.Power
import Mathlib.Tactic.Linarith
import Mathlib.Tactic.Positivity
import Listing.Binary64.Basic

namespace Listing.Binary64

def size (x : Binary64) : ℚ := x.significand * 2 ^ x.exponent

def toRat (x : Binary64) : ℚ := if x.negative then -x.size else x.size

theorem size_nonneg (x : Binary64) : 0 ≤ x.size := by
  unfold size
  positivity

def wholeSize? (x : Binary64) : Option Nat :=
  if 0 ≤ x.exponent then some (x.significand <<< x.exponent.toNat)
  else
    let unit := 1 <<< (-x.exponent).toNat
    if x.significand % unit = 0 then some (x.significand / unit) else none

def signed (x : Binary64) (n : Nat) : Int := if x.negative then -n else n

theorem whole?_eq (x : Binary64) :
    x.whole? = if x.isFinite then x.wholeSize?.map x.signed else none := by
  have unfolded : x.whole? = if x.isFinite then
      (x.wholeSize?.bind fun n => some (n : Int)).map fun n => if x.negative then -n else n
    else none := rfl
  rw [unfolded]
  cases x.wholeSize? <;> rfl

theorem toRat_eq_signed {x : Binary64} {m : Nat} (h : x.size = m) : x.toRat = x.signed m := by
  rw [toRat, signed, h]
  split <;> simp

theorem toRat_eq_iff {x : Binary64} {n : Int} :
    x.toRat = n ↔ ∃ m : Nat, x.size = m ∧ x.signed m = n := by
  constructor
  · intro value
    have size : x.size = (n.natAbs : Nat) := by
      rw [Nat.cast_natAbs, Int.cast_abs, ← value, ← abs_of_nonneg x.size_nonneg]
      unfold toRat
      split <;> simp
    refine ⟨n.natAbs, size, ?_⟩
    rw [toRat_eq_signed size] at value
    exact_mod_cast value
  · rintro ⟨m, size, rfl⟩
    exact toRat_eq_signed size

theorem wholeSize?_eq_some_iff {x : Binary64} {n : Nat} : x.wholeSize? = some n ↔ x.size = n := by
  unfold wholeSize? size
  split
  · obtain ⟨k, power⟩ := Int.eq_ofNat_of_zero_le ‹0 ≤ x.exponent›
    rw [power, Int.toNat_natCast, Nat.shiftLeft_eq, zpow_natCast, Option.some_inj]
    norm_cast
  · obtain ⟨k, power⟩ := Int.eq_ofNat_of_zero_le (a := -x.exponent) (by omega)
    have unit : 0 < 2 ^ k := Nat.two_pow_pos k
    have quotient : (x.significand * 2 ^ x.exponent : ℚ) = n ↔ x.significand = n * 2 ^ k := by
      rw [← neg_neg x.exponent, power, zpow_neg, zpow_natCast, ← div_eq_mul_inv,
        div_eq_iff (by positivity)]
      norm_cast
    rw [quotient, power, Int.toNat_natCast, Nat.one_shiftLeft]
    dsimp only
    split
    · rename_i divides
      rw [Option.some_inj, Nat.div_eq_iff_eq_mul_left unit (Nat.dvd_of_mod_eq_zero divides)]
    · rename_i rest
      simp only [reduceCtorEq, false_iff]
      rintro whole
      exact rest (by rw [whole, Nat.mul_mod_left])

theorem whole?_eq_some_iff {x : Binary64} {n : Int} :
    x.whole? = some n ↔ x.isFinite = true ∧ x.toRat = n := by
  rw [whole?_eq, toRat_eq_iff]
  split
  · simp only [*, true_and, Option.map_eq_some_iff, wholeSize?_eq_some_iff]
  · simp [*]

end Listing.Binary64
