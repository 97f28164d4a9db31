import Mathlib.Algebra.Group.Nat.Defs
import Listing.Value.Basic

namespace Listing.Binary64

theorem roundDiv_cases (num den : Nat) :
    roundDiv num den = num / den ∧
      (2 * (num % den) < den ∨ 2 * (num % den) = den ∧ num / den % 2 = 0) ∨
    roundDiv num den = num / den + 1 ∧
      (den < 2 * (num % den) ∨ 2 * (num % den) = den ∧ num / den % 2 = 1) := by
  unfold roundDiv
  dsimp only
  split
  · exact .inl ⟨rfl, .inl ‹_›⟩
  · split
    · exact .inr ⟨rfl, .inl ‹_›⟩
    · omega

theorem roundDiv_mono {num num' : Nat} (h : num ≤ num') (den : Nat) :
    roundDiv num den ≤ roundDiv num' den := by
  have round := roundDiv_cases num den
  have round' := roundDiv_cases num' den
  obtain less | same := Nat.lt_or_eq_of_le (Nat.div_le_div_right (c := den) h)
  · omega
  · have rest : num % den ≤ num' % den := by
      have parts := Nat.div_add_mod num den
      have parts' := Nat.div_add_mod num' den
      rw [same] at parts
      omega
    omega

theorem le_roundDiv {num den bound : Nat} (positive : 0 < den) (h : bound * den ≤ num) :
    bound ≤ roundDiv num den := by
  have low := (Nat.le_div_iff_mul_le positive).2 h
  have round := roundDiv_cases num den
  omega

theorem roundDiv_le {num den bound : Nat} (positive : 0 < den) (h : num < bound * den) :
    roundDiv num den ≤ bound := by
  have low := (Nat.div_lt_iff_lt_mul positive).2 h
  have round := roundDiv_cases num den
  omega

def nearest (units : Nat) : Nat :=
  (Nat.log2 units - 52) * hiddenBit + roundDiv units (1 <<< (Nat.log2 units - 52))

theorem nearest_mono {u v : Nat} (h : u ≤ v) : nearest u ≤ nearest v := by
  obtain rfl | some := Nat.eq_zero_or_pos u
  · exact Nat.zero_le _
  have digits : Nat.log2 u ≤ Nat.log2 v := by
    rw [Nat.le_log2 (by omega)]
    exact Nat.le_trans (Nat.log2_self_le (by omega)) h
  unfold nearest
  obtain same | more : Nat.log2 u - 52 = Nat.log2 v - 52 ∨ Nat.log2 u - 52 < Nat.log2 v - 52 := by omega
  · rw [same]
    exact Nat.add_le_add_left (roundDiv_mono h _) _
  -- The pattern of `u` stays within its power of two, and that of `v` starts at a later one.
  · have unit (shift : Nat) : 0 < 1 <<< shift := by
      rw [Nat.one_shiftLeft]
      exact Nat.two_pow_pos shift
    have low : roundDiv u (1 <<< (Nat.log2 u - 52)) ≤ 2 * hiddenBit := by
      apply roundDiv_le (unit _)
      have size : u < 2 ^ (Nat.log2 u + 1) := Nat.lt_log2_self
      have widest : 2 ^ (Nat.log2 u + 1) ≤ 2 ^ (53 + (Nat.log2 u - 52)) :=
        Nat.pow_le_pow_right (by decide) (by omega)
      rw [Nat.pow_add 2 53] at widest
      rw [Nat.one_shiftLeft]
      exact Nat.lt_of_lt_of_le size widest
    have high : hiddenBit ≤ roundDiv v (1 <<< (Nat.log2 v - 52)) := by
      apply le_roundDiv (unit _)
      have size : 2 ^ Nat.log2 v ≤ v := Nat.log2_self_le (by omega)
      have whole : 2 ^ Nat.log2 v = 2 ^ 52 * 2 ^ (Nat.log2 v - 52) := by
        rw [← Nat.pow_add]
        congr 1
        omega
      rw [Nat.one_shiftLeft]
      exact Nat.le_trans (Nat.le_of_eq whole.symm) size
    have steps := Nat.mul_le_mul_right hiddenBit more
    rw [Nat.succ_mul] at steps
    omega

theorem nearest_lt (units : Nat) (h : units ≤ 2 ^ 63 <<< 1074) : nearest units < infinite := by
  have top : nearest (2 ^ 63 <<< 1074) < infinite := by decide +kernel
  exact Nat.lt_of_le_of_lt (nearest_mono h) top

variable {negative : Bool} {magnitude : Nat}

theorem toNat_ofParts (h : magnitude ≤ infinite) : (ofParts negative magnitude).bits.toNat =
    if negative then signBit + magnitude else magnitude := by
  have fits : (if negative then signBit + magnitude else magnitude) < UInt64.size := by
    unfold infinite at h
    unfold signBit UInt64.size
    split <;> omega
  rw [ofParts, UInt64.toNat_ofNat_of_lt' fits]

theorem magnitude_ofParts (h : magnitude ≤ infinite) :
    (ofParts negative magnitude).magnitude = magnitude := by
  rw [Binary64.magnitude, toNat_ofParts h]
  unfold infinite at h
  unfold signBit
  split <;> omega

theorem negative_ofParts (h : magnitude ≤ infinite) :
    (ofParts negative magnitude).negative = negative := by
  rw [Binary64.negative, toNat_ofParts h]
  unfold infinite at h
  unfold signBit
  cases negative <;> simp
  omega

def wideMagnitude (n : Int) : Nat := min infinite (nearest (n.natAbs <<< 1074))

theorem wideMagnitude_le (n : Int) : wideMagnitude n ≤ infinite := Nat.min_le_left _ _

theorem ofInt_eq (n : Int) : ofInt n = ofParts (n < 0) (wideMagnitude n) := by
  rw [ofInt, ofRatio, Nat.div_one]
  rfl

theorem magnitude_ofInt (n : Int) : (ofInt n).magnitude = wideMagnitude n := by
  rw [ofInt_eq, magnitude_ofParts (wideMagnitude_le n)]

theorem place_ofInt (n : Int) :
    (ofInt n).place = if n < 0 then -(wideMagnitude n : Int) else wideMagnitude n := by
  rw [place, magnitude_ofInt, ofInt_eq, negative_ofParts (wideMagnitude_le n)]
  simp only [decide_eq_true_eq]

theorem shiftLeft_mono {u v : Nat} (h : u ≤ v) (shift : Nat) : u <<< shift ≤ v <<< shift := by
  rw [Nat.shiftLeft_eq, Nat.shiftLeft_eq]
  exact Nat.mul_le_mul_right _ h

theorem wideMagnitude_mono {n m : Int} (h : n.natAbs ≤ m.natAbs) :
    wideMagnitude n ≤ wideMagnitude m := by
  have rounded := nearest_mono (shiftLeft_mono h 1074)
  unfold wideMagnitude
  omega

theorem place_ofInt_mono {n m : Int} (h : n ≤ m) : (ofInt n).place ≤ (ofInt m).place := by
  rw [place_ofInt, place_ofInt]
  split
  · split
    · have grows := wideMagnitude_mono (n := m) (m := n) (by omega)
      omega
    · omega
  · have grows := wideMagnitude_mono (n := n) (m := m) (by omega)
    rw [if_neg (by omega)]
    omega

theorem isFinite_ofInt {n : Int} (h : n.natAbs ≤ 2 ^ 63) : (ofInt n).isFinite = true := by
  have finite := nearest_lt _ (shiftLeft_mono h 1074)
  rw [isFinite, magnitude_ofInt]
  exact decide_eq_true (Nat.lt_of_le_of_lt (Nat.min_le_right _ _) finite)

end Listing.Binary64

namespace Listing.Value

theorem isFinite_widen (n : Int64) : (widen n).isFinite = true := by
  apply Binary64.isFinite_ofInt
  have low := n.le_toInt
  have high := n.toInt_lt
  omega

theorem place_widen_mono {n m : Int64} (h : n.toInt ≤ m.toInt) : (widen n).place ≤ (widen m).place :=
  Binary64.place_ofInt_mono h

end Listing.Value
