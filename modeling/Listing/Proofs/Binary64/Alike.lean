import Listing.Coercion

namespace Listing.Binary64

theorem not_finite_of_isNaN {x : Binary64} (h : x.isNaN = true) : x.isFinite = false := by
  simp only [isNaN, isFinite, decide_eq_true_eq, decide_eq_false_iff_not] at *
  omega

theorem equal_iff {x y : Binary64} :
    x.equal y = true ↔ x.isNaN = false ∧ y.isNaN = false ∧ x.place = y.place := by
  unfold equal compare?
  cases x.isNaN <;> cases y.isNaN <;> simp

theorem alike_iff {x y : Binary64} : x.alike y = true ↔
    x.isNaN = true ∧ y.isNaN = true ∨ x.isNaN = false ∧ y.isNaN = false ∧ x.place = y.place := by
  rw [alike, Bool.or_eq_true, Bool.and_eq_true, equal_iff]

theorem alike_refl (x : Binary64) : x.alike x = true := by
  rw [alike_iff]
  cases x.isNaN <;> simp

theorem alike_symm {x y : Binary64} (h : x.alike y = true) : y.alike x = true := by
  rw [alike_iff] at h ⊢
  grind

theorem alike_trans {x y z : Binary64} (h : x.alike y = true) (h' : y.alike z = true) :
    x.alike z = true := by
  rw [alike_iff] at h h' ⊢
  grind

theorem compare?_alike_right {x y : Binary64} (h : x.alike y = true) (z : Binary64) :
    z.compare? x = z.compare? y := by
  obtain ⟨hx, hy⟩ | ⟨hx, hy, place⟩ := alike_iff.1 h
  · simp [compare?, hx, hy]
  · simp [compare?, hx, hy, place]

theorem equal_alike_right {x y : Binary64} (h : x.alike y = true) (z : Binary64) :
    z.equal x = z.equal y := by
  rw [equal, equal, compare?_alike_right h]

theorem eq_of_place_eq {x y : Binary64} (h : x.place = y.place) :
    x.magnitude = y.magnitude ∧ (x.negative = y.negative ∨ x.magnitude = 0) := by
  unfold place at h
  cases hx : x.negative <;> cases hy : y.negative <;> simp only [hx, hy] at h ⊢ <;> grind

theorem whole?_eq_zero {x : Binary64} (h : x.magnitude = 0) : x.whole? = some 0 := by
  have significand : x.significand = 0 := by simp [Binary64.significand, h, hiddenBit]
  have exponent : x.exponent = -1074 := by simp [Binary64.exponent, h, hiddenBit]
  have finite : x.isFinite = true := by simp [isFinite, h, infinite]
  simp [whole?, significand, exponent, finite]

theorem whole?_alike {x y : Binary64} (h : x.alike y = true) : x.whole? = y.whole? := by
  obtain ⟨hx, hy⟩ | ⟨_, _, place⟩ := alike_iff.1 h
  · simp [whole?, not_finite_of_isNaN hx, not_finite_of_isNaN hy]
  · obtain ⟨magnitude, negative | zero⟩ := eq_of_place_eq place
    · have significand : x.significand = y.significand := by
        simp only [Binary64.significand, magnitude]
      have exponent : x.exponent = y.exponent := by simp only [Binary64.exponent, magnitude]
      have finite : x.isFinite = y.isFinite := by simp only [isFinite, magnitude]
      rw [whole?, whole?, significand, exponent, finite, negative]
    · rw [whole?_eq_zero zero, whole?_eq_zero (magnitude ▸ zero)]

end Listing.Binary64

theorem Listing.Coercion.integral?_alike {x y : Listing.Binary64} (h : x.alike y = true) :
    integral? x = integral? y := by
  rw [integral?, integral?, Binary64.whole?_alike h]
