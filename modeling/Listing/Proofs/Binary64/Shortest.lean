import Listing.Proofs.Binary64.Nearest

namespace Listing.Binary64

/-!
## Powers of ten and of two

That `10 ^ 3` is just below `2 ^ 10`, and `10 ^ 10` above `2 ^ 33`, tells the two close enough for the grids
of the search.
-/

theorem zpow_mul_toNat (b : ℚ) (some : b ≠ 0) (n : ℤ) : b ^ n * b ^ (-n).toNat = b ^ n.toNat := by
  rw [← zpow_natCast, ← zpow_natCast, ← zpow_add₀ some]
  congr 1
  omega

theorem ten_zpow_lt {n p : ℤ} {a b : Nat} (powers : ((10 ^ a : ℚ)) ^ n ≤ (2 ^ b) ^ n)
    (h : b * n < a * p) : (10 : ℚ) ^ n < 2 ^ p := by
  have raised : ((10 : ℚ) ^ n) ^ a < (2 ^ p) ^ a := by
    calc ((10 : ℚ) ^ n) ^ a = (10 ^ a) ^ n := by
          rw [← zpow_natCast, ← zpow_mul, mul_comm, zpow_mul, zpow_natCast]
      _ ≤ (2 ^ b) ^ n := powers
      _ = 2 ^ (b * n) := by rw [zpow_mul, zpow_natCast]
      _ < 2 ^ (a * p) := zpow_lt_zpow_right₀ one_lt_two h
      _ = (2 ^ p) ^ a := by rw [mul_comm, zpow_mul, zpow_natCast]
  exact lt_of_pow_lt_pow_left₀ a (by positivity) raised

theorem ten_zpow_lt_of_nonneg {n p : ℤ} (nonneg : 0 ≤ n) (h : 10 * n < 3 * p) :
    (10 : ℚ) ^ n < 2 ^ p := by
  have powers : ((10 ^ 3 : ℚ)) ^ n ≤ (2 ^ 10) ^ n :=
    zpow_le_zpow_left₀ nonneg (by norm_num) (by norm_num)
  exact ten_zpow_lt powers h

theorem ten_zpow_lt_of_neg {n p : ℤ} (negative : n < 0) (h : 33 * n < 10 * p) :
    (10 : ℚ) ^ n < 2 ^ p := by
  have powers : ((10 ^ 10 : ℚ)) ^ n ≤ (2 ^ 33) ^ n := by
    obtain ⟨m, rfl⟩ : ∃ m : Nat, n = -m := ⟨n.natAbs, by omega⟩
    rw [zpow_neg, zpow_neg, zpow_natCast, zpow_natCast]
    exact inv_anti₀ (by positivity) (pow_le_pow_left₀ (by norm_num) (by norm_num) m)
  exact ten_zpow_lt powers h

theorem two_zpow_le {n : ℤ} (nonneg : 0 ≤ n) : (2 : ℚ) ^ (3 * n) ≤ 10 ^ n := by
  rw [zpow_mul]
  exact zpow_le_zpow_left₀ nonneg (by norm_num) (by norm_num)

/-! ## Grids -/

namespace Interval

variable (i : Interval) (scale : ℤ)

def up : Nat := Nat.pow 10 (-scale).toNat <<< i.power.toNat

def down : Nat := Nat.pow 10 scale.toNat <<< (-i.power).toNat

theorem up_pos : 0 < i.up scale := by
  unfold up
  rw [Nat.shiftLeft_eq]
  exact Nat.mul_pos (Nat.pow_pos (by decide)) (Nat.two_pow_pos _)

theorem down_pos : 0 < i.down scale := by
  unfold down
  rw [Nat.shiftLeft_eq]
  exact Nat.mul_pos (Nat.pow_pos (by decide)) (Nat.two_pow_pos _)

theorem down_mul : (i.down scale * 2 ^ i.power : ℚ) = i.up scale * 10 ^ scale := by
  have ten := zpow_mul_toNat 10 (by norm_num) scale
  have two := zpow_mul_toNat 2 two_ne_zero i.power
  unfold down up
  rw [Nat.shiftLeft_eq, Nat.shiftLeft_eq, Nat.pow_eq, Nat.pow_eq]
  push_cast
  calc (10 : ℚ) ^ scale.toNat * 2 ^ (-i.power).toNat * 2 ^ i.power
      = 10 ^ scale.toNat * (2 ^ i.power * 2 ^ (-i.power).toNat) := by ring
    _ = 10 ^ scale * 10 ^ (-scale).toNat * 2 ^ i.power.toNat := by rw [two, ten]
    _ = 10 ^ (-scale).toNat * 2 ^ i.power.toNat * 10 ^ scale := by ring

def inside (point : Nat) : Bool :=
  if i.closed then i.low * i.up scale ≤ point * i.down scale && point * i.down scale ≤ i.high * i.up scale
  else i.low * i.up scale < point * i.down scale && point * i.down scale < i.high * i.up scale

section

variable (bound point : Nat)

theorem scaled_point : (point * i.down scale * 2 ^ i.power : ℚ) = point * 10 ^ scale * i.up scale := by
  rw [mul_assoc, down_mul]
  ring

theorem bound_le_point_iff : bound * i.up scale ≤ point * i.down scale ↔
    (bound * 2 ^ i.power : ℚ) ≤ point * 10 ^ scale := by
  have two : (0 : ℚ) < 2 ^ i.power := by positivity
  have up : (0 : ℚ) < i.up scale := by exact_mod_cast i.up_pos scale
  rw [← mul_le_mul_iff_left₀ up, ← scaled_point, mul_right_comm, mul_le_mul_iff_left₀ two]
  norm_cast

theorem point_le_bound_iff : point * i.down scale ≤ bound * i.up scale ↔
    (point * 10 ^ scale : ℚ) ≤ bound * 2 ^ i.power := by
  have two : (0 : ℚ) < 2 ^ i.power := by positivity
  have up : (0 : ℚ) < i.up scale := by exact_mod_cast i.up_pos scale
  rw [← mul_le_mul_iff_left₀ up, ← scaled_point, mul_right_comm (bound : ℚ),
    mul_le_mul_iff_left₀ two]
  norm_cast

end

theorem inside_iff (point : Nat) : i.inside scale point = true ↔ i.Holds (point * 10 ^ scale) := by
  have above := i.bound_le_point_iff scale
  have below := i.point_le_bound_iff scale
  unfold inside Holds
  split
  · rw [Bool.and_eq_true, decide_eq_true_iff, decide_eq_true_iff, above, below]
  · rw [Bool.and_eq_true, decide_eq_true_iff, decide_eq_true_iff, ← not_le, ← not_le, below, above,
      not_le, not_le]

def floor : Nat := i.mid * i.up scale / i.down scale

def nearer (tie : Tie) : Nat :=
  let rest := 2 * (i.mid * i.up scale % i.down scale)
  if rest < i.down scale then i.floor scale
  else if i.down scale < rest then i.floor scale + 1
  else match tie with
    | .up => i.floor scale + 1
    | .toEven => i.floor scale + i.floor scale % 2

theorem onGrid?_eq (tie : Tie) : i.onGrid? tie scale =
    match i.inside scale (i.floor scale), i.inside scale (i.floor scale + 1) with
    | true, true => some (i.nearer scale tie)
    | true, false => some (i.floor scale)
    | false, true => some (i.floor scale + 1)
    | false, false => none := rfl

theorem nearer_cases (tie : Tie) :
    i.nearer scale tie = i.floor scale ∨ i.nearer scale tie = i.floor scale + 1 := by
  unfold nearer
  dsimp only
  split
  · exact .inl rfl
  · split
    · exact .inr rfl
    · cases tie with
      | up => exact .inr rfl
      | toEven => dsimp only; omega

variable {i scale} {tie : Tie} {digits : Nat}

theorem holds_of_onGrid? (h : i.onGrid? tie scale = some digits) : i.Holds (digits * 10 ^ scale) := by
  rw [← inside_iff]
  rw [onGrid?_eq] at h
  split at h
  · cases h
    obtain nearer | nearer := i.nearer_cases scale tie
    · rwa [nearer]
    · rwa [nearer]
  · cases h; assumption
  · cases h; assumption
  · cases h

theorem isSome_onGrid? (low : i.low ≤ i.mid) (high : i.high = i.mid + 2)
    (fine : (10 : ℚ) ^ scale < 2 ^ (i.power + 1)) : (i.onGrid? tie scale).isSome = true := by
  have two : (0 : ℚ) < 2 ^ i.power := by positivity
  have up : (0 : ℚ) < i.up scale := by exact_mod_cast i.up_pos scale
  have narrow : i.down scale < 2 * i.up scale := by
    have scaled : (i.down scale * 2 ^ i.power : ℚ) < (2 * i.up scale) * 2 ^ i.power := by
      calc (i.down scale * 2 ^ i.power : ℚ) = i.up scale * 10 ^ scale := i.down_mul scale
        _ < i.up scale * 2 ^ (i.power + 1) := mul_lt_mul_of_pos_left fine up
        _ = (2 * i.up scale) * 2 ^ i.power := by rw [zpow_add_one₀ two_ne_zero]; ring
    exact_mod_cast (mul_lt_mul_iff_left₀ two).1 scaled
  have parts := Nat.div_add_mod (i.mid * i.up scale) (i.down scale)
  have rest := Nat.mod_lt (i.mid * i.up scale) (i.down_pos scale)
  have point : (i.floor scale + 1) * i.down scale =
      i.down scale * (i.mid * i.up scale / i.down scale) + i.down scale := by
    rw [Nat.succ_mul, floor, Nat.mul_comm]
  have least := Nat.mul_le_mul_right (i.up scale) low
  have most : i.high * i.up scale = i.mid * i.up scale + 2 * i.up scale := by
    rw [high, Nat.add_mul]
  have found : i.inside scale (i.floor scale + 1) = true := by
    unfold inside
    rw [point, most]
    split <;> simp only [Bool.and_eq_true, decide_eq_true_eq] <;> omega
  rw [onGrid?_eq, found]
  cases i.inside scale (i.floor scale) <;> rfl

theorem holds_coarsest {grids k : Nat} (within : k < grids)
    (found : (i.onGrid? tie (scale - k)).isSome = true) :
    i.Holds ((i.coarsest tie scale grids).digits * 10 ^ (i.coarsest tie scale grids).scale) := by
  induction grids generalizing scale k with
  | zero => omega
  | succ grids ih =>
    rw [coarsest]
    cases here : i.onGrid? tie scale with
    | some digits => exact holds_of_onGrid? here
    | none =>
      obtain _ | k := k
      · simp [here] at found
      · apply ih (k := k) (by omega)
        rw [← found]
        congr 2
        omega

end Interval

/-! ## Finite numbers -/

variable {x : Binary64}

theorem doublings_lt (finite : x.isFinite = true) : x.doublings < 2046 := by
  have below : x.magnitude < infinite := of_decide_eq_true finite
  unfold infinite at below
  unfold doublings hiddenBit
  omega

theorem low_le_mid (x : Binary64) : x.interval.low ≤ x.interval.mid := Nat.sub_le _ _

theorem high_eq (x : Binary64) : x.interval.high = x.interval.mid + 2 := rfl

theorem high_lt (x : Binary64) : x.interval.high < 2 ^ 55 := by
  have bound := x.significand_lt
  have split : x.interval.high = 4 * x.significand + 2 := rfl
  unfold hiddenBit at bound
  omega

theorem ten_zpow_lastGrid (finite : x.isFinite = true) :
    (10 : ℚ) ^ (x.interval.startScale - (23 : Nat)) < 2 ^ (x.interval.power + 1) := by
  have doubled := doublings_lt finite
  have power := x.power_interval
  have digits : Nat.log2 x.interval.high < 55 := by
    have some : x.interval.high ≠ 0 := Nat.succ_ne_zero _
    exact (Nat.log2_lt some).2 x.high_lt
  unfold Interval.startScale
  dsimp only
  generalize Nat.log2 x.interval.high = l at *
  generalize x.interval.power = p at *
  generalize scaled : (if 0 ≤ (l + 1 + p : ℤ) then (l + 1 + p) * 30103 else (l + 1 + p) * 30102) = n
  obtain negative | nonneg := lt_or_ge (n / 100000 + 1 - (23 : Nat)) 0
  · apply ten_zpow_lt_of_neg negative
    split at scaled <;> omega
  · apply ten_zpow_lt_of_nonneg nonneg
    split at scaled <;> omega

theorem shortest_holds (finite : x.isFinite = true) (some : x.significand ≠ 0) (tie : Tie) :
    x.interval.Holds ((shortest tie x).digits * 10 ^ (shortest tie x).scale) := by
  rw [shortest, if_neg some]
  have found : (x.interval.onGrid? tie (x.interval.startScale - (23 : Nat))).isSome = true :=
    Interval.isSome_onGrid? x.low_le_mid x.high_eq (ten_zpow_lastGrid finite)
  exact Interval.holds_coarsest (by decide) found

/-! ## Reading a decimal -/

theorem two_zpow_le_of_holds {q : ℚ} (some : x.significand ≠ 0) (h : x.interval.Holds q) :
    (2 : ℚ) ^ (-1076 : ℤ) ≤ q := by
  have power := x.power_interval
  have low : 1 ≤ x.interval.low := by
    have parts : x.interval.low = 4 * x.significand -
        if x.significand = hiddenBit ∧ -1074 < x.exponent then 1 else 2 := rfl
    split at parts <;> omega
  calc (2 : ℚ) ^ (-1076 : ℤ) ≤ 2 ^ x.interval.power := zpow_le_zpow_right₀ one_le_two (by omega)
    _ ≤ x.interval.low * 2 ^ x.interval.power :=
      le_mul_of_one_le_left (by positivity) (by exact_mod_cast low)
    _ ≤ q := h.bounds.1

theorem digits_ne_zero_of_holds {digits : Nat} {scale : ℤ} (some : x.significand ≠ 0)
    (h : x.interval.Holds (digits * 10 ^ scale)) : digits ≠ 0 := by
  have least := two_zpow_le_of_holds some h
  rintro rfl
  rw [Nat.cast_zero, zero_mul] at least
  exact absurd least (not_le.2 (by positivity))

theorem lt_two_zpow_of_holds {q : ℚ} (finite : x.isFinite = true) (h : x.interval.Holds q) :
    q < (2 : ℚ) ^ (1024 : ℤ) := by
  have power := x.power_interval
  have doubled := doublings_lt finite
  have high : (x.interval.high : ℚ) < 2 ^ 55 := by exact_mod_cast x.high_lt
  have positive : (0 : ℚ) < 2 ^ x.interval.power := by positivity
  calc q ≤ x.interval.high * 2 ^ x.interval.power := h.bounds.2
    _ < 2 ^ 55 * 2 ^ x.interval.power := mul_lt_mul_of_pos_right high positive
    _ = 2 ^ (55 + x.interval.power) := by rw [zpow_add₀ two_ne_zero]; rfl
    _ ≤ 2 ^ (1024 : ℤ) := zpow_le_zpow_right₀ one_le_two (by omega)

theorem ten_zpow_bounds {digits : Nat} (some : digits ≠ 0) (scale : ℤ) :
    (10 : ℚ) ^ ((Nat.toDigits 10 digits).length + scale - 1) ≤ digits * 10 ^ scale ∧
      (digits * 10 ^ scale : ℚ) < 10 ^ ((Nat.toDigits 10 digits).length + scale) := by
  have ten : (10 : ℚ) ≠ 0 := by norm_num
  have positive : (0 : ℚ) < 10 ^ scale := by positivity
  have count : 0 < (Nat.toDigits 10 digits).length := Nat.length_toDigits_pos
  have least : 10 ^ ((Nat.toDigits 10 digits).length - 1) ≤ digits := by
    by_contra less
    have fewer : (Nat.toDigits 10 digits).length ≤ (Nat.toDigits 10 digits).length - 1 := by
      obtain one | more := Nat.eq_zero_or_pos ((Nat.toDigits 10 digits).length - 1)
      · rw [one] at less
        omega
      · exact (Nat.length_toDigits_le_iff (by decide) more).2 (not_le.1 less)
    omega
  have most : digits < 10 ^ (Nat.toDigits 10 digits).length :=
    (Nat.length_toDigits_le_iff (by decide) count).1 le_rfl
  constructor
  · calc (10 : ℚ) ^ ((Nat.toDigits 10 digits).length + scale - 1)
        = 10 ^ ((Nat.toDigits 10 digits).length - 1) * 10 ^ scale := by
          rw [← zpow_natCast, ← zpow_add₀ ten]
          congr 1
          omega
      _ ≤ digits * 10 ^ scale := by
          exact mul_le_mul_of_nonneg_right (by exact_mod_cast least) positive.le
  · calc (digits * 10 ^ scale : ℚ) < 10 ^ (Nat.toDigits 10 digits).length * 10 ^ scale := by
          exact mul_lt_mul_of_pos_right (by exact_mod_cast most) positive
      _ = 10 ^ ((Nat.toDigits 10 digits).length + scale) := by rw [zpow_add₀ ten, zpow_natCast]

theorem ofDecimal_of_holds (finite : x.isFinite = true) (some : x.significand ≠ 0) (negative : Bool)
    {digits : Nat} {scale : ℤ} (h : x.interval.Holds (digits * 10 ^ scale)) :
    ofDecimal negative digits scale = ofParts negative x.magnitude := by
  have least := two_zpow_le_of_holds some h
  have most := lt_two_zpow_of_holds finite h
  have nonzero := digits_ne_zero_of_holds some h
  have bounds := ten_zpow_bounds nonzero scale
  -- The interval is well inside the range beyond which decimals are cut off.
  unfold ofDecimal
  dsimp only
  generalize (Nat.toDigits 10 digits).length + scale = size at bounds ⊢
  have above : -400 ≤ size := by
    by_contra less
    have small : (10 : ℚ) ^ size < 2 ^ (-1076 : ℤ) := ten_zpow_lt_of_neg (by omega) (by omega)
    exact absurd least (not_le.2 (bounds.2.trans small))
  have below : size ≤ 400 := by
    by_contra more
    have large : (2 : ℚ) ^ (3 * (size - 1)) < 2 ^ (1024 : ℤ) :=
      (two_zpow_le (by omega)).trans_lt (bounds.1.trans_lt most)
    have := (zpow_lt_zpow_iff_right₀ one_lt_two).1 large
    omega
  rw [if_neg (by omega), if_neg (by omega), Nat.pow_eq, Nat.pow_eq]
  split
  case isTrue whole =>
    apply ofRatio_of_holds finite negative Nat.one_pos
    have power : (10 : ℚ) ^ scale = 10 ^ scale.toNat := by
      rw [← zpow_natCast, Int.toNat_of_nonneg whole]
    push_cast
    rwa [div_one, ← power]
  case isFalse broken =>
    apply ofRatio_of_holds finite negative (Nat.pow_pos (by decide))
    have power : (10 : ℚ) ^ scale = (10 ^ (-scale).toNat)⁻¹ := by
      rw [← zpow_natCast, ← zpow_neg]
      congr 1
      omega
    push_cast
    rwa [div_eq_mul_inv, ← power]

end Listing.Binary64
