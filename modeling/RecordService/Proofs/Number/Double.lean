import Mathlib.Data.Nat.Log
import Mathlib.Algebra.Order.Ring.Nat
import RecordService.Number.Double
/-!
# Rounding integers

An integer of up to 53 binary digits is a double (`Double.toInt_ofInt`), and no other integer is rounded to the double of
a smaller one (`Double.eq_of_toInt_ofInt`).
-/
namespace RecordService.Double

/-! ## The spacing -/

theorem log2_mul_two_pow {n : Nat} (hn : n ≠ 0) (m : Nat) : Nat.log2 (n * 2 ^ m) = Nat.log2 n + m := by
  have hpos : n * 2 ^ m ≠ 0 := Nat.mul_ne_zero hn (Nat.two_pow_pos m).ne'
  rw [Nat.log2_eq_iff hpos]
  constructor
  · rw [Nat.pow_add]
    exact Nat.mul_le_mul_right _ (Nat.log2_self_le hn)
  · rw [Nat.add_right_comm, Nat.pow_add]
    exact Nat.mul_lt_mul_of_pos_right Nat.lt_log2_self (Nat.two_pow_pos m)

theorem spacing_pos (magnitude : Nat) : 0 < spacing magnitude := Nat.two_pow_pos _

/-- What is a multiple of the spacing is rounded to itself. -/
theorem nearest_of_dvd {magnitude : Nat} (h : spacing magnitude ∣ magnitude) : nearest magnitude 1 = magnitude := by
  have hpos := spacing_pos magnitude
  have hrest : magnitude % spacing magnitude = 0 := Nat.mod_eq_zero_of_dvd h
  have hstep : (0 == spacing magnitude) = false := beq_eq_false_iff_ne.2 (Nat.ne_of_lt hpos)
  unfold nearest
  simp only [Nat.div_one, Nat.one_mul, hrest, Nat.mul_zero, Nat.not_lt_zero, hstep, decide_false, Bool.false_and,
    Bool.or_self, Bool.false_eq_true, if_false]
  exact Nat.div_mul_cancel h

/-- Rounding never goes below the multiple of the spacing under the magnitude. -/
theorem le_nearest (magnitude : Nat) : magnitude / spacing magnitude * spacing magnitude ≤ nearest magnitude 1 := by
  unfold nearest
  simp only [Nat.div_one, Nat.one_mul]
  refine Nat.mul_le_mul_right _ ?_
  split <;> omega

/-! ## Integers -/

/-- An integer of up to 53 digits is a multiple of the spacing. -/
theorem spacing_dvd {n m : Nat} (hn : n ≤ 2 ^ 53) (hm : 52 ≤ m) : spacing (n * 2 ^ m) ∣ n * 2 ^ m := by
  by_cases hzero : n = 0
  · rw [hzero, Nat.zero_mul]
    exact Nat.dvd_zero _
  have hspacing : spacing (n * 2 ^ m) = 2 ^ (Nat.log2 n + m - 52) := by
    rw [spacing, log2_mul_two_pow hzero]
    rfl
  rw [hspacing]
  by_cases hlog : Nat.log2 n ≤ 52
  · exact Nat.dvd_mul_left_of_dvd (Nat.pow_dvd_pow 2 (by omega)) n
  · -- only the power of two itself has a digit more
    have hlow : 2 ^ 53 ≤ n := Nat.le_trans (Nat.pow_le_pow_right (by decide) (by omega)) (Nat.log2_self_le hzero)
    rw [Nat.le_antisymm hn hlow, ← Nat.pow_add]
    refine Nat.pow_dvd_pow 2 ?_
    rw [Nat.log2_two_pow]
    omega

/-- What is not less than a power of two is not rounded to less. -/
theorem two_pow_le_nearest {n m : Nat} (hn : 2 ^ 53 ≤ n) : 2 ^ 53 * 2 ^ m ≤ nearest (n * 2 ^ m) 1 := by
  have hzero : n ≠ 0 := by rintro rfl; revert hn; decide
  have hlog : 53 ≤ Nat.log2 n := (Nat.le_log2 hzero).2 hn
  refine Nat.le_trans ?_ (le_nearest (n * 2 ^ m))
  have hspacing : spacing (n * 2 ^ m) = 2 ^ (Nat.log2 n + m - 52) := by
    rw [spacing, log2_mul_two_pow hzero]
    rfl
  have hquotient : 2 ^ 52 ≤ n * 2 ^ m / spacing (n * 2 ^ m) := by
    rw [Nat.le_div_iff_mul_le (spacing_pos _), hspacing, ← Nat.pow_add]
    have hself := Nat.log2_self_le (Nat.mul_ne_zero hzero (Nat.two_pow_pos m).ne')
    rw [log2_mul_two_pow hzero] at hself
    rwa [show 52 + (Nat.log2 n + m - 52) = Nat.log2 n + m by omega]
  refine Nat.le_trans ?_ (Nat.mul_le_mul_right _ hquotient)
  rw [hspacing, ← Nat.pow_add, ← Nat.pow_add]
  exact Nat.pow_le_pow_right (by decide) (by omega)

theorem natAbs_toInt_ofInt (i : Int) : (ofInt i).toInt.natAbs = nearest (i.natAbs * one) 1 := by
  unfold ofInt toInt
  dsimp only
  split <;> omega

/-- The exponent is kept closed, for nothing depends on it but its size. -/
theorem one_eq : ∃ m, 52 ≤ m ∧ one = 2 ^ m := by
  unfold one
  generalize h : (1074 : Nat) = m
  exact ⟨m, by omega, rfl⟩

theorem nearest_mul_one {n : Nat} (hn : n ≤ 2 ^ 53) : nearest (n * one) 1 = n * one := by
  obtain ⟨m, hm, hone⟩ := one_eq
  rw [hone]
  exact nearest_of_dvd (spacing_dvd hn hm)

/-- **An integer of up to 53 digits is a double.** -/
theorem toInt_ofInt {i : Int} (hi : i.natAbs ≤ 2 ^ 53) : (ofInt i).toInt = i * one := by
  unfold ofInt toInt
  rw [nearest_mul_one hi]
  dsimp only
  rw [Int.natCast_mul]
  by_cases hneg : i < 0
  · rw [if_pos (decide_eq_true hneg), show (i.natAbs : Int) = -i by omega, Int.neg_mul, Int.neg_neg]
  · rw [if_neg (by simpa using hneg), show (i.natAbs : Int) = i by omega]

/-- **No other integer is rounded to the double of an integer of less than 53 digits.** -/
theorem eq_of_toInt_ofInt {i j : Int} (hi : i.natAbs < 2 ^ 53) (h : (ofInt j).toInt = (ofInt i).toInt) : j = i := by
  obtain ⟨m, -, hone⟩ := one_eq
  have hpos : 0 < one := hone ▸ Nat.two_pow_pos m
  by_cases hj : j.natAbs < 2 ^ 53
  · rw [toInt_ofInt (Nat.le_of_lt hj), toInt_ofInt (Nat.le_of_lt hi)] at h
    exact Int.eq_of_mul_eq_mul_right (by omega) h
  · -- what is not less in size is rounded to what is not less in size
    have hlarge : 2 ^ 53 * one ≤ nearest (j.natAbs * one) 1 := by
      rw [hone]
      exact two_pow_le_nearest (Nat.le_of_not_lt hj)
    rw [← natAbs_toInt_ofInt, h, natAbs_toInt_ofInt, nearest_mul_one (Nat.le_of_lt hi)] at hlarge
    exact absurd (Nat.le_of_mul_le_mul_right hlarge hpos) (Nat.not_le_of_lt hi)

end RecordService.Double
