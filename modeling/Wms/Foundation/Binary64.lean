import Mathlib

/-!
# Floating point numbers

Numbers of 53 binary digits as rational numbers, and rounding to the nearest of them, to the one
with an even last digit where two are nearest. The numbers that occur are far from the ends of
the range of exponents, which is left out.
-/

namespace Foundation.Binary64

/-- The nearest integer, the even one of two. -/
def roundEven (y : ℚ) : ℤ :=
  if y - ⌊y⌋ < 1 / 2 then ⌊y⌋
  else if 1 / 2 < y - ⌊y⌋ then ⌊y⌋ + 1
  else if ⌊y⌋ % 2 = 0 then ⌊y⌋ else ⌊y⌋ + 1

/-- The value of the last of the 53 digits. -/
def ulp (x : ℚ) : ℚ := 2 ^ (Int.log 2 |x| - 52)

/-- The nearest floating point number. -/
def round (x : ℚ) : ℚ := ulp x * roundEven (x / ulp x)

/-- Python's `int` of a float: the fraction is cut off. -/
def trunc (x : ℚ) : ℤ := if 0 ≤ x then ⌊x⌋ else ⌈x⌉

variable {x y : ℚ} {n : ℤ}

theorem abs_roundEven_sub_le (y : ℚ) : |(roundEven y : ℚ) - y| ≤ 1 / 2 := by
  have hlow := Int.floor_le y
  have hhigh := Int.lt_floor_add_one y
  unfold roundEven
  rw [abs_le]
  split
  · constructor <;> linarith
  · rename_i hhalf
    push Not at hhalf
    split
    · push_cast
      constructor <;> linarith
    · rename_i hnot
      push Not at hnot
      split
      · constructor <;> linarith
      · push_cast
        constructor <;> linarith

theorem roundEven_intCast (n : ℤ) : roundEven n = n := by
  unfold roundEven
  rw [Int.floor_intCast, sub_self, if_pos (by norm_num)]

theorem ulp_pos (x : ℚ) : 0 < ulp x := zpow_pos (by norm_num) _

/-- The last digit is a small part of the number. -/
theorem ulp_le (hx : x ≠ 0) : ulp x ≤ |x| / 2 ^ 52 := by
  have hlog : (2 : ℚ) ^ Int.log 2 |x| ≤ |x| := by
    have := Int.zpow_log_le_self (b := 2) (r := |x|) (by norm_num) (abs_pos.mpr hx)
    exact_mod_cast this
  unfold ulp
  rw [zpow_sub₀ (by norm_num)]
  gcongr
  norm_num

/-- Rounding changes a number by at most half of its last digit. -/
theorem abs_round_sub_le (hx : x ≠ 0) : |round x - x| ≤ |x| / 2 ^ 53 := by
  have hulp := ulp_pos x
  have hsplit : round x - x = ulp x * ((roundEven (x / ulp x) : ℚ) - x / ulp x) := by
    unfold round
    field_simp
  calc |round x - x| = ulp x * |(roundEven (x / ulp x) : ℚ) - x / ulp x| := by
        rw [hsplit, abs_mul, abs_of_pos hulp]
    _ ≤ ulp x * (1 / 2) := by
        gcongr
        exact abs_roundEven_sub_le _
    _ ≤ |x| / 2 ^ 52 * (1 / 2) := by
        gcongr
        exact ulp_le hx
    _ = |x| / 2 ^ 53 := by ring

theorem round_zero : round 0 = 0 := by
  have hzero : roundEven 0 = 0 := roundEven_intCast 0
  unfold round
  rw [zero_div, hzero, Int.cast_zero, mul_zero]

/-- Integers that have 53 digits are kept. -/
theorem round_intCast (hn : |n| < 2 ^ 53) : round n = n := by
  by_cases hzero : n = 0
  · rw [hzero, Int.cast_zero, round_zero]
  have hulp := ulp_pos (n : ℚ)
  have hpos : (0 : ℚ) < |(n : ℚ)| := abs_pos.mpr (by exact_mod_cast hzero)
  have hlog : Int.log 2 |(n : ℚ)| < 53 := by
    have hlt : |(n : ℚ)| < (2 : ℚ) ^ (53 : ℤ) := by exact_mod_cast hn
    rw [← Int.lt_zpow_iff_log_lt (by norm_num) hpos]
    exact_mod_cast hlt
  -- the last digit stands for a whole part of one
  obtain ⟨k, hk⟩ := Int.eq_ofNat_of_zero_le (show 0 ≤ 52 - Int.log 2 |(n : ℚ)| by omega)
  have hval : (n : ℚ) / ulp n = ((n * 2 ^ k : ℤ) : ℚ) := by
    have hexp : Int.log 2 |(n : ℚ)| - 52 = -(k : ℤ) := by omega
    unfold ulp
    rw [hexp, zpow_neg, zpow_natCast, div_inv_eq_mul]
    push_cast
    rfl
  unfold round
  rw [hval, roundEven_intCast, ← hval]
  field_simp

end Foundation.Binary64
