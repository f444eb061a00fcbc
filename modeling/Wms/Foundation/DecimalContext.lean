import Wms.Foundation.Binary64

/-!
# Decimal floating point numbers

Arithmetic in a context of limited precision: a result is the exact one, rounded to the digits of
the context, half to the even digit. Below the smallest exponent fewer digits are kept, and
beyond the largest exponent there is no result.
-/

namespace Foundation

/-- The digits and the exponents of a context. -/
structure DecimalContext where
  prec : ℕ
  emin : ℤ
  emax : ℤ

namespace DecimalContext

variable (c : DecimalContext)

/-- The smallest exponent of a last digit. -/
def etiny : ℤ := c.emin - c.prec + 1

/-- The value of the last digit. -/
def ulp (x : ℚ) : ℚ := 10 ^ max (Int.log 10 |x| + 1 - c.prec) c.etiny

/-- The nearest number of the context. -/
def round (x : ℚ) : ℚ := c.ulp x * Binary64.roundEven (x / c.ulp x)

/-- The result of an operation from the exact one, unless it is too large. -/
def finish (x : ℚ) : Option ℚ :=
  if Int.log 10 |c.round x| ≤ c.emax then some (c.round x) else none

variable {c}

theorem ulp_pos (x : ℚ) : 0 < c.ulp x := zpow_pos (by norm_num) _

theorem round_zero : c.round 0 = 0 := by
  have hzero : Binary64.roundEven 0 = 0 := Binary64.roundEven_intCast 0
  rw [round, zero_div, hzero, Int.cast_zero, mul_zero]

/-- The exponent of a number is bounded by its digits. -/
theorem log_lt_of_digits {n k : ℤ} {p : ℕ} (hn : |n| < 10 ^ p) (hzero : n ≠ 0) :
    Int.log 10 |(n : ℚ) * 10 ^ k| < p + k := by
  have hten : (0 : ℚ) < 10 ^ k := zpow_pos (by norm_num) k
  have hlt : |(n : ℚ)| < 10 ^ p := by exact_mod_cast hn
  have hpos : (0 : ℚ) < |(n : ℚ) * 10 ^ k| := by
    rw [abs_pos]
    exact mul_ne_zero (by exact_mod_cast hzero) hten.ne'
  rw [← Int.lt_zpow_iff_log_lt (by norm_num) hpos, abs_mul, abs_of_pos hten, Nat.cast_ofNat,
    zpow_add₀ (by norm_num), zpow_natCast]
  exact mul_lt_mul_of_pos_right hlt hten

/-- A number of no more digits than the context has is not rounded. -/
theorem round_of_digits {n k : ℤ} (hn : |n| < 10 ^ c.prec) (hk : c.etiny ≤ k) :
    c.round (n * 10 ^ k) = n * 10 ^ k := by
  by_cases hzero : n = 0
  · rw [hzero, Int.cast_zero, zero_mul, round_zero]
  · -- the last digit of the context is not above the one of the number
    have hlog := log_lt_of_digits (k := k) hn hzero
    have hle : max (Int.log 10 |(n : ℚ) * 10 ^ k| + 1 - c.prec) c.etiny ≤ k :=
      max_le (by omega) hk
    obtain ⟨m, hm⟩ := Int.le.dest hle
    have hquotient : (n : ℚ) * 10 ^ k / c.ulp (n * 10 ^ k) = ((n * 10 ^ m : ℤ) : ℚ) := by
      have hten : (10 : ℚ) ^ max (Int.log 10 |(n : ℚ) * 10 ^ k| + 1 - c.prec) c.etiny ≠ 0 :=
        zpow_ne_zero _ (by norm_num)
      unfold ulp
      nth_rewrite 1 [← hm]
      rw [zpow_add₀ (by norm_num), zpow_natCast, div_eq_iff hten]
      push_cast
      ring
    rw [round, hquotient, Binary64.roundEven_intCast, ← hquotient]
    exact mul_div_cancel₀ _ (ulp_pos _).ne'

/-- Neither is its result, unless it is too large. -/
theorem finish_of_digits {n k : ℤ} (hn : |n| < 10 ^ c.prec) (hk : c.etiny ≤ k)
    (hmax : c.prec + k ≤ c.emax + 1) (hemax : 0 ≤ c.emax) :
    c.finish ((n : ℚ) * 10 ^ k) = some ((n : ℚ) * 10 ^ k) := by
  rw [finish, round_of_digits hn hk, if_pos]
  by_cases hzero : n = 0
  · rw [hzero, Int.cast_zero, zero_mul, abs_zero, Int.log_zero_right]
    exact hemax
  · have hlog := log_lt_of_digits (k := k) hn hzero
    omega

end DecimalContext

end Foundation
