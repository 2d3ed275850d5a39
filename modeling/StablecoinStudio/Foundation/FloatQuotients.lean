import Mathlib.Data.Int.Log
import Mathlib.Data.Rat.Floor
import Mathlib.Tactic.Linarith
import Mathlib.Tactic.NormNum

/-!
# Quotients in a floating format

A quotient is read as the number of the format that is nearest to it, and is
then rounded to an integer. Neither step more than doubles it by much.
-/

namespace StablecoinStudio.Foundation.FloatQuotients

set_option autoImplicit false

/-- The nearest integer, with ties to the even one. -/
def roundEven (value : ℚ) : Int :=
  let rest := value - ⌊value⌋
  if 1 / 2 < rest ∨ rest = 1 / 2 ∧ ⌊value⌋ % 2 = 1 then ⌊value⌋ + 1 else ⌊value⌋

def lastPlace (precision : Nat) (value : ℚ) : ℚ := 2 ^ (Int.log 2 value + 1 - precision)

/-- The number of the format that is nearest to a positive one, or zero. -/
def nearestQuotient (precision : Nat) (value : ℚ) : ℚ :=
  roundEven (value / lastPlace precision value) * lastPlace precision value

/-- The nearest integer, with ties upwards. -/
def roundUp (value : ℚ) : Int := ⌊value + 1 / 2⌋

variable {precision : Nat} {value : ℚ}

theorem roundEven_le (value : ℚ) : (roundEven value : ℚ) ≤ value + 1 := by
  have low := Int.floor_le value
  unfold roundEven
  dsimp only
  split
  · rw [Int.cast_add, Int.cast_one]
    linarith
  · linarith

theorem lastPlace_pos (precision : Nat) (value : ℚ) : 0 < lastPlace precision value :=
  zpow_pos (by norm_num) _

theorem lastPlace_le (some_ : 0 < precision) (positive : 0 < value) :
    lastPlace precision value ≤ value := by
  have fewer : Int.log 2 value + 1 - precision ≤ Int.log 2 value := by omega
  have power : (2 : ℚ) ^ (Int.log 2 value + 1 - precision) ≤ 2 ^ Int.log 2 value :=
    zpow_le_zpow_right₀ (by norm_num) fewer
  have below := Int.zpow_log_le_self (by norm_num : 1 < 2) positive
  exact power.trans below

theorem nearestQuotient_le (some_ : 0 < precision) (nonneg : 0 ≤ value) :
    nearestQuotient precision value ≤ 2 * value := by
  rcases eq_or_lt_of_le nonneg with zero | positive
  · rw [← zero, nearestQuotient, zero_div]
    have nothing : roundEven 0 = 0 := by
      rw [roundEven]
      norm_num
    rw [nothing, Int.cast_zero, zero_mul, mul_zero]
  · have place := lastPlace_pos precision value
    calc
      nearestQuotient precision value
          ≤ (value / lastPlace precision value + 1) * lastPlace precision value :=
        mul_le_mul_of_nonneg_right (roundEven_le _) (le_of_lt place)
      _ = value + lastPlace precision value := by
        rw [add_mul, one_mul, div_mul_cancel₀ _ (ne_of_gt place)]
      _ ≤ 2 * value := by
        have small := lastPlace_le some_ positive
        linarith

theorem roundUp_nearestQuotient_lt (some_ : 0 < precision) (nonneg : 0 ≤ value) :
    (roundUp (nearestQuotient precision value) : ℚ) < 2 * value + 1 := by
  have near := nearestQuotient_le some_ nonneg
  have low := Int.floor_le (nearestQuotient precision value + 1 / 2)
  rw [roundUp]
  linarith

end StablecoinStudio.Foundation.FloatQuotients
