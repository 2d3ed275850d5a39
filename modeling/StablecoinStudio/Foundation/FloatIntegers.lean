import Mathlib.Algebra.Group.Nat.Even
import Mathlib.Tactic.ByContra

/-!
# Integers in a floating format

A number of the format has so many significant bits. An integer is read as the
number that is nearest to it, the even one of two, and a number is written with
the fewest digits that read as it.
-/

namespace StablecoinStudio.Foundation.FloatIntegers

set_option autoImplicit false

def excess (precision value : Nat) : Nat := Nat.log2 value + 1 - precision

/-- The number of the format that is nearest, with ties to the even one. -/
def nearest (precision value : Nat) : Nat :=
  let unit := 2 ^ excess precision value
  let quotient := value / unit
  let rest := value % unit
  if unit < 2 * rest ∨ 2 * rest = unit ∧ quotient % 2 = 1 then (quotient + 1) * unit
  else quotient * unit

/-- The multiples of a power of ten around a number, the closer one first. -/
def candidates (value digits : Nat) : List Nat :=
  let low := value / 10 ^ digits * 10 ^ digits
  let high := low + 10 ^ digits
  if value - low ≤ high - value then [low, high] else [high, low]

/-- The integer with the fewest digits that is read as the number. -/
def shortest (precision value : Nat) : Nat :=
  (((List.range (Nat.log2 value + 1)).reverse.flatMap (candidates value)).find?
    fun candidate => nearest precision candidate == value).getD value

section Nearest

variable {precision value bits : Nat}

theorem excess_of_lt (positive : 0 < precision) (small : value < 2 ^ precision) :
    excess precision value = 0 := by
  rcases Nat.eq_zero_or_pos value with zero | some_
  · rw [excess, zero, Nat.log2_zero]
    exact Nat.sub_eq_zero_of_le positive
  · exact Nat.sub_eq_zero_of_le ((Nat.log2_lt (Nat.ne_of_gt some_)).mpr small)

theorem nearest_of_lt (positive : 0 < precision) (small : value < 2 ^ precision) :
    nearest precision value = value := by
  unfold nearest
  dsimp only
  rw [excess_of_lt positive small, pow_zero, Nat.div_one, Nat.mod_one, Nat.mul_one, Nat.mul_one]
  exact if_neg (by omega)

theorem quotient_le_nearest :
    value / 2 ^ excess precision value * 2 ^ excess precision value ≤ nearest precision value := by
  unfold nearest
  dsimp only
  split
  · exact Nat.mul_le_mul_right _ (Nat.le_succ _)
  · exact Nat.le_refl _

theorem nearest_le_quotient : nearest precision value ≤
    (value / 2 ^ excess precision value + 1) * 2 ^ excess precision value := by
  unfold nearest
  dsimp only
  split
  · exact Nat.le_refl _
  · exact Nat.mul_le_mul_right _ (Nat.le_succ _)

theorem pow_le_nearest (positive : 0 < precision) (above : 2 ^ bits ≤ value) :
    2 ^ bits ≤ nearest precision value := by
  have nonzero : value ≠ 0 := by
    have one := Nat.two_pow_pos bits
    omega
  have larger : bits ≤ Nat.log2 value := (Nat.le_log2 nonzero).mpr above
  have split_ : 2 ^ Nat.log2 value =
      2 ^ (Nat.log2 value - excess precision value) * 2 ^ excess precision value := by
    rw [← pow_add]
    congr 1
    unfold excess
    omega
  have quotient : 2 ^ (Nat.log2 value - excess precision value) ≤
      value / 2 ^ excess precision value := by
    rw [Nat.le_div_iff_mul_le (Nat.two_pow_pos _), ← split_]
    exact Nat.log2_self_le nonzero
  calc 2 ^ bits ≤ 2 ^ Nat.log2 value := Nat.pow_le_pow_right (by decide) larger
    _ = 2 ^ (Nat.log2 value - excess precision value) * 2 ^ excess precision value := split_
    _ ≤ value / 2 ^ excess precision value * 2 ^ excess precision value :=
        Nat.mul_le_mul_right _ quotient
    _ ≤ nearest precision value := quotient_le_nearest

theorem nearest_le_pow (positive : 0 < precision) (below : value < 2 ^ bits) :
    nearest precision value ≤ 2 ^ bits := by
  rcases Nat.lt_or_ge value (2 ^ precision) with small | large
  · rw [nearest_of_lt positive small]
    exact Nat.le_of_lt below
  · have nonzero : value ≠ 0 := by
      have one := Nat.two_pow_pos precision
      omega
    have shorter : Nat.log2 value < bits := (Nat.log2_lt nonzero).mpr below
    have longer : precision ≤ Nat.log2 value := (Nat.le_log2 nonzero).mpr large
    have bitCount : precision + excess precision value = Nat.log2 value + 1 := by
      unfold excess
      omega
    have quotient : value / 2 ^ excess precision value < 2 ^ precision := by
      rw [Nat.div_lt_iff_lt_mul (Nat.two_pow_pos _), ← pow_add, bitCount]
      exact Nat.lt_log2_self
    calc nearest precision value
        ≤ (value / 2 ^ excess precision value + 1) * 2 ^ excess precision value :=
          nearest_le_quotient
      _ ≤ 2 ^ precision * 2 ^ excess precision value := Nat.mul_le_mul_right _ quotient
      _ = 2 ^ (Nat.log2 value + 1) := by rw [← pow_add, bitCount]
      _ ≤ 2 ^ bits := Nat.pow_le_pow_right (by decide) shorter

theorem nearest_lt_iff {bound : Nat} (positive : 0 < precision) (small : bound ≤ 2 ^ precision) :
    nearest precision value < bound ↔ value < bound := by
  rcases Nat.lt_or_ge value (2 ^ precision) with within | beyond
  · rw [nearest_of_lt positive within]
  · have above := pow_le_nearest positive beyond
    omega

theorem lt_nearest_iff {bound : Nat} (positive : 0 < precision) (small : bound < 2 ^ precision) :
    bound < nearest precision value ↔ bound < value := by
  rcases Nat.lt_or_ge value (2 ^ precision) with within | beyond
  · rw [nearest_of_lt positive within]
  · have above := pow_le_nearest positive beyond
    omega

end Nearest

section Shortest

variable {precision value bits : Nat}

/-- What is written is read as the same number, or is it. -/
theorem shortest_cases (precision value : Nat) :
    nearest precision (shortest precision value) = value ∨ shortest precision value = value := by
  unfold shortest
  cases found : ((List.range (Nat.log2 value + 1)).reverse.flatMap (candidates value)).find?
      (fun candidate => nearest precision candidate == value) with
  | none => exact Or.inr rfl
  | some candidate =>
      have same := List.find?_some found
      exact Or.inl (beq_iff_eq.mp same)

theorem nearest_shortest (held : nearest precision value = value) :
    nearest precision (shortest precision value) = value := by
  rcases shortest_cases precision value with back | same
  · exact back
  · rw [same, held]

/-- An integer within the precision is written as it is. -/
theorem shortest_of_lt (positive : 0 < precision) (small : value < 2 ^ precision) :
    shortest precision value = value := by
  have back := nearest_shortest (nearest_of_lt positive small)
  rcases Nat.lt_or_ge (shortest precision value) (2 ^ precision) with within | beyond
  · rw [← nearest_of_lt positive within]
    exact back
  · have above := pow_le_nearest positive beyond
    rw [back] at above
    exact absurd above (Nat.not_le.mpr small)

theorem shortest_lt_pow (positive : 0 < precision) (below : value < 2 ^ bits) :
    shortest precision value < 2 ^ bits := by
  by_contra beyond
  rcases shortest_cases precision value with back | same
  · have above := pow_le_nearest positive (Nat.not_lt.mp beyond)
    rw [back] at above
    exact absurd above (Nat.not_le.mpr below)
  · rw [same] at beyond
    exact beyond below

end Shortest

end StablecoinStudio.Foundation.FloatIntegers
