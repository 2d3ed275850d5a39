import Mathlib.Algebra.Order.Field.Basic
import Mathlib.Algebra.Order.Floor.Semifield
import Mathlib.Data.Rat.Floor
import Mathlib.Tactic.FieldSimp
import Mathlib.Tactic.Linarith
import Mathlib.Tactic.Positivity
import Mathlib.Tactic.Ring

/-!
# Decimal quantities

A number of units with so many decimal places stands for a rational. Two amounts
in different scales are compared after the one with fewer digits is brought to
the scale of the other; an amount that loses places is truncated towards zero.
-/

namespace StablecoinStudio.Foundation.DecimalQuantities

set_option autoImplicit false

/-- What a number of units with so many decimal places stands for. -/
def quantity (places : Nat) (units : Int) : ℚ := units / 10 ^ places

section Quantities

variable {places : Nat}

theorem ten_pow_pos (places : Nat) : (0 : ℚ) < 10 ^ places := by positivity

theorem quantity_neg (places : Nat) (units : Int) :
    quantity places (-units) = -quantity places units := by
  rw [quantity, quantity, Int.cast_neg, neg_div]

theorem quantity_shift (places more : Nat) (units : Int) :
    quantity (places + more) (units * 10 ^ more) = quantity places units := by
  have nonzero : (10 : ℚ) ^ more ≠ 0 := ne_of_gt (ten_pow_pos more)
  rw [quantity, quantity, pow_add, Int.cast_mul, Int.cast_pow, Int.cast_ofNat]
  exact mul_div_mul_right _ _ nonzero

theorem quantity_le_iff (places : Nat) {first second : Int} :
    quantity places first ≤ quantity places second ↔ first ≤ second := by
  rw [quantity, quantity, div_le_div_iff_of_pos_right (ten_pow_pos places)]
  exact Int.cast_le

@[simp] theorem quantity_zero (places : Nat) : quantity places 0 = 0 := by simp [quantity]

theorem quantity_nonneg_iff {units : Int} : 0 ≤ quantity places units ↔ 0 ≤ units := by
  rw [← quantity_zero places, quantity_le_iff]

theorem quantity_injective (places : Nat) : Function.Injective (quantity places) := by
  intro first second same
  rw [quantity, quantity, div_left_inj' (ne_of_gt (ten_pow_pos places))] at same
  exact_mod_cast same

end Quantities

/-! ## Scales -/

def value (digits units : Nat) : ℚ := units / 10 ^ digits

/-- The units once they carry the digits that the other scale has in excess. -/
def aligned (digits other units : Nat) : Nat := units * 10 ^ (other - digits)

section Scales

variable {digits other : Nat}

theorem value_eq_quantity (digits units : Nat) : value digits units = quantity digits units := by
  rw [value, quantity, Int.cast_natCast]

@[simp] theorem value_le_value_iff {left right : Nat} :
    value digits left ≤ value digits right ↔ left ≤ right := by
  rw [value_eq_quantity, value_eq_quantity, quantity_le_iff, Int.ofNat_le]

theorem value_shift (digits more units : Nat) :
    value (digits + more) (units * 10 ^ more) = value digits units := by
  rw [value_eq_quantity, value_eq_quantity, ← quantity_shift digits more]
  push_cast
  rfl

theorem aligned_of_le (units : Nat) (enough : other ≤ digits) : aligned digits other units = units := by
  rw [aligned, Nat.sub_eq_zero_of_le enough, pow_zero, Nat.mul_one]

theorem value_aligned (digits other units : Nat) :
    value (max digits other) (aligned digits other units) = value digits units := by
  have exponent : max digits other = digits + (other - digits) := by omega
  rw [exponent, aligned]
  exact value_shift digits (other - digits) units

theorem aligned_le_aligned_iff {left right : Nat} :
    aligned digits other left ≤ aligned other digits right ↔
      value digits left ≤ value other right := by
  rw [← value_aligned digits other left, ← value_aligned other digits right, max_comm other digits]
  exact value_le_value_iff.symm

end Scales

/-! ## Truncation -/

/-- The units that are left when there are only so many places. -/
def truncatedUnits (places : Nat) (amount : ℚ) : Int :=
  if amount < 0 then -(⌊-amount * 10 ^ places⌋₊ : Int) else ⌊amount * 10 ^ places⌋₊

/-- The first decimal places; the others are dropped. -/
def truncated (places : Nat) (amount : ℚ) : ℚ := quantity places (truncatedUnits places amount)

section Truncation

variable {places count : Nat} {amount other : ℚ}

theorem truncatedUnits_of_nonneg (nonneg : 0 ≤ amount) :
    truncatedUnits places amount = ⌊amount * 10 ^ places⌋₊ := by
  rw [truncatedUnits, if_neg (not_lt.mpr nonneg)]

theorem truncated_of_nonneg (nonneg : 0 ≤ amount) :
    truncated places amount = ⌊amount * 10 ^ places⌋₊ / 10 ^ places := by
  rw [truncated, truncatedUnits_of_nonneg nonneg, quantity, Int.cast_natCast]

theorem truncatedUnits_neg (places : Nat) (amount : ℚ) :
    truncatedUnits places (-amount) = -truncatedUnits places amount := by
  rcases lt_trichotomy amount 0 with negative | zero | positive
  · rw [truncatedUnits_of_nonneg (by linarith), truncatedUnits, if_pos negative, neg_neg]
  · rw [zero, neg_zero, truncatedUnits_of_nonneg (le_refl 0), zero_mul, Nat.floor_zero]
    rfl
  · rw [truncatedUnits, if_pos (by linarith), truncatedUnits_of_nonneg (le_of_lt positive), neg_neg]

theorem truncated_neg (places : Nat) (amount : ℚ) :
    truncated places (-amount) = -truncated places amount := by
  rw [truncated, truncatedUnits_neg, quantity_neg, truncated]

theorem truncated_nonneg (nonneg : 0 ≤ amount) : 0 ≤ truncated places amount := by
  rw [truncated_of_nonneg nonneg]
  positivity

theorem truncated_mono_of_nonneg (nonneg : 0 ≤ amount) (ordered : amount ≤ other) :
    truncated places amount ≤ truncated places other := by
  have positive := ten_pow_pos places
  rw [truncated_of_nonneg nonneg, truncated_of_nonneg (nonneg.trans ordered),
    div_le_div_iff_of_pos_right positive, Nat.cast_le]
  exact Nat.floor_mono (mul_le_mul_of_nonneg_right ordered (le_of_lt positive))

theorem truncated_mono (places : Nat) : Monotone (truncated places) := by
  intro first second ordered
  rcases le_total 0 first with nonneg | nonpos
  · exact truncated_mono_of_nonneg nonneg ordered
  · rcases le_total 0 second with nonneg | below
    · have lower : 0 ≤ truncated places (-first) := truncated_nonneg (by linarith)
      rw [truncated_neg] at lower
      exact (neg_nonneg.mp lower).trans (truncated_nonneg nonneg)
    · have mirrored : truncated places (-second) ≤ truncated places (-first) :=
        truncated_mono_of_nonneg (by linarith) (by linarith)
      rw [truncated_neg, truncated_neg] at mirrored
      exact neg_le_neg_iff.mp mirrored

/-- Less than one unit of the last place is dropped. -/
theorem truncated_error (places : Nat) (amount : ℚ) :
    |amount - truncated places amount| < 1 / 10 ^ places := by
  have ofNonneg : ∀ magnitude : ℚ, 0 ≤ magnitude →
      |magnitude - truncated places magnitude| < 1 / 10 ^ places := by
    intro magnitude nonneg
    have positive := ten_pow_pos places
    have scaled : 0 ≤ magnitude * 10 ^ places := mul_nonneg nonneg (le_of_lt positive)
    have lower := Nat.floor_le scaled
    have upper := Nat.lt_floor_add_one (magnitude * 10 ^ places)
    rw [truncated_of_nonneg nonneg, abs_of_nonneg]
    · rw [sub_lt_iff_lt_add, ← add_div, lt_div_iff₀ positive]
      linarith
    · rw [sub_nonneg, div_le_iff₀ positive]
      exact lower
  rcases le_total 0 amount with nonneg | nonpos
  · exact ofNonneg amount nonneg
  · have mirrored := ofNonneg (-amount) (by linarith)
    rw [truncated_neg, ← neg_add', abs_neg, ← sub_eq_add_neg] at mirrored
    exact mirrored

theorem truncated_of_integer {units : Int} (whole : amount * 10 ^ places = units) :
    truncated places amount = amount := by
  have ofNonneg : ∀ (magnitude : ℚ) (natural : Nat), magnitude * 10 ^ places = natural →
      truncated places magnitude = magnitude := by
    intro magnitude natural exact_
    have positive := ten_pow_pos places
    have nonneg : 0 ≤ magnitude := by
      by_contra negative
      have below := mul_neg_of_neg_of_pos (not_le.mp negative) positive
      rw [exact_] at below
      exact absurd below (not_lt.mpr (Nat.cast_nonneg _))
    rw [truncated_of_nonneg nonneg, exact_, Nat.floor_natCast, ← exact_,
      mul_div_cancel_right₀ _ (ne_of_gt positive)]
  rcases le_total 0 units with nonneg | nonpos
  · obtain ⟨natural, rfl⟩ := Int.eq_ofNat_of_zero_le nonneg
    exact ofNonneg amount natural (by exact_mod_cast whole)
  · obtain ⟨natural, same⟩ := Int.eq_ofNat_of_zero_le (neg_nonneg.mpr nonpos)
    have mirrored := ofNonneg (-amount) natural (by
      rw [neg_mul, whole]
      exact_mod_cast congrArg (fun units : Int => (units : ℚ)) same)
    rw [truncated_neg] at mirrored
    exact neg_injective mirrored

/-- Fewer places of an amount are fewer places of its truncated units. -/
theorem truncatedUnits_fewer (fewer : count ≤ places) (nonneg : 0 ≤ amount) :
    truncatedUnits count amount =
      ((⌊amount * 10 ^ places⌋₊ / 10 ^ (places - count) : Nat) : Int) := by
  have rest : (10 : ℚ) ^ places = 10 ^ count * 10 ^ (places - count) := by
    rw [← pow_add, Nat.add_sub_cancel' fewer]
  have scaled : amount * 10 ^ count =
      amount * 10 ^ places / ((10 ^ (places - count) : Nat) : ℚ) := by
    rw [rest, Nat.cast_pow, Nat.cast_ofNat, ← mul_assoc,
      mul_div_cancel_right₀ _ (ne_of_gt (ten_pow_pos _))]
  rw [truncatedUnits_of_nonneg nonneg, scaled, Nat.floor_div_natCast]

/-- Of whole units, the last digits are dropped. -/
theorem truncatedUnits_quantity (fewer : count ≤ places) (units : Nat) :
    truncatedUnits count (quantity places units) = ((units / 10 ^ (places - count) : Nat) : Int) := by
  have nonneg : 0 ≤ quantity places units := by
    rw [quantity, Int.cast_natCast]
    positivity
  have back : quantity places units * 10 ^ places = (units : ℚ) := by
    rw [quantity, Int.cast_natCast, div_mul_cancel₀ _ (ne_of_gt (ten_pow_pos places))]
  rw [truncatedUnits_fewer fewer nonneg, back, Nat.floor_natCast]

theorem truncated_quantity (fewer : count ≤ places) (units : Nat) :
    truncated count (quantity places units) =
      quantity count ((units / 10 ^ (places - count) : Nat) : Int) := by
  rw [truncated, truncatedUnits_quantity fewer]

theorem abs_truncatedUnits_le (places : Nat) (units : Int) :
    |truncatedUnits 0 (quantity places units)| ≤ |units| := by
  have ofNatural : ∀ natural : Nat,
      |truncatedUnits 0 (quantity places natural)| ≤ |(natural : Int)| := by
    intro natural
    rw [truncatedUnits_quantity (Nat.zero_le places), Nat.abs_cast, Nat.abs_cast]
    exact_mod_cast Nat.div_le_self ..
  obtain ⟨natural, rfl | rfl⟩ := Int.eq_nat_or_neg units
  · exact ofNatural natural
  · rw [quantity_neg, truncatedUnits_neg, abs_neg, abs_neg]
    exact ofNatural natural

/-- Nothing is lost between two numbers of places exactly when the digits
between them are zeros. -/
theorem truncated_eq_iff (fewer : count ≤ places) :
    truncated count amount = truncated places amount ↔
      10 ^ (places - count) ∣ ⌊|amount| * 10 ^ places⌋₊ := by
  have ofNonneg : ∀ magnitude : ℚ, 0 ≤ magnitude →
      (truncated count magnitude = truncated places magnitude ↔
        10 ^ (places - count) ∣ ⌊magnitude * 10 ^ places⌋₊) := by
    intro magnitude nonneg
    have shifted := quantity_shift count (places - count) (truncatedUnits count magnitude)
    rw [Nat.add_sub_cancel' fewer, truncatedUnits_fewer fewer nonneg] at shifted
    rw [truncated, truncated, truncatedUnits_fewer fewer nonneg, truncatedUnits_of_nonneg nonneg,
      ← shifted, (quantity_injective _).eq_iff]
    constructor
    · intro same
      refine (Nat.dvd_iff_div_mul_eq _ _).mpr ?_
      exact_mod_cast same
    · intro divides
      exact_mod_cast Nat.div_mul_cancel divides
  rcases le_total 0 amount with nonneg | nonpos
  · rw [abs_of_nonneg nonneg]
    exact ofNonneg amount nonneg
  · have mirrored := ofNonneg (-amount) (by linarith)
    rw [truncated_neg, truncated_neg, neg_inj] at mirrored
    rw [abs_of_nonpos nonpos]
    exact mirrored

end Truncation

/-! ## Significant places -/

/-- How many decimal places are left when the zeros at the end are dropped. -/
def significant : Nat → Int → Nat
  | 0, _ => 0
  | places + 1, units =>
      if (10 : Int) ∣ units then significant places (units / 10) else places + 1

theorem significant_le_iff (places : Nat) (units : Int) (count : Nat) :
    significant places units ≤ count ↔
      ∃ whole : Int, quantity places units * 10 ^ count = whole := by
  induction places generalizing units with
  | zero =>
      rw [significant]
      constructor
      · intro _
        exact ⟨units * 10 ^ count, by simp [quantity]⟩
      · intro _
        exact Nat.zero_le _
  | succ places ih =>
      rw [significant]
      split
      · next divisible =>
          obtain ⟨shorter, rfl⟩ := divisible
          have same : quantity (places + 1) (10 * shorter) = quantity places shorter := by
            rw [Int.mul_comm]
            exact quantity_shift places 1 shorter
          rw [same, Int.mul_ediv_cancel_left _ (by decide)]
          exact ih shorter
      · next indivisible =>
          constructor
          · intro enough
            refine ⟨units * 10 ^ (count - (places + 1)), ?_⟩
            have split_ : (10 : ℚ) ^ count = 10 ^ (count - (places + 1)) * 10 ^ (places + 1) := by
              rw [← pow_add, Nat.sub_add_cancel enough]
            rw [quantity, split_, mul_comm ((10 : ℚ) ^ (count - (places + 1))), ← mul_assoc,
              div_mul_cancel₀ _ (ne_of_gt (ten_pow_pos _))]
            push_cast
            rfl
          · intro whole
            by_contra few
            obtain ⟨scaled, exact_⟩ := whole
            have split_ : (10 : ℚ) ^ (places + 1) = 10 ^ (places - count) * 10 * 10 ^ count := by
              rw [← pow_succ, ← pow_add]
              congr 1
              omega
            rw [quantity, div_mul_eq_mul_div, div_eq_iff (ne_of_gt (ten_pow_pos _)), split_,
              ← mul_assoc] at exact_
            have cancelled := mul_right_cancel₀ (ne_of_gt (ten_pow_pos count)) exact_
            have product : units = scaled * 10 ^ (places - count) * 10 := by
              have cast : (units : ℚ) = ((scaled * 10 ^ (places - count) * 10 : Int) : ℚ) := by
                rw [cancelled]
                push_cast
                ring
              exact_mod_cast cast
            exact indivisible (Dvd.intro_left _ product.symm)

theorem significant_le (places : Nat) (units : Int) : significant places units ≤ places := by
  rw [significant_le_iff]
  refine ⟨units, ?_⟩
  rw [quantity, div_mul_cancel₀ _ (ne_of_gt (ten_pow_pos places))]

theorem dvd_of_significant_le {places count : Nat} {units : Int} (fewer : count ≤ places)
    (kept : significant places units ≤ count) : (10 : Int) ^ (places - count) ∣ units := by
  obtain ⟨whole, scaled⟩ := (significant_le_iff places units count).mp kept
  have split_ : (10 : ℚ) ^ places = 10 ^ (places - count) * 10 ^ count := by
    rw [← pow_add, Nat.sub_add_cancel fewer]
  rw [quantity, div_mul_eq_mul_div, div_eq_iff (ne_of_gt (ten_pow_pos _)), split_,
    ← mul_assoc] at scaled
  have cancelled := mul_right_cancel₀ (ne_of_gt (ten_pow_pos count)) scaled
  refine Dvd.intro_left whole ?_
  exact_mod_cast cancelled.symm

end StablecoinStudio.Foundation.DecimalQuantities
