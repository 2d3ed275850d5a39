import Mathlib.Tactic.Linarith
import Mathlib.Data.Int.Cast.Lemmas

/-!
# Machine integers with checked arithmetic

Fixed-width integers as values that carry their own range. Every operation
goes through the exact integer result: `checked` either returns the machine
integer with that value or, when the value leaves the range, nothing. No
operation wraps.
-/

namespace StablecoinStudio.Foundation.CheckedInt

set_option autoImplicit false

/-- An unsigned integer of `width` bits. -/
@[ext]
structure Uint (width : Nat) where
  toNat : Nat
  bound : toNat < 2 ^ width
deriving DecidableEq

/-- A two's complement integer of `width` bits. -/
@[ext]
structure Sint (width : Nat) where
  toInt : Int
  lower : -((2 ^ (width - 1) : Nat) : Int) ≤ toInt
  upper : toInt < ((2 ^ (width - 1) : Nat) : Int)
deriving DecidableEq

namespace Uint

variable {width : Nat}

instance : Zero (Uint width) := ⟨⟨0, Nat.two_pow_pos width⟩⟩

instance : Inhabited (Uint width) := ⟨0⟩

@[simp] theorem to_nat_zero : (0 : Uint width).toNat = 0 := rfl

/-- The machine integer with the exact value, when there is one. -/
def checked (value : Int) : Option (Uint width) :=
  if inRange : 0 ≤ value ∧ value.toNat < 2 ^ width then some ⟨value.toNat, inRange.2⟩ else none

theorem checked_eq_some {value : Int} {result : Uint width} :
    checked value = some result ↔ (result.toNat : Int) = value := by
  unfold checked
  constructor
  · intro computed
    split at computed
    · next inRange =>
      cases computed
      exact Int.toNat_of_nonneg inRange.1
    · cases computed
  · intro same
    have exact_ : value.toNat = result.toNat := by omega
    have inRange : 0 ≤ value ∧ value.toNat < 2 ^ width := by
      rw [exact_]
      exact ⟨by omega, result.bound⟩
    rw [dif_pos inRange]
    simp only [exact_]

end Uint

namespace Sint

variable {width : Nat}

instance : Zero (Sint width) :=
  ⟨⟨0, by have := Nat.two_pow_pos (width - 1); generalize 2 ^ (width - 1) = half at *; omega,
    by exact_mod_cast Nat.two_pow_pos (width - 1)⟩⟩

instance : Inhabited (Sint width) := ⟨0⟩

@[simp] theorem to_int_zero : (0 : Sint width).toInt = 0 := rfl

/-- The machine integer with the exact value, when there is one. -/
def checked (value : Int) : Option (Sint width) :=
  if inRange : -((2 ^ (width - 1) : Nat) : Int) ≤ value ∧
      value < ((2 ^ (width - 1) : Nat) : Int) then
    some ⟨value, inRange.1, inRange.2⟩
  else none

theorem checked_eq_some {value : Int} {result : Sint width} :
    checked value = some result ↔ result.toInt = value := by
  unfold checked
  constructor
  · intro computed
    split at computed
    · cases computed
      rfl
    · cases computed
  · rintro rfl
    rw [dif_pos ⟨result.lower, result.upper⟩]

theorem checked_of_in_range {value : Int} (lower : -((2 ^ (width - 1) : Nat) : Int) ≤ value)
    (upper : value < ((2 ^ (width - 1) : Nat) : Int)) :
    ∃ result : Sint width, checked value = some result ∧ result.toInt = value :=
  ⟨⟨value, lower, upper⟩, dif_pos ⟨lower, upper⟩, rfl⟩

end Sint

end StablecoinStudio.Foundation.CheckedInt
