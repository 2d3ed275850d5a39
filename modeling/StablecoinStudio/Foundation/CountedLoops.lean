import StablecoinStudio.Foundation.CheckedInt
import StablecoinStudio.Foundation.Transaction

/-!
# Counted loops

A loop over a counter of fixed width, up to a bound that is not reached. The
counter is incremented without a check. The rule for it asks for an invariant
between the rounds.
-/

namespace StablecoinStudio.Foundation.CountedLoops

open StablecoinStudio.Foundation.CheckedInt
open StablecoinStudio.Foundation.Transaction

set_option autoImplicit false

variable {width : Nat}

def increment (value : Uint width) : Uint width :=
  ⟨(value.toNat + 1) % 2 ^ width, Nat.mod_lt _ (Nat.two_pow_pos width)⟩

theorem increment_below {value bound : Uint width} (below : value.toNat < bound.toNat) :
    (increment value).toNat = value.toNat + 1 :=
  Nat.mod_eq_of_lt (Nat.lt_of_le_of_lt below bound.bound)

variable {env state error carried : Type}

/-- `for (; index < bound; ++index)`, with what the rounds hand on. -/
def countUp (bound : Uint width) (body : Uint width → carried → Tx env state error carried)
    (index : Uint width) (value : carried) : Tx env state error carried :=
  if index.toNat < bound.toNat then do
    let next ← body index value
    countUp bound body (increment index) next
  else pure value
termination_by bound.toNat - index.toNat
decreasing_by
  next below =>
    rw [increment_below below]
    omega

section Rule

variable {environment : env} {before : state} {bound : Uint width}
  {body : Uint width → carried → Tx env state error carried}

/-- Rounds that commit, leave the state and carry the invariant on. -/
def Keeps (environment : env) (before : state) (bound : Uint width)
    (body : Uint width → carried → Tx env state error carried)
    (invariant : Nat → carried → Prop) (first : Nat) : Prop :=
  ∀ (index : Uint width) (value : carried), first ≤ index.toNat → index.toNat < bound.toNat →
    invariant index.toNat value →
      ∃ next, body index value environment before = .ok (next, before) ∧
        invariant (index.toNat + 1) next

/-- The invariant of the start holds at the bound. -/
theorem count_up_ok (invariant : Nat → carried → Prop) (index : Uint width) {value : carried}
    (keeps : Keeps environment before bound body invariant index.toNat)
    (within : index.toNat ≤ bound.toNat) (holds : invariant index.toNat value) :
    ∃ result, countUp bound body index value environment before = .ok (result, before) ∧
      invariant bound.toNat result := by
  -- on the rounds that are left
  induction left : bound.toNat - index.toNat generalizing index value with
  | zero =>
      have ended : ¬index.toNat < bound.toNat := by omega
      have last : index.toNat = bound.toNat := by omega
      rw [countUp, if_neg ended]
      exact ⟨value, rfl, last ▸ holds⟩
  | succ left ih =>
      have below : index.toNat < bound.toNat := by omega
      have next := increment_below below
      obtain ⟨carriedOn, committed, kept⟩ := keeps index value (Nat.le_refl _) below holds
      rw [countUp, if_pos below, Tx.bind_of_ok committed]
      apply ih
      · intro later laterValue after inside laterHolds
        exact keeps later laterValue (by omega) inside laterHolds
      · omega
      · rw [next]
        exact kept
      · omega

end Rule

end StablecoinStudio.Foundation.CountedLoops
