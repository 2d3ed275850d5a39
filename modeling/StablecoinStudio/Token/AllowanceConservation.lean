import StablecoinStudio.Token.ReferenceLedger
import StablecoinStudio.Token.RightChanges

/-!
# Allowances are conserved

Between two operations that set or clear a limited allowance, what a supplier
has left, has minted and was taken away is what it was given.
-/

namespace StablecoinStudio.Token.AllowanceConservation

open StablecoinStudio.Core.Common
open StablecoinStudio.Core.Constants
open StablecoinStudio.Foundation.CheckedInt
open StablecoinStudio.Foundation.Runs
open StablecoinStudio.Token.Administration
open StablecoinStudio.Token.ProxyState
open StablecoinStudio.Token.ReferenceLedger
open StablecoinStudio.Token.RightChanges
open StablecoinStudio.Token.Roles
open StablecoinStudio.Token.Services
open StablecoinStudio.Token.SupplierRights
open StablecoinStudio.Token.System

set_option autoImplicit false

variable {world : Type} {p : Platform world} {supplier : Address} {start : State world}
  {labels : List (Label world)}

/-- What holds of the allowance of `supplier` after a run. The history of the
run lists the changes of this allowance in order; the last one that sets or
clears it is `assignment`, and `between` are those since. -/
structure AllowanceLaw (p : Platform world) (supplier : Address) (start : State world)
    (labels : List (Label world)) : Prop where
  sentinel :
    (run (next p) start labels).supplierAdmin.unlimitedSupplierAllowances supplier = true →
      (run (next p) start labels).supplierAdmin.supplierAllowances supplier = 0
  conserved : ∀ earlier assignment between value,
    history p supplier start labels = earlier ++ assignment :: between →
    assignment.assigned = some value → (∀ taken ∈ between, taken.assigned = none) →
    (run (next p) start labels).supplierAdmin.unlimitedSupplierAllowances supplier = false →
      ((run (next p) start labels).supplierAdmin.supplierAllowances supplier).toNat +
          (total Change.minted between + total Change.decreased between) =
        value + total Change.increased between ∧
      total Change.minted between ≤ value + total Change.increased between
  unassigned : (∀ taken ∈ history p supplier start labels, taken.assigned = none) →
    ((run (next p) start labels).supplierAdmin.supplierAllowances supplier).toNat +
        (total Change.minted (history p supplier start labels) +
          total Change.decreased (history p supplier start labels)) =
      total Change.increased (history p supplier start labels)
  reverted : ∀ msg account amount,
    succeeds p (run (next p) start labels) msg (.mint account amount) = false →
      (next p (run (next p) start labels) (.call msg (.mint account amount))).supplierAdmin =
        (run (next p) start labels).supplierAdmin

/-- In every run of the proxy from its deployment on. -/
theorem allowance_law_along_runs (p : Platform world) (start : State world)
    (labels : List (Label world)) (supplier : Address)
    (fresh : start.supplierAdmin = SupplierAdminStorage.empty)
    (undisturbed : Along (next p) (Undisturbed p) start labels) :
    AllowanceLaw p supplier start labels := by
  obtain ⟨allowed, reached⟩ := right_along_run supplier undisturbed
  have initialAllowance : (rightOf supplier start).allowance = 0 := by
    rw [rightOf, fresh]
    rfl
  have initialLimit : (rightOf supplier start).unlimited = false := by
    rw [rightOf, fresh]
    rfl
  exact {
    sentinel := by
      intro unlimited
      have initial : Sentinel (rightOf supplier start) := fun _ => initialAllowance
      have kept := sentinel_of_changes initial allowed
      rw [← reached] at kept
      exact Uint.ext (kept unlimited)
    conserved := by
      intro earlier assignment between value split_ assigns keeps limited
      rw [split_, along_append] at allowed
      rw [split_, run_append, run_cons] at reached
      obtain ⟨_, _, allowedBetween⟩ := allowed
      have limitedThen : (change (run change (rightOf supplier start) earlier)
          assignment).unlimited = false := by
        rw [← unlimited_kept_along keeps, ← reached]
        exact limited
      have balanced := balanced_along allowedBetween keeps limitedThen
      rw [assigned_allowance assigns, ← reached] at balanced
      refine ⟨balanced, ?_⟩
      rw [← balanced]
      omega
    unassigned := by
      intro keeps
      have balanced := balanced_along allowed keeps initialLimit
      rw [initialAllowance, Nat.zero_add, ← reached] at balanced
      exact balanced
    reverted := by
      intro msg account amount failed
      rw [next_of_not_succeeds failed]
  }

/-- The administrator 4 lets 5 mint 30, then 10 more; 5 mints 25 and fails to
mint 20 more. -/
def supplierRun : List (Label Ledger) :=
  [.call (sampleMsg 4 1) (.grantSupplierRole 5 (units256 30)),
    .call (sampleMsg 5 2) (.mint 2 (units64 25)),
    .call (sampleMsg 4 3) (.increaseSupplierAllowance 5 (units256 10)),
    .call (sampleMsg 5 4) (.mint 2 (units64 20))]

theorem allowance_law_on_sample_run :
    AllowanceLaw (reference 1) 5
        (deployed (RolesStorage.grantRole RolesStorage.empty adminRole 4) (holderLedger 10))
        supplierRun ∧
      history (reference 1) 5
          (deployed (RolesStorage.grantRole RolesStorage.empty adminRole 4) (holderLedger 10))
          supplierRun = [.grant 30, .mint 25, .increase 10] := by
  refine ⟨allowance_law_along_runs _ _ _ _ rfl ?_, rfl⟩
  simp [supplierRun, Along, Undisturbed, Call.undisturbed, Call.kind]

end StablecoinStudio.Token.AllowanceConservation
