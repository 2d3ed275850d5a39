import StablecoinStudio.Token.ReferenceLedger
import StablecoinStudio.Token.RightChanges

/-!
# Losing the cash-in role

Three entry points take the cash-in role from an account. Two of them also
clear its allowance and its unlimited flag; `RolesFacet.revokeRole` takes the
role alone, so it clears the right exactly when there was nothing else to clear.
-/

namespace StablecoinStudio.Token.MintingRights

open StablecoinStudio.Core.Common
open StablecoinStudio.Core.Constants
open StablecoinStudio.Foundation.CheckedInt
open StablecoinStudio.Foundation.Runs
open StablecoinStudio.Foundation.Transaction
open StablecoinStudio.Token.ProxyState
open StablecoinStudio.Token.ReferenceLedger
open StablecoinStudio.Token.RightChanges
open StablecoinStudio.Token.Roles
open StablecoinStudio.Token.Services
open StablecoinStudio.Token.SupplierAdmin
open StablecoinStudio.Token.SupplierRights
open StablecoinStudio.Token.System

set_option autoImplicit false

variable {world : Type} {p : Platform world} {msg : Msg} {before after state : State world}
  {account supplier : Address} {called : Call} {label : Label world}

/-- The calls that take the cash-in role from `account`. -/
def LosesCashin (account : Address) : Call → Prop
  | .revokeRole role revoked => role = cashinRole ∧ revoked = account
  | .revokeRoles roles accounts => cashinRole ∈ roles ∧ account ∈ accounts
  | .revokeSupplierRole revoked => revoked = account
  | _ => False

/-- The three ways to take it from `account` alone. -/
def paths (account : Address) : List Call :=
  [.revokeRole cashinRole account, .revokeRoles [cashinRole] [account], .revokeSupplierRole account]

/-- An administrator revokes the cash-in role through the roles facet only from
an account without allowance and without the unlimited flag. -/
def RevokesNothingElse (state : State world) : Label world → Prop
  | .call msg (.revokeRole role account) =>
      RolesStorage.hasRole state.roles adminRole msg.sender = true → role = cashinRole →
        state.supplierAdmin.supplierAllowances account = 0 ∧
          state.supplierAdmin.unlimitedSupplierAllowances account = false
  | _ => True

/-! ## The three paths -/

section Paths

theorem cleared_of_nothing {storage : SupplierAdminStorage}
    (spent : storage.supplierAllowances account = 0)
    (limited : storage.unlimitedSupplierAllowances account = false) :
    SupplierAdminStorage.setUnlimited (SupplierAdminStorage.setAllowance storage account 0) account
      false = storage := by
  have allowances : Function.update storage.supplierAllowances account 0 =
      storage.supplierAllowances := by
    rw [← spent]
    exact Function.update_eq_self _ _
  have flags : Function.update storage.unlimitedSupplierAllowances account false =
      storage.unlimitedSupplierAllowances := by
    rw [← limited]
    exact Function.update_eq_self _ _
  simp only [SupplierAdminStorage.setUnlimited, SupplierAdminStorage.setAllowance, allowances, flags]

theorem outcome_of_path (path : called ∈ paths account)
    (nothingElse : RevokesNothingElse before (.call msg called))
    (committed : called.perform p msg before = .ok ((), after)) :
    ∃ roles, RolesStorage.revokeRole before.roles cashinRole account = .ok roles ∧
      { before with
        supplierAdmin :=
          SupplierAdminStorage.setUnlimited
            (SupplierAdminStorage.setAllowance before.supplierAdmin account 0) account false
        roles := roles } = after := by
  simp only [paths, List.mem_cons, List.not_mem_nil, or_false] at path
  rcases path with rfl | rfl | rfl
  · obtain ⟨admin, roles, revoked, rfl⟩ := RolesFacet.revoke_role_ok.mp committed
    obtain ⟨spent, limited⟩ := nothingElse admin rfl
    refine ⟨roles, revoked, ?_⟩
    rw [cleared_of_nothing spent limited]
  · simp only [Call.perform, RoleManagementFacet.revokeRoles, RoleManagementFacet.revokeOne,
      Tx.bind_ok, Tx.for_each_cons_ok, Tx.for_each_nil_ok, if_true,
      RolesStorageWrapper.only_role_ok, SupplierAdminStorageWrapper.revoke_supplier_role_ok,
      and_assoc, exists_and_left, exists_eq_left', exists_eq_right] at committed
    obtain ⟨_, _, roles, revoked, outcome⟩ := committed
    exact ⟨roles, revoked, outcome⟩
  · simp only [Call.perform, SupplierAdminFacet.revokeSupplierRole, Tx.bind_ok, Tx.require_ok,
      RolesStorageWrapper.only_role_ok, SupplierAdminStorageWrapper.revoke_supplier_role_ok,
      and_assoc, exists_and_left, exists_eq_left', exists_const] at committed
    exact committed.2.2

theorem same_outcome {first second : Call} {afterFirst afterSecond : State world}
    (firstPath : first ∈ paths account) (secondPath : second ∈ paths account)
    (firstNothingElse : RevokesNothingElse before (.call msg first))
    (secondNothingElse : RevokesNothingElse before (.call msg second))
    (firstCommitted : first.perform p msg before = .ok ((), afterFirst))
    (secondCommitted : second.perform p msg before = .ok ((), afterSecond)) :
    afterFirst = afterSecond := by
  obtain ⟨roles, revoked, rfl⟩ := outcome_of_path firstPath firstNothingElse firstCommitted
  obtain ⟨_, again, rfl⟩ := outcome_of_path secondPath secondNothingElse secondCommitted
  rw [revoked] at again
  cases again
  rfl

theorem right_after_facet_revoke
    (committed : (Call.revokeRole cashinRole account).perform p msg before = .ok ((), after)) :
    rightOf account after = { rightOf account before with supplier := false } := by
  rw [right_after_permission account rfl committed]
  simp [changesOf, roleChanges, only, change]

/-- The roles facet clears the right exactly when nothing else was left to clear. -/
theorem facet_revoke_clears_iff
    (committed : (Call.revokeRole cashinRole account).perform p msg before = .ok ((), after)) :
    rightOf account after = .nothing ↔
      before.supplierAdmin.supplierAllowances account = 0 ∧
        before.supplierAdmin.unlimitedSupplierAllowances account = false := by
  rw [right_after_facet_revoke committed]
  constructor
  · intro gone
    have spent : (before.supplierAdmin.supplierAllowances account).toNat = 0 :=
      congrArg Right.allowance gone
    have limited : before.supplierAdmin.unlimitedSupplierAllowances account = false :=
      congrArg Right.unlimited gone
    exact ⟨Uint.ext spent, limited⟩
  · intro nothingElse
    obtain ⟨spent, limited⟩ := nothingElse
    exact Right.eq_nothing rfl (congrArg Uint.toNat spent) limited

theorem nothing_after_clears {right : Right} {changes : List Change} (some_ : changes ≠ [])
    (clears : ∀ taken ∈ changes, taken = .clear) : run change right changes = .nothing := by
  induction changes generalizing right with
  | nil => exact (some_ rfl).elim
  | cons head tail ih =>
      rw [run_cons, clears head (List.mem_cons_self ..)]
      by_cases last : tail = []
      · rw [last]
        rfl
      · exact ih last (fun taken member => clears taken (List.mem_cons_of_mem _ member))

theorem revoke_roles_clears {roles : List Bytes32} {accounts : List Address}
    (role : cashinRole ∈ roles) (member : account ∈ accounts) (right : Right) :
    run change right (revokeRolesChanges account roles accounts) = .nothing := by
  apply nothing_after_clears
  · intro none
    have inRole := List.flatMap_eq_nil_iff.mp none cashinRole role
    have inAccount := List.flatMap_eq_nil_iff.mp inRole account member
    simp [roleChanges, only] at inAccount
  · intro taken listed
    simp only [revokeRolesChanges, roleChanges, only, List.mem_flatMap] at listed
    obtain ⟨_, _, _, _, listed⟩ := listed
    split at listed
    · split at listed
      · exact List.mem_singleton.mp listed
      · cases listed
    · cases listed

theorem nothing_after_loss (loses : LosesCashin account called)
    (nothingElse : RevokesNothingElse before (.call msg called))
    (committed : called.perform p msg before = .ok ((), after)) :
    rightOf account after = .nothing := by
  cases called with
  | revokeRole role revoked =>
      obtain ⟨rfl, rfl⟩ := loses
      have admin := (RolesFacet.revoke_role_ok.mp committed).1
      exact (facet_revoke_clears_iff committed).mpr (nothingElse admin rfl)
  | revokeRoles roles accounts =>
      rw [right_after_permission account rfl committed]
      exact revoke_roles_clears loses.1 loses.2 _
  | revokeSupplierRole revoked =>
      have same : revoked = account := loses
      subst same
      rw [right_after_permission revoked rfl committed]
      simp [changesOf, only, change]
  | _ => cases loses

end Paths

/-! ## Along a run -/

section Run

theorem lose_role_not_mem {sender : Address}
    (other : ∀ role account, called ≠ .revokeRole role account) :
    .loseRole ∉ changesOf supplier sender called := by
  have cashin : ∀ account amount, .loseRole ∉ cashinChanges supplier account amount := by
    intro account amount
    simp only [cashinChanges, only]
    split
    · split <;> simp
    · simp
  cases called with
  | revokeRole role account => exact (other role account rfl).elim
  | initialize_ init =>
      intro member
      simp only [changesOf, initialChanges, List.mem_append, List.mem_flatMap] at member
      rcases member with ⟨entry, _, member⟩ | member
      · simp only [roleChanges, only] at member
        split at member
        · split at member <;> simp at member
        · cases member
      · split at member
        · exact cashin _ _ member
        · cases member
  | grantRoles roles accounts amounts =>
      intro member
      simp only [changesOf, grantRolesChanges, List.mem_flatMap] at member
      obtain ⟨role, _, member⟩ := member
      split at member
      · obtain ⟨entry, _, member⟩ := List.mem_flatMap.mp member
        exact cashin _ _ member
      · cases member
  | revokeRoles roles accounts =>
      intro member
      simp only [changesOf, revokeRolesChanges, roleChanges, only, List.mem_flatMap] at member
      obtain ⟨_, _, _, _, member⟩ := member
      split at member
      · split at member <;> simp at member
      · cases member
  | grantRole role account =>
      simp only [changesOf, roleChanges, only]
      split
      · split <;> simp
      · simp
  | mint _ _ | grantSupplierRole _ _ | grantUnlimitedSupplierRole _ | revokeSupplierRole _
  | resetSupplierAllowance _ | increaseSupplierAllowance _ _ | decreaseSupplierAllowance _ _ =>
      simp only [changesOf, only]
      split <;> simp
  | _ => simp [changesOf]

theorem loses_nothing_step (state : State world) (label : Label world)
    (nothingElse : RevokesNothingElse state label) :
    Along change LosesNothing (rightOf supplier state) (changesBy p supplier state label) := by
  cases label with
  | outside later => trivial
  | call msg called =>
      simp only [changesBy]
      split
      · next outcome =>
          by_cases facet : ∃ role account, called = .revokeRole role account
          · obtain ⟨role, account, rfl⟩ := facet
            simp only [changesOf, roleChanges, only]
            split
            · next isCashin =>
                split
                · next own =>
                    subst own
                    have committed := succeeds_iff.mp outcome
                    have admin := (RolesFacet.revoke_role_ok.mp committed).1
                    obtain ⟨spent, limited⟩ := nothingElse admin isCashin
                    exact ⟨⟨congrArg Uint.toNat spent, limited⟩, trivial⟩
                · trivial
            · trivial
          · push Not at facet
            apply along_of_forall_mem change
            intro taken member right
            cases taken with
            | loseRole => exact (lose_role_not_mem facet member).elim
            | _ => trivial
      · trivial

/-- What one step of a run leaves to those who lose the cash-in role in it. -/
def LossClears (p : Platform world) (state : State world) : Label world → Prop
  | .call msg called => ∀ account, LosesCashin account called →
      succeeds p state msg called = true →
        rightOf account (next p state (.call msg called)) = .nothing
  | .outside _ => True

/-- Minting rights after a run: every loss on the way cleared everything, all
paths store the same, and an account without the role has neither the flag nor
an allowance from before, so that the role alone brings nothing back. -/
structure RightsCleared (p : Platform world) (start : State world) (labels : List (Label world)) :
    Prop where
  losses : Along (next p) (LossClears p) start labels
  samePaths : ∀ msg account first second, first ∈ paths account → second ∈ paths account →
    RevokesNothingElse (run (next p) start labels) (.call msg first) →
    RevokesNothingElse (run (next p) start labels) (.call msg second) →
    succeeds p (run (next p) start labels) msg first = true →
    succeeds p (run (next p) start labels) msg second = true →
      next p (run (next p) start labels) (.call msg first) =
        next p (run (next p) start labels) (.call msg second)
  noneLeft : ∀ account, (rightOf account (run (next p) start labels)).supplier = false →
    (rightOf account (run (next p) start labels)).unlimited = false ∧
      NothingLeftOver (history p account start labels)
  regranted : ∀ msg account, (rightOf account (run (next p) start labels)).supplier = false →
    succeeds p (run (next p) start labels) msg (.grantRole cashinRole account) = true →
      rightOf account (next p (run (next p) start labels)
          (.call msg (.grantRole cashinRole account))) =
        ⟨true, (rightOf account (run (next p) start labels)).allowance, false⟩

/-- A proxy is initialized with 5 as a supplier of 30, whom the administrator 4
takes the role by `revocation` and gives the role alone again. -/
def regrantRun (revocation : Call) : List (Label Ledger) :=
  [.call (sampleMsg 4 1) (.initialize_ sampleInit),
    .call (sampleMsg 4 2) revocation,
    .call (sampleMsg 4 3) (.grantRole cashinRole 5),
    .call (sampleMsg 5 4) (.mint 2 (units64 25))]

theorem undisturbed_regrant_run (revocation : Call) (permission : revocation.kind = .permission) :
    Along (next (reference 1)) (Undisturbed (reference 1)) (blank (holderLedger 10))
      (regrantRun revocation) := by
  have noInitialization : ∀ init, revocation ≠ .initialize_ init := by
    rintro init rfl
    cases permission
  simp [regrantRun, Along, Undisturbed, Call.undisturbed, noInitialization,
    reference_quiet_receiver, Call.kind]

end Run

end StablecoinStudio.Token.MintingRights
