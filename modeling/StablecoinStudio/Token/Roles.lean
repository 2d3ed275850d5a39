import StablecoinStudio.Token.ProxyState

/-!
# Roles

`RolesStorageWrapper.sol` and `RolesFacet.sol`: for every role the accounts that
hold it, as a mapping to their position and the list of them.
-/

namespace StablecoinStudio.Token.Roles

open StablecoinStudio.Core.Common
open StablecoinStudio.Core.Constants
open StablecoinStudio.Foundation.Transaction
open StablecoinStudio.Token.ProxyState

set_option autoImplicit false

/-! ## The role registry -/

namespace RolesStorage

def hasRole (storage : RolesStorage) (role : Bytes32) (account : Address) : Bool :=
  ((storage role).members account).active

def getNumberOfAccountsWithRole (storage : RolesStorage) (role : Bytes32) : Nat :=
  (storage role).accounts.length

def grantRole (storage : RolesStorage) (role : Bytes32) (account : Address) : RolesStorage :=
  if hasRole storage role account then storage
  else
    Function.update storage role
      { members := Function.update (storage role).members account
          ⟨true, (storage role).accounts.length⟩
        accounts := (storage role).accounts ++ [account] }

/-- Swap and pop: the last account takes the place of the one that leaves. -/
def removeAccount (data : RoleData) (account : Address) : Except Revert RoleData :=
  if data.accounts.length = 0 then .error (.panic .arithmetic)
  else
    let position := (data.members account).pos
    let lastIndex := data.accounts.length - 1
    let moved : RoleData :=
      if position < lastIndex then
        let accountToMove := data.accounts.getD lastIndex 0
        { members := Function.update data.members accountToMove
            { data.members accountToMove with pos := position }
          accounts := data.accounts.set position accountToMove }
      else data
    .ok { members := Function.update moved.members account ⟨false, 0⟩
          accounts := moved.accounts.dropLast }

def revokeRole (storage : RolesStorage) (role : Bytes32) (account : Address) :
    Except Revert RolesStorage :=
  if hasRole storage role account then
    match removeAccount (storage role) account with
    | .error failure => .error failure
    | .ok data =>
        let remaining : RolesStorage := Function.update storage role data
        if getNumberOfAccountsWithRole remaining adminRole = 0 then .error .noAdminsLeft
        else .ok remaining
  else .ok storage

variable {storage after : RolesStorage} {role otherRole : Bytes32} {account other : Address}

theorem has_role_grant :
    hasRole (grantRole storage role account) otherRole other =
      (hasRole storage otherRole other || (decide (otherRole = role) && decide (other = account))) := by
  unfold grantRole
  split
  · next held =>
      by_cases sameRole : otherRole = role
      · by_cases sameAccount : other = account
        · subst sameRole sameAccount
          simp [held]
        · simp [sameAccount]
      · simp [sameRole]
  · next missing =>
      by_cases sameRole : otherRole = role
      · subst sameRole
        by_cases sameAccount : other = account
        · subst sameAccount
          simp [hasRole]
        · simp [hasRole, sameAccount]
      · simp [hasRole, sameRole]

theorem active_remove_account {data remaining : RoleData}
    (removed : removeAccount data account = .ok remaining) :
    (remaining.members other).active = (decide (other ≠ account) && (data.members other).active) := by
  unfold removeAccount at removed
  split at removed
  · cases removed
  · cases removed
    by_cases sameAccount : other = account
    · subst sameAccount
      simp
    · simp only [ne_eq, sameAccount, not_false_eq_true, decide_true, Bool.true_and,
        Function.update_of_ne]
      split
      · simp only [Function.update_apply]
        split
        · next isMoved => rw [isMoved]
        · rfl
      · rfl

theorem has_role_revoke (revoked : revokeRole storage role account = .ok after) :
    hasRole after otherRole other =
      (hasRole storage otherRole other && !(decide (otherRole = role) && decide (other = account))) := by
  unfold revokeRole at revoked
  split at revoked
  · next held =>
      split at revoked
      · cases revoked
      · next data removed =>
          simp only at revoked
          split at revoked
          · cases revoked
          · cases revoked
            by_cases sameRole : otherRole = role
            · subst sameRole
              have kept : (data.members other).active =
                  (decide (other ≠ account) && ((storage otherRole).members other).active) :=
                active_remove_account removed
              by_cases sameAccount : other = account
              · subst sameAccount
                simpa [hasRole] using kept
              · simpa [hasRole, sameAccount] using kept
            · simp [hasRole, sameRole]
  · next missing =>
      cases revoked
      by_cases sameRole : otherRole = role
      · subst sameRole
        by_cases sameAccount : other = account
        · subst sameAccount
          simp [missing]
        · simp [sameAccount]
      · simp [sameRole]

end RolesStorage

/-! ## The facet -/

variable {world : Type}

namespace RolesStorageWrapper

def onlyRole (role : Bytes32) : FacetTx world Unit := do
  let msg ← Tx.read
  let state ← Tx.get
  Tx.require (RolesStorage.hasRole state.roles role msg.sender = true)
    (.accountHasNoRole msg.sender role)

def grantRole (role : Bytes32) (account : Address) : FacetTx world Unit :=
  Tx.modify fun state => { state with roles := RolesStorage.grantRole state.roles role account }

def revokeRole (role : Bytes32) (account : Address) : FacetTx world Unit := do
  let state ← Tx.get
  let roles ← Tx.lift (RolesStorage.revokeRole state.roles role account)
  Tx.modify fun state => { state with roles := roles }

def getRolesList : List Bytes32 :=
  [adminRole, cashinRole, burnRole, wipeRole, rescueRole, pauseRole, freezeRole, deleteRole,
    kycRole, customFeesRole, holdCreatorRole]

variable {environment : Msg} {before after : State world} {role : Bytes32} {account : Address}
  {result : Unit}

@[simp] theorem only_role_ok :
    onlyRole role environment before = .ok (result, after) ↔
      RolesStorage.hasRole before.roles role environment.sender = true ∧ before = after := by
  simp [onlyRole, and_comm]

@[simp] theorem only_role_error {failure : Revert} :
    onlyRole role environment before = .error failure ↔
      RolesStorage.hasRole before.roles role environment.sender = false ∧
        .accountHasNoRole environment.sender role = failure := by
  simp [onlyRole]

@[simp] theorem grant_role_ok :
    grantRole role account environment before = .ok (result, after) ↔
      { before with roles := RolesStorage.grantRole before.roles role account } = after := by
  simp [grantRole]

@[simp] theorem revoke_role_ok :
    revokeRole role account environment before = .ok (result, after) ↔
      ∃ roles, RolesStorage.revokeRole before.roles role account = .ok roles ∧
        { before with roles := roles } = after := by
  simp [revokeRole]

end RolesStorageWrapper

namespace RolesFacet

def grantRole (role : Bytes32) (account : Address) : FacetTx world Unit := do
  RolesStorageWrapper.onlyRole adminRole
  addressIsNotZero account
  RolesStorageWrapper.grantRole role account

def revokeRole (role : Bytes32) (account : Address) : FacetTx world Unit := do
  RolesStorageWrapper.onlyRole adminRole
  RolesStorageWrapper.revokeRole role account

def getRolesList : FacetTx world (List Bytes32) := return RolesStorageWrapper.getRolesList

def hasRole (role : Bytes32) (account : Address) : FacetTx world Bool := do
  let state ← Tx.get
  return RolesStorage.hasRole state.roles role account

def getAccountsWithRole (role : Bytes32) : FacetTx world (List Address) := do
  let state ← Tx.get
  return (state.roles role).accounts

def getNumberOfAccountsWithRole (role : Bytes32) : FacetTx world Nat := do
  let state ← Tx.get
  return RolesStorage.getNumberOfAccountsWithRole state.roles role

def getRoles (account : Address) : FacetTx world (List Bytes32) := do
  let state ← Tx.get
  return RolesStorageWrapper.getRolesList.map fun role =>
    if RolesStorage.hasRole state.roles role account then role else withoutRole

variable {environment : Msg} {before after : State world} {role : Bytes32} {account : Address}
  {result : Unit}

theorem grant_role_ok :
    grantRole role account environment before = .ok (result, after) ↔
      RolesStorage.hasRole before.roles adminRole environment.sender = true ∧ account ≠ 0 ∧
        { before with roles := RolesStorage.grantRole before.roles role account } = after := by
  simp [grantRole, and_assoc]

theorem revoke_role_ok :
    revokeRole role account environment before = .ok (result, after) ↔
      RolesStorage.hasRole before.roles adminRole environment.sender = true ∧
        ∃ roles, RolesStorage.revokeRole before.roles role account = .ok roles ∧
          { before with roles := roles } = after := by
  simp [revokeRole]

end RolesFacet

end StablecoinStudio.Token.Roles
