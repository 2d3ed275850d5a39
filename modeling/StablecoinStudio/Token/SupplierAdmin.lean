import StablecoinStudio.Token.Roles

/-!
# Supplier allowances

`SupplierAdminStorageWrapper.sol`, `SupplierAdminFacet.sol` and
`RoleManagementFacet.sol`: who may mint, up to which allowance, and the bulk
grants and revocations that go through the same storage.
-/

namespace StablecoinStudio.Token.SupplierAdmin

open StablecoinStudio.Core.Common
open StablecoinStudio.Core.Constants
open StablecoinStudio.Foundation.CheckedInt
open StablecoinStudio.Foundation.Transaction
open StablecoinStudio.Token.ProxyState
open StablecoinStudio.Token.Roles

set_option autoImplicit false

namespace SupplierAdminStorage

def setAllowance (storage : SupplierAdminStorage) (supplier : Address) (allowance : Uint256) :
    SupplierAdminStorage :=
  { storage with
    supplierAllowances := Function.update storage.supplierAllowances supplier allowance }

def setUnlimited (storage : SupplierAdminStorage) (supplier : Address) (unlimited : Bool) :
    SupplierAdminStorage :=
  { storage with
    unlimitedSupplierAllowances :=
      Function.update storage.unlimitedSupplierAllowances supplier unlimited }

end SupplierAdminStorage

variable {world : Type}

namespace SupplierAdminStorageWrapper

def setAllowance (supplier : Address) (allowance : Uint256) : FacetTx world Unit :=
  Tx.modify fun state =>
    { state with
      supplierAdmin := SupplierAdminStorage.setAllowance state.supplierAdmin supplier allowance }

def setUnlimited (supplier : Address) (unlimited : Bool) : FacetTx world Unit :=
  Tx.modify fun state =>
    { state with
      supplierAdmin := SupplierAdminStorage.setUnlimited state.supplierAdmin supplier unlimited }

def decreaseSupplierAllowance (supplier : Address) (amount : Uint256) : FacetTx world Unit := do
  let state ← Tx.get
  let oldAllowance := state.supplierAdmin.supplierAllowances supplier
  notGreaterThan amount.toNat oldAllowance.toNat
  let newAllowance ← arithmetic (Uint.checked (oldAllowance.toNat - amount.toNat))
  setAllowance supplier newAllowance

def revokeSupplierRole (supplier : Address) : FacetTx world Unit := do
  setAllowance supplier 0
  setUnlimited supplier false
  RolesStorageWrapper.revokeRole cashinRole supplier

def grantUnlimitedSupplierRole (supplier : Address) : FacetTx world Unit := do
  setUnlimited supplier true
  setAllowance supplier 0
  RolesStorageWrapper.grantRole cashinRole supplier

def grantSupplierRole (supplier : Address) (amount : Uint256) : FacetTx world Unit := do
  let state ← Tx.get
  Tx.require (state.supplierAdmin.unlimitedSupplierAllowances supplier = false)
    (.accountHasUnlimitedSupplierAllowance supplier)
  setAllowance supplier amount
  RolesStorageWrapper.grantRole cashinRole supplier

variable {environment : Msg} {before after : State world} {supplier : Address} {amount : Uint256}
  {result : Unit}

@[simp] theorem set_allowance_ok {allowance : Uint256} :
    setAllowance supplier allowance environment before = .ok (result, after) ↔
      { before with
        supplierAdmin := SupplierAdminStorage.setAllowance before.supplierAdmin supplier allowance } =
          after := by
  simp [setAllowance]

@[simp] theorem set_unlimited_ok {unlimited : Bool} :
    setUnlimited supplier unlimited environment before = .ok (result, after) ↔
      { before with
        supplierAdmin := SupplierAdminStorage.setUnlimited before.supplierAdmin supplier unlimited } =
          after := by
  simp [setUnlimited]

@[simp] theorem decrease_supplier_allowance_ok :
    decreaseSupplierAllowance supplier amount environment before = .ok (result, after) ↔
      ∃ newAllowance : Uint256,
        newAllowance.toNat + amount.toNat =
          (before.supplierAdmin.supplierAllowances supplier).toNat ∧
        { before with
          supplierAdmin :=
            SupplierAdminStorage.setAllowance before.supplierAdmin supplier newAllowance } =
            after := by
  simp only [decreaseSupplierAllowance, Tx.bind_ok, Tx.get_ok, Tx.require_ok, Tx.of_option_ok,
    set_allowance_ok, Uint.checked_eq_some]
  constructor
  · intro committed
    obtain ⟨_, _, ⟨rfl, rfl⟩, _, _, ⟨within, rfl⟩, newAllowance, _, ⟨exact_, rfl⟩, rfl⟩ := committed
    exact ⟨newAllowance, by omega, rfl⟩
  · intro described
    obtain ⟨newAllowance, exact_, rfl⟩ := described
    exact ⟨before, before, ⟨rfl, rfl⟩, (), before, ⟨by omega, rfl⟩, newAllowance, before,
      ⟨by omega, rfl⟩, rfl⟩

@[simp] theorem revoke_supplier_role_ok :
    revokeSupplierRole supplier environment before = .ok (result, after) ↔
      ∃ roles, RolesStorage.revokeRole before.roles cashinRole supplier = .ok roles ∧
        { before with
          supplierAdmin :=
            SupplierAdminStorage.setUnlimited
              (SupplierAdminStorage.setAllowance before.supplierAdmin supplier 0) supplier false
          roles := roles } = after := by
  simp [revokeSupplierRole]

@[simp] theorem grant_unlimited_supplier_role_ok :
    grantUnlimitedSupplierRole supplier environment before = .ok (result, after) ↔
      { before with
        supplierAdmin :=
          SupplierAdminStorage.setAllowance
            (SupplierAdminStorage.setUnlimited before.supplierAdmin supplier true) supplier 0
        roles := RolesStorage.grantRole before.roles cashinRole supplier } = after := by
  simp [grantUnlimitedSupplierRole]

@[simp] theorem grant_supplier_role_ok :
    grantSupplierRole supplier amount environment before = .ok (result, after) ↔
      before.supplierAdmin.unlimitedSupplierAllowances supplier = false ∧
        { before with
          supplierAdmin := SupplierAdminStorage.setAllowance before.supplierAdmin supplier amount
          roles := RolesStorage.grantRole before.roles cashinRole supplier } = after := by
  simp [grantSupplierRole, and_assoc]

end SupplierAdminStorageWrapper

namespace SupplierAdminFacet

def getSupplierAllowance (supplier : Address) : FacetTx world Uint256 := do
  let state ← Tx.get
  return state.supplierAdmin.supplierAllowances supplier

def isUnlimitedSupplierAllowance (supplier : Address) : FacetTx world Bool := do
  let state ← Tx.get
  return state.supplierAdmin.unlimitedSupplierAllowances supplier

def grantSupplierRole (supplier : Address) (amount : Uint256) : FacetTx world Unit := do
  RolesStorageWrapper.onlyRole adminRole
  addressIsNotZero supplier
  greaterThan amount.toNat 0
  SupplierAdminStorageWrapper.grantSupplierRole supplier amount

def grantUnlimitedSupplierRole (supplier : Address) : FacetTx world Unit := do
  RolesStorageWrapper.onlyRole adminRole
  addressIsNotZero supplier
  SupplierAdminStorageWrapper.grantUnlimitedSupplierRole supplier

def revokeSupplierRole (supplier : Address) : FacetTx world Unit := do
  RolesStorageWrapper.onlyRole adminRole
  addressIsNotZero supplier
  SupplierAdminStorageWrapper.revokeSupplierRole supplier

def resetSupplierAllowance (supplier : Address) : FacetTx world Unit := do
  RolesStorageWrapper.onlyRole adminRole
  addressIsNotZero supplier
  SupplierAdminStorageWrapper.setAllowance supplier 0

def increaseSupplierAllowance (supplier : Address) (amount : Uint256) : FacetTx world Unit := do
  RolesStorageWrapper.onlyRole adminRole
  addressIsNotZero supplier
  greaterThan amount.toNat 0
  let state ← Tx.get
  Tx.require (state.supplierAdmin.unlimitedSupplierAllowances supplier = false)
    (.accountHasUnlimitedSupplierAllowance supplier)
  let oldAllowance := state.supplierAdmin.supplierAllowances supplier
  let newAllowance ← arithmetic (Uint.checked (oldAllowance.toNat + amount.toNat))
  SupplierAdminStorageWrapper.setAllowance supplier newAllowance

def decreaseSupplierAllowance (supplier : Address) (amount : Uint256) : FacetTx world Unit := do
  RolesStorageWrapper.onlyRole adminRole
  addressIsNotZero supplier
  greaterThan amount.toNat 0
  let state ← Tx.get
  Tx.require (state.supplierAdmin.unlimitedSupplierAllowances supplier = false)
    (.accountHasUnlimitedSupplierAllowance supplier)
  SupplierAdminStorageWrapper.decreaseSupplierAllowance supplier amount

end SupplierAdminFacet

namespace RoleManagementFacet

def maxUint256 : Nat := 2 ^ 256 - 1

def grantCashin (account : Address) (amount : Uint256) : FacetTx world Unit :=
  if amount.toNat = 0 then Tx.revert .amountIsZero
  else if amount.toNat = maxUint256 then
    SupplierAdminStorageWrapper.grantUnlimitedSupplierRole account
  else SupplierAdminStorageWrapper.grantSupplierRole account amount

def grantRoleToAll (role : Bytes32) (accounts : List Address) (amounts : List Uint256) :
    FacetTx world Unit :=
  if role = cashinRole then do
    Tx.require (accounts.length = amounts.length)
      (.arraysLengthNotEqual accounts.length amounts.length)
    (accounts.zip amounts).forM fun entry => grantCashin entry.1 entry.2
  else accounts.forM fun account => RolesStorageWrapper.grantRole role account

def grantRoles (roles : List Bytes32) (accounts : List Address) (amounts : List Uint256) :
    FacetTx world Unit := do
  RolesStorageWrapper.onlyRole adminRole
  addressesAreNotZero accounts
  roles.forM fun role => grantRoleToAll role accounts amounts

def revokeOne (role : Bytes32) (account : Address) : FacetTx world Unit :=
  if role = cashinRole then SupplierAdminStorageWrapper.revokeSupplierRole account
  else RolesStorageWrapper.revokeRole role account

def revokeRoles (roles : List Bytes32) (accounts : List Address) : FacetTx world Unit := do
  RolesStorageWrapper.onlyRole adminRole
  roles.forM fun role => accounts.forM fun account => revokeOne role account

end RoleManagementFacet

end StablecoinStudio.Token.SupplierAdmin
