import StablecoinStudio.Core.Constants
import StablecoinStudio.Foundation.EnumerableSets
import Mathlib.Logic.Function.Basic

/-!
# Storage of a stablecoin proxy

One record for each storage struct of the facets, at the words of the source.
A Solidity mapping is a function: every key holds a value, zero at first. The
facets share one storage, so a call works on the whole state, together with
`world`: everything outside the proxy (token service, price feeds, HBAR).
-/

namespace StablecoinStudio.Token.ProxyState

open StablecoinStudio.Core.Common
open StablecoinStudio.Foundation.CheckedInt
open StablecoinStudio.Foundation.EnumerableSets
open StablecoinStudio.Foundation.Transaction

set_option autoImplicit false

structure MemberData where
  active : Bool
  pos : Nat
deriving DecidableEq

structure RoleData where
  members : Address → MemberData
  accounts : List Address

/-- `roles` of the source's struct; its deprecated list is never used. -/
abbrev RolesStorage := Bytes32 → RoleData

def RolesStorage.empty : RolesStorage := fun _ => ⟨fun _ => ⟨false, 0⟩, []⟩

structure SupplierAdminStorage where
  supplierAllowances : Address → Uint256
  unlimitedSupplierAllowances : Address → Bool

def SupplierAdminStorage.empty : SupplierAdminStorage := ⟨fun _ => 0, fun _ => false⟩

structure ReserveStorage where
  reserveAddress : Address
  updatedAtThreshold : Uint256

/-- The parameters of a new hold. -/
structure Hold where
  amount : Sint64
  expirationTimestamp : Uint256
  escrow : Address
  /-- `to` of the source. -/
  to_ : Address
  data : Bytes

structure HoldData where
  id : Uint256
  amount : Sint64
  expirationTimestamp : Uint256
  escrow : Address
  /-- `to` of the source. -/
  to_ : Address
  data : Bytes
  operatorData : Bytes

/-- The record of an id that holds nothing: what `delete` leaves. -/
def HoldData.zero : HoldData := ⟨0, 0, 0, 0, 0, [], []⟩

/-- `hold.amount = amount`. -/
def HoldData.withAmount (record : HoldData) (amount : Sint64) : HoldData :=
  { record with amount := amount }

@[simp] theorem HoldData.with_amount_amount (record : HoldData) (amount : Sint64) :
    (record.withAmount amount).amount = amount := rfl

@[simp] theorem HoldData.with_amount_id (record : HoldData) (amount : Sint64) :
    (record.withAmount amount).id = record.id := rfl

structure HoldIdentifier where
  tokenHolder : Address
  holdId : Uint256
deriving DecidableEq

structure HoldDataStorage where
  totalHeldAmount : Sint64
  totalHeldAmountByAccount : Address → Sint64
  holdsByAccountAndId : Address → Uint256 → HoldData
  holdIdsByAccount : Address → EnumerableSet Uint256
  nextHoldIdByAccount : Address → Uint256

def HoldDataStorage.empty : HoldDataStorage where
  totalHeldAmount := 0
  totalHeldAmountByAccount _ := 0
  holdsByAccountAndId _ _ := HoldData.zero
  holdIdsByAccount _ := ∅
  nextHoldIdByAccount _ := 0

structure ResolverProxyStorage where
  resolver : Address
  resolverProxyConfigurationId : Bytes32
  version : Nat
deriving DecidableEq

structure State (world : Type) where
  initialized : Bytes32 → Bool
  tokenAddress : Address
  metadata : String
  roles : RolesStorage
  supplierAdmin : SupplierAdminStorage
  reserve : ReserveStorage
  holds : HoldDataStorage
  resolverProxy : ResolverProxyStorage
  reentrancyGuardEntered : Bool
  world : world

/-- A call of a facet through the proxy. -/
abbrev FacetTx (world : Type) := ContractTx (State world)

end StablecoinStudio.Token.ProxyState
