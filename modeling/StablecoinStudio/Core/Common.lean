import StablecoinStudio.Foundation.CheckedInt
import StablecoinStudio.Foundation.Transaction

/-!
# Words, errors and common checks of the contracts

The value types of the Solidity sources, every error a modelled function can
revert with, and the modifiers of `core/Common.sol`. A checked arithmetic
operation that leaves its range, a failed `assert` and an access outside an
array are panics, as the compiler emits them.
-/

namespace StablecoinStudio.Core.Common

open StablecoinStudio.Foundation.CheckedInt
open StablecoinStudio.Foundation.Transaction

set_option autoImplicit false

abbrev Address := BitVec 160
abbrev Bytes32 := BitVec 256
abbrev Bytes4 := BitVec 32
abbrev Bytes := List (BitVec 8)
abbrev Uint8 := Uint 8
abbrev Uint32 := Uint 32
abbrev Uint256 := Uint 256
abbrev Sint32 := Sint 32
abbrev Sint64 := Sint 64
abbrev Sint256 := Sint 256

structure Msg where
  sender : Address
  timestamp : Uint256
  value : Uint256 := 0

inductive Panic where
  | assertion
  | arithmetic
  | arrayOutOfBounds
  | popOnEmptyArray
deriving DecidableEq

inductive Revert where
  | panic (code : Panic)
  -- ICommon
  | negativeAmount (amount : Int)
  | addressZero (addr : Address)
  | bytes32Zero (value : Bytes32)
  | responseCodeInvalid (code : Sint64)
  | greaterThan (value ref : Nat)
  | lessThan (value ref : Nat)
  -- Initializable
  | contractIsAlreadyInitialized (facet : Bytes32)
  -- IRoles, IRoleManagement, ISupplierAdminStorageWrapper
  | accountHasNoRole (account : Address) (role : Bytes32)
  | noAdminsLeft
  | arraysLengthNotEqual (lengthArray1 lengthArray2 : Nat)
  | amountIsZero
  | accountHasUnlimitedSupplierAllowance (account : Address)
  -- ICashIn, IBurnable, IRescuable
  | theSmartContractIsNotTheTreasuryAccount
  | burnableAmountExceeded (amount : Sint64)
  | hbarRescueError (amount : Uint256)
  -- IReserveStorageWrapper
  | amountBiggerThanReserve (amount : Uint256)
  | formatNumberIncorrect (amount : Uint256)
  | reserveAmountOutdated (updatedAt updatedAtThreshold : Uint256)
  -- IHederaTokenManager
  | refundingError (amount : Uint256)
  | adminKeyUpdateError
  | supplyKeyUpdateError
  | moreThan100Error (text : String)
  -- IHoldManagement
  | invalidExpiration (provided current : Uint256)
  | insufficientHoldAmount (required available : Sint64)
  | holdNotFound (tokenHolder : Address) (holdId : Uint256)
  | unauthorizedEscrow (caller escrow : Address)
  | holdExpired (expirationTime : Uint256)
  | holdNotExpired (expirationTime : Uint256)
  | invalidDestination (expected provided : Address)
  -- ResolverProxyUnstructured
  | resolverAddressIsZero
  | configurationIdIsZero
  -- IBusinessLogicResolver, IBusinessLogicResolverWrapper, IDiamondCutManager
  | emptyBusinessLogicList
  | businessLogicVersionDoesNotExist (version : Nat)
  | businessLogicKeyDuplicated (businessLogicKey : Bytes32)
  | allBusinessLogicKeysMustBeenInformed
  | zeroKeyNotValidForBusinessLogic
  | zeroAddressNotValidForBusinessLogic
  | defaultValueForConfigurationIdNotPermitted
  | facetIdNotRegistered (configurationId facetId : Bytes32)
  | duplicatedFacetInConfiguration (facetId : Bytes32)
  | resolverProxyConfigurationNoRegistered (configurationId : Bytes32) (version : Nat)
  | selectorBlacklisted (selector : Bytes4)
  | emptyConfiguration
  -- SafeCast, ReentrancyGuardTransient
  | safeCastOverflowedIntToUint (value : Int)
  | safeCastOverflowedUintToInt (value : Nat)
  | safeCastOverflowedIntDowncast (bits : Nat) (value : Int)
  | safeCastOverflowedUintDowncast (bits : Nat) (value : Nat)
  | reentrancyGuardReentrantCall
  -- an external call that itself reverted
  | externalCallFailed
deriving DecidableEq

/-- A call of a contract whose storage is `state`. -/
abbrev ContractTx (state : Type) := Tx Msg state Revert

variable {state : Type}

/-! ## Checked arithmetic, assertions and casts -/

abbrev arithmetic {value : Type} (result : Option value) : ContractTx state value :=
  Tx.ofOption (.panic .arithmetic) result

abbrev assertion (condition : Prop) [Decidable condition] : ContractTx state Unit :=
  Tx.require condition (.panic .assertion)

/-- `SafeCast.toUint256(int256)`. -/
abbrev toUint256 (value : Int) : ContractTx state Uint256 :=
  Tx.ofOption (.safeCastOverflowedIntToUint value) (Uint.checked value)

/-- `SafeCast.toUint32(uint256)`. -/
abbrev toUint32 (value : Uint256) : ContractTx state Uint32 :=
  Tx.ofOption (.safeCastOverflowedUintDowncast 32 value.toNat) (Uint.checked value.toNat)

/-- `SafeCast.toInt256(uint256)`. -/
abbrev toInt256 (value : Uint256) : ContractTx state Sint256 :=
  Tx.ofOption (.safeCastOverflowedUintToInt value.toNat) (Sint.checked value.toNat)

/-- `SafeCast.toInt64(int256)`. -/
abbrev toInt64 (value : Sint256) : ContractTx state Sint64 :=
  Tx.ofOption (.safeCastOverflowedIntDowncast 64 value.toInt) (Sint.checked value.toInt)

/-! ## Modifiers of Common -/

abbrev greaterThan (value ref : Nat) : ContractTx state Unit :=
  Tx.require (ref < value) (.lessThan value ref)

abbrev notGreaterThan (value ref : Nat) : ContractTx state Unit :=
  Tx.require (value ≤ ref) (.greaterThan value ref)

abbrev greaterThanZero (amount : Int) : ContractTx state Unit :=
  Tx.require (0 < amount) (.negativeAmount amount)

abbrev addressIsNotZero (addr : Address) : ContractTx state Unit :=
  Tx.require (addr ≠ 0) (.addressZero addr)

def addressesAreNotZero (addrs : List Address) : ContractTx state Unit :=
  addrs.forM fun addr => addressIsNotZero addr

def success : Sint64 := ⟨22, by decide, by decide⟩

/-- Reverts on every response code but `SUCCESS`. -/
def checkResponse (responseCode : Sint64) : ContractTx state Bool := do
  Tx.require (responseCode = success) (.responseCodeInvalid responseCode)
  return true

@[simp] theorem check_response_ok {responseCode : Sint64} {environment : Msg}
    {before after : state} {result : Bool} :
    checkResponse responseCode environment before = .ok (result, after) ↔
      responseCode = success ∧ result = true ∧ before = after := by
  simp only [checkResponse, Tx.bind_ok, Tx.require_ok, Tx.pure_ok]
  constructor
  · rintro ⟨_, _, ⟨accepted, rfl⟩, rfl, rfl⟩
    exact ⟨accepted, rfl, rfl⟩
  · rintro ⟨accepted, rfl, rfl⟩
    exact ⟨(), before, ⟨accepted, rfl⟩, rfl, rfl⟩

@[simp] theorem check_response_error {responseCode : Sint64} {environment : Msg}
    {before : state} {failure : Revert} :
    checkResponse responseCode environment before = .error failure ↔
      responseCode ≠ success ∧ .responseCodeInvalid responseCode = failure := by
  simp [checkResponse]

end StablecoinStudio.Core.Common
