import StablecoinStudio.Token.Reserve

/-!
# Holds

`HoldManagementStorageWrapper.sol` and `HoldManagementFacet.sol`: tokens taken
from a holder into the treasury until an escrow executes or releases them or,
once they expire, anybody gives them back.
-/

namespace StablecoinStudio.Token.HoldManagement

open StablecoinStudio.Core.Common
open StablecoinStudio.Core.Constants
open StablecoinStudio.Foundation.CheckedInt
open StablecoinStudio.Foundation.EnumerableSets
open StablecoinStudio.Foundation.Transaction
open StablecoinStudio.Token.ProxyState
open StablecoinStudio.Token.Reserve
open StablecoinStudio.Token.Roles
open StablecoinStudio.Token.Services

set_option autoImplicit false

/-! ## The hold storage -/

abbrev HoldTx := ContractTx HoldDataStorage

namespace HoldDataStorage

def hold (storage : HoldDataStorage) (identifier : HoldIdentifier) : HoldData :=
  storage.holdsByAccountAndId identifier.tokenHolder identifier.holdId

def setHold (storage : HoldDataStorage) (tokenHolder : Address) (holdId : Uint256)
    (hold : HoldData) : HoldDataStorage :=
  { storage with
    holdsByAccountAndId :=
      Function.update storage.holdsByAccountAndId tokenHolder
        (Function.update (storage.holdsByAccountAndId tokenHolder) holdId hold) }

def setHoldIds (storage : HoldDataStorage) (tokenHolder : Address) (ids : EnumerableSet Uint256) :
    HoldDataStorage :=
  { storage with holdIdsByAccount := Function.update storage.holdIdsByAccount tokenHolder ids }

def setTotals (storage : HoldDataStorage) (tokenHolder : Address) (total accountTotal : Sint64) :
    HoldDataStorage :=
  { storage with
    totalHeldAmount := total
    totalHeldAmountByAccount :=
      Function.update storage.totalHeldAmountByAccount tokenHolder accountTotal }

def setNextHoldId (storage : HoldDataStorage) (tokenHolder : Address) (holdId : Uint256) :
    HoldDataStorage :=
  { storage with
    nextHoldIdByAccount := Function.update storage.nextHoldIdByAccount tokenHolder holdId }

end HoldDataStorage

def incrementNextHoldId (tokenHolder : Address) : HoldTx Uint256 := do
  let storage ← Tx.get
  let holdId ← arithmetic (Uint.checked ((storage.nextHoldIdByAccount tokenHolder).toNat + 1))
  Tx.modify fun storage => HoldDataStorage.setNextHoldId storage tokenHolder holdId
  return holdId

def addToTotals (tokenHolder : Address) (amount : Int) : HoldTx Unit := do
  let storage ← Tx.get
  let total ← arithmetic (Sint.checked (storage.totalHeldAmount.toInt + amount))
  let accountTotal ←
    arithmetic (Sint.checked ((storage.totalHeldAmountByAccount tokenHolder).toInt + amount))
  Tx.modify fun storage => HoldDataStorage.setTotals storage tokenHolder total accountTotal

def Hold.toHoldData (hold : Hold) (holdId : Uint256) (operatorData : Bytes) : HoldData where
  id := holdId
  amount := hold.amount
  expirationTimestamp := hold.expirationTimestamp
  escrow := hold.escrow
  to_ := hold.to_
  data := hold.data
  operatorData := operatorData

def registerHold (tokenHolder : Address) (holdId : Uint256) (hold : Hold) (operatorData : Bytes) :
    HoldTx Unit := do
  Tx.modify fun storage =>
    HoldDataStorage.setHold storage tokenHolder holdId (Hold.toHoldData hold holdId operatorData)
  let storage ← Tx.get
  let insertion := (storage.holdIdsByAccount tokenHolder).add holdId
  Tx.modify fun storage => HoldDataStorage.setHoldIds storage tokenHolder insertion.2
  assertion (insertion.1 = true)
  addToTotals tokenHolder hold.amount.toInt

/-- The end of `_decreaseHoldAmount`: a hold of amount zero leaves the storage. -/
def dropEmptyHold (tokenHolder : Address) (holdId : Uint256) (remaining : Sint64) : HoldTx Unit :=
  if remaining = 0 then do
    let storage ← Tx.get
    let removal := (storage.holdIdsByAccount tokenHolder).remove holdId
    Tx.modify fun storage => HoldDataStorage.setHoldIds storage tokenHolder removal.2
    assertion (removal.1 = true)
    Tx.modify fun storage => HoldDataStorage.setHold storage tokenHolder holdId HoldData.zero
  else pure ()

def decreaseHoldAmount (tokenHolder : Address) (holdId : Uint256) (amount : Sint64) :
    HoldTx Unit := do
  let storage ← Tx.get
  let hold := storage.holdsByAccountAndId tokenHolder holdId
  let remaining ← arithmetic (Sint.checked (hold.amount.toInt - amount.toInt))
  Tx.modify fun storage =>
    HoldDataStorage.setHold storage tokenHolder holdId (hold.withAmount remaining)
  addToTotals tokenHolder (-amount.toInt)
  dropEmptyHold tokenHolder holdId remaining

section Storage

variable {environment : Msg} {before after : HoldDataStorage} {tokenHolder : Address}
  {holdId : Uint256} {result : Unit}

@[simp] theorem increment_next_hold_id_ok {next : Uint256} :
    incrementNextHoldId tokenHolder environment before = .ok (next, after) ↔
      next.toNat = (before.nextHoldIdByAccount tokenHolder).toNat + 1 ∧
        after = HoldDataStorage.setNextHoldId before tokenHolder next := by
  simp only [incrementNextHoldId, Tx.bind_ok, Tx.get_ok, Tx.of_option_ok, Tx.modify_ok, Tx.pure_ok,
    Uint.checked_eq_some]
  constructor
  · intro committed
    obtain ⟨_, _, ⟨rfl, rfl⟩, _, _, ⟨exact_, rfl⟩, _, _, rfl, rfl, rfl⟩ := committed
    exact ⟨by omega, rfl⟩
  · intro described
    obtain ⟨exact_, rfl⟩ := described
    exact ⟨before, before, ⟨rfl, rfl⟩, next, before, ⟨by omega, rfl⟩, (), _, rfl,
      rfl, rfl⟩

@[simp] theorem add_to_totals_ok {amount : Int} :
    addToTotals tokenHolder amount environment before = .ok (result, after) ↔
      ∃ total accountTotal : Sint64,
        total.toInt = before.totalHeldAmount.toInt + amount ∧
        accountTotal.toInt = (before.totalHeldAmountByAccount tokenHolder).toInt + amount ∧
        after = HoldDataStorage.setTotals before tokenHolder total accountTotal := by
  simp only [addToTotals, Tx.bind_ok, Tx.get_ok, Tx.of_option_ok, Tx.modify_ok,
    Sint.checked_eq_some]
  constructor
  · intro committed
    obtain ⟨_, _, ⟨rfl, rfl⟩, total, _, ⟨sum, rfl⟩, accountTotal, _, ⟨accountSum, rfl⟩, rfl⟩ :=
      committed
    exact ⟨total, accountTotal, sum, accountSum, rfl⟩
  · intro described
    obtain ⟨total, accountTotal, sum, accountSum, rfl⟩ := described
    exact ⟨before, before, ⟨rfl, rfl⟩, total, before, ⟨sum, rfl⟩, accountTotal, before,
      ⟨accountSum, rfl⟩, rfl⟩

/-- A committed registration: the id was free, and it holds the new record. -/
theorem register_hold_ok {hold : Hold} {operatorData : Bytes} :
    registerHold tokenHolder holdId hold operatorData environment before = .ok (result, after) ↔
      holdId ∉ before.holdIdsByAccount tokenHolder ∧
      ∃ total accountTotal : Sint64,
        total.toInt = before.totalHeldAmount.toInt + hold.amount.toInt ∧
        accountTotal.toInt =
          (before.totalHeldAmountByAccount tokenHolder).toInt + hold.amount.toInt ∧
        after =
          HoldDataStorage.setTotals
            (HoldDataStorage.setHoldIds
              (HoldDataStorage.setHold before tokenHolder holdId
                (Hold.toHoldData hold holdId operatorData))
              tokenHolder ((before.holdIdsByAccount tokenHolder).add holdId).2)
            tokenHolder total accountTotal := by
  have fresh : ((before.holdIdsByAccount tokenHolder).add holdId).1 = true ↔
      holdId ∉ before.holdIdsByAccount tokenHolder := by
    constructor
    · intro added present
      simp [EnumerableSet.add, show holdId ∈ (before.holdIdsByAccount tokenHolder).values from
        present] at added
    · intro absent
      exact (EnumerableSet.add_of_not_mem absent).1
  rw [← fresh]
  simp only [registerHold, Tx.bind_ok, Tx.get_ok, Tx.modify_ok, Tx.require_ok, add_to_totals_ok]
  constructor
  · intro committed
    obtain ⟨_, _, rfl, _, _, ⟨rfl, rfl⟩, _, _, rfl, _, _, ⟨added, rfl⟩, total, accountTotal, sum,
      accountSum, rfl⟩ := committed
    exact ⟨added, total, accountTotal, sum, accountSum, rfl⟩
  · intro described
    obtain ⟨added, total, accountTotal, sum, accountSum, rfl⟩ := described
    exact ⟨(), _, rfl, _, _, ⟨rfl, rfl⟩, (), _, rfl, (), _, ⟨added, rfl⟩, total, accountTotal, sum,
      accountSum, rfl⟩

def afterDecrease (storage : HoldDataStorage) (tokenHolder : Address) (holdId : Uint256)
    (remaining total accountTotal : Sint64) : HoldDataStorage :=
  let lowered :=
    HoldDataStorage.setTotals
      (HoldDataStorage.setHold storage tokenHolder holdId
        ((storage.holdsByAccountAndId tokenHolder holdId).withAmount remaining))
      tokenHolder total accountTotal
  if remaining = 0 then
    HoldDataStorage.setHold
      (HoldDataStorage.setHoldIds lowered tokenHolder
        ((storage.holdIdsByAccount tokenHolder).remove holdId).2)
      tokenHolder holdId HoldData.zero
  else lowered

theorem remove_flag {set : EnumerableSet Uint256} : (set.remove holdId).1 = true ↔ holdId ∈ set := by
  constructor
  · intro removed
    by_contra absent
    simp [EnumerableSet.remove, show holdId ∉ set.values from absent] at removed
  · intro present
    exact (EnumerableSet.remove_of_mem present).1

/-- A committed decrease: all three amounts fall by exactly the given amount,
and a hold that ends at zero was listed. -/
theorem decrease_hold_amount_ok {amount : Sint64} :
    decreaseHoldAmount tokenHolder holdId amount environment before = .ok (result, after) ↔
      ∃ remaining total accountTotal : Sint64,
        remaining.toInt =
          (before.holdsByAccountAndId tokenHolder holdId).amount.toInt - amount.toInt ∧
        total.toInt = before.totalHeldAmount.toInt - amount.toInt ∧
        accountTotal.toInt =
          (before.totalHeldAmountByAccount tokenHolder).toInt - amount.toInt ∧
        (remaining = 0 → holdId ∈ before.holdIdsByAccount tokenHolder) ∧
        after = afterDecrease before tokenHolder holdId remaining total accountTotal := by
  simp only [decreaseHoldAmount, Tx.bind_ok, Tx.get_ok, Tx.of_option_ok, Tx.modify_ok,
    add_to_totals_ok, Sint.checked_eq_some]
  constructor
  · intro committed
    obtain ⟨_, _, ⟨rfl, rfl⟩, remaining, _, ⟨rest, rfl⟩, _, _, rfl, _, _,
      ⟨total, accountTotal, sum, accountSum, rfl⟩, dropped⟩ := committed
    refine ⟨remaining, total, accountTotal, rest, sum, accountSum, ?_⟩
    unfold dropEmptyHold at dropped
    by_cases empty : remaining = 0
    · simp only [empty, if_true, Tx.bind_ok, Tx.get_ok, Tx.modify_ok, Tx.require_ok] at dropped
      obtain ⟨_, _, ⟨rfl, rfl⟩, _, _, rfl, _, _, ⟨removed, rfl⟩, rfl⟩ := dropped
      refine ⟨fun _ => remove_flag.mp removed, ?_⟩
      simp only [afterDecrease, empty, if_true]
      rfl
    · simp only [empty, if_false, Tx.pure_ok] at dropped
      obtain ⟨_, rfl⟩ := dropped
      refine ⟨fun zero => (empty zero).elim, ?_⟩
      simp only [afterDecrease, empty, if_false]
  · intro described
    obtain ⟨remaining, total, accountTotal, rest, sum, accountSum, listed, rfl⟩ := described
    refine ⟨before, before, ⟨rfl, rfl⟩, remaining, before, ⟨rest, rfl⟩, (), _, rfl, (), _,
      ⟨total, accountTotal, sum, accountSum, rfl⟩, ?_⟩
    unfold dropEmptyHold
    by_cases empty : remaining = 0
    · simp only [empty, if_true, Tx.bind_ok, Tx.get_ok, Tx.modify_ok, Tx.require_ok]
      refine ⟨_, _, ⟨rfl, rfl⟩, (), _, rfl, (), _, ⟨remove_flag.mpr (listed empty), rfl⟩, ?_⟩
      simp only [afterDecrease, if_true]
      rfl
    · simp only [empty, if_false, Tx.pure_ok]
      refine ⟨trivial, ?_⟩
      simp only [afterDecrease, empty, if_false]

theorem add_to_totals_assertion {amount : Int} :
    addToTotals tokenHolder amount environment before ≠ .error (.panic .assertion) := by
  intro failed
  simp [addToTotals] at failed

theorem drop_empty_hold_assertion {remaining : Sint64}
    (failed : dropEmptyHold tokenHolder holdId remaining environment before =
      .error (.panic .assertion)) : holdId ∉ before.holdIdsByAccount tokenHolder := by
  intro present
  have removed := (EnumerableSet.remove_of_mem present).1
  unfold dropEmptyHold at failed
  split at failed
  · simp [removed] at failed
  · simp at failed

/-- The `assert` of a registration fails on a listed id only. -/
theorem register_hold_assertion {hold : Hold} {operatorData : Bytes}
    (failed : registerHold tokenHolder holdId hold operatorData environment before =
      .error (.panic .assertion)) : holdId ∈ before.holdIdsByAccount tokenHolder := by
  by_contra absent
  have added := (EnumerableSet.add_of_not_mem absent).1
  simp [registerHold, add_to_totals_assertion, HoldDataStorage.setHold, added] at failed

/-- The `assert` of a decrease fails on an unlisted id only. -/
theorem decrease_hold_amount_assertion {amount : Sint64}
    (failed : decreaseHoldAmount tokenHolder holdId amount environment before =
      .error (.panic .assertion)) : holdId ∉ before.holdIdsByAccount tokenHolder := by
  intro present
  simp only [decreaseHoldAmount, Tx.bind_error, Tx.get_error, Tx.get_ok, Tx.of_option_error,
    Tx.of_option_ok, Tx.modify_error, Tx.modify_ok, add_to_totals_assertion, false_or,
    reduceCtorEq, Revert.panic.injEq, and_false] at failed
  obtain ⟨_, _, ⟨rfl, rfl⟩, remaining, _, ⟨_, rfl⟩, _, _, rfl, _, _, summed, failed⟩ := failed
  obtain ⟨total, accountTotal, _, _, rfl⟩ := add_to_totals_ok.mp summed
  exact drop_empty_hold_assertion failed present

end Storage

/-! ## The facet -/

variable {world : Type} (p : Platform world)

def onHolds {value : Type} (call : HoldTx value) : FacetTx world value :=
  Tx.focus State.holds (fun state holds => { state with holds := holds }) call

/-! ### Modifiers -/

def validAmount (holdAmount requestedAmount : Sint64) : FacetTx world Unit :=
  Tx.require (requestedAmount.toInt ≤ holdAmount.toInt)
    (.insufficientHoldAmount requestedAmount holdAmount)

def validHold (identifier : HoldIdentifier) : FacetTx world Unit := do
  let state ← Tx.get
  Tx.require (identifier.holdId ∈ state.holds.holdIdsByAccount identifier.tokenHolder)
    (.holdNotFound identifier.tokenHolder identifier.holdId)

def nonExpired (expirationTimestamp : Uint256) : FacetTx world Unit := do
  let msg ← Tx.read
  Tx.require (msg.timestamp.toNat < expirationTimestamp.toNat) (.holdExpired expirationTimestamp)

def expired (expirationTimestamp : Uint256) : FacetTx world Unit := do
  let msg ← Tx.read
  Tx.require (expirationTimestamp.toNat ≤ msg.timestamp.toNat) (.holdNotExpired expirationTimestamp)

def isEscrow (escrow : Address) : FacetTx world Unit := do
  let msg ← Tx.read
  Tx.require (escrow = msg.sender) (.unauthorizedEscrow msg.sender escrow)

def validExpiration (expiration : Uint256) : FacetTx world Unit := do
  let msg ← Tx.read
  Tx.require (msg.timestamp.toNat < expiration.toNat) (.invalidExpiration expiration msg.timestamp)

/-- The contract holds the key of the given bit: 8 to wipe, 16 to supply. -/
def hasContractKey (keyType : Nat) : FacetTx world Unit := do
  let state ← Tx.get
  let _ ← checkResponse (p.getTokenKey state.tokenAddress keyType state.world)

def hasContractWipeKey : FacetTx world Unit := hasContractKey p 8

def hasContractSupplyKey : FacetTx world Unit := hasContractKey p 16

/-! ### Functions -/

/-- The casts of the source to `uint64` and back keep the amount. -/
def wipeAndMintTokens (tokenHolder : Address) (amount : Sint64) : FacetTx world Bool := do
  let _ ← TokenOwnerStorageWrapper.checkedService fun token =>
    p.wipeTokenAccount token tokenHolder amount
  TokenOwnerStorageWrapper.checkedService fun token => p.mintToken token amount

def transferTokens (sender recipient : Address) (amount : Sint64) : FacetTx world Bool :=
  TokenOwnerStorageWrapper.checkedService fun token => p.transferToken token sender recipient amount

def createHoldInternal (tokenHolder : Address) (hold : Hold) (operatorData : Bytes) :
    FacetTx world (Bool × Uint256) := do
  let holdId ← onHolds (incrementNextHoldId tokenHolder)
  let _ ← wipeAndMintTokens p tokenHolder hold.amount
  onHolds (registerHold tokenHolder holdId hold operatorData)
  return (true, holdId)

def createHold (hold : Hold) : FacetTx world (Bool × Uint256) := do
  hasContractSupplyKey p
  hasContractWipeKey p
  validExpiration hold.expirationTimestamp
  addressIsNotZero hold.escrow
  greaterThanZero hold.amount.toInt
  let msg ← Tx.read
  createHoldInternal p msg.sender hold []

def createHoldByController (holder : Address) (hold : Hold) (operatorData : Bytes) :
    FacetTx world (Bool × Uint256) := do
  hasContractSupplyKey p
  hasContractWipeKey p
  validExpiration hold.expirationTimestamp
  addressIsNotZero hold.escrow
  addressIsNotZero holder
  RolesStorageWrapper.onlyRole holdCreatorRole
  greaterThanZero hold.amount.toInt
  createHoldInternal p holder hold operatorData

/-- The end of the three functions that pay tokens out of a hold. -/
def payOut (identifier : HoldIdentifier) (recipient : Address) (amount : Sint64) :
    FacetTx world Bool := do
  onHolds (decreaseHoldAmount identifier.tokenHolder identifier.holdId amount)
  let _ ← transferTokens p p.proxy recipient amount
  return true

def executeHold (identifier : HoldIdentifier) (recipient : Address) (amount : Sint64) :
    FacetTx world Bool := do
  let state ← Tx.get
  let holdData := HoldDataStorage.hold state.holds identifier
  validHold identifier
  greaterThanZero amount.toInt
  validAmount holdData.amount amount
  nonExpired holdData.expirationTimestamp
  isEscrow holdData.escrow
  Tx.require (¬ (holdData.to_ ≠ 0 ∧ holdData.to_ ≠ recipient))
    (.invalidDestination holdData.to_ recipient)
  payOut p identifier recipient amount

def releaseHold (identifier : HoldIdentifier) (amount : Sint64) : FacetTx world Bool := do
  let state ← Tx.get
  let holdData := HoldDataStorage.hold state.holds identifier
  validHold identifier
  validAmount holdData.amount amount
  nonExpired holdData.expirationTimestamp
  isEscrow holdData.escrow
  payOut p identifier identifier.tokenHolder amount

def reclaimHold (identifier : HoldIdentifier) : FacetTx world Bool := do
  let state ← Tx.get
  let holdData := HoldDataStorage.hold state.holds identifier
  validHold identifier
  expired holdData.expirationTimestamp
  let amount := holdData.amount
  payOut p identifier identifier.tokenHolder amount

def getHeldAmount : FacetTx world Sint64 := do
  let state ← Tx.get
  return state.holds.totalHeldAmount

def getHeldAmountFor (tokenHolder : Address) : FacetTx world Sint64 := do
  let state ← Tx.get
  return state.holds.totalHeldAmountByAccount tokenHolder

def getHoldCountFor (tokenHolder : Address) : FacetTx world Nat := do
  let state ← Tx.get
  return (state.holds.holdIdsByAccount tokenHolder).length

def getHoldsIdFor (tokenHolder : Address) (pageIndex pageLength : Uint256) :
    FacetTx world (List Uint256) := do
  let state ← Tx.get
  let holdsId := state.holds.holdIdsByAccount tokenHolder
  let startIndex : Uint256 ← arithmetic (Uint.checked (pageIndex.toNat * pageLength.toNat))
  let pageEnd : Uint256 ← arithmetic (Uint.checked (startIndex.toNat + pageLength.toNat))
  let endIndex := if pageEnd.toNat > holdsId.length then holdsId.length else pageEnd.toNat
  let count : Uint256 ← arithmetic (Uint.checked (endIndex - startIndex.toNat))
  return (holdsId.values.drop startIndex.toNat).take count.toNat

structure HoldDetails where
  amount : Sint64
  expirationTimestamp : Uint256
  escrow : Address
  destination : Address
  data : Bytes
  operatorData : Bytes

def getHoldFor (identifier : HoldIdentifier) : FacetTx world HoldDetails := do
  let state ← Tx.get
  let holdData := HoldDataStorage.hold state.holds identifier
  validHold identifier
  return {
    amount := holdData.amount
    expirationTimestamp := holdData.expirationTimestamp
    escrow := holdData.escrow
    destination := holdData.to_
    data := holdData.data
    operatorData := holdData.operatorData
  }

/-! ### What committed calls do -/

section Committed

variable {p} {environment : Msg} {before after : State world}

@[simp] theorem on_holds_ok {value : Type} {call : HoldTx value} {result : value} :
    onHolds call environment before = .ok (result, after) ↔
      ∃ holds, call environment before.holds = .ok (result, holds) ∧
        { before with holds := holds } = after := by
  simp [onHolds]

@[simp] theorem valid_amount_ok {holdAmount requestedAmount : Sint64} {result : Unit} :
    validAmount holdAmount requestedAmount environment before = .ok (result, after) ↔
      requestedAmount.toInt ≤ holdAmount.toInt ∧ before = after := by
  simp [validAmount]

@[simp] theorem valid_hold_ok {identifier : HoldIdentifier} {result : Unit} :
    validHold identifier environment before = .ok (result, after) ↔
      identifier.holdId ∈ before.holds.holdIdsByAccount identifier.tokenHolder ∧
        before = after := by
  simp [validHold, and_comm]

@[simp] theorem non_expired_ok {expirationTimestamp : Uint256} {result : Unit} :
    nonExpired expirationTimestamp environment before = .ok (result, after) ↔
      environment.timestamp.toNat < expirationTimestamp.toNat ∧ before = after := by
  simp [nonExpired, and_comm]

@[simp] theorem expired_ok {expirationTimestamp : Uint256} {result : Unit} :
    expired expirationTimestamp environment before = .ok (result, after) ↔
      expirationTimestamp.toNat ≤ environment.timestamp.toNat ∧ before = after := by
  simp [expired, and_comm]

@[simp] theorem is_escrow_ok {escrow : Address} {result : Unit} :
    isEscrow escrow environment before = .ok (result, after) ↔
      escrow = environment.sender ∧ before = after := by
  simp [isEscrow, and_comm]

@[simp] theorem valid_expiration_ok {expiration : Uint256} {result : Unit} :
    validExpiration expiration environment before = .ok (result, after) ↔
      environment.timestamp.toNat < expiration.toNat ∧ before = after := by
  simp [validExpiration, and_comm]

@[simp] theorem has_contract_key_ok {keyType : Nat} {result : Unit} :
    hasContractKey p keyType environment before = .ok (result, after) ↔
      p.getTokenKey before.tokenAddress keyType before.world = success ∧ before = after := by
  simp [hasContractKey, and_comm]

@[simp] theorem on_holds_error {value : Type} {call : HoldTx value} {failure : Revert} :
    onHolds call environment before = .error failure ↔
      call environment before.holds = .error failure := by
  simp [onHolds]

@[simp] theorem valid_amount_error {holdAmount requestedAmount : Sint64} {failure : Revert} :
    validAmount holdAmount requestedAmount environment before = .error failure ↔
      holdAmount.toInt < requestedAmount.toInt ∧
        .insufficientHoldAmount requestedAmount holdAmount = failure := by
  simp [validAmount]

@[simp] theorem valid_hold_error {identifier : HoldIdentifier} {failure : Revert} :
    validHold identifier environment before = .error failure ↔
      identifier.holdId ∉ before.holds.holdIdsByAccount identifier.tokenHolder ∧
        .holdNotFound identifier.tokenHolder identifier.holdId = failure := by
  simp [validHold]

@[simp] theorem non_expired_error {expirationTimestamp : Uint256} {failure : Revert} :
    nonExpired expirationTimestamp environment before = .error failure ↔
      expirationTimestamp.toNat ≤ environment.timestamp.toNat ∧
        .holdExpired expirationTimestamp = failure := by
  simp [nonExpired]

@[simp] theorem expired_error {expirationTimestamp : Uint256} {failure : Revert} :
    expired expirationTimestamp environment before = .error failure ↔
      environment.timestamp.toNat < expirationTimestamp.toNat ∧
        .holdNotExpired expirationTimestamp = failure := by
  simp [expired]

@[simp] theorem is_escrow_error {escrow : Address} {failure : Revert} :
    isEscrow escrow environment before = .error failure ↔
      escrow ≠ environment.sender ∧ .unauthorizedEscrow environment.sender escrow = failure := by
  simp [isEscrow]

@[simp] theorem valid_expiration_error {expiration : Uint256} {failure : Revert} :
    validExpiration expiration environment before = .error failure ↔
      expiration.toNat ≤ environment.timestamp.toNat ∧
        .invalidExpiration expiration environment.timestamp = failure := by
  simp [validExpiration]

@[simp] theorem has_contract_key_error {keyType : Nat} {failure : Revert} :
    hasContractKey p keyType environment before = .error failure ↔
      p.getTokenKey before.tokenAddress keyType before.world ≠ success ∧
        .responseCodeInvalid (p.getTokenKey before.tokenAddress keyType before.world) =
          failure := by
  simp [hasContractKey]

theorem wipe_and_mint_tokens_ok {tokenHolder : Address} {amount : Sint64} {result : Bool} :
    wipeAndMintTokens p tokenHolder amount environment before = .ok (result, after) ↔
      ∃ wiped minted,
        p.wipeTokenAccount before.tokenAddress tokenHolder amount before.world =
          (success, wiped) ∧
        p.mintToken before.tokenAddress amount wiped = (success, minted) ∧
        after = { before with world := minted } ∧ result = true := by
  simp only [wipeAndMintTokens, Tx.bind_ok, TokenOwnerStorageWrapper.checked_service_ok]
  constructor
  · intro committed
    obtain ⟨_, middle, ⟨wiped, same, _⟩, minted, final, answer⟩ := committed
    rw [same] at minted final
    exact ⟨middle.world, after.world, wiped, minted, final, answer⟩
  · intro described
    obtain ⟨wipedWorld, mintedWorld, wiped, minted, rfl, answer⟩ := described
    exact ⟨true, { before with world := wipedWorld }, ⟨wiped, rfl, rfl⟩, minted, rfl, answer⟩

@[simp] theorem transfer_tokens_ok {sender recipient : Address} {amount : Sint64} {result : Bool} :
    transferTokens p sender recipient amount environment before = .ok (result, after) ↔
      p.transferToken before.tokenAddress sender recipient amount before.world =
          (success, after.world) ∧
        after = { before with world := after.world } ∧ result = true := by
  simp [transferTokens]

structure Creation (p : Platform world) (environment : Msg) (tokenHolder : Address) (hold : Hold)
    (operatorData : Bytes) (holdId : Uint256) (before after : State world) : Prop where
  supplyKey : p.getTokenKey before.tokenAddress 16 before.world = success
  wipeKey : p.getTokenKey before.tokenAddress 8 before.world = success
  expiration : environment.timestamp.toNat < hold.expirationTimestamp.toNat
  escrow : hold.escrow ≠ 0
  positive : 0 < hold.amount.toInt
  next : holdId.toNat = (before.holds.nextHoldIdByAccount tokenHolder).toNat + 1
  tokens : ∃ wiped, p.wipeTokenAccount before.tokenAddress tokenHolder hold.amount before.world =
      (success, wiped) ∧ p.mintToken before.tokenAddress hold.amount wiped = (success, after.world)
  registered : registerHold tokenHolder holdId hold operatorData environment
      (HoldDataStorage.setNextHoldId before.holds tokenHolder holdId) = .ok ((), after.holds)
  frame : after = { before with holds := after.holds, world := after.world }

theorem create_hold_internal_ok {tokenHolder : Address} {hold : Hold} {operatorData : Bytes}
    {result : Bool × Uint256}
    (committed : createHoldInternal p tokenHolder hold operatorData environment before =
      .ok (result, after)) :
    result.1 = true ∧
      result.2.toNat = (before.holds.nextHoldIdByAccount tokenHolder).toNat + 1 ∧
      (∃ wiped, p.wipeTokenAccount before.tokenAddress tokenHolder hold.amount before.world =
          (success, wiped) ∧
        p.mintToken before.tokenAddress hold.amount wiped = (success, after.world)) ∧
      registerHold tokenHolder result.2 hold operatorData environment
          (HoldDataStorage.setNextHoldId before.holds tokenHolder result.2) =
        .ok ((), after.holds) ∧
      after = { before with holds := after.holds, world := after.world } := by
  simp only [createHoldInternal, Tx.bind_ok, on_holds_ok, increment_next_hold_id_ok,
    wipe_and_mint_tokens_ok, Tx.pure_ok] at committed
  obtain ⟨holdId, _, ⟨_, ⟨next, rfl⟩, rfl⟩, _, _, ⟨wiped, minted, wipe, mint, rfl, _⟩, _, _,
    ⟨holds, registered, rfl⟩, rfl, rfl⟩ := committed
  exact ⟨rfl, next, ⟨wiped, wipe, mint⟩, registered, rfl⟩

theorem create_hold_ok {hold : Hold} {result : Bool × Uint256}
    (committed : createHold p hold environment before = .ok (result, after)) :
    result.1 = true ∧
      Creation p environment environment.sender hold [] result.2 before after := by
  simp only [createHold, hasContractSupplyKey, hasContractWipeKey, Tx.bind_ok, has_contract_key_ok,
    valid_expiration_ok, Tx.require_ok, Tx.read_ok] at committed
  obtain ⟨_, _, ⟨supplyKey, rfl⟩, _, _, ⟨wipeKey, rfl⟩, _, _, ⟨expiration, rfl⟩, _, _,
    ⟨escrow, rfl⟩, _, _, ⟨positive, rfl⟩, _, _, ⟨rfl, rfl⟩, created⟩ := committed
  obtain ⟨answer, next, tokens, registered, frame⟩ := create_hold_internal_ok created
  exact ⟨answer, supplyKey, wipeKey, expiration, escrow, positive, next, tokens, registered, frame⟩

theorem create_hold_by_controller_ok {holder : Address} {hold : Hold} {operatorData : Bytes}
    {result : Bool × Uint256}
    (committed : createHoldByController p holder hold operatorData environment before =
      .ok (result, after)) :
    result.1 = true ∧ holder ≠ 0 ∧
      RolesStorage.hasRole before.roles holdCreatorRole environment.sender = true ∧
      Creation p environment holder hold operatorData result.2 before after := by
  simp only [createHoldByController, hasContractSupplyKey, hasContractWipeKey, Tx.bind_ok,
    has_contract_key_ok, valid_expiration_ok, Tx.require_ok, RolesStorageWrapper.only_role_ok]
    at committed
  obtain ⟨_, _, ⟨supplyKey, rfl⟩, _, _, ⟨wipeKey, rfl⟩, _, _, ⟨expiration, rfl⟩, _, _,
    ⟨escrow, rfl⟩, _, _, ⟨holderSet, rfl⟩, _, _, ⟨controller, rfl⟩, _, _, ⟨positive, rfl⟩,
    created⟩ := committed
  obtain ⟨answer, next, tokens, registered, frame⟩ := create_hold_internal_ok created
  exact ⟨answer, holderSet, controller, supplyKey, wipeKey, expiration, escrow, positive, next,
    tokens, registered, frame⟩

structure Payment (p : Platform world) (environment : Msg) (identifier : HoldIdentifier)
    (recipient : Address) (amount : Sint64) (before after : State world) : Prop where
  live : identifier.holdId ∈ before.holds.holdIdsByAccount identifier.tokenHolder
  within : amount.toInt ≤ (HoldDataStorage.hold before.holds identifier).amount.toInt
  decreased : decreaseHoldAmount identifier.tokenHolder identifier.holdId amount environment
      before.holds = .ok ((), after.holds)
  paid : p.transferToken before.tokenAddress p.proxy recipient amount before.world =
      (success, after.world)
  frame : after = { before with holds := after.holds, world := after.world }

theorem pay_out_ok {identifier : HoldIdentifier} {recipient : Address} {amount : Sint64}
    {result : Bool} :
    payOut p identifier recipient amount environment before = .ok (result, after) ↔
      result = true ∧
        decreaseHoldAmount identifier.tokenHolder identifier.holdId amount environment
          before.holds = .ok ((), after.holds) ∧
        p.transferToken before.tokenAddress p.proxy recipient amount before.world =
          (success, after.world) ∧
        after = { before with holds := after.holds, world := after.world } := by
  simp only [payOut, Tx.bind_ok, on_holds_ok, transfer_tokens_ok, Tx.pure_ok]
  constructor
  · intro committed
    obtain ⟨_, _, ⟨holds, decreased, rfl⟩, _, later, ⟨paid, frame, _⟩, rfl, rfl⟩ := committed
    have sameHolds : later.holds = holds := by rw [frame]
    rw [← sameHolds] at decreased
    refine ⟨rfl, decreased, paid, ?_⟩
    rw [sameHolds]
    exact frame
  · intro described
    obtain ⟨rfl, decreased, paid, frame⟩ := described
    exact ⟨(), _, ⟨after.holds, decreased, rfl⟩, true, after, ⟨paid, frame, rfl⟩, rfl, rfl⟩

theorem execute_hold_ok {identifier : HoldIdentifier} {recipient : Address} {amount : Sint64}
    {result : Bool} :
    executeHold p identifier recipient amount environment before = .ok (result, after) ↔
      result = true ∧ 0 < amount.toInt ∧
        environment.timestamp.toNat <
          (HoldDataStorage.hold before.holds identifier).expirationTimestamp.toNat ∧
        (HoldDataStorage.hold before.holds identifier).escrow = environment.sender ∧
        ((HoldDataStorage.hold before.holds identifier).to_ = 0 ∨
          (HoldDataStorage.hold before.holds identifier).to_ = recipient) ∧
        Payment p environment identifier recipient amount before after := by
  simp only [executeHold, Tx.bind_ok, Tx.get_ok, valid_hold_ok, Tx.require_ok, valid_amount_ok,
    non_expired_ok, is_escrow_ok, pay_out_ok]
  constructor
  · intro committed
    obtain ⟨_, _, ⟨rfl, rfl⟩, _, _, ⟨live, rfl⟩, _, _, ⟨positive, rfl⟩, _, _, ⟨within, rfl⟩, _, _,
      ⟨inTime, rfl⟩, _, _, ⟨escrow, rfl⟩, _, _, ⟨destination, rfl⟩, answer, decreased, paid,
      frame⟩ := committed
    have allowed := not_and_or.mp destination
    rw [not_ne_iff, not_ne_iff] at allowed
    exact ⟨answer, positive, inTime, escrow, allowed, live, within, decreased, paid, frame⟩
  · intro described
    obtain ⟨answer, positive, inTime, escrow, allowed, live, within, decreased, paid, frame⟩ :=
      described
    have destination : ¬ ((HoldDataStorage.hold before.holds identifier).to_ ≠ 0 ∧
        (HoldDataStorage.hold before.holds identifier).to_ ≠ recipient) := by
      intro refused
      exact allowed.elim refused.1 refused.2
    exact ⟨_, _, ⟨rfl, rfl⟩, (), _, ⟨live, rfl⟩, (), _, ⟨positive, rfl⟩, (), _, ⟨within, rfl⟩,
      (), _, ⟨inTime, rfl⟩, (), _, ⟨escrow, rfl⟩, (), _, ⟨destination, rfl⟩, answer, decreased,
      paid, frame⟩

theorem release_hold_ok {identifier : HoldIdentifier} {amount : Sint64} {result : Bool} :
    releaseHold p identifier amount environment before = .ok (result, after) ↔
      result = true ∧
        environment.timestamp.toNat <
          (HoldDataStorage.hold before.holds identifier).expirationTimestamp.toNat ∧
        (HoldDataStorage.hold before.holds identifier).escrow = environment.sender ∧
        Payment p environment identifier identifier.tokenHolder amount before after := by
  simp only [releaseHold, Tx.bind_ok, Tx.get_ok, valid_hold_ok, valid_amount_ok, non_expired_ok,
    is_escrow_ok, pay_out_ok]
  constructor
  · intro committed
    obtain ⟨_, _, ⟨rfl, rfl⟩, _, _, ⟨live, rfl⟩, _, _, ⟨within, rfl⟩, _, _, ⟨inTime, rfl⟩, _, _,
      ⟨escrow, rfl⟩, answer, decreased, paid, frame⟩ := committed
    exact ⟨answer, inTime, escrow, live, within, decreased, paid, frame⟩
  · intro described
    obtain ⟨answer, inTime, escrow, live, within, decreased, paid, frame⟩ := described
    exact ⟨_, _, ⟨rfl, rfl⟩, (), _, ⟨live, rfl⟩, (), _, ⟨within, rfl⟩, (), _, ⟨inTime, rfl⟩,
      (), _, ⟨escrow, rfl⟩, answer, decreased, paid, frame⟩

theorem reclaim_hold_ok {identifier : HoldIdentifier} {result : Bool} :
    reclaimHold p identifier environment before = .ok (result, after) ↔
      result = true ∧
        (HoldDataStorage.hold before.holds identifier).expirationTimestamp.toNat ≤
          environment.timestamp.toNat ∧
        Payment p environment identifier identifier.tokenHolder
          (HoldDataStorage.hold before.holds identifier).amount before after := by
  simp only [reclaimHold, Tx.bind_ok, Tx.get_ok, valid_hold_ok, expired_ok, pay_out_ok]
  constructor
  · intro committed
    obtain ⟨_, _, ⟨rfl, rfl⟩, _, _, ⟨live, rfl⟩, _, _, ⟨late, rfl⟩, answer, decreased, paid,
      frame⟩ := committed
    exact ⟨answer, late, live, le_rfl, decreased, paid, frame⟩
  · intro described
    obtain ⟨answer, late, live, _, decreased, paid, frame⟩ := described
    exact ⟨_, _, ⟨rfl, rfl⟩, (), _, ⟨live, rfl⟩, (), _, ⟨late, rfl⟩, answer, decreased, paid,
      frame⟩

/-! ### The assertions -/

theorem create_hold_internal_assertion {tokenHolder : Address} {hold : Hold} {operatorData : Bytes}
    (failed : createHoldInternal p tokenHolder hold operatorData environment before =
      .error (.panic .assertion)) :
    ∃ holdId : Uint256,
      holdId.toNat = (before.holds.nextHoldIdByAccount tokenHolder).toNat + 1 ∧
        holdId ∈ before.holds.holdIdsByAccount tokenHolder := by
  have counter : ∀ storage, incrementNextHoldId tokenHolder environment storage ≠
      .error (.panic .assertion) := by
    intro storage raised
    simp [incrementNextHoldId] at raised
  simp only [createHoldInternal, wipeAndMintTokens, Tx.bind_error, on_holds_error, counter,
    on_holds_ok, increment_next_hold_id_ok, TokenOwnerStorageWrapper.checked_service_error,
    TokenOwnerStorageWrapper.checked_service_ok, Tx.bind_ok, Tx.pure_error, reduceCtorEq, and_false,
    false_or, or_false, exists_false] at failed
  obtain ⟨holdId, _, ⟨_, ⟨next, rfl⟩, rfl⟩, _, minted, ⟨_, wiped, ⟨_, frame, _⟩, _, mintFrame, _⟩,
    raised⟩ := failed
  have listed := register_hold_assertion raised
  rw [mintFrame, frame] at listed
  exact ⟨holdId, next, listed⟩

theorem create_hold_assertion {hold : Hold}
    (failed : createHold p hold environment before = .error (.panic .assertion)) :
    createHoldInternal p environment.sender hold [] environment before =
      .error (.panic .assertion) := by
  simp only [createHold, hasContractSupplyKey, hasContractWipeKey, Tx.bind_error,
    has_contract_key_error, has_contract_key_ok, valid_expiration_error, valid_expiration_ok,
    Tx.require_error, Tx.require_ok, Tx.read_error, Tx.read_ok, reduceCtorEq, and_false, false_or]
    at failed
  obtain ⟨_, _, ⟨_, rfl⟩, _, _, ⟨_, rfl⟩, _, _, ⟨_, rfl⟩, _, _, ⟨_, rfl⟩, _, _, ⟨_, rfl⟩, _, _,
    ⟨rfl, rfl⟩, raised⟩ := failed
  exact raised

theorem create_hold_by_controller_assertion {holder : Address} {hold : Hold} {operatorData : Bytes}
    (failed : createHoldByController p holder hold operatorData environment before =
      .error (.panic .assertion)) :
    createHoldInternal p holder hold operatorData environment before =
      .error (.panic .assertion) := by
  simp only [createHoldByController, hasContractSupplyKey, hasContractWipeKey, Tx.bind_error,
    has_contract_key_error, has_contract_key_ok, valid_expiration_error, valid_expiration_ok,
    Tx.require_error, Tx.require_ok, RolesStorageWrapper.only_role_error,
    RolesStorageWrapper.only_role_ok, reduceCtorEq, and_false, false_or] at failed
  obtain ⟨_, _, ⟨_, rfl⟩, _, _, ⟨_, rfl⟩, _, _, ⟨_, rfl⟩, _, _, ⟨_, rfl⟩, _, _, ⟨_, rfl⟩, _, _,
    ⟨_, rfl⟩, _, _, ⟨_, rfl⟩, raised⟩ := failed
  exact raised

theorem pay_out_assertion {identifier : HoldIdentifier} {recipient : Address} {amount : Sint64}
    (live : identifier.holdId ∈ before.holds.holdIdsByAccount identifier.tokenHolder) :
    payOut p identifier recipient amount environment before ≠ .error (.panic .assertion) := by
  intro failed
  simp only [payOut, transferTokens, Tx.bind_error, on_holds_error,
    TokenOwnerStorageWrapper.checked_service_error, Tx.pure_error, reduceCtorEq, and_false,
    or_false, exists_false] at failed
  exact decrease_hold_amount_assertion failed live

theorem execute_hold_assertion {identifier : HoldIdentifier} {recipient : Address}
    {amount : Sint64} :
    executeHold p identifier recipient amount environment before ≠ .error (.panic .assertion) := by
  intro failed
  simp only [executeHold, Tx.bind_error, Tx.get_error, Tx.get_ok, valid_hold_error, valid_hold_ok,
    Tx.require_error, Tx.require_ok, valid_amount_error, valid_amount_ok, non_expired_error,
    non_expired_ok, is_escrow_error, is_escrow_ok, reduceCtorEq, and_false, false_or] at failed
  obtain ⟨_, _, ⟨rfl, rfl⟩, _, _, ⟨live, rfl⟩, _, _, ⟨_, rfl⟩, _, _, ⟨_, rfl⟩, _, _, ⟨_, rfl⟩,
    _, _, ⟨_, rfl⟩, _, _, ⟨_, rfl⟩, raised⟩ := failed
  exact pay_out_assertion live raised

theorem release_hold_assertion {identifier : HoldIdentifier} {amount : Sint64} :
    releaseHold p identifier amount environment before ≠ .error (.panic .assertion) := by
  intro failed
  simp only [releaseHold, Tx.bind_error, Tx.get_error, Tx.get_ok, valid_hold_error, valid_hold_ok,
    valid_amount_error, valid_amount_ok, non_expired_error, non_expired_ok, is_escrow_error,
    is_escrow_ok, reduceCtorEq, and_false, false_or] at failed
  obtain ⟨_, _, ⟨rfl, rfl⟩, _, _, ⟨live, rfl⟩, _, _, ⟨_, rfl⟩, _, _, ⟨_, rfl⟩, _, _, ⟨_, rfl⟩,
    raised⟩ := failed
  exact pay_out_assertion live raised

theorem reclaim_hold_assertion {identifier : HoldIdentifier} :
    reclaimHold p identifier environment before ≠ .error (.panic .assertion) := by
  intro failed
  simp only [reclaimHold, Tx.bind_error, Tx.get_error, Tx.get_ok, valid_hold_error, valid_hold_ok,
    expired_error, expired_ok, reduceCtorEq, and_false, false_or] at failed
  obtain ⟨_, _, ⟨rfl, rfl⟩, _, _, ⟨live, rfl⟩, _, _, ⟨_, rfl⟩, raised⟩ := failed
  exact pay_out_assertion live raised

end Committed

end StablecoinStudio.Token.HoldManagement
