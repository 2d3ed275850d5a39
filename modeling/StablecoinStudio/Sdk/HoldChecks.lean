import StablecoinStudio.Foundation.FloatIntegers
import StablecoinStudio.Sdk.StableCoins
import StablecoinStudio.Token.HoldManagement

/-!
# Holds before a transaction

Before a hold is executed, released or reclaimed, its handler reads it from the
contract and makes the checks that the contract will make again.
-/

namespace StablecoinStudio.Sdk.HoldChecks

open StablecoinStudio.Core.Common
open StablecoinStudio.Foundation
open StablecoinStudio.Foundation.DecimalTexts
open StablecoinStudio.Foundation.FloatIntegers
open StablecoinStudio.Foundation.Transaction
open StablecoinStudio.Sdk.BigDecimal
open StablecoinStudio.Sdk.FixedNumber
open StablecoinStudio.Sdk.StableCoins
open StablecoinStudio.Token
open StablecoinStudio.Token.ProxyState

set_option autoImplicit false

def MAX_SAFE_INTEGER : Nat := 2 ^ 53 - 1

/-- The decimals of a number that is read without a format. -/
def DEFAULT_DECIMALS : Nat := 18

/-- The command, the coin, the answers of the mirror node, and the clock in
seconds. The caller is the account that signs. What `errorName` of a revert is
depends on the package that reads the contract. -/
structure Request (fixed : Type) where
  tokenId : String
  sourceId : String
  holdId : Nat
  amount : Text
  targetId : Option String
  coin : StableCoin fixed
  sourceRelation : Option (AccountTokenRelation fixed)
  targetRelation : Option (AccountTokenRelation fixed)
  accountRelation : Option (AccountTokenRelation fixed)
  accountToEvmAddress : String → Option Address
  errorName : Revert → Option String
  caller : Option Address
  currentTimestamp : Nat

structure HoldDetails (fixed : Type) where
  expirationTimeStamp : Nat
  amount : fixed
  escrowAddress : Address
  destinationAddress : Address

structure ContractCall where
  identifier : HoldIdentifier
  recipient : Address
  amount : Int
deriving DecidableEq

section Queries

variable {fixed world : Type} (ethers : FixedNumbers fixed) (msg : Msg) (state : State world)
  (request : Request fixed)

def accountToEvmAddress (accountId : String) : Checked Address :=
  match request.accountToEvmAddress accountId with
  | none => .error .invalidResponse
  | some address => .ok address

/-- A number that is no safe integer is not encoded. -/
def encodedHoldId : Checked Uint256 :=
  if safe : request.holdId ≤ MAX_SAFE_INTEGER then
    .ok ⟨request.holdId, Nat.lt_of_le_of_lt safe (by decide)⟩
  else .error .invalidNumber

def holdIdentifier : Checked HoldIdentifier := do
  let tokenHolder ← accountToEvmAddress request request.sourceId
  let holdId ← encodedHoldId request
  return ⟨tokenHolder, holdId⟩

def checkProxy : Checked Unit :=
  refuseWhen (request.coin.evmProxyAddress = none) .invalidTokenId

def HoldDetails.empty : Checked (HoldDetails fixed) := do
  let zero ← number (fromString ethers ['0'] (some 0))
  return ⟨0, zero, 0, 0⟩

/-- The amount goes through a number without a format and its text. -/
def holdAmount (amount : Sint64) : Checked fixed := do
  let raw ← number (ethers.fromString (integerDigits amount.toInt) DEFAULT_DECIMALS)
  number (fromStringFixed ethers (BigDecimal.toString ethers raw) request.coin.decimals)

/-- `GetHoldForQueryHandler`: a revert of that name reads as an empty hold. -/
def getHoldFor : Checked (HoldDetails fixed) := do
  checkProxy request
  let identifier ← holdIdentifier request
  match HoldManagement.getHoldFor identifier msg state with
  | .ok (hold, _) => do
      let amount ← holdAmount ethers request hold.amount
      return {
        expirationTimeStamp := nearest numberBits hold.expirationTimestamp.toNat
        amount := amount
        escrowAddress := hold.escrow
        destinationAddress := hold.destination
      }
  | .error failure =>
      if request.errorName failure = some "HoldNotFound" then HoldDetails.empty ethers
      else .error (.callException failure)

/-- `GetHoldsIdForQueryHandler`, for the first hundred. -/
def getHoldsIdFor : Checked (List Nat) := do
  checkProxy request
  let tokenHolder ← accountToEvmAddress request request.sourceId
  match HoldManagement.getHoldsIdFor tokenHolder 0 ⟨100, by decide⟩ msg state with
  | .ok (ids, _) => return ids.map fun id => nearest numberBits id.toNat
  | .error failure => .error (.callException failure)

/-! ## `ValidationService` -/

def checkHoldBalance (amount : fixed) : Checked Unit := do
  let holdDetails ← getHoldFor ethers msg state request
  refuseWhen (isLowerThan ethers holdDetails.amount amount) .insufficientHoldBalance

def checkValidHoldId : Checked Unit := do
  let holdIds ← getHoldsIdFor msg state request
  refuseWhen (request.holdId ∉ holdIds) .invalidHoldId

def checkEscrow : Checked Unit := do
  let holdDetails ← getHoldFor ethers msg state request
  refuseWhen (request.caller ≠ some holdDetails.escrowAddress)
    (.notEscrow (request.caller.getD 0) holdDetails.escrowAddress)

def checkHoldTarget : Checked Unit := do
  let holdDetails ← getHoldFor ethers msg state request
  let destinationAddress := holdDetails.destinationAddress
  match request.targetId with
  | none => refuseWhen (destinationAddress = 0) .invalidHoldDestination
  | some targetId =>
      if destinationAddress ≠ 0 then do
        let targetEvmAddress ← accountToEvmAddress request targetId
        refuseWhen (destinationAddress ≠ targetEvmAddress) .invalidHoldDestination
      else return ()

def checkHoldExpiration (isReclaim : Bool) : Checked Unit := do
  let holdDetails ← getHoldFor ethers msg state request
  refuseWhen (isReclaim = false ∧ holdDetails.expirationTimeStamp < request.currentTimestamp)
    .expiredHold
  refuseWhen (isReclaim = true ∧ holdDetails.expirationTimeStamp > request.currentTimestamp)
    .holdNotExpired

/-! ## The handlers -/

def checkStatus (relation : AccountTokenRelation fixed) (accountId : String) : Checked Unit := do
  refuseWhen (relation.kycStatus = .revoked) (.accountNotKyc accountId)
  refuseWhen (relation.freezeStatus = .frozen) (.accountFreeze accountId)

def checkAssociated (relation : Option (AccountTokenRelation fixed)) (accountId : String) :
    Checked (AccountTokenRelation fixed) :=
  match relation with
  | none => .error (.stableCoinNotAssociated accountId request.tokenId)
  | some found => .ok found

/-- The token relations of the source and, if there is one, of the target. -/
def checkExecuteRelations : Checked Unit := do
  let source ← checkAssociated request request.sourceRelation request.sourceId
  match request.targetId with
  | none => pure ()
  | some targetId => do
      let target ← checkAssociated request request.targetRelation targetId
      checkStatus target targetId
  checkStatus source request.sourceId

/-- The recipient of the call: a target that is not given is the zero address. -/
def resolvedTarget : Checked Address :=
  match request.targetId with
  | none => .ok 0
  | some targetId => accountToEvmAddress request targetId

def executeHold : Checked ContractCall := do
  checkExecuteRelations request
  checkDecimals ethers request.amount request.coin.decimals
  let amountBd ← parsedAmount ethers request.amount request.coin.decimals
  checkHoldBalance ethers msg state request amountBd
  checkEscrow ethers msg state request
  checkHoldTarget ethers msg state request
  checkHoldExpiration ethers msg state request false
  let identifier ← holdIdentifier request
  let recipient ← resolvedTarget request
  return ⟨identifier, recipient, ethers.value amountBd⟩

def checkReleaseRelations : Checked Unit := do
  let source ← checkAssociated request request.sourceRelation request.sourceId
  checkStatus source request.sourceId

def releaseHold : Checked ContractCall := do
  checkReleaseRelations request
  checkDecimals ethers request.amount request.coin.decimals
  let amountBd ← parsedAmount ethers request.amount request.coin.decimals
  checkHoldBalance ethers msg state request amountBd
  checkEscrow ethers msg state request
  checkHoldExpiration ethers msg state request false
  let identifier ← holdIdentifier request
  return ⟨identifier, identifier.tokenHolder, ethers.value amountBd⟩

/-- The relation is that of the account that signs; the errors name the
source. -/
def checkReclaimRelations : Checked Unit := do
  let account ← checkAssociated request request.accountRelation request.sourceId
  checkStatus account request.sourceId

def reclaimHold : Checked HoldIdentifier := do
  checkReclaimRelations request
  checkValidHoldId msg state request
  checkHoldExpiration ethers msg state request true
  holdIdentifier request

end Queries

/-! ## What the queries read -/

section Reading

variable {fixed world : Type} {ethers : FixedNumbers fixed} {msg : Msg} {state : State world}
  {request : Request fixed}

theorem hold_amount (laws : Laws ethers) (few : request.coin.decimals ≤ 18) (amount : Sint64) :
    (∀ value, holdAmount ethers request amount = .ok value →
      ethers.Is value request.coin.decimals amount.toInt) ∧
    (0 < amount.toInt → ∃ value, holdAmount ethers request amount = .ok value) := by
  have lower := amount.lower
  have upper := amount.upper
  have units : (DecimalText.ofInteger amount.toInt).unitsAt DEFAULT_DECIMALS =
      amount.toInt * 10 ^ DEFAULT_DECIMALS := by
    rw [DecimalText.unitsAt, DecimalText.units_ofInteger]
    rfl
  have rawFits : Representable DEFAULT_DECIMALS
      ((DecimalText.ofInteger amount.toInt).unitsAt DEFAULT_DECIMALS) := by
    rw [units]
    unfold DEFAULT_DECIMALS
    exact ⟨by decide, by omega, by omega⟩
  obtain ⟨raw, read, rawIs⟩ :=
    fromString_decimal laws (DecimalText.ofInteger_ne_nil _) (Nat.zero_le _) rawFits
  rw [units] at rawIs
  rw [DecimalText.text_ofInteger] at read
  obtain ⟨negative, digits, valid, some_, shown, whole⟩ := toString_whole laws rawIs (by decide)
  have known : holdAmount ethers request amount =
      number (fromStringFixed ethers ((if negative then ['-'] else []) ++ digits)
        request.coin.decimals) := by
    have given : ethers.fromString (integerDigits amount.toInt) DEFAULT_DECIMALS = some raw := read
    rw [holdAmount, given, ← shown]
    rfl
  rw [known]
  cases negative with
  | false =>
      have same : (DecimalTexts.number digits : Int) = amount.toInt := whole.symm
      have fits : Representable request.coin.decimals (DecimalTexts.number digits) :=
        ⟨by omega, by omega, by omega⟩
      obtain ⟨value, given, is⟩ := fromStringFixed_unsigned laws valid some_ fits
      rw [same] at is
      constructor
      · intro other otherGiven
        rw [← Option.some.inj (given.symm.trans (number_ok.mp otherGiven))]
        exact is
      · intro _
        exact ⟨value, number_ok.mpr given⟩
  | true =>
      have same : -(DecimalTexts.number digits : Int) = amount.toInt := whole.symm
      constructor
      · intro other otherGiven
        have otherRead : fromStringFixed ethers ('-' :: digits) request.coin.decimals =
            some other := number_ok.mp otherGiven
        rcases Nat.lt_or_ge digits.length request.coin.decimals with few_ | enough
        · rw [fromStringFixed_sign_after_point laws valid few_] at otherRead
          cases otherRead
        · have fits : Representable request.coin.decimals (-(DecimalTexts.number digits : Int)) :=
            ⟨by omega, by omega, by omega⟩
          obtain ⟨value, given, is⟩ := fromStringFixed_signed laws valid some_ enough fits
          rw [same] at is
          rw [← Option.some.inj (given.symm.trans otherRead)]
          exact is
      · intro positive
        omega

abbrev recordOf (state : State world) (identifier : HoldIdentifier) : HoldData :=
  HoldManagement.HoldDataStorage.hold state.holds identifier

abbrev Live (state : State world) (identifier : HoldIdentifier) : Prop :=
  identifier.holdId ∈ state.holds.holdIdsByAccount identifier.tokenHolder

structure Reads (ethers : FixedNumbers fixed) (state : State world) (request : Request fixed)
    (identifier : HoldIdentifier) (details : HoldDetails fixed) : Prop where
  live : Live state identifier
  expiration : details.expirationTimeStamp =
    nearest numberBits (recordOf state identifier).expirationTimestamp.toNat
  amount : ethers.Is details.amount request.coin.decimals (recordOf state identifier).amount.toInt
  escrow : details.escrowAddress = (recordOf state identifier).escrow
  destination : details.destinationAddress = (recordOf state identifier).to_

theorem contract_reads {identifier : HoldIdentifier} (live : Live state identifier) :
    HoldManagement.getHoldFor identifier msg state =
      .ok ({ amount := (recordOf state identifier).amount
             expirationTimestamp := (recordOf state identifier).expirationTimestamp
             escrow := (recordOf state identifier).escrow
             destination := (recordOf state identifier).to_
             data := (recordOf state identifier).data
             operatorData := (recordOf state identifier).operatorData }, state) := by
  have listed : HoldManagement.validHold identifier msg state = .ok ((), state) :=
    HoldManagement.valid_hold_ok.mpr ⟨live, rfl⟩
  rw [HoldManagement.getHoldFor, Tx.bind_of_ok (Tx.get_ok.mpr ⟨rfl, rfl⟩), Tx.bind_of_ok listed]
  rfl

theorem contract_not_found {identifier : HoldIdentifier} (missing : ¬Live state identifier) :
    HoldManagement.getHoldFor identifier msg state =
      .error (.holdNotFound identifier.tokenHolder identifier.holdId) := by
  rw [HoldManagement.getHoldFor, Tx.bind_of_ok (Tx.get_ok.mpr ⟨rfl, rfl⟩), Tx.bind_error]
  exact Or.inl (HoldManagement.valid_hold_error.mpr ⟨missing, rfl⟩)

theorem empty_is (laws : Laws ethers) {details : HoldDetails fixed}
    (given : HoldDetails.empty ethers = .ok details) : ethers.Is details.amount 0 0 := by
  obtain ⟨zero, read, given⟩ := bind_ok.mp given
  rw [← Except.ok.inj given]
  have units : (DecimalText.ofInteger 0).unitsAt 0 = 0 := by decide +kernel
  have fits : Representable 0 ((DecimalText.ofInteger 0).unitsAt 0) := by
    rw [units]
    exact ⟨by decide, by decide, by decide⟩
  obtain ⟨other, otherRead, is⟩ :=
    fromString_decimal laws (DecimalText.ofInteger_ne_nil 0) (Nat.zero_le _) fits
  rw [units] at is
  rw [DecimalText.text_ofInteger] at otherRead
  have same : zero = other := Option.some.inj ((number_ok.mp read).symm.trans otherRead)
  rw [same]
  exact is

theorem get_hold_for_ok (laws : Laws ethers) (few : request.coin.decimals ≤ 18)
    {details : HoldDetails fixed}
    (given : getHoldFor ethers msg state request = .ok details) :
    request.coin.evmProxyAddress ≠ none ∧
      ∃ identifier, holdIdentifier request = .ok identifier ∧
        (Reads ethers state request identifier details ∨
          ¬Live state identifier ∧ ethers.Is details.amount 0 0) := by
  unfold getHoldFor at given
  obtain ⟨_, proxy, given⟩ := bind_ok.mp given
  obtain ⟨identifier, identified, given⟩ := bind_ok.mp given
  refine ⟨refuse_when_ok.mp proxy, identifier, identified, ?_⟩
  by_cases live : Live state identifier
  · rw [contract_reads live] at given
    obtain ⟨amount, read, given⟩ := bind_ok.mp given
    rw [← Except.ok.inj given]
    exact Or.inl ⟨live, rfl, (hold_amount laws few _).1 amount read, rfl, rfl⟩
  · rw [contract_not_found live] at given
    dsimp only at given
    split at given
    · exact Or.inr ⟨live, empty_is laws given⟩
    · cases given

/-- A live hold with a positive amount is read. -/
theorem get_hold_for_reads (msg : Msg) (laws : Laws ethers) (few : request.coin.decimals ≤ 18)
    {identifier : HoldIdentifier} (proxy : request.coin.evmProxyAddress ≠ none)
    (identified : holdIdentifier request = .ok identifier) (live : Live state identifier)
    (positive : 0 < (recordOf state identifier).amount.toInt) :
    ∃ details, getHoldFor ethers msg state request = .ok details ∧
      Reads ethers state request identifier details := by
  obtain ⟨amount, read⟩ := (hold_amount laws few _).2 positive
  have checked : checkProxy request = .ok () := refuse_when_ok.mpr proxy
  refine ⟨⟨nearest numberBits (recordOf state identifier).expirationTimestamp.toNat, amount,
    (recordOf state identifier).escrow, (recordOf state identifier).to_⟩, ?_,
    ⟨live, rfl, (hold_amount laws few _).1 amount read, rfl, rfl⟩⟩
  rw [getHoldFor, checked]
  change (holdIdentifier request >>= _) = _
  rw [identified]
  change (match HoldManagement.getHoldFor identifier msg state with
    | .ok (hold, _) => _
    | .error failure => _) = _
  rw [contract_reads live]
  change (holdAmount ethers request (recordOf state identifier).amount >>= _) = _
  rw [read]
  rfl

end Reading

end StablecoinStudio.Sdk.HoldChecks
