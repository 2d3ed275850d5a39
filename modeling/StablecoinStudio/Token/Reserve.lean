import StablecoinStudio.Token.Roles
import StablecoinStudio.Token.Services

/-!
# Token owner and reserve

`TokenOwnerStorageWrapper.sol`, `ReserveStorageWrapper.sol` and
`ReserveFacet.sol`: the token a proxy owns, and the price feed that bounds its
supply. The check compares the reserve with the supply after the mint, in the
larger of the two decimal scales.
-/

namespace StablecoinStudio.Token.Reserve

open StablecoinStudio.Core.Common
open StablecoinStudio.Core.Constants
open StablecoinStudio.Foundation.CheckedInt
open StablecoinStudio.Foundation.Transaction
open StablecoinStudio.Token.ProxyState
open StablecoinStudio.Token.Roles
open StablecoinStudio.Token.Services

set_option autoImplicit false

variable {world : Type} (p : Platform world)

namespace TokenOwnerStorageWrapper

def getTokenAddress : FacetTx world Address := do
  let state ← Tx.get
  return state.tokenAddress

def totalSupply : FacetTx world Uint256 := do
  let state ← Tx.get
  return p.totalSupply state.tokenAddress state.world

def decimals : FacetTx world Uint8 := do
  let state ← Tx.get
  return p.decimals state.tokenAddress state.world

def balanceOf (account : Address) : FacetTx world Uint256 := do
  let state ← Tx.get
  return p.balanceOf state.tokenAddress account state.world

/-- A request about the owned token, checked for `SUCCESS`. -/
def checkedService (service : (token : Address) → world → Sint64 × world) : FacetTx world Bool := do
  let currentTokenAddress ← getTokenAddress
  let responseCode ← tokenService (service currentTokenAddress)
  checkResponse responseCode

/-- `_transfer` of the source; the treasury pays itself without a transfer. -/
def transfer (recipient : Address) (amount : Sint64) : FacetTx world Unit :=
  if recipient = p.proxy then pure ()
  else do
    let _ ← checkedService fun token => p.transferToken token p.proxy recipient amount

variable {p} {environment : Msg} {before after : State world}

@[simp] theorem get_token_address_ok {result : Address} :
    getTokenAddress environment before = .ok (result, after) ↔
      before.tokenAddress = result ∧ before = after := by
  simp [getTokenAddress, and_comm]

@[simp] theorem total_supply_ok {result : Uint256} :
    totalSupply p environment before = .ok (result, after) ↔
      p.totalSupply before.tokenAddress before.world = result ∧ before = after := by
  simp [totalSupply, and_comm]

@[simp] theorem decimals_ok {result : Uint8} :
    decimals p environment before = .ok (result, after) ↔
      p.decimals before.tokenAddress before.world = result ∧ before = after := by
  simp [decimals, and_comm]

@[simp] theorem balance_of_ok {account : Address} {result : Uint256} :
    balanceOf p account environment before = .ok (result, after) ↔
      p.balanceOf before.tokenAddress account before.world = result ∧ before = after := by
  simp [balanceOf, and_comm]

/-- A committed request was answered with `SUCCESS` and changed the world only. -/
@[simp] theorem checked_service_ok {service : (token : Address) → world → Sint64 × world}
    {result : Bool} :
    checkedService service environment before = .ok (result, after) ↔
      service before.tokenAddress before.world = (success, after.world) ∧
        after = { before with world := after.world } ∧ result = true := by
  simp only [checkedService, Tx.bind_ok, get_token_address_ok, token_service_ok, check_response_ok]
  constructor
  · intro committed
    obtain ⟨_, _, ⟨rfl, rfl⟩, _, _, ⟨rfl, rfl⟩, accepted, answer, rfl⟩ := committed
    exact ⟨Prod.ext accepted rfl, rfl, answer⟩
  · intro described
    obtain ⟨answered, same, rfl⟩ := described
    have accepted : (service before.tokenAddress before.world).1 = success := by rw [answered]
    have later : (service before.tokenAddress before.world).2 = after.world := by rw [answered]
    refine ⟨_, _, ⟨rfl, rfl⟩, _, after, ⟨rfl, ?_⟩, accepted, rfl, rfl⟩
    rw [later]
    exact same

@[simp] theorem checked_service_error {service : (token : Address) → world → Sint64 × world}
    {failure : Revert} :
    checkedService service environment before = .error failure ↔
      (service before.tokenAddress before.world).1 ≠ success ∧
        .responseCodeInvalid (service before.tokenAddress before.world).1 = failure := by
  simp [checkedService, getTokenAddress]

@[simp] theorem transfer_ok {recipient : Address} {amount : Sint64} {result : Unit} :
    transfer p recipient amount environment before = .ok (result, after) ↔
      (recipient = p.proxy ∧ before = after) ∨
        (recipient ≠ p.proxy ∧
          p.transferToken before.tokenAddress p.proxy recipient amount before.world =
            (success, after.world) ∧
          after = { before with world := after.world }) := by
  unfold transfer
  by_cases own : recipient = p.proxy
  · simp [own]
  · simp only [own, if_false, Tx.bind_ok, checked_service_ok, Tx.pure_ok, false_and, false_or,
      ne_eq, not_false_eq_true, true_and]
    constructor
    · intro committed
      obtain ⟨_, _, ⟨answered, same, _⟩, rfl⟩ := committed
      exact ⟨answered, same⟩
    · intro described
      obtain ⟨answered, same⟩ := described
      exact ⟨true, after, ⟨answered, same, rfl⟩, rfl⟩

end TokenOwnerStorageWrapper

namespace ReserveStorageWrapper

def reserveInit (dataFeed : Address) (updatedAtThreshold : Uint256) : FacetTx world Unit :=
  Tx.modify fun state => { state with reserve := ⟨dataFeed, updatedAtThreshold⟩ }

/-- The answer of the feed and its time; an unset feed answers zero. -/
def getReserveAmount : FacetTx world (Sint256 × Uint256) := do
  let state ← Tx.get
  if state.reserve.reserveAddress ≠ 0 then
    Tx.ofOption .externalCallFailed (p.latestRoundData state.reserve.reserveAddress state.world)
  else return (0, 0)

/-- `10 ** (larger - smaller)` in `uint256`, for `uint8` decimals. -/
def scale (larger smaller : Uint8) : FacetTx world Uint256 := do
  let digits : Uint8 ← arithmetic (Uint.checked (larger.toNat - smaller.toNat))
  arithmetic (Uint.checked ((10 : Int) ^ digits.toNat))

def multiply (left right : Uint256) : FacetTx world Uint256 :=
  arithmetic (Uint.checked (left.toNat * right.toNat))

/-- The reserve, the supply and the amount in one decimal scale. -/
def rescale (tokenDecimals reserveDecimals : Uint8) (currentReserve totalSupply amount : Uint256) :
    FacetTx world (Uint256 × Uint256 × Uint256) :=
  if tokenDecimals.toNat > reserveDecimals.toNat then do
    let factor ← scale tokenDecimals reserveDecimals
    Tx.require (amount.toNat % factor.toNat = 0) (.formatNumberIncorrect amount)
    let scaledReserve ← multiply currentReserve factor
    return (scaledReserve, totalSupply, amount)
  else if tokenDecimals.toNat < reserveDecimals.toNat then do
    let factor ← scale reserveDecimals tokenDecimals
    let scaledAmount ← multiply amount factor
    let scaledSupply ← multiply totalSupply factor
    return (currentReserve, scaledSupply, scaledAmount)
  else return (currentReserve, totalSupply, amount)

def checkReserveAmount (amount : Uint256) : FacetTx world Bool := do
  let state ← Tx.get
  let reserveAddress := state.reserve.reserveAddress
  if reserveAddress = 0 then return true
  else
    let (reserveAmount, updatedAt) ← getReserveAmount p
    let updatedAtThreshold := state.reserve.updatedAtThreshold
    let msg ← Tx.read
    assertion (updatedAt.toNat ≤ msg.timestamp.toNat)
    Tx.require
      (¬ (updatedAtThreshold.toNat > 0 ∧
        msg.timestamp.toNat - updatedAt.toNat > updatedAtThreshold.toNat))
      (.reserveAmountOutdated updatedAt updatedAtThreshold)
    assertion (0 ≤ reserveAmount.toInt)
    -- the cast keeps every non-negative value
    let currentReserve ← arithmetic (Uint.checked reserveAmount.toInt)
    let reserveDecimals ←
      Tx.ofOption .externalCallFailed (p.feedDecimals reserveAddress state.world)
    let tokenDecimals ← TokenOwnerStorageWrapper.decimals p
    let totalSupply ← TokenOwnerStorageWrapper.totalSupply p
    let (scaledReserve, scaledSupply, scaledAmount) ←
      rescale tokenDecimals reserveDecimals currentReserve totalSupply amount
    let required : Uint256 ← arithmetic (Uint.checked (scaledSupply.toNat + scaledAmount.toNat))
    return decide (scaledReserve.toNat ≥ required.toNat)

/-- The modifier `checkReserveIncrease`. -/
def checkReserveIncrease (amount : Uint256) : FacetTx world Unit := do
  let covered ← checkReserveAmount p amount
  Tx.require (covered = true) (.amountBiggerThanReserve amount)

variable {p} {environment : Msg} {before after : State world}

@[simp] theorem scale_ok {larger smaller : Uint8} {factor : Uint256} :
    scale larger smaller environment before = .ok (factor, after) ↔
      smaller.toNat ≤ larger.toNat ∧ factor.toNat = 10 ^ (larger.toNat - smaller.toNat) ∧
        before = after := by
  simp only [scale, Tx.bind_ok, Tx.of_option_ok, Uint.checked_eq_some]
  constructor
  · intro committed
    obtain ⟨digits, _, ⟨difference, rfl⟩, power, rfl⟩ := committed
    have exponent : digits.toNat = larger.toNat - smaller.toNat := by omega
    rw [← exponent]
    exact ⟨by omega, by exact_mod_cast power, rfl⟩
  · intro described
    obtain ⟨ordered, power, rfl⟩ := described
    have small : larger.toNat - smaller.toNat < 2 ^ 8 := by
      have bound := larger.bound
      omega
    refine ⟨⟨larger.toNat - smaller.toNat, small⟩, before, ⟨?_, rfl⟩, ?_, rfl⟩
    · simp only
      omega
    · rw [power]
      exact_mod_cast rfl

@[simp] theorem multiply_ok {left right result : Uint256} :
    multiply left right environment before = .ok (result, after) ↔
      result.toNat = left.toNat * right.toNat ∧ before = after := by
  simp only [multiply, Tx.of_option_ok, Uint.checked_eq_some]
  norm_cast

/-- After rescaling, each side carries the digits the other has in excess. -/
theorem rescale_ok {tokenDecimals reserveDecimals : Uint8}
    {currentReserve totalSupply amount : Uint256} {result : Uint256 × Uint256 × Uint256}
    (committed : rescale tokenDecimals reserveDecimals currentReserve totalSupply amount
      environment before = .ok (result, after)) :
    before = after ∧
      result.1.toNat =
        currentReserve.toNat * 10 ^ (tokenDecimals.toNat - reserveDecimals.toNat) ∧
      result.2.1.toNat =
        totalSupply.toNat * 10 ^ (reserveDecimals.toNat - tokenDecimals.toNat) ∧
      result.2.2.toNat = amount.toNat * 10 ^ (reserveDecimals.toNat - tokenDecimals.toNat) := by
  unfold rescale at committed
  split at committed
  · next finerToken =>
      simp only [Tx.bind_ok, scale_ok, Tx.require_ok, multiply_ok, Tx.pure_ok] at committed
      obtain ⟨factor, _, ⟨_, power, rfl⟩, _, _, ⟨_, rfl⟩, scaled, _, ⟨product, rfl⟩, rfl, rfl⟩ :=
        committed
      have none : reserveDecimals.toNat - tokenDecimals.toNat = 0 := by omega
      rw [none, ← power, pow_zero]
      exact ⟨rfl, product, (Nat.mul_one _).symm, (Nat.mul_one _).symm⟩
  · next coarserToken =>
      split at committed
      · next finerReserve =>
          simp only [Tx.bind_ok, scale_ok, multiply_ok, Tx.pure_ok] at committed
          obtain ⟨factor, _, ⟨_, power, rfl⟩, _, _, ⟨amountProduct, rfl⟩, _, _,
            ⟨supplyProduct, rfl⟩, rfl, rfl⟩ := committed
          have none : tokenDecimals.toNat - reserveDecimals.toNat = 0 := by omega
          rw [none, ← power, pow_zero]
          exact ⟨rfl, (Nat.mul_one _).symm, supplyProduct, amountProduct⟩
      · next same =>
          obtain ⟨rfl, rfl⟩ := Tx.pure_ok.mp committed
          have equal : tokenDecimals.toNat = reserveDecimals.toNat := by omega
          simp [equal]

/-- What the check compares when a feed is set. -/
structure Compared (p : Platform world) (environment : Msg) (state : State world)
    (amount : Uint256) (covered : Bool) : Prop where
  exists_feed : ∃ answer : Sint256, ∃ updatedAt : Uint256, ∃ reserveDecimals : Uint8,
    p.latestRoundData state.reserve.reserveAddress state.world = some (answer, updatedAt) ∧
    p.feedDecimals state.reserve.reserveAddress state.world = some reserveDecimals ∧
    updatedAt.toNat ≤ environment.timestamp.toNat ∧
    (0 < state.reserve.updatedAtThreshold.toNat →
      environment.timestamp.toNat - updatedAt.toNat ≤ state.reserve.updatedAtThreshold.toNat) ∧
    0 ≤ answer.toInt ∧
    covered = decide
      (((p.totalSupply state.tokenAddress state.world).toNat + amount.toNat) *
          10 ^ (reserveDecimals.toNat - (p.decimals state.tokenAddress state.world).toNat) ≤
        answer.toInt.toNat *
          10 ^ ((p.decimals state.tokenAddress state.world).toNat - reserveDecimals.toNat))

theorem check_reserve_amount_ok {amount : Uint256} {covered : Bool}
    (committed : checkReserveAmount p amount environment before = .ok (covered, after)) :
    before = after ∧
      ((before.reserve.reserveAddress = 0 ∧ covered = true) ∨
        (before.reserve.reserveAddress ≠ 0 ∧ Compared p environment before amount covered)) := by
  simp only [checkReserveAmount, Tx.bind_ok, Tx.get_ok] at committed
  obtain ⟨_, _, ⟨rfl, rfl⟩, committed⟩ := committed
  split at committed
  · next unset =>
      obtain ⟨rfl, rfl⟩ := Tx.pure_ok.mp committed
      exact ⟨rfl, Or.inl ⟨unset, rfl⟩⟩
  · next isSet =>
      simp only [Tx.bind_ok, getReserveAmount, Tx.get_ok, Tx.read_ok, Tx.require_ok,
        Tx.of_option_ok, Uint.checked_eq_some, TokenOwnerStorageWrapper.decimals_ok,
        TokenOwnerStorageWrapper.total_supply_ok, Tx.pure_ok] at committed
      obtain ⟨⟨answer, updatedAt⟩, _, ⟨_, _, ⟨rfl, rfl⟩, asked⟩, committed⟩ := committed
      rw [if_pos isSet, Tx.of_option_ok] at asked
      obtain ⟨answered, rfl⟩ := asked
      obtain ⟨_, _, ⟨rfl, rfl⟩, _, _, ⟨past, rfl⟩, _, _, ⟨fresh, rfl⟩, _, _, ⟨nonNegative, rfl⟩,
        currentReserve, _, ⟨reserveValue, rfl⟩, reserveDecimals, _, ⟨digits, rfl⟩, _, _,
        ⟨rfl, rfl⟩, _, _, ⟨rfl, rfl⟩, scaled, _, rescaled, required, _, ⟨sum, rfl⟩, rfl, rfl⟩ :=
        committed
      obtain ⟨rfl, reserveSide, supplySide, amountSide⟩ := rescale_ok rescaled
      simp only at past fresh nonNegative reserveValue sum
      refine ⟨rfl, Or.inr ⟨isSet, ⟨answer, updatedAt, reserveDecimals, answered, digits, past, ?_,
        nonNegative, ?_⟩⟩⟩
      · intro limited
        by_contra old
        exact fresh ⟨limited, by omega⟩
      · have value : currentReserve.toNat = answer.toInt.toNat := by omega
        have total : required.toNat = scaled.2.1.toNat + scaled.2.2.toNat := by exact_mod_cast sum
        rw [total, supplySide, amountSide, reserveSide, value, Nat.add_mul]

theorem check_reserve_increase_ok {amount : Uint256} {result : Unit} :
    checkReserveIncrease p amount environment before = .ok (result, after) ↔
      checkReserveAmount p amount environment before = .ok (true, before) ∧ before = after := by
  simp only [checkReserveIncrease, Tx.bind_ok, Tx.require_ok]
  constructor
  · intro committed
    obtain ⟨covered, _, checked, rfl, rfl⟩ := committed
    obtain ⟨rfl, _⟩ := check_reserve_amount_ok checked
    exact ⟨checked, rfl⟩
  · intro described
    obtain ⟨checked, rfl⟩ := described
    exact ⟨true, before, checked, rfl, rfl⟩

end ReserveStorageWrapper

namespace ReserveFacet

def updateReserveAddress (newAddress : Address) : FacetTx world Unit := do
  RolesStorageWrapper.onlyRole adminRole
  Tx.modify fun state => { state with reserve := { state.reserve with reserveAddress := newAddress } }

def updateUpdatedAtThreshold (newThreshold : Uint256) : FacetTx world Unit := do
  RolesStorageWrapper.onlyRole adminRole
  Tx.modify fun state =>
    { state with reserve := { state.reserve with updatedAtThreshold := newThreshold } }

def getReserveAmount : FacetTx world (Sint256 × Uint256) := ReserveStorageWrapper.getReserveAmount p

def getReserveAddress : FacetTx world Address := do
  let state ← Tx.get
  return state.reserve.reserveAddress

def getUpdatedAtThreshold : FacetTx world Uint256 := do
  let state ← Tx.get
  return state.reserve.updatedAtThreshold

end ReserveFacet

end StablecoinStudio.Token.Reserve
