import StablecoinStudio.Foundation.FloatIntegers
import StablecoinStudio.Sdk.StableCoins

/-!
# Balances before a transaction

Four handlers compare the amount of the command with a balance before they send
anything. Three read the balance from the contract, with the decimals of the
token; the fourth reads it from the mirror node, without.
-/

namespace StablecoinStudio.Sdk.BalanceChecks

open StablecoinStudio.Foundation.DecimalQuantities
open StablecoinStudio.Foundation.DecimalTexts
open StablecoinStudio.Foundation.FloatIntegers
open StablecoinStudio.Sdk.BigDecimal
open StablecoinStudio.Sdk.FixedNumber
open StablecoinStudio.Sdk.StableCoins

set_option autoImplicit false

/-- What is left of a balance that the mirror node answers as a JSON number,
once it is a text again. -/
def printed (balance : Nat) : Nat := shortest numberBits (nearest numberBits balance)

/-- The answer of the mirror node for an account that has the token. -/
structure MirrorBalance where
  balance : Nat
  freezeStatus : FreezeStatus
  kycStatus : KycStatus

/-- The command, the coin, and what the queries answer: the mirror node for the
account of the command, and the contract for the raw amount. -/
structure Request (fixed : Type) where
  amount : Text
  tokenId : String
  accountId : String
  coin : StableCoin fixed
  mirrorBalance : Option MirrorBalance
  contractAmount : Nat

section Handlers

variable {fixed : Type} (ethers : FixedNumbers fixed) (request : Request fixed)

/-- `MirrorNodeAdapter.getAccountToken`. -/
def getAccountToken : Checked (Option (AccountTokenRelation fixed)) :=
  match request.mirrorBalance with
  | none => .ok none
  | some obj =>
      match fromString ethers (Nat.toDigits 10 (printed obj.balance)) none with
      | none => .error .invalidResponse
      | some balance => .ok (some ⟨balance, obj.freezeStatus, obj.kycStatus⟩)

/-- `BalanceOfQueryHandler`. -/
def balanceOf : Checked fixed :=
  match request.coin.evmProxyAddress with
  | none => .error .invalidTokenId
  | some _ =>
      number (fromStringFixed ethers (Nat.toDigits 10 request.contractAmount) request.coin.decimals)

/-- `GetBurnableAmountQueryHandler`, which reads its amount the same way. -/
def getBurnableAmount : Checked fixed := balanceOf ethers request

def tooBigToWipe : Failure :=
  .operationNotAllowed "The wipe amount is bigger than the account balance"

def tooBigToRescue : Failure :=
  .operationNotAllowed "The rescue amount is bigger than the treasury account balance"

def tooBigToHold : Failure :=
  .operationNotAllowed "The token holder balance is less than held amount"

def checkTreasury : Checked Unit :=
  refuseWhen (request.coin.treasury = none ∨ request.coin.tokenId = none)
    (.operationNotAllowed "The stablecoin is not valid")

/-- `WipeCommandHandler`: the amount with which the transaction is sent. -/
def wipe : Checked fixed := do
  match ← getAccountToken ethers request with
  | none => .error (.stableCoinNotAssociated request.accountId request.tokenId)
  | some tokenRelationship => do
      let amountBd ← parsedAmount ethers request.amount request.coin.decimals
      checkDecimals ethers request.amount request.coin.decimals
      refuseWhen (isGreaterThan ethers amountBd tokenRelationship.balance) tooBigToWipe
      parsedAmount ethers request.amount request.coin.decimals

/-- `RescueCommandHandler`. -/
def rescue : Checked fixed := do
  match ← getAccountToken ethers request with
  | none => .error (.stableCoinNotAssociated request.accountId request.tokenId)
  | some tokenRelationship => do
      refuseWhen (tokenRelationship.freezeStatus = .frozen) (.accountFreeze request.accountId)
      refuseWhen (tokenRelationship.kycStatus = .revoked) (.accountNotKyc request.accountId)
      let amountBd ← parsedAmount ethers request.amount request.coin.decimals
      checkDecimals ethers request.amount request.coin.decimals
      checkTreasury request
      let treasuryBalance ← balanceOf ethers request
      refuseWhen (isGreaterThan ethers amountBd treasuryBalance) tooBigToRescue
      return amountBd

/-- `ValidationService.checkBurnableAmount`: the amount is read again, with the
decimals of its own text. -/
def checkBurnableAmount : Checked Unit := do
  let burnableAmount ← getBurnableAmount ethers request
  let amount ← number (fromString ethers request.amount none)
  refuseWhen (isLowerThan ethers burnableAmount amount) .burnableAmountExceeded

/-- `BurnCommandHandler`. -/
def burn : Checked fixed := do
  let amountBd ← parsedAmount ethers request.amount request.coin.decimals
  checkDecimals ethers request.amount request.coin.decimals
  checkTreasury request
  checkBurnableAmount ethers request
  return amountBd

def isUpperEqual (left right : Option String) : Bool :=
  left.map String.toUpper == right.map String.toUpper

/-- `CreateHoldCommandHandler`. -/
def createHold : Checked fixed := do
  refuseWhen (¬isUpperEqual request.coin.supplyKey request.coin.proxyAddress) .missingProxySupplyKey
  refuseWhen (¬isUpperEqual request.coin.wipeKey request.coin.proxyAddress) .missingProxyWipeKey
  let tokenRelationship ← getAccountToken ethers request
  refuseWhen (tokenRelationship.map (·.kycStatus) = some .revoked) (.accountNotKyc request.accountId)
  refuseWhen (tokenRelationship.map (·.freezeStatus) = some .frozen)
    (.accountFreeze request.accountId)
  checkDecimals ethers request.amount request.coin.decimals
  let tokenHolderBalance ← balanceOf ethers request
  let amountBd ← parsedAmount ethers request.amount request.coin.decimals
  refuseWhen (isGreaterThan ethers amountBd tokenHolderBalance) tooBigToHold
  return amountBd

end Handlers

/-! ## What each handler compares -/

section Readings

variable {fixed : Type} {ethers : FixedNumbers fixed} {request : Request fixed}
  {decimal : DecimalText} {amount : Nat}

theorem printed_lt {balance : Nat} (small : balance < 2 ^ 63) : printed balance < 2 ^ 64 :=
  shortest_lt_pow (by decide) (Nat.lt_of_le_of_lt (nearest_le_pow (by decide) small) (by decide))

theorem get_account_token (laws : Laws ethers) {obj : MirrorBalance}
    (answered : request.mirrorBalance = some obj) (small : obj.balance < 2 ^ 63) :
    ∃ balance, getAccountToken ethers request =
        .ok (some ⟨balance, obj.freezeStatus, obj.kycStatus⟩) ∧
      ethers.Is balance 0 (printed obj.balance) := by
  have bound := printed_lt small
  have units := DecimalText.units_ofInteger (printed obj.balance)
  have fits : Representable (DecimalText.ofInteger (printed obj.balance)).places
      (DecimalText.ofInteger (printed obj.balance)).units := by
    rw [units]
    exact ⟨Nat.zero_le _, by omega, by omega⟩
  obtain ⟨balance, read, is⟩ := fromString_own_decimals laws (DecimalText.ofInteger_ne_nil _) fits
  rw [units] at is
  rw [DecimalText.text_ofInteger, integerDigits_natCast] at read
  refine ⟨balance, ?_, is⟩
  rw [getAccountToken, answered]
  dsimp only
  rw [read]

theorem balance_of (laws : Laws ethers) (decimals : request.coin.decimals ≤ 18)
    (proxy : request.coin.evmProxyAddress.isSome) (small : request.contractAmount < 2 ^ 63) :
    ∃ balance, balanceOf ethers request = .ok balance ∧
      ethers.Is balance request.coin.decimals request.contractAmount := by
  obtain ⟨address, held⟩ := Option.isSome_iff_exists.mp proxy
  have fits : Representable request.coin.decimals request.contractAmount :=
    ⟨by omega, by omega, by omega⟩
  obtain ⟨balance, read, is⟩ := fromStringFixed_natural laws fits
  refine ⟨balance, ?_, is⟩
  rw [balanceOf, held]
  exact number_ok.mpr read

end Readings

/-! ## Agreement with the balance -/

/-- A handler that sends its transaction exactly with enough balance, and that
says so when there is not enough for a number of the format. -/
structure Compares {fixed : Type} (outcome : Checked fixed) (insufficient : Failure)
    (inFormat : Prop) (amount balance : Nat) : Prop where
  passes : (∃ sent, outcome = .ok sent) ↔ amount ≤ balance
  refuses : inFormat → (outcome = .error insufficient ↔ balance < amount)

/-- A handler that refuses what is over a limit, and does not read what has no
place in the format. -/
structure Limited {fixed : Type} (outcome : Checked fixed) (insufficient : Failure)
    (inFormat : Prop) (amount limit : Nat) : Prop where
  read : inFormat → ∃ sent, ∃ exceeds : Bool, (exceeds = true ↔ limit < amount) ∧
    outcome = (refuseWhen exceeds insufficient >>= fun _ => .ok sent)
  unread : ¬inFormat → ∀ sent, outcome ≠ .ok sent

section Limits

variable {fixed : Type} {outcome : Checked fixed} {insufficient : Failure}
  {decimals amount limit balance : Nat}

theorem not_fits_large (few : decimals ≤ 80) (misfit : ¬Representable decimals (amount : Int)) :
    2 ^ 127 ≤ amount := by
  by_contra small
  exact misfit ⟨few, by omega, by omega⟩

theorem compares_iff (few : decimals ≤ 80) (limitFits : limit < 2 ^ 127)
    (balanceFits : balance < 2 ^ 127)
    (limited : Limited outcome insufficient (Representable decimals (amount : Int)) amount limit) :
    Compares outcome insufficient (Representable decimals (amount : Int)) amount balance ↔
      (amount ≤ limit ↔ amount ≤ balance) := by
  by_cases fits : Representable decimals (amount : Int)
  · obtain ⟨sent, exceeds, exceedsIff, refused⟩ := limited.read fits
    have passed : (∃ sent, outcome = .ok sent) ↔ amount ≤ limit := by
      rw [refused]
      simp only [bind_ok, refuse_when_ok]
      rw [exceedsIff]
      constructor
      · intro given
        obtain ⟨_, _, within, _⟩ := given
        exact Nat.not_lt.mp within
      · intro within
        exact ⟨sent, (), Nat.not_lt.mpr within, rfl⟩
    constructor
    · intro compares
      exact passed.symm.trans compares.passes
    · intro sameSide
      refine ⟨passed.trans sameSide, fun _ => ?_⟩
      cases exceeds with
      | true =>
          have more := exceedsIff.mp rfl
          rw [refused]
          exact ⟨fun _ => by omega, fun _ => rfl⟩
      | false =>
          have within : ¬limit < amount := fun more => Bool.noConfusion (exceedsIff.mpr more)
          rw [refused]
          refine ⟨fun impossible => ?_, fun below => by omega⟩
          cases impossible
  · have large := not_fits_large few fits
    constructor
    · intro _
      omega
    · intro _
      refine ⟨⟨fun sent => ?_, fun enough => by omega⟩, fun inFormat => absurd inFormat fits⟩
      exact absurd sent.choose_spec (limited.unread fits _)

end Limits

section Handlers

variable {fixed : Type} {ethers : FixedNumbers fixed} {request : Request fixed}
  {decimal : DecimalText} {amount : Nat}

theorem quantity_lt_iff {places : Nat} {first second : Nat} :
    quantity places (first : Int) < quantity places (second : Int) ↔ first < second := by
  rw [← not_le, quantity_le_iff, Int.ofNat_le, Nat.not_le]

theorem wipe_limited (laws : Laws ethers)
    (given : AmountText request.amount request.coin.decimals decimal amount)
    {obj : MirrorBalance} (answered : request.mirrorBalance = some obj)
    (small : obj.balance < 2 ^ 63) :
    Limited (wipe ethers request) tooBigToWipe (Representable request.coin.decimals amount) amount
      (printed obj.balance * 10 ^ request.coin.decimals) := by
  obtain ⟨balance, relation, balanceIs⟩ := get_account_token laws answered small
  have known : wipe ethers request = (do
      let amountBd ← parsedAmount ethers request.amount request.coin.decimals
      checkDecimals ethers request.amount request.coin.decimals
      refuseWhen (isGreaterThan ethers amountBd balance) tooBigToWipe
      parsedAmount ethers request.amount request.coin.decimals) := by
    rw [wipe, relation]
    rfl
  rw [known]
  constructor
  · intro fits
    obtain ⟨amountBd, parsed⟩ := parsed_of_fits laws given fits
    refine ⟨amountBd, isGreaterThan ethers amountBd balance, ?_, ?_⟩
    · have shifted := quantity_shift 0 request.coin.decimals (printed obj.balance)
      rw [Nat.zero_add] at shifted
      rw [isGreaterThan, laws.gt_iff, balanceIs.amount, parsed.is.amount, ← shifted]
      exact_mod_cast quantity_lt_iff
    · rw [parsed.read, parsed.notTooFine]
      rfl
  · intro misfit sent sends
    obtain ⟨amountBd, read, _⟩ := bind_ok.mp sends
    exact unparsed_of_misfit laws given misfit amountBd read

/-- A balance of the contract and the amount are in the same scale. -/
theorem exceeds_balance (laws : Laws ethers) {amountBd balance : fixed}
    (parsed : Parsed ethers request.amount request.coin.decimals amount amountBd)
    (balanceIs : ethers.Is balance request.coin.decimals request.contractAmount) :
    isGreaterThan ethers amountBd balance = true ↔ request.contractAmount < amount := by
  rw [isGreaterThan, laws.gt_iff, balanceIs.amount, parsed.is.amount]
  exact quantity_lt_iff

structure RescueAllowed (request : Request fixed) (obj : MirrorBalance) : Prop where
  answered : request.mirrorBalance = some obj
  notFrozen : obj.freezeStatus ≠ .frozen
  kyc : obj.kycStatus ≠ .revoked
  treasury : request.coin.treasury ≠ none
  tokenId : request.coin.tokenId ≠ none
  proxy : request.coin.evmProxyAddress.isSome

theorem check_treasury_ok (treasury : request.coin.treasury ≠ none)
    (tokenId : request.coin.tokenId ≠ none) : checkTreasury request = .ok () :=
  refuse_when_ok.mpr fun missing => missing.elim treasury tokenId

theorem rescue_limited (laws : Laws ethers)
    (given : AmountText request.amount request.coin.decimals decimal amount)
    {obj : MirrorBalance} (allowed : RescueAllowed request obj) (small : obj.balance < 2 ^ 63)
    (contractSmall : request.contractAmount < 2 ^ 63) :
    Limited (rescue ethers request) tooBigToRescue (Representable request.coin.decimals amount)
      amount request.contractAmount := by
  obtain ⟨own, relation, _⟩ := get_account_token laws allowed.answered small
  obtain ⟨balance, asked, balanceIs⟩ := balance_of laws given.decimals allowed.proxy contractSmall
  have notFrozen := not_refused (.accountFreeze request.accountId) allowed.notFrozen
  have kyc := not_refused (.accountNotKyc request.accountId) allowed.kyc
  have known : rescue ethers request = (do
      let amountBd ← parsedAmount ethers request.amount request.coin.decimals
      checkDecimals ethers request.amount request.coin.decimals
      checkTreasury request
      let treasuryBalance ← balanceOf ethers request
      refuseWhen (isGreaterThan ethers amountBd treasuryBalance) tooBigToRescue
      return amountBd) := by
    rw [rescue, relation]
    change (refuseWhen (obj.freezeStatus = .frozen) _ >>= fun _ =>
      refuseWhen (obj.kycStatus = .revoked) _ >>= fun _ => _) = _
    rw [notFrozen, kyc]
    rfl
  rw [known]
  constructor
  · intro fits
    obtain ⟨amountBd, parsed⟩ := parsed_of_fits laws given fits
    refine ⟨amountBd, isGreaterThan ethers amountBd balance, exceeds_balance laws parsed balanceIs,
      ?_⟩
    rw [parsed.read, parsed.notTooFine, check_treasury_ok allowed.treasury allowed.tokenId, asked]
    rfl
  · intro misfit sent sends
    obtain ⟨amountBd, read, _⟩ := bind_ok.mp sends
    exact unparsed_of_misfit laws given misfit amountBd read

structure BurnAllowed (request : Request fixed) : Prop where
  treasury : request.coin.treasury ≠ none
  tokenId : request.coin.tokenId ≠ none
  proxy : request.coin.evmProxyAddress.isSome

theorem burn_limited (laws : Laws ethers)
    (given : AmountText request.amount request.coin.decimals decimal amount)
    (allowed : BurnAllowed request) (contractSmall : request.contractAmount < 2 ^ 63) :
    Limited (burn ethers request) .burnableAmountExceeded
      (Representable request.coin.decimals amount) amount request.contractAmount := by
  obtain ⟨balance, asked, balanceIs⟩ := balance_of laws given.decimals allowed.proxy contractSmall
  constructor
  · intro fits
    obtain ⟨amountBd, parsed⟩ := parsed_of_fits laws given fits
    obtain ⟨own, ownRead, ownAmount⟩ := parsed.own
    refine ⟨amountBd, isLowerThan ethers balance own, ?_, ?_⟩
    · rw [isLowerThan, laws.lt_iff, balanceIs.amount, ownAmount]
      exact quantity_lt_iff
    · rw [burn, parsed.read, parsed.notTooFine,
        check_treasury_ok allowed.treasury allowed.tokenId, checkBurnableAmount, getBurnableAmount,
        asked, ownRead]
      rfl
  · intro misfit sent sends
    obtain ⟨amountBd, read, _⟩ := bind_ok.mp sends
    exact unparsed_of_misfit laws given misfit amountBd read

structure HoldAllowed (request : Request fixed) : Prop where
  supplyKey : isUpperEqual request.coin.supplyKey request.coin.proxyAddress
  wipeKey : isUpperEqual request.coin.wipeKey request.coin.proxyAddress
  notFrozen : ∀ obj ∈ request.mirrorBalance, obj.freezeStatus ≠ .frozen
  kyc : ∀ obj ∈ request.mirrorBalance, obj.kycStatus ≠ .revoked
  proxy : request.coin.evmProxyAddress.isSome

theorem create_hold_limited (laws : Laws ethers)
    (given : AmountText request.amount request.coin.decimals decimal amount)
    (allowed : HoldAllowed request) (small : ∀ obj ∈ request.mirrorBalance, obj.balance < 2 ^ 63)
    (contractSmall : request.contractAmount < 2 ^ 63) :
    Limited (createHold ethers request) tooBigToHold (Representable request.coin.decimals amount)
      amount request.contractAmount := by
  obtain ⟨balance, asked, balanceIs⟩ := balance_of laws given.decimals allowed.proxy contractSmall
  have supplyKey := not_refused .missingProxySupplyKey (not_not.mpr allowed.supplyKey)
  have wipeKey := not_refused .missingProxyWipeKey (not_not.mpr allowed.wipeKey)
  obtain ⟨relation, answered, notFrozen, kyc⟩ : ∃ relation : Option (AccountTokenRelation fixed),
      getAccountToken ethers request = .ok relation ∧
      relation.map (·.freezeStatus) ≠ some .frozen ∧
      relation.map (·.kycStatus) ≠ some .revoked := by
    cases held : request.mirrorBalance with
    | none =>
        refine ⟨none, ?_, nofun, nofun⟩
        rw [getAccountToken, held]
    | some obj =>
        obtain ⟨own, relation, _⟩ := get_account_token laws held (small obj held)
        refine ⟨_, relation, fun frozen => ?_, fun revoked => ?_⟩
        · exact allowed.notFrozen obj held (Option.some.inj frozen)
        · exact allowed.kyc obj held (Option.some.inj revoked)
  have notFrozenPassed := not_refused (.accountFreeze request.accountId) notFrozen
  have kycPassed := not_refused (.accountNotKyc request.accountId) kyc
  have known : createHold ethers request = (do
      checkDecimals ethers request.amount request.coin.decimals
      let tokenHolderBalance ← balanceOf ethers request
      let amountBd ← parsedAmount ethers request.amount request.coin.decimals
      refuseWhen (isGreaterThan ethers amountBd tokenHolderBalance) tooBigToHold
      return amountBd) := by
    rw [createHold, supplyKey, wipeKey, answered]
    change (refuseWhen (relation.map (·.kycStatus) = some .revoked) _ >>= fun _ =>
      refuseWhen (relation.map (·.freezeStatus) = some .frozen) _ >>= fun _ => _) = _
    rw [kycPassed, notFrozenPassed]
    rfl
  rw [known]
  constructor
  · intro fits
    obtain ⟨amountBd, parsed⟩ := parsed_of_fits laws given fits
    refine ⟨amountBd, isGreaterThan ethers amountBd balance, exceeds_balance laws parsed balanceIs,
      ?_⟩
    rw [parsed.notTooFine, asked, parsed.read]
    rfl
  · intro misfit sent sends
    obtain ⟨_, _, sends⟩ := bind_ok.mp sends
    obtain ⟨_, _, sends⟩ := bind_ok.mp sends
    obtain ⟨amountBd, read, _⟩ := bind_ok.mp sends
    exact unparsed_of_misfit laws given misfit amountBd read

end Handlers

section Agreement

variable {fixed : Type}

/-- Once its other checks pass, each handler compares the amount with the raw
balance: of the account, of the treasury, the burnable amount, of the holder. -/
structure ChecksAgree (ethers : FixedNumbers fixed) (request : Request fixed) (amount : Nat) :
    Prop where
  wipe : ∀ obj, request.mirrorBalance = some obj →
    Compares (wipe ethers request) tooBigToWipe (Representable request.coin.decimals amount) amount
      obj.balance
  rescue : ∀ obj, RescueAllowed request obj →
    Compares (rescue ethers request) tooBigToRescue (Representable request.coin.decimals amount)
      amount request.contractAmount
  burn : BurnAllowed request →
    Compares (burn ethers request) .burnableAmountExceeded
      (Representable request.coin.decimals amount) amount request.contractAmount
  createHold : HoldAllowed request →
    Compares (createHold ethers request) tooBigToHold (Representable request.coin.decimals amount)
      amount request.contractAmount

/-- The amount is on the same side of the balance and of the printed balance
read as whole tokens. -/
def ScaleHarmless (decimals balance amount : Nat) : Prop :=
  ¬(balance < amount ∧ amount ≤ printed balance * 10 ^ decimals) ∧
    ¬(printed balance * 10 ^ decimals < amount ∧ amount ≤ balance)

theorem scale_harmless_iff {decimals balance amount : Nat} :
    ScaleHarmless decimals balance amount ↔
      (amount ≤ printed balance * 10 ^ decimals ↔ amount ≤ balance) := by
  unfold ScaleHarmless
  omega

theorem printed_of_lt {balance : Nat} (small : balance < 2 ^ 53) : printed balance = balance := by
  rw [printed, numberBits, nearest_of_lt (by decide) small, shortest_of_lt (by decide) small]

/-- The three handlers that ask the contract always agree with it, and the wipe
where forgetting the decimals changes nothing. -/
theorem checks_agree_iff (ethers : FixedNumbers fixed) (laws : Laws ethers)
    (request : Request fixed) (decimal : DecimalText) (amount : Nat)
    (given : AmountText request.amount request.coin.decimals decimal amount)
    (small : ∀ obj ∈ request.mirrorBalance, obj.balance < 2 ^ 63)
    (contractSmall : request.contractAmount < 2 ^ 63) :
    (ChecksAgree ethers request amount ↔
      ∀ obj ∈ request.mirrorBalance,
        ScaleHarmless request.coin.decimals obj.balance amount) ∧
    ∀ obj ∈ request.mirrorBalance, obj.balance < 2 ^ 53 →
      (ScaleHarmless request.coin.decimals obj.balance amount ↔
        ¬(obj.balance < amount ∧ amount ≤ obj.balance * 10 ^ request.coin.decimals)) := by
  have decimals := given.decimals
  have few : request.coin.decimals ≤ 80 := Nat.le_trans decimals (by decide)
  have contractFits : request.contractAmount < 2 ^ 127 := Nat.lt_trans contractSmall (by decide)
  have wipeCompares : ∀ obj, request.mirrorBalance = some obj →
      (Compares (wipe ethers request) tooBigToWipe (Representable request.coin.decimals amount)
          amount obj.balance ↔ ScaleHarmless request.coin.decimals obj.balance amount) := by
    intro obj answered
    have balanceSmall := small obj answered
    have power : 10 ^ request.coin.decimals ≤ 10 ^ 18 := Nat.pow_le_pow_right (by decide) decimals
    have limitFits : printed obj.balance * 10 ^ request.coin.decimals < 2 ^ 127 :=
      Nat.lt_of_le_of_lt (Nat.mul_le_mul (Nat.le_of_lt (printed_lt balanceSmall)) power) (by decide)
    rw [scale_harmless_iff, compares_iff few limitFits (Nat.lt_trans balanceSmall (by decide))
      (wipe_limited laws given answered balanceSmall)]
  constructor
  · constructor
    · intro agree obj answered
      exact (wipeCompares obj answered).mp (agree.wipe obj answered)
    · intro harmless
      constructor
      · intro obj answered
        exact (wipeCompares obj answered).mpr (harmless obj answered)
      · intro obj allowed
        exact (compares_iff few contractFits contractFits
          (rescue_limited laws given allowed (small obj allowed.answered) contractSmall)).mpr Iff.rfl
      · intro allowed
        exact (compares_iff few contractFits contractFits
          (burn_limited laws given allowed contractSmall)).mpr Iff.rfl
      · intro allowed
        exact (compares_iff few contractFits contractFits
          (create_hold_limited laws given allowed small contractSmall)).mpr Iff.rfl
  · intro obj _ exactBalance
    have more : obj.balance ≤ obj.balance * 10 ^ request.coin.decimals :=
      Nat.le_mul_of_pos_right _ (by positivity)
    rw [ScaleHarmless, printed_of_lt exactBalance]
    omega

end Agreement

/-! ## Two requests -/

/-- An account with 1.00 of a token with two decimals. -/
def sampleRequest (amount : Text) : Request ExactNumber where
  amount := amount
  tokenId := "0.0.9"
  accountId := "0.0.5"
  coin :=
    { decimals := 2
      totalSupply := some ⟨1000, 2⟩
      maxSupply := some ⟨0, 2⟩
      supplyType := .infinite
      tokenId := some "0.0.9"
      treasury := some "0.0.8"
      proxyAddress := some "0.0.8"
      evmProxyAddress := some "0x08"
      supplyKey := some "0.0.8"
      wipeKey := some "0.0.8" }
  mirrorBalance := some ⟨100, .unfrozen, .granted⟩
  contractAmount := 100

theorem sample_amount (units : Nat) :
    AmountText (sampleRequest (Nat.toDigits 10 units)).amount 2 (DecimalText.ofInteger units)
      (units * 100) where
  text := by
    rw [DecimalText.text_ofInteger, integerDigits_natCast]
    rfl
  digits := DecimalText.ofInteger_ne_nil _
  places := Nat.zero_le _
  units := by
    rw [DecimalText.unitsAt, DecimalText.units_ofInteger]
    rfl
  decimals := by decide

theorem sample_balances {amount : Text} :
    ∀ obj ∈ (sampleRequest amount).mirrorBalance, obj.balance < 2 ^ 63 := by
  intro obj answered
  obtain rfl := Option.some.inj answered
  decide

/-- With 1.00 all agree about 1. -/
theorem checks_agree_iff_on_samples :
    ChecksAgree exactNumbers (sampleRequest (Nat.toDigits 10 1)) 100 := by
  refine (checks_agree_iff exactNumbers exact_laws _ _ _ (sample_amount 1) sample_balances
    (by decide)).1.mpr ?_
  intro obj answered
  obtain rfl := Option.some.inj answered
  unfold ScaleHarmless
  decide +kernel

/-- A wipe of 50 is sent. -/
theorem wipe_sent : wipe exactNumbers (sampleRequest (Nat.toDigits 10 50)) = .ok ⟨5000, 2⟩ ∧
    ¬ChecksAgree exactNumbers (sampleRequest (Nat.toDigits 10 50)) 5000 := by
  have sent : wipe exactNumbers (sampleRequest (Nat.toDigits 10 50)) = .ok ⟨5000, 2⟩ := by
    decide +kernel
  refine ⟨sent, fun agree => ?_⟩
  have enough := (agree.wipe _ rfl).passes.mp ⟨_, sent⟩
  exact absurd enough (by decide)

end StablecoinStudio.Sdk.BalanceChecks
