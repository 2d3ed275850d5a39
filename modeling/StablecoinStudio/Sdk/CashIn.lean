import StablecoinStudio.Sdk.SetDecimals
import StablecoinStudio.Sdk.StableCoins
import StablecoinStudio.Token.ReserveRule

/-!
# The reserve check of a cash-in

Before a cash-in is sent, the total and the reserve are compared in their
common decimals. The fractions are lost on the way, so the check compares the
whole parts.
-/

namespace StablecoinStudio.Sdk.CashIn

open StablecoinStudio.Core.Common
open StablecoinStudio.Foundation.DecimalQuantities
open StablecoinStudio.Foundation.DecimalTexts
open StablecoinStudio.Sdk.BigDecimal
open StablecoinStudio.Sdk.FixedNumber
open StablecoinStudio.Sdk.SetDecimals
open StablecoinStudio.Sdk.StableCoins
open StablecoinStudio.Token.ProxyState
open StablecoinStudio.Token.ReferenceLedger
open StablecoinStudio.Token.Reserve
open StablecoinStudio.Token.ReserveRule
open StablecoinStudio.Token.Services

set_option autoImplicit false

def RESERVE_DECIMALS : Nat := 2

def MAX_SUPPLY : Int := 9223372036854775807

/-- `new ContractId('0.0.0')`, for a proxy without a data feed. -/
def noReserve : String := "0.0.0"

/-- The command, and what the queries answer for it. -/
structure Request (fixed : Type) where
  amount : Text
  targetId : String
  tokenId : String
  tokenRelationship : Option (AccountTokenRelation fixed)
  autoAssociation : Option AccountAutoAssociation
  coin : StableCoin fixed
  reserveAddress : String
  /-- The answer of the data feed, as the contract returns it. -/
  reserveAmount : Int

section Handler

variable {fixed : Type} (ethers : FixedNumbers fixed) (request : Request fixed)

def checkAssociation : Checked Unit :=
  match request.tokenRelationship with
  | none =>
      match request.autoAssociation with
      | none => .error (.stableCoinNotAssociated request.targetId request.tokenId)
      | some autoAssociationInfo => do
          let max := autoAssociationInfo.maxAutoAssociations.getD 0
          let remaining := autoAssociationInfo.remainingAutoAssociations.getD 0
          refuseWhen (max = 0) (.stableCoinNotAssociated request.targetId request.tokenId)
          refuseWhen (¬(max = -1 ∨ remaining = -1) ∧ remaining ≤ 0)
            (.stableCoinMaxAutoAssociationReached request.targetId max)
  | some tokenRelationship => do
      refuseWhen (tokenRelationship.freezeStatus = .frozen) (.accountFreeze request.targetId)
      refuseWhen (tokenRelationship.kycStatus = .revoked) (.accountNotKyc request.targetId)

def shown (value : fixed) : String := String.ofList (BigDecimal.toString ethers value)

def checkSupply (coin : StableCoin fixed) (maxSupply totalSupply amountBd : fixed) : Checked Unit :=
  if coin.supplyType = .finite then do
    let zero ← number (BigDecimal.fromString ethers ['0'] (some 0))
    if isGreaterThan ethers maxSupply zero then
      let left ← number (subUnsafe ethers maxSupply totalSupply)
      refuseWhen (isGreaterThan ethers amountBd left) (.operationNotAllowed
        ("The total supply amount cannot be greater than the max supply (" ++
          shown ethers maxSupply ++ ")."))
    else return ()
  else do
    let max ← number (ethers.fromValue MAX_SUPPLY coin.decimals coin.decimals)
    let left ← number (subUnsafe ethers max totalSupply)
    refuseWhen (isGreaterThan ethers amountBd left) (.operationNotAllowed
      ("The total supply amount cannot be greater than the limit " ++ shown ethers max ++
        ". You could check the limits here: " ++
        "https://docs.hedera.com/guides/docs/hedera-api/token-service/tokencreate"))

/-- `GetReserveAmountQueryHandler`. -/
def getReserveAmount : Option fixed :=
  fromStringFixed ethers (integerDigits request.reserveAmount) RESERVE_DECIMALS

def checkReserve (totalSupply amountBd : fixed) : Checked Unit := do
  let totalAmount ← number (addUnsafe ethers amountBd totalSupply)
  let commonDecimals :=
    if RESERVE_DECIMALS > request.coin.decimals then RESERVE_DECIMALS else request.coin.decimals
  let reserveAmountBd ← number (getReserveAmount ethers request)
  let total ← number (setDecimals ethers totalAmount commonDecimals)
  let reserve ← number (setDecimals ethers reserveAmountBd commonDecimals)
  refuseWhen (isGreaterThan ethers total reserve) (.operationNotAllowed
    ("The reserve is less than the amount to cash in (" ++ String.ofList request.amount ++ ")"))

def checkRequest : Checked (fixed × fixed) := do
  checkAssociation request
  let coin := request.coin
  checkDecimals ethers request.amount coin.decimals
  let amountBd ← parsedAmount ethers request.amount coin.decimals
  match coin.maxSupply, coin.totalSupply with
  | some maxSupply, some totalSupply => do
      checkSupply ethers coin maxSupply totalSupply amountBd
      return (amountBd, totalSupply)
  | _, _ => .error (.operationNotAllowed "The stablecoin is not valid")

/-- The amount with which `handler.cashin` is called. -/
def execute : Checked fixed := do
  let (amountBd, totalSupply) ← checkRequest ethers request
  if request.coin.evmProxyAddress.isSome ∧ request.reserveAddress ≠ noReserve then
    checkReserve ethers request totalSupply amountBd
  return amountBd

end Handler

section Reading

variable {fixed : Type} {ethers : FixedNumbers fixed} {request : Request fixed}
  {amountBd totalSupply : fixed}

theorem check_request_ok (passed : checkRequest ethers request = .ok (amountBd, totalSupply)) :
    parsedAmount ethers request.amount request.coin.decimals = .ok amountBd ∧
      request.coin.totalSupply = some totalSupply := by
  unfold checkRequest at passed
  obtain ⟨_, _, passed⟩ := bind_ok.mp passed
  obtain ⟨_, _, passed⟩ := bind_ok.mp passed
  obtain ⟨parsed, read, passed⟩ := bind_ok.mp passed
  split at passed
  · next supply _ held =>
      obtain ⟨_, _, passed⟩ := bind_ok.mp passed
      obtain ⟨rfl, rfl⟩ := Prod.mk.inj (Except.ok.inj passed)
      exact ⟨read, held⟩
  · cases passed

theorem execute_ok (passed : checkRequest ethers request = .ok (amountBd, totalSupply))
    (proxy : request.coin.evmProxyAddress.isSome) (reserve : request.reserveAddress ≠ noReserve) :
    (∃ sent, execute ethers request = .ok sent) ↔
      checkReserve ethers request totalSupply amountBd = .ok () := by
  have outcome : execute ethers request =
      (checkReserve ethers request totalSupply amountBd >>= fun _ => .ok amountBd) := by
    rw [execute, passed]
    exact if_pos ⟨proxy, reserve⟩
  rw [outcome]
  simp only [bind_ok]
  constructor
  · intro sent
    obtain ⟨_, _, covered, _⟩ := sent
    exact covered
  · intro covered
    exact ⟨amountBd, (), covered, rfl⟩

end Reading

/-! ## The comparison -/

/-- The reserve covers the supply with the amount, as rationals. -/
def CoveredUnits (tokenDecimals supply amount : Nat) (reserve : Int) : Prop :=
  quantity tokenDecimals ((supply + amount : Nat) : Int) ≤ quantity RESERVE_DECIMALS reserve

/-- The two sides differ in their fractions only, and the reserve is the lower
one; a feed that answers minus nine or more cannot be read at all. -/
structure FractionDecides (tokenDecimals supply amount : Nat) (reserve : Int) : Prop where
  uncovered : ¬CoveredUnits tokenDecimals supply amount reserve
  sameWhole : truncated 0 (quantity tokenDecimals ((supply + amount : Nat) : Int)) =
    truncated 0 (quantity RESERVE_DECIMALS reserve)
  readable : reserve ≤ -10 ∨ 0 ≤ reserve

section Comparison

variable {fixed : Type} {ethers : FixedNumbers fixed} {request : Request fixed}
  {amountBd totalSupply : fixed} {supply amount : Nat}

theorem get_reserve_amount (laws : Laws ethers) (lower : -2 ^ 63 ≤ request.reserveAmount)
    (upper : request.reserveAmount < 2 ^ 63) :
    ((request.reserveAmount ≤ -10 ∨ 0 ≤ request.reserveAmount) →
      ∃ reserve, getReserveAmount ethers request = some reserve ∧
        ethers.Is reserve RESERVE_DECIMALS request.reserveAmount) ∧
    (¬(request.reserveAmount ≤ -10 ∨ 0 ≤ request.reserveAmount) →
      getReserveAmount ethers request = none) := by
  have fits : Representable RESERVE_DECIMALS request.reserveAmount :=
    ⟨by decide, by omega, by omega⟩
  have readable : (request.reserveAmount ≤ -10 ∨ 0 ≤ request.reserveAmount) ↔
      Filled RESERVE_DECIMALS request.reserveAmount := by
    unfold Filled RESERVE_DECIMALS
    omega
  rw [readable]
  exact ⟨fromStringFixed_filled laws fits, fromStringFixed_unfilled laws⟩

theorem whole_fits {tokenDecimals common : Nat} {units : Int} (few : common ≤ 18)
    (small : |units| ≤ 2 ^ 64) :
    Representable common (truncatedUnits 0 (quantity tokenDecimals units) * 10 ^ common) := by
  have whole := (abs_truncatedUnits_le tokenDecimals units).trans small
  have power : (10 : Int) ^ common ≤ 10 ^ 18 := pow_le_pow_right₀ (by decide) few
  have positive : (0 : Int) < 10 ^ common := by positivity
  rw [abs_le] at whole
  refine ⟨by omega, ?_, ?_⟩
  · nlinarith
  · nlinarith

theorem check_reserve_ok (laws : Laws ethers) (decimals : request.coin.decimals ≤ 18)
    (amountIs : ethers.Is amountBd request.coin.decimals amount)
    (supplyIs : ethers.Is totalSupply request.coin.decimals supply)
    (amountFits : amount < 2 ^ 63) (supplyFits : supply < 2 ^ 63)
    (lower : -2 ^ 63 ≤ request.reserveAmount) (upper : request.reserveAmount < 2 ^ 63) :
    checkReserve ethers request totalSupply amountBd = .ok () ↔
      (request.reserveAmount ≤ -10 ∨ 0 ≤ request.reserveAmount) ∧
        truncated 0 (quantity request.coin.decimals ((supply + amount : Nat) : Int)) ≤
          truncated 0 (quantity RESERVE_DECIMALS request.reserveAmount) := by
  have sum : ((amount : Int) + supply) = ((supply + amount : Nat) : Int) := by omega
  obtain ⟨total, added, totalIs⟩ := addUnsafe_is laws amountIs supplyIs
    ⟨by omega, by omega, by omega⟩
  rw [sum] at totalIs
  have answer := get_reserve_amount laws lower upper
  by_cases readable : request.reserveAmount ≤ -10 ∨ 0 ≤ request.reserveAmount
  · obtain ⟨reserve, read, reserveIs⟩ := answer.1 readable
    have ordered : RESERVE_DECIMALS ≤ (if RESERVE_DECIMALS > request.coin.decimals then
        RESERVE_DECIMALS else request.coin.decimals) ∧
        request.coin.decimals ≤ (if RESERVE_DECIMALS > request.coin.decimals then
          RESERVE_DECIMALS else request.coin.decimals) ∧
        (if RESERVE_DECIMALS > request.coin.decimals then
          RESERVE_DECIMALS else request.coin.decimals) ≤ 18 := by
      unfold RESERVE_DECIMALS
      split <;> omega
    generalize common : (if RESERVE_DECIMALS > request.coin.decimals then
      RESERVE_DECIMALS else request.coin.decimals) = commonDecimals at ordered
    obtain ⟨scaledTotal, totalRead, _, totalAmount⟩ := set_decimals_whole laws totalIs ordered.2.1
      (whole_fits ordered.2.2 (by rw [abs_le]; omega))
    obtain ⟨scaledReserve, reserveRead, _, reserveAmount⟩ :=
      set_decimals_whole laws reserveIs ordered.1 (whole_fits ordered.2.2 (by rw [abs_le]; omega))
    have compared : isGreaterThan ethers scaledTotal scaledReserve = true ↔
        ¬truncated 0 (quantity request.coin.decimals ((supply + amount : Nat) : Int)) ≤
          truncated 0 (quantity RESERVE_DECIMALS request.reserveAmount) := by
      rw [isGreaterThan, laws.gt_iff, totalAmount, reserveAmount, not_le]
    simp only [checkReserve, added, read, common, totalRead, reserveRead, bind_ok, number_ok,
      refuse_when_ok, Option.some.injEq, exists_eq_left', compared, not_not]
    exact ⟨fun covered => ⟨readable, covered⟩, fun described => described.2⟩
  · simp only [checkReserve, added, answer.2 readable, bind_ok, number_ok]
    constructor
    · intro passed
      obtain ⟨_, _, _, impossible, _⟩ := passed
      cases impossible
    · intro described
      exact absurd described.1 readable

end Comparison

/-! ## The contract -/

section Contract

variable {world : Type} {p : Platform world} {msg : Msg} {state : State world}
  {tokenDecimals supply amount : Nat} {reserve : Int}

/-- A feed with two decimals and a token, as the contract reads them. -/
structure FeedReads (p : Platform world) (msg : Msg) (state : State world)
    (tokenDecimals supply : Nat) (reserve : Int) : Prop where
  isSet : state.reserve.reserveAddress ≠ 0
  round : ∃ answer : Sint256, ∃ updatedAt : Uint256, answer.toInt = reserve ∧
    p.latestRoundData state.reserve.reserveAddress state.world = some (answer, updatedAt) ∧
    updatedAt.toNat ≤ msg.timestamp.toNat ∧
    (0 < state.reserve.updatedAtThreshold.toNat →
      msg.timestamp.toNat - updatedAt.toNat ≤ state.reserve.updatedAtThreshold.toNat)
  feedDecimals : ∃ digits : Uint8, digits.toNat = RESERVE_DECIMALS ∧
    p.feedDecimals state.reserve.reserveAddress state.world = some digits
  decimals : (p.decimals state.tokenAddress state.world).toNat = tokenDecimals
  supply : (p.totalSupply state.tokenAddress state.world).toNat = supply

theorem covered_units_iff {natural : Nat} :
    CoveredUnits tokenDecimals supply amount (natural : Int) ↔
      Covered tokenDecimals RESERVE_DECIMALS (supply + amount) natural := by
  rw [CoveredUnits, Covered, quantity, quantity, Int.cast_natCast, Int.cast_natCast]

theorem not_covered_below_zero (negative : reserve < 0) :
    ¬CoveredUnits tokenDecimals supply amount reserve := by
  intro covered
  have below : quantity RESERVE_DECIMALS reserve < 0 :=
    div_neg_of_neg_of_pos (by exact_mod_cast negative) (ten_pow_pos _)
  have above : (0 : ℚ) ≤ quantity tokenDecimals ((supply + amount : Nat) : Int) := by
    rw [quantity, Int.cast_natCast]
    positivity
  exact absurd (above.trans covered) (not_le.mpr below)

theorem fits_words {natural : Nat} (decimals : tokenDecimals ≤ 18) (supplyFits : supply < 2 ^ 63)
    (amountFits : amount < 2 ^ 63) (reserveFits : natural < 2 ^ 63) :
    Fits tokenDecimals RESERVE_DECIMALS (supply + amount) natural := by
  have power : ∀ exponent, exponent ≤ 18 → 10 ^ exponent ≤ 10 ^ 18 :=
    fun exponent small => Nat.pow_le_pow_right (by decide) small
  have tokenPower := power (tokenDecimals - RESERVE_DECIMALS) (by omega)
  have reservePower := power (RESERVE_DECIMALS - tokenDecimals) (by unfold RESERVE_DECIMALS; omega)
  have product : ∀ units factor : Nat, units ≤ 2 ^ 64 → factor ≤ 10 ^ 18 →
      units * factor < 2 ^ 256 :=
    fun units factor small few =>
      Nat.lt_of_le_of_lt (Nat.mul_le_mul small few) (by decide)
  exact ⟨by omega, by omega, product _ _ (by omega) reservePower, product _ _ (by omega) tokenPower⟩

/-- The contract compares the rationals, for an amount that the feed can
express. -/
theorem contract_compares (reads : FeedReads p msg state tokenDecimals supply reserve)
    {word : Uint256} (sameAmount : word.toNat = amount) (decimals : tokenDecimals ≤ 18)
    (supplyFits : supply < 2 ^ 63) (amountFits : amount < 2 ^ 63) (upper : reserve < 2 ^ 63) :
    ReserveStorageWrapper.checkReserveAmount p word msg state = .ok (true, state) ↔
      CoveredUnits tokenDecimals supply amount reserve ∧
        (RESERVE_DECIMALS < tokenDecimals → 10 ^ (tokenDecimals - RESERVE_DECIMALS) ∣ amount) := by
  obtain ⟨digits, sameDigits, feedDecimals⟩ := reads.feedDecimals
  rcases Int.lt_or_le reserve 0 with negative | nonneg
  · constructor
    · intro accepted
      obtain ⟨_, unset | compared⟩ := ReserveStorageWrapper.check_reserve_amount_ok accepted
      · exact absurd unset.1 reads.isSet
      · obtain ⟨answer, updatedAt, sameReserve, answered, _⟩ := reads.round
        obtain ⟨other, _, _, asked, _, _, _, above, _⟩ := compared.2.exists_feed
        have sameAnswer := (Prod.mk.inj (Option.some.inj (answered.symm.trans asked))).1
        rw [← sameAnswer, sameReserve] at above
        exact absurd above (not_le.mpr negative)
    · intro described
      exact absurd described.1 (not_covered_below_zero negative)
  · obtain ⟨natural, rfl⟩ := Int.eq_ofNat_of_zero_le nonneg
    have answers : FeedAnswers p msg state natural digits
        (p.decimals state.tokenAddress state.world)
        (p.totalSupply state.tokenAddress state.world) :=
      ⟨reads.isSet, reads.round, feedDecimals, rfl, rfl⟩
    rw [check_ok answers, Expressible, sameDigits, reads.decimals, reads.supply, sameAmount,
      covered_units_iff, ← aligned_iff_covered]
    constructor
    · intro accepted
      exact ⟨of_decide_eq_true accepted.2.2.2.symm, accepted.2.1⟩
    · intro described
      refine ⟨rfl, described.2, fits_words decimals supplyFits amountFits (by omega), ?_⟩
      exact (decide_eq_true described.1).symm

end Contract

/-! ## The agreement -/

/-- The command and the queries' answers in raw units: the amount has no more
decimals than the token, the mirror node gives the supply, and a feed is set. -/
structure RawInputs {fixed : Type} (ethers : FixedNumbers fixed) (request : Request fixed)
    (decimal : DecimalText) (supply amount : Nat) : Prop where
  amountText : AmountText request.amount request.coin.decimals decimal amount
  totalSupply : request.coin.totalSupply =
    fromStringFixed ethers (Nat.toDigits 10 supply) request.coin.decimals
  amountFits : amount < 2 ^ 63
  supplyFits : supply < 2 ^ 63
  lower : -2 ^ 63 ≤ request.reserveAmount
  upper : request.reserveAmount < 2 ^ 63
  proxy : request.coin.evmProxyAddress.isSome
  reserve : request.reserveAddress ≠ noReserve

def LetThrough {fixed : Type} (ethers : FixedNumbers fixed) (request : Request fixed) : Prop :=
  ∃ sent, execute ethers request = .ok sent

theorem let_through_iff {fixed : Type} {ethers : FixedNumbers fixed} {request : Request fixed}
    {decimal : DecimalText} {supply amount : Nat} {amountBd totalSupply : fixed}
    (laws : Laws ethers) (inputs : RawInputs ethers request decimal supply amount)
    (passed : checkRequest ethers request = .ok (amountBd, totalSupply)) :
    LetThrough ethers request ↔
      (request.reserveAmount ≤ -10 ∨ 0 ≤ request.reserveAmount) ∧
        truncated 0 (quantity request.coin.decimals ((supply + amount : Nat) : Int)) ≤
          truncated 0 (quantity RESERVE_DECIMALS request.reserveAmount) := by
  have decimals := inputs.amountText.decimals
  have amountFits := inputs.amountFits
  have supplyFits := inputs.supplyFits
  obtain ⟨amountRead, supplyHeld⟩ := check_request_ok passed
  obtain ⟨readAmount, parsed⟩ := parsed_of_fits laws inputs.amountText
    ⟨by omega, by omega, by omega⟩
  obtain rfl := Except.ok.inj (parsed.read.symm.trans amountRead)
  have representable : Representable request.coin.decimals supply :=
    ⟨by omega, by omega, by omega⟩
  obtain ⟨readSupply, supplyGiven, supplyIs⟩ := fromStringFixed_natural laws representable
  rw [inputs.totalSupply, supplyGiven] at supplyHeld
  obtain rfl := Option.some.inj supplyHeld
  rw [LetThrough, execute_ok passed inputs.proxy inputs.reserve]
  exact check_reserve_ok laws decimals parsed.is supplyIs amountFits supplyFits inputs.lower
    inputs.upper

/-- The check agrees with the rationals unless the fractions decide; and it is
the rationals that the contract compares. -/
theorem reserve_pre_check {fixed : Type} (ethers : FixedNumbers fixed) (laws : Laws ethers)
    (request : Request fixed) (decimal : DecimalText) (supply amount : Nat)
    (inputs : RawInputs ethers request decimal supply amount) (amountBd totalSupply : fixed)
    (passed : checkRequest ethers request = .ok (amountBd, totalSupply)) :
    ((LetThrough ethers request ↔
        CoveredUnits request.coin.decimals supply amount request.reserveAmount) ↔
      ¬FractionDecides request.coin.decimals supply amount request.reserveAmount) ∧
    ∀ (world : Type) (p : Platform world) (msg : Msg) (state : State world) (word : Uint256),
      FeedReads p msg state request.coin.decimals supply request.reserveAmount →
      word.toNat = amount →
      (ReserveStorageWrapper.checkReserveAmount p word msg state = .ok (true, state) ↔
        CoveredUnits request.coin.decimals supply amount request.reserveAmount ∧
          (RESERVE_DECIMALS < request.coin.decimals →
            10 ^ (request.coin.decimals - RESERVE_DECIMALS) ∣ amount)) := by
  constructor
  · rw [let_through_iff laws inputs passed]
    have kept : CoveredUnits request.coin.decimals supply amount request.reserveAmount →
        truncated 0 (quantity request.coin.decimals ((supply + amount : Nat) : Int)) ≤
          truncated 0 (quantity RESERVE_DECIMALS request.reserveAmount) :=
      fun covered => truncated_mono 0 covered
    have readable : CoveredUnits request.coin.decimals supply amount request.reserveAmount →
        request.reserveAmount ≤ -10 ∨ 0 ≤ request.reserveAmount := by
      intro covered
      right
      by_contra negative
      exact not_covered_below_zero (not_le.mp negative) covered
    constructor
    · intro agrees fraction
      exact fraction.uncovered (agrees.mp ⟨fraction.readable, le_of_eq fraction.sameWhole⟩)
    · intro notFraction
      constructor
      · intro passes
        by_contra uncovered
        refine notFraction ⟨uncovered, le_antisymm passes.2 ?_, passes.1⟩
        exact truncated_mono 0 (le_of_lt (not_le.mp uncovered))
      · intro covered
        exact ⟨readable covered, kept covered⟩
  · intro world p msg state word reads sameAmount
    exact contract_compares reads sameAmount inputs.amountText.decimals inputs.supplyFits
      inputs.amountFits inputs.upper

/-! ## Two requests -/

/-- A coin with two decimals and 10.00 issued, for which 0.50 are asked. -/
def sampleRequest (reserveAmount : Int) : Request ExactNumber where
  amount := ['0', '.', '5']
  targetId := "0.0.5"
  tokenId := "0.0.9"
  tokenRelationship := some ⟨⟨0, 0⟩, .notApplicable, .notApplicable⟩
  autoAssociation := none
  coin :=
    { decimals := 2
      totalSupply := some ⟨1000, 2⟩
      maxSupply := some ⟨0, 2⟩
      supplyType := .infinite
      tokenId := some "0.0.9"
      treasury := some "0.0.8"
      proxyAddress := some "0.0.8"
      evmProxyAddress := some "0x08"
      supplyKey := some "0.0.8"
      wipeKey := some "0.0.8" }
  reserveAddress := "0.0.7"
  reserveAmount := reserveAmount

def half : DecimalText where
  negative := false
  whole := ['0']
  fraction := some ['5']
  wholeDigits := by
    intro character member
    rw [List.mem_singleton.mp member]
    decide
  fractionDigits := by
    intro digits given character member
    rw [← Option.some.inj given] at member
    rw [List.mem_singleton.mp member]
    decide

theorem sample_inputs : RawInputs exactNumbers (sampleRequest 1050) half 1000 50 where
  amountText := ⟨rfl, by decide, by decide, by decide +kernel, by decide⟩
  totalSupply := by decide +kernel
  amountFits := by decide
  supplyFits := by decide
  lower := by decide
  upper := by decide
  proxy := rfl
  reserve := by decide

/-- A reserve of 10.50 covers it. -/
theorem reserve_pre_check_on_samples :
    LetThrough exactNumbers (sampleRequest 1050) ↔ CoveredUnits 2 1000 50 1050 := by
  refine (reserve_pre_check exactNumbers exact_laws (sampleRequest 1050) half 1000 50
    sample_inputs ⟨50, 2⟩ ⟨1000, 2⟩ (by decide +kernel)).1.mpr ?_
  intro fraction
  apply fraction.uncovered
  unfold CoveredUnits RESERVE_DECIMALS
  exact (quantity_le_iff _).mpr (by decide)

/-- One of 10.25 does not, and the request is let through. -/
theorem half_unit_uncovered : execute exactNumbers (sampleRequest 1025) = .ok ⟨50, 2⟩ ∧
    ¬(LetThrough exactNumbers (sampleRequest 1025) ↔ CoveredUnits 2 1000 50 1025) := by
  have sent : execute exactNumbers (sampleRequest 1025) = .ok ⟨50, 2⟩ := by decide +kernel
  refine ⟨sent, fun agrees => ?_⟩
  have covered := agrees.mp ⟨_, sent⟩
  unfold CoveredUnits RESERVE_DECIMALS at covered
  exact absurd ((quantity_le_iff _).mp covered) (by decide)

end StablecoinStudio.Sdk.CashIn
