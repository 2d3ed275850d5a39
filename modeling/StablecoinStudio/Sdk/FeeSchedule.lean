import StablecoinStudio.Foundation.FloatQuotients
import StablecoinStudio.Sdk.BalanceChecks
import StablecoinStudio.Sdk.CustomFees
import StablecoinStudio.Sdk.TokenKeys

/-!
# The fee schedule with one more fee

A fee schedule is replaced as a whole, so the handlers that add a fee send the
fees of the token again. These come from the mirror node as JSON, go through
decimal texts and are put back together as integers of the network.
-/

namespace StablecoinStudio.Sdk.FeeSchedule

open StablecoinStudio.Foundation
open StablecoinStudio.Foundation.DecimalTexts
open StablecoinStudio.Foundation.FloatIntegers
open StablecoinStudio.Foundation.FloatQuotients
open StablecoinStudio.Sdk.BalanceChecks
open StablecoinStudio.Sdk.BigDecimal
open StablecoinStudio.Sdk.CustomFees
open StablecoinStudio.Sdk.FixedNumber
open StablecoinStudio.Sdk.StableCoins
open StablecoinStudio.Sdk.TokenKeys

set_option autoImplicit false

/-! ## What the mirror node reports -/

structure IFixedFee where
  amount : Option Nat
  collectorAccountId : Text
  denominatingTokenId : Option Text
  allCollectorsAreExempt : Bool

structure IFractionalFee where
  numerator : Nat
  denominator : Nat
  collectorAccountId : Text
  maximum : Option Nat
  minimum : Option Nat
  netOfTransfers : Bool
  allCollectorsAreExempt : Bool

structure ICustomFees where
  fixedFees : List IFixedFee
  fractionalFees : List IFractionalFee

/-- A token with its fees, and the decimals that are answered for the others. -/
structure MirrorToken where
  tokenId : HederaId
  decimals : Option Text
  customFees : Option ICustomFees
  decimalsOf : Text → Option Text

def NULL : HederaId := ⟨"0.0.0".toList, rfl⟩

def isNull (id : HederaId) : Bool := id.value = "0.0.0".toList

/-- The decimals of a token; texts that are no natural number are not answered. -/
def parseDecimals (decimals : Option Text) : Option Nat :=
  (parseInt (decimals.getD ['0'])).bind fun parsed => if parsed < 0 then none else some parsed.toNat

/-- `val ? val.toString() : '0'` on a number of the JSON. -/
def valueText : Option Nat → Text
  | none => ['0']
  | some value => if value = 0 then ['0'] else Nat.toDigits 10 (printed value)

def numberText (value : Nat) : Text := Nat.toDigits 10 (printed value)

section Requests

variable {fixed : Type} (ethers : FixedNumbers fixed)

/-- `BigDecimal.fromStringFixed(value, decimals).toString()`. -/
def decimalText (value : Text) (decimals : Nat) : Option Text :=
  (fromStringFixed ethers value decimals).map (BigDecimal.toString ethers)

def feeDecimals (token : MirrorToken) (decimals : Nat) (denominatingToken : HederaId) :
    Option Nat :=
  if isNull denominatingToken then some HBAR_DECIMALS
  else if denominatingToken.value ≠ token.tokenId.value then
    parseDecimals (token.decimalsOf denominatingToken.value)
  else some decimals

def requestFixedFee (token : MirrorToken) (decimals : Nat) (fixedFee : IFixedFee) :
    Option RequestCustomFee := do
  let denominatingTokenId := fixedFee.denominatingTokenId.filter (· ≠ [])
  let denominatingToken ←
    match denominatingTokenId with
    | none => some NULL
    | some id => HederaId.from_ (some id)
  let feeDecimals ← feeDecimals token decimals denominatingToken
  let amount ← decimalText ethers (valueText fixedFee.amount) feeDecimals
  return .fixedFee fixedFee.collectorAccountId fixedFee.allCollectorsAreExempt feeDecimals amount
    (denominatingTokenId.getD "0.0.0".toList)

/-- `Math.round((100 * 10 ** MAX_PERCENTAGE_DECIMALS * numerator) / denominator)`. -/
def percentageUnits (numerator denominator : Nat) : Option Nat :=
  if denominator = 0 then none
  else
    let product := nearest numberBits (100 * 10 ^ MAX_PERCENTAGE_DECIMALS * numerator)
    some (roundUp (nearestQuotient numberBits (product / denominator))).toNat

def requestFractionalFee (decimals : Nat) (fractionalFee : IFractionalFee) :
    Option RequestCustomFee := do
  let numerator ← parseInt (numberText fractionalFee.numerator)
  let denominator ← parseInt (numberText fractionalFee.denominator)
  let percentageUnits ← percentageUnits numerator.toNat denominator.toNat
  let percentage ← decimalText ethers (Nat.toDigits 10 (shortest numberBits percentageUnits))
    MAX_PERCENTAGE_DECIMALS
  let min ← decimalText ethers (valueText fractionalFee.minimum) decimals
  let max ← decimalText ethers (valueText fractionalFee.maximum) decimals
  return .fractionalFee fractionalFee.collectorAccountId fractionalFee.allCollectorsAreExempt
    decimals percentage (numberText fractionalFee.numerator) (numberText fractionalFee.denominator)
    min max fractionalFee.netOfTransfers

/-- `getCustomFeesOrDefault`; `none` where it throws. -/
def getCustomFeesOrDefault (token : MirrorToken) (decimals : Nat) :
    Option (Option (List RequestCustomFee)) :=
  match token.customFees with
  | none => some none
  | some val => do
      let fixedFees ← val.fixedFees.mapM (requestFixedFee ethers token decimals)
      let fractionalFees ← val.fractionalFees.mapM (requestFractionalFee ethers decimals)
      return some (fixedFees ++ fractionalFees)

/-! ## The fees of the coin -/

inductive CustomFee (fixed : Type) where
  | fixedFee (collectorId : HederaId) (amount : fixed) (tokenId : HederaId)
      (collectorsExempt : Option Bool)
  | fractionalFee (collectorId : HederaId) (amountNumerator amountDenominator : Option Int)
      (min max : fixed) (net : Option Bool) (collectorsExempt : Option Bool)

/-- A text that may be missing, which nothing can be read from. -/
def bigDecimal (value : Option Text) (decimals : Option Nat) : Option fixed :=
  value.bind fun value => fromString ethers value decimals

/-- `none` is a fee of neither kind. -/
def toCustomFee (customFee : RequestCustomFee) : Option (Option (CustomFee fixed)) :=
  if isRequestFixedFee customFee then do
    let collectorId ← HederaId.from_ customFee.collectorId
    let amount ← bigDecimal ethers customFee.amount.join customFee.decimals
    let tokenId ← HederaId.from_ customFee.tokenIdCollected
    return some (.fixedFee collectorId amount tokenId customFee.collectorsExempt)
  else if isRequestFractionalFee customFee then do
    let collectorId ← HederaId.from_ customFee.collectorId
    let min ← bigDecimal ethers customFee.min customFee.decimals
    let max ← bigDecimal ethers customFee.max customFee.decimals
    return some (.fractionalFee collectorId (customFee.amountNumerator.join.bind parseInt)
      (customFee.amountDenominator.bind parseInt) min max customFee.net
      (some (customFee.collectorsExempt.getD true)))
  else return none

def toCustomFees : Option (List RequestCustomFee) → Option (Option (List (CustomFee fixed)))
  | none => some none
  | some customFees => (customFees.mapM (toCustomFee ethers)).map fun fees => some fees.reduceOption

def coinFees (token : MirrorToken) : Option (Option (List (CustomFee fixed))) := do
  let decimals ← parseDecimals token.decimals
  let customFees ← getCustomFeesOrDefault ethers token decimals
  toCustomFees ethers customFees

/-! ## The fees of the network -/

inductive HCustomFee where
  | fixedFee (amount : Int) (feeCollectorAccountId : Text) (allCollectorsAreExempt : Bool)
      (denominatingTokenId : Option Text)
  | fractionalFee (numerator denominator min : Int) (max : Option Int) (assessmentMethod : Bool)
      (feeCollectorAccountId : Text) (allCollectorsAreExempt : Bool)
deriving DecidableEq

variable (parseLong : Text → Option Int)

/-- `customFee.net` is only set when it is true. -/
def fromCustomFeeToHCustomFee : CustomFee fixed → Option HCustomFee
  | .fixedFee collectorId amount tokenId collectorsExempt => do
      let amount ← toLong ethers parseLong amount
      return .fixedFee amount collectorId.value (collectorsExempt.getD false)
        (if isNull tokenId then none else some tokenId.value)
  | .fractionalFee collectorId amountNumerator amountDenominator min max net collectorsExempt => do
      let min ← toLong ethers parseLong min
      let max ← toLong ethers parseLong max
      return .fractionalFee (amountNumerator.getD 0) (amountDenominator.getD 0) min (some max)
        (net.getD false) collectorId.value (collectorsExempt.getD false)

def fromCustomFeesToHCustomFees : Option (List (CustomFee fixed)) → Option (List HCustomFee)
  | none => some []
  | some customFees => customFees.mapM (fromCustomFeeToHCustomFee ethers parseLong)

/-! ## The handlers -/

def checkRelationship (token : MirrorToken) (collectorId : HederaId) :
    Option (AccountTokenRelation fixed) → Checked Unit
  | none =>
      .error (.stableCoinNotAssociated (String.ofList collectorId.value)
        (String.ofList token.tokenId.value))
  | some tokenRelationship => do
      refuseWhen (tokenRelationship.freezeStatus = .frozen)
        (.accountFreeze (String.ofList collectorId.value))
      refuseWhen (tokenRelationship.kycStatus = .revoked)
        (.accountNotKyc (String.ofList collectorId.value))

/-- The two handlers differ in the fee that they push. -/
def sendWith (token : MirrorToken) (collectorId : HederaId)
    (tokenRelationship : Option (AccountTokenRelation fixed)) (customFeeToAdd : Option HCustomFee) :
    Checked (List HCustomFee) := do
  let customFees ← number (coinFees ethers token)
  checkRelationship token collectorId tokenRelationship
  let hCustomFee ← number (fromCustomFeesToHCustomFees ethers parseLong customFees)
  let customFeeToAdd ← number customFeeToAdd
  return hCustomFee ++ [customFeeToAdd]

structure AddFixedFeesCommand (fixed : Type) where
  collectorId : HederaId
  tokenIdCollected : HederaId
  amount : fixed
  collectorsExempt : Bool

def AddFixedFeesCommand.customFeeToAdd (command : AddFixedFeesCommand fixed) :
    Option HCustomFee := do
  let amount ← toLong ethers parseLong command.amount
  return .fixedFee amount command.collectorId.value command.collectorsExempt
    (if isNull command.tokenIdCollected then none else some command.tokenIdCollected.value)

def AddFixedFeesCommand.execute (token : MirrorToken)
    (tokenRelationship : Option (AccountTokenRelation fixed))
    (command : AddFixedFeesCommand fixed) : Checked (List HCustomFee) :=
  sendWith ethers parseLong token command.collectorId tokenRelationship
    (command.customFeeToAdd ethers parseLong)

structure AddFractionalFeesCommand (fixed : Type) where
  collectorId : HederaId
  amountNumerator : Int
  amountDenominator : Int
  min : fixed
  max : fixed
  net : Bool
  collectorsExempt : Bool

def AddFractionalFeesCommand.customFeeToAdd (command : AddFractionalFeesCommand fixed) :
    Option HCustomFee := do
  let min ← toLong ethers parseLong command.min
  let max ← toLong ethers parseLong command.max
  return .fractionalFee command.amountNumerator command.amountDenominator min (some max) command.net
    command.collectorId.value command.collectorsExempt

def AddFractionalFeesCommand.execute (token : MirrorToken)
    (tokenRelationship : Option (AccountTokenRelation fixed))
    (command : AddFractionalFeesCommand fixed) : Checked (List HCustomFee) :=
  sendWith ethers parseLong token command.collectorId tokenRelationship
    (command.customFeeToAdd ethers parseLong)

end Requests

/-! ## What a fee is -/

/-- A maximum of zero is none. -/
inductive Fee where
  | fixed (amount : Int) (denominatingToken : Option Text) (collector : Text)
      (collectorsExempt : Bool)
  | fractional (numerator denominator minimum : Int) (maximum : Option Int) (netOfTransfers : Bool)
      (collector : Text) (collectorsExempt : Bool)
deriving DecidableEq

def limit (maximum : Option Int) : Option Int := maximum.filter (· ≠ 0)

def IFixedFee.reported (fee : IFixedFee) : Fee :=
  .fixed (fee.amount.getD 0 : Nat) fee.denominatingTokenId fee.collectorAccountId
    fee.allCollectorsAreExempt

def IFractionalFee.reported (fee : IFractionalFee) : Fee :=
  .fractional fee.numerator fee.denominator (fee.minimum.getD 0 : Nat)
    (limit (fee.maximum.map Nat.cast)) fee.netOfTransfers fee.collectorAccountId
    fee.allCollectorsAreExempt

def ICustomFees.reported (fees : ICustomFees) : List Fee :=
  fees.fixedFees.map IFixedFee.reported ++ fees.fractionalFees.map IFractionalFee.reported

def HCustomFee.scheduled : HCustomFee → Fee
  | .fixedFee amount feeCollectorAccountId allCollectorsAreExempt denominatingTokenId =>
      .fixed amount denominatingTokenId feeCollectorAccountId allCollectorsAreExempt
  | .fractionalFee numerator denominator min max assessmentMethod feeCollectorAccountId
      allCollectorsAreExempt =>
      .fractional numerator denominator min (limit max) assessmentMethod feeCollectorAccountId
        allCollectorsAreExempt

def AddFixedFeesCommand.fee {fixed : Type} (ethers : FixedNumbers fixed)
    (command : AddFixedFeesCommand fixed) : Fee :=
  .fixed (toBigInt ethers command.amount)
    (if isNull command.tokenIdCollected then none else some command.tokenIdCollected.value)
    command.collectorId.value command.collectorsExempt

def AddFractionalFeesCommand.fee {fixed : Type} (ethers : FixedNumbers fixed)
    (command : AddFractionalFeesCommand fixed) : Fee :=
  .fractional command.amountNumerator command.amountDenominator (toBigInt ethers command.min)
    (limit (some (toBigInt ethers command.max))) command.net command.collectorId.value
    command.collectorsExempt

/-- The fee of the mirror node is one of the network. -/
structure IFixedFee.InRange (fee : IFixedFee) : Prop where
  amount : fee.amount.getD 0 < 2 ^ 53
  collector : isHederaId fee.collectorAccountId = true
  denominatingToken : ∀ id ∈ fee.denominatingTokenId,
    isHederaId id = true ∧ id ≠ "0.0.0".toList

structure IFractionalFee.InRange (fee : IFractionalFee) : Prop where
  numerator : fee.numerator < 2 ^ 53
  denominator : fee.denominator < 2 ^ 53
  positive : 0 < fee.denominator
  minimum : fee.minimum.getD 0 < 2 ^ 53
  maximum : fee.maximum.getD 0 < 2 ^ 53
  collector : isHederaId fee.collectorAccountId = true

/-! ## Each text on the way -/

section Texts

variable {fixed : Type} {ethers : FixedNumbers fixed} {decimals : Nat}

theorem from_valid {id : Text} (valid : isHederaId id = true) :
    HederaId.from_ (some id) = some ⟨id, valid⟩ := by
  rw [HederaId.from_, Option.getD_some, HederaId.new, dif_pos valid]

theorem valueText_eq {value : Option Nat} (small : value.getD 0 < 2 ^ 53) :
    valueText value = Nat.toDigits 10 (value.getD 0) := by
  cases value with
  | none => rfl
  | some value =>
    rw [Option.getD_some] at small
    by_cases zero : value = 0
    · rw [zero]
      rfl
    · rw [valueText, if_neg zero, printed_of_lt small, Option.getD_some]

theorem parse_numberText {value : Nat} (small : value < 2 ^ 53) :
    parseInt (numberText value) = some (value : Int) := by
  rw [numberText, printed_of_lt small, parseInt_natural small]

theorem decimalText_reads (laws : Laws ethers) {units : Nat} (fits : Representable decimals units) :
    ∃ text value, decimalText ethers (Nat.toDigits 10 units) decimals = some text ∧
      fromString ethers text (some decimals) = some value ∧ ethers.Is value decimals units := by
  obtain ⟨first, read, is⟩ := fromStringFixed_natural laws fits
  obtain ⟨value, again, same⟩ := fromString_toString laws is fits
  refine ⟨BigDecimal.toString ethers first, value, ?_, again, same⟩
  rw [decimalText, read, Option.map_some]

theorem representable_of_lt {units : Nat} (few : decimals ≤ 80) (small : units < 2 ^ 127) :
    Representable decimals units where
  decimals := few
  lower := by omega
  upper := by omega

theorem percentageUnits_lt {numerator denominator : Nat} (small : numerator < 2 ^ 53)
    (positive : 0 < denominator) :
    ∃ units, percentageUnits numerator denominator = some units ∧
      shortest numberBits units < 2 ^ 127 := by
  refine ⟨_, by rw [percentageUnits, if_neg (Nat.ne_of_gt positive)], ?_⟩
  apply shortest_lt_pow (by decide)
  generalize held : nearest numberBits (100 * 10 ^ MAX_PERCENTAGE_DECIMALS * numerator) = product
  have bounded : product ≤ 2 ^ 67 := by
    rw [← held]
    apply nearest_le_pow (by decide)
    rw [MAX_PERCENTAGE_DECIMALS]
    omega
  have nonneg : 0 ≤ (product : ℚ) / denominator := by positivity
  have quotient : (product : ℚ) / denominator ≤ 2 ^ 67 := by
    calc
      (product : ℚ) / denominator ≤ product :=
        div_le_self (Nat.cast_nonneg product) (Nat.one_le_cast.mpr positive)
      _ ≤ 2 ^ 67 := by exact_mod_cast bounded
  have rounded := roundUp_nearestQuotient_lt (by decide : 0 < numberBits) nonneg
  have below : roundUp (nearestQuotient numberBits ((product : ℚ) / denominator)) < 2 ^ 127 := by
    have rational : (roundUp (nearestQuotient numberBits ((product : ℚ) / denominator)) : ℚ) <
        2 ^ 127 := by
      calc
        _ < 2 * ((product : ℚ) / denominator) + 1 := rounded
        _ ≤ 2 * 2 ^ 67 + 1 := by linarith
        _ < 2 ^ 127 := by norm_num
    exact_mod_cast rational
  omega

end Texts

/-! ## A fee on its way -/

/-- The mirror node's answers, of which no decimals are more than the package has. -/
structure Answers (token : MirrorToken) (decimals : Nat) (fees : ICustomFees) : Prop where
  listed : token.customFees = some fees
  own : parseDecimals token.decimals = some decimals
  few : decimals ≤ 80
  others : ∀ fee ∈ fees.fixedFees, ∀ id ∈ fee.denominatingTokenId, id ≠ token.tokenId.value →
    ∃ places, parseDecimals (token.decimalsOf id) = some places ∧ places ≤ 80
  fixedFees : ∀ fee ∈ fees.fixedFees, fee.InRange
  fractionalFees : ∀ fee ∈ fees.fractionalFees, fee.InRange

section Carried

variable {fixed : Type} {ethers : FixedNumbers fixed} {parseLong : Text → Option Int}
  {token : MirrorToken} {decimals : Nat} {fees : ICustomFees}

theorem value_carried (laws : Laws ethers) (longs : LongLaws parseLong) {value : Option Nat}
    (small : value.getD 0 < 2 ^ 53) (few : decimals ≤ 80) :
    ∃ text amount, decimalText ethers (valueText value) decimals = some text ∧
      fromString ethers text (some decimals) = some amount ∧
      toLong ethers parseLong amount = some ((value.getD 0 : Nat) : Int) := by
  have fits : Representable decimals (value.getD 0 : Nat) := representable_of_lt few (by omega)
  obtain ⟨text, amount, written, read, is⟩ := decimalText_reads laws fits
  refine ⟨text, amount, ?_, read, toLong_units laws longs is ?_⟩
  · rw [valueText_eq small, written]
  · rw [Int.natAbs_natCast]
    omega

/-- The fee of the request is sent as the one that was reported. -/
def Carries (ethers : FixedNumbers fixed) (parseLong : Text → Option Int) (fee : Fee)
    (request : RequestCustomFee) : Prop :=
  ∃ customFee sent, toCustomFee ethers request = some (some customFee) ∧
    fromCustomFeeToHCustomFee ethers parseLong customFee = some sent ∧ sent.scheduled = fee

theorem decimals_answered (answers : Answers token decimals fees) {fee : IFixedFee}
    (member : fee ∈ fees.fixedFees) {id : Text} (denominating : fee.denominatingTokenId = some id)
    (valid : isHederaId id = true) :
    ∃ places, feeDecimals token decimals ⟨id, valid⟩ = some places ∧ places ≤ 80 := by
  have notNull := ((answers.fixedFees fee member).denominatingToken id denominating).2
  unfold feeDecimals
  rw [if_neg (by rw [isNull, decide_eq_true_eq]; exact notNull)]
  by_cases own : id = token.tokenId.value
  · rw [if_neg (not_not_intro own)]
    exact ⟨decimals, rfl, answers.few⟩
  · rw [if_pos own]
    exact answers.others fee member id denominating own

theorem fixed_request_carried {fee : IFixedFee} {collected text : Text} {amount : fixed}
    {places : Nat} (collector : isHederaId fee.collectorAccountId = true)
    (valid : isHederaId collected = true)
    (denominating : fee.denominatingTokenId =
      if isNull ⟨collected, valid⟩ then none else some collected)
    (read : fromString ethers text (some places) = some amount)
    (long : toLong ethers parseLong amount = some ((fee.amount.getD 0 : Nat) : Int)) :
    Carries ethers parseLong fee.reported
      (.fixedFee fee.collectorAccountId fee.allCollectorsAreExempt places text collected) := by
  have from_ : toCustomFee ethers
      (.fixedFee fee.collectorAccountId fee.allCollectorsAreExempt places text collected) =
        some (some (.fixedFee ⟨_, collector⟩ amount ⟨_, valid⟩
          (some fee.allCollectorsAreExempt))) := by
    simp only [toCustomFee, RequestCustomFee.fixedFee, isRequestFixedFee, Option.isSome_some,
      if_true, from_valid collector, from_valid valid, bigDecimal, Option.join_some, read,
      Option.bind_eq_bind, Option.bind_some, Option.pure_def]
  refine ⟨_, _, from_, by rw [fromCustomFeeToHCustomFee, long]; rfl, ?_⟩
  rw [HCustomFee.scheduled, IFixedFee.reported, denominating]
  rfl

theorem fixed_fee_carried (laws : Laws ethers) (longs : LongLaws parseLong)
    (answers : Answers token decimals fees) {fee : IFixedFee} (member : fee ∈ fees.fixedFees) :
    ∃ request, requestFixedFee ethers token decimals fee = some request ∧
      Carries ethers parseLong fee.reported request := by
  have inRange := answers.fixedFees fee member
  cases denominating : fee.denominatingTokenId with
  | none =>
    obtain ⟨text, amount, written, read, long⟩ :=
      value_carried laws longs inRange.amount (by decide : HBAR_DECIMALS ≤ 80)
    refine ⟨_, ?_, fixed_request_carried inRange.collector NULL.valid denominating read long⟩
    rw [requestFixedFee, denominating]
    exact congrArg (Option.bind · _) written
  | some id =>
    obtain ⟨valid, notNull⟩ := inRange.denominatingToken id denominating
    obtain ⟨places, answered, few⟩ := decimals_answered answers member denominating valid
    obtain ⟨text, amount, written, read, long⟩ := value_carried laws longs inRange.amount few
    have given : fee.denominatingTokenId = if isNull ⟨id, valid⟩ then none else some id := by
      rw [denominating, isNull, if_neg (by rw [decide_eq_true_eq]; exact notNull)]
    refine ⟨_, ?_, fixed_request_carried inRange.collector valid given read long⟩
    have nonempty : (some id).filter (· ≠ []) = some id := by
      cases id with
      | nil => cases valid
      | cons first rest => rfl
    simp only [requestFixedFee, denominating, nonempty, from_valid valid, answered, written,
      Option.bind_eq_bind, Option.bind_some, Option.pure_def, Option.getD_some]

theorem fractional_fee_carried (laws : Laws ethers) (longs : LongLaws parseLong)
    (few : decimals ≤ 80) {fee : IFractionalFee} (inRange : fee.InRange) :
    ∃ request, requestFractionalFee ethers decimals fee = some request ∧
      Carries ethers parseLong fee.reported request := by
  have numerator := parse_numberText inRange.numerator
  have denominator := parse_numberText inRange.denominator
  obtain ⟨units, rounded, small⟩ := percentageUnits_lt inRange.numerator inRange.positive
  have percentFits : Representable MAX_PERCENTAGE_DECIMALS (shortest numberBits units : Nat) :=
    representable_of_lt (by decide) small
  obtain ⟨percentage, _, percent, _, _⟩ := decimalText_reads laws percentFits
  obtain ⟨min, minimum, minText, minRead, minLong⟩ := value_carried laws longs inRange.minimum few
  obtain ⟨max, maximum, maxText, maxRead, maxLong⟩ := value_carried laws longs inRange.maximum few
  have request : requestFractionalFee ethers decimals fee =
      some (.fractionalFee fee.collectorAccountId fee.allCollectorsAreExempt decimals percentage
        (numberText fee.numerator) (numberText fee.denominator) min max fee.netOfTransfers) := by
    simp only [requestFractionalFee, numerator, denominator, Int.toNat_natCast, rounded, percent,
      minText, maxText, Option.bind_eq_bind, Option.bind_some, Option.pure_def]
  have customFee : toCustomFee ethers
      (.fractionalFee fee.collectorAccountId fee.allCollectorsAreExempt decimals percentage
        (numberText fee.numerator) (numberText fee.denominator) min max fee.netOfTransfers) =
      some (some (.fractionalFee ⟨_, inRange.collector⟩ (some fee.numerator) (some fee.denominator)
        minimum maximum (some fee.netOfTransfers) (some fee.allCollectorsAreExempt))) := by
    simp only [toCustomFee, RequestCustomFee.fractionalFee, isRequestFixedFee,
      isRequestFractionalFee, Option.isSome_none, Option.isSome_some, Bool.false_eq_true, if_false,
      if_true, from_valid inRange.collector, bigDecimal, minRead, maxRead, numerator, denominator,
      Option.join_some, Option.bind_eq_bind, Option.bind_some, Option.pure_def, Option.getD_some]
  refine ⟨_, request, _, _, customFee,
    by rw [fromCustomFeeToHCustomFee, minLong, maxLong]; rfl, ?_⟩
  rw [HCustomFee.scheduled, IFractionalFee.reported]
  cases fee.maximum <;> rfl

/-! ## The whole schedule -/

theorem mapM_related {first second : Type} {f : first → Option second}
    {Related : first → second → Prop} {items : List first}
    (each : ∀ item ∈ items, ∃ image, f item = some image ∧ Related item image) :
    ∃ images, items.mapM f = some images ∧ List.Forall₂ Related items images := by
  induction items with
  | nil => exact ⟨[], rfl, .nil⟩
  | cons item rest ih =>
    obtain ⟨image, mapped, related⟩ := each item (List.mem_cons_self ..)
    obtain ⟨images, others, all⟩ :=
      ih fun other member => each other (List.mem_cons_of_mem _ member)
    refine ⟨image :: images, ?_, .cons related all⟩
    rw [List.mapM_cons, mapped, others]
    rfl

theorem requests_carried (laws : Laws ethers) (longs : LongLaws parseLong)
    (answers : Answers token decimals fees) :
    ∃ requests, getCustomFeesOrDefault ethers token decimals = some (some requests) ∧
      List.Forall₂ (Carries ethers parseLong) fees.reported requests := by
  have eachFixed : ∀ fee ∈ fees.fixedFees, ∃ request,
      requestFixedFee ethers token decimals fee = some request ∧
        Carries ethers parseLong fee.reported request :=
    fun _ member => fixed_fee_carried laws longs answers member
  have eachFractional : ∀ fee ∈ fees.fractionalFees, ∃ request,
      requestFractionalFee ethers decimals fee = some request ∧
        Carries ethers parseLong fee.reported request :=
    fun fee member => fractional_fee_carried laws longs answers.few
      (answers.fractionalFees fee member)
  obtain ⟨fixedRequests, fixedRead, allFixed⟩ := mapM_related eachFixed
  obtain ⟨fractionalRequests, fractionalRead, allFractional⟩ := mapM_related eachFractional
  refine ⟨fixedRequests ++ fractionalRequests, ?_, ?_⟩
  · simp only [getCustomFeesOrDefault, answers.listed, fixedRead, fractionalRead,
      Option.bind_eq_bind, Option.bind_some, Option.pure_def]
  · exact List.rel_append (List.forall₂_map_left_iff.mpr allFixed)
      (List.forall₂_map_left_iff.mpr allFractional)

theorem reduce_some {item : Type} (items : List item) :
    (items.map some).reduceOption = items := by
  induction items with
  | nil => rfl
  | cons item rest ih => exact congrArg (List.cons item) ih

theorem sent_of_carried {reported : List Fee} {requests : List RequestCustomFee}
    (carried : List.Forall₂ (Carries ethers parseLong) reported requests) :
    ∃ customFees sent, toCustomFees ethers (some requests) = some (some customFees) ∧
      fromCustomFeesToHCustomFees ethers parseLong (some customFees) = some sent ∧
      sent.map HCustomFee.scheduled = reported := by
  have each : ∃ (customFees : List (CustomFee fixed)) (sent : List HCustomFee),
      requests.mapM (toCustomFee ethers) = some (customFees.map some) ∧
      customFees.mapM (fromCustomFeeToHCustomFee ethers parseLong) = some sent ∧
      sent.map HCustomFee.scheduled = reported := by
    induction carried with
    | nil => exact ⟨[], [], rfl, rfl, rfl⟩
    | cons related _ ih =>
      obtain ⟨customFee, sent, read, put, same⟩ := related
      obtain ⟨customFees, others, allRead, allPut, allSame⟩ := ih
      refine ⟨customFee :: customFees, sent :: others, ?_, ?_, ?_⟩
      · rw [List.mapM_cons, read, allRead]
        rfl
      · rw [List.mapM_cons, put, allPut]
        rfl
      · rw [List.map_cons, same, allSame]
  obtain ⟨customFees, sent, read, put, same⟩ := each
  refine ⟨customFees, sent, ?_, put, same⟩
  rw [toCustomFees, read, Option.map_some, reduce_some]

/-- The fees of the coin are put back together as they were reported. -/
theorem coin_fees_sent (laws : Laws ethers) (longs : LongLaws parseLong)
    (answers : Answers token decimals fees) :
    ∃ customFees sent, coinFees ethers token = some customFees ∧
      fromCustomFeesToHCustomFees ethers parseLong customFees = some sent ∧
      sent.map HCustomFee.scheduled = fees.reported := by
  obtain ⟨requests, read, carried⟩ := requests_carried laws longs answers
  obtain ⟨customFees, sent, fromRequests, put, same⟩ := sent_of_carried carried
  refine ⟨some customFees, sent, ?_, put, same⟩
  simp only [coinFees, answers.own, read, fromRequests, Option.bind_eq_bind, Option.bind_some]

/-- The handlers send the fees that are reported and after them the one they build. -/
def AddingKeepsFees (ethers : FixedNumbers fixed) (parseLong : Text → Option Int)
    (token : MirrorToken) (reported : List Fee) : Prop :=
  ∃ sent : List HCustomFee, sent.map HCustomFee.scheduled = reported ∧
    (∀ (tokenRelationship : Option (AccountTokenRelation fixed))
        (command : AddFixedFeesCommand fixed),
      command.execute ethers parseLong token tokenRelationship = do
        checkRelationship token command.collectorId tokenRelationship
        let customFeeToAdd ← number (command.customFeeToAdd ethers parseLong)
        return sent ++ [customFeeToAdd]) ∧
    (∀ (tokenRelationship : Option (AccountTokenRelation fixed))
        (command : AddFractionalFeesCommand fixed),
      command.execute ethers parseLong token tokenRelationship = do
        checkRelationship token command.collectorId tokenRelationship
        let customFeeToAdd ← number (command.customFeeToAdd ethers parseLong)
        return sent ++ [customFeeToAdd])

/-- The fee they build is that of the command, whose amounts are integers of 64 bits. -/
def BuildsFees (ethers : FixedNumbers fixed) (parseLong : Text → Option Int) : Prop :=
  (∀ command : AddFixedFeesCommand fixed, (toBigInt ethers command.amount).natAbs < 2 ^ 63 →
      ∃ added, command.customFeeToAdd ethers parseLong = some added ∧
        added.scheduled = command.fee ethers) ∧
    ∀ command : AddFractionalFeesCommand fixed, (toBigInt ethers command.min).natAbs < 2 ^ 63 →
      (toBigInt ethers command.max).natAbs < 2 ^ 63 →
      ∃ added, command.customFeeToAdd ethers parseLong = some added ∧
        added.scheduled = command.fee ethers

theorem toLong_value (laws : Laws ethers) (longs : LongLaws parseLong) {amount : fixed}
    (small : (toBigInt ethers amount).natAbs < 2 ^ 63) :
    toLong ethers parseLong amount = some (toBigInt ethers amount) :=
  toLong_units laws longs ⟨rfl, rfl⟩ small

theorem builds_fees (laws : Laws ethers) (longs : LongLaws parseLong) :
    BuildsFees ethers parseLong := by
  constructor
  · intro command small
    refine ⟨_, by rw [AddFixedFeesCommand.customFeeToAdd, toLong_value laws longs small]; rfl, rfl⟩
  · intro command smallMin smallMax
    refine ⟨_, by rw [AddFractionalFeesCommand.customFeeToAdd, toLong_value laws longs smallMin,
      toLong_value laws longs smallMax]; rfl, rfl⟩

theorem send_with (laws : Laws ethers) (longs : LongLaws parseLong)
    (answers : Answers token decimals fees) :
    ∃ sent : List HCustomFee, sent.map HCustomFee.scheduled = fees.reported ∧
      ∀ collectorId (tokenRelationship : Option (AccountTokenRelation fixed)) customFeeToAdd,
        sendWith ethers parseLong token collectorId tokenRelationship customFeeToAdd = do
          checkRelationship token collectorId tokenRelationship
          let customFeeToAdd ← number customFeeToAdd
          return sent ++ [customFeeToAdd] := by
  obtain ⟨customFees, sent, read, put, same⟩ := coin_fees_sent laws longs answers
  refine ⟨sent, same, ?_⟩
  intro collectorId tokenRelationship customFeeToAdd
  rw [sendWith, read]
  show (checkRelationship token collectorId tokenRelationship >>= fun _ =>
    StableCoins.number (fromCustomFeesToHCustomFees ethers parseLong customFees) >>=
      fun hCustomFee => StableCoins.number customFeeToAdd >>= fun customFeeToAdd =>
        pure (hCustomFee ++ [customFeeToAdd])) = _
  rw [put]
  rfl

/-- The existing fees are kept where the package has the decimals they are counted in. -/
theorem adding_keeps_fees (laws : Laws ethers) (longs : LongLaws parseLong)
    (answers : Answers token decimals fees) :
    AddingKeepsFees ethers parseLong token fees.reported ∧ BuildsFees ethers parseLong := by
  obtain ⟨sent, same, sends⟩ := send_with laws longs answers
  exact ⟨⟨sent, same, fun tokenRelationship command => sends _ tokenRelationship _,
    fun tokenRelationship command => sends _ tokenRelationship _⟩, builds_fees laws longs⟩

end Carried

/-! ## Schedules to evaluate on -/

/-- `Long.fromString`: what does not fit wraps around. -/
def readLong (text : Text) : Option Int :=
  let digits := (ExactNumber.readSign text).2
  if digits ≠ [] ∧ Digits digits then
    some (Int.bmod (if (ExactNumber.readSign text).1 then -(DecimalTexts.number digits : Int)
      else DecimalTexts.number digits) (2 ^ 64))
  else none

theorem not_wrapped {value : Int} (small : value.natAbs < 2 ^ 63) :
    Int.bmod value (2 ^ 64) = value :=
  Int.bmod_eq_of_le_mul_two (by omega) (by omega)

theorem readLong_negative {digits : Text} (valid : Digits digits) (some_ : digits ≠ []) :
    readLong ('-' :: digits) = some (Int.bmod (-(DecimalTexts.number digits : Int)) (2 ^ 64)) := by
  have signed : ExactNumber.readSign ('-' :: digits) = (true, digits) := rfl
  rw [readLong, signed]
  dsimp only
  rw [if_pos ⟨some_, valid⟩, if_pos rfl]

theorem long_laws : LongLaws readLong where
  reads := by
    intro digits valid some_ small
    have unsigned : ExactNumber.readSign digits = (false, digits) := by
      cases digits with
      | nil => rfl
      | cons digit rest =>
        unfold ExactNumber.readSign
        split
        · next same =>
          have isDigit := valid digit (List.mem_cons_self ..)
          rw [(List.cons.inj same).1] at isDigit
          exact absurd isDigit (by decide)
        · rfl
    rw [readLong, unsigned]
    dsimp only
    rw [if_pos ⟨some_, valid⟩, if_neg Bool.false_ne_true,
      not_wrapped (by rw [Int.natAbs_natCast]; exact small)]
  reads_negative := by
    intro digits valid some_ small
    rw [readLong_negative valid some_,
      not_wrapped (by rw [Int.natAbs_neg, Int.natAbs_natCast]; exact small)]

/-- Fees in tinybars and in millionths of another token, and a hundredth of each transfer. -/
def sampleFees : ICustomFees where
  fixedFees :=
    [⟨some 5, "0.0.5".toList, none, true⟩,
      ⟨some 1500000, "0.0.6".toList, some "0.0.9".toList, false⟩]
  fractionalFees := [⟨1, 100, "0.0.5".toList, some 0, some 30, true, false⟩]

/-- A token with two decimals; the token `0.0.9` has as many as are given. -/
def sampleToken (others : Text) : MirrorToken where
  tokenId := ⟨"0.0.7".toList, by decide⟩
  decimals := some "2".toList
  customFees := some sampleFees
  decimalsOf := fun id => if id = "0.0.9".toList then some others else none

theorem sample_answers : Answers (sampleToken "6".toList) 2 sampleFees where
  listed := rfl
  own := by decide +kernel
  few := by decide
  others := by
    intro fee member id denominating _
    have named : id = "0.0.9".toList := by
      have cases_ : fee.denominatingTokenId = none ∨
          fee.denominatingTokenId = some "0.0.9".toList := by
        rcases List.mem_cons.mp member with same | later
        · exact Or.inl (by rw [same])
        · exact Or.inr (by rw [List.mem_singleton.mp later])
      rcases cases_ with none_ | other
      · rw [none_] at denominating
        cases denominating
      · rw [other] at denominating
        exact (Option.some.inj denominating).symm
    refine ⟨6, ?_, by decide⟩
    rw [named]
    decide +kernel
  fixedFees := by
    intro fee member
    rcases List.mem_cons.mp member with same | later
    · rw [same]
      refine ⟨by decide, by decide, ?_⟩
      intro id absent
      cases absent
    · rw [List.mem_singleton.mp later]
      refine ⟨by decide, by decide, ?_⟩
      intro id given
      rw [← Option.some.inj given]
      decide
  fractionalFees := by
    intro fee member
    rw [List.mem_singleton.mp member]
    exact ⟨by decide, by decide, by decide, by decide, by decide, by decide⟩

/-- The other token has 81 decimals: the amount is not read and nothing is sent. -/
theorem too_many_decimals_not_sent :
    (∀ fee ∈ sampleFees.fixedFees, fee.InRange) ∧
      (∀ fee ∈ sampleFees.fractionalFees, fee.InRange) ∧
      ¬AddingKeepsFees exactNumbers readLong (sampleToken "81".toList) sampleFees.reported := by
  refine ⟨sample_answers.fixedFees, sample_answers.fractionalFees, ?_⟩
  intro keeps
  obtain ⟨sent, _, sends, _⟩ := keeps
  have same := sends (some ⟨⟨0, 2⟩, .unfrozen, .granted⟩)
    ⟨⟨"0.0.5".toList, by decide⟩, NULL, ⟨1, 8⟩, true⟩
  have thrown : coinFees exactNumbers (sampleToken "81".toList) = none := by
    apply Option.isNone_iff_eq_none.mp
    decide +kernel
  rw [AddFixedFeesCommand.execute, sendWith, thrown] at same
  have added : (AddFixedFeesCommand.customFeeToAdd exactNumbers readLong
      ⟨⟨"0.0.5".toList, by decide⟩, NULL, ⟨1, 8⟩, true⟩) =
        some (.fixedFee 1 "0.0.5".toList true none) := by
    decide +kernel
  rw [added] at same
  cases same

theorem adding_keeps_sample_fees :
    AddingKeepsFees exactNumbers readLong (sampleToken "6".toList) sampleFees.reported ∧
      BuildsFees exactNumbers readLong :=
  adding_keeps_fees exact_laws long_laws sample_answers

end StablecoinStudio.Sdk.FeeSchedule
