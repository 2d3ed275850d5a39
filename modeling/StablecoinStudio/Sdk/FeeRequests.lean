import StablecoinStudio.Sdk.CustomFees
import StablecoinStudio.Sdk.Validation

/-!
# Validation of fees

The requests that add one fee check its fields. The request that replaces the
fees of a token builds such a request for each of them in a callback, and the
loop over the fees drops what the callback returns.
-/

namespace StablecoinStudio.Sdk.FeeRequests

open StablecoinStudio.Foundation.DecimalTexts
open StablecoinStudio.Sdk.BigDecimal
open StablecoinStudio.Sdk.CustomFees
open StablecoinStudio.Sdk.FixedNumber
open StablecoinStudio.Sdk.Validation

set_option autoImplicit false

section Requests

variable {fixed : Type} (ethers : FixedNumbers fixed)

/-! ## `AddFixedFeeRequest` -/

structure AddFixedFeeRequest where
  tokenId : Option Text
  collectorId : Option Text
  collectorsExempt : Option Bool
  decimals : Option Nat
  tokenIdCollected : Option Text
  amount : Option Text

namespace AddFixedFeeRequest

def checkAmount (this : AddFixedFeeRequest) (val : Text) : Check :=
  checkedAmount ethers val this.decimals do
    let zero ← fromString ethers ['0'] this.decimals
    let value ← fromString ethers val this.decimals
    if isLowerOrEqualThan ethers value zero then
      return [.invalidRange (BigDecimal.toString ethers value) "0+"]
    return []

def schema (this : AddFixedFeeRequest) : List Property :=
  [⟨"tokenId", false, this.tokenId.map (checkHederaIdFormat false)⟩,
    ⟨"collectorId", false, this.collectorId.map (checkHederaIdFormat false)⟩,
    ⟨"tokenIdCollected", false, this.tokenIdCollected.map (checkHederaIdFormat true)⟩,
    ⟨"amount", false, this.amount.map (this.checkAmount ethers)⟩]

end AddFixedFeeRequest

/-! ## `AddFractionalFeeRequest` -/

structure AddFractionalFeeRequest where
  tokenId : Option Text
  collectorId : Option Text
  collectorsExempt : Option Bool
  decimals : Option Nat
  percentage : Option Text
  amountNumerator : Option Text
  amountDenominator : Option Text
  min : Option Text
  max : Option Text
  net : Option Bool

namespace AddFractionalFeeRequest

def checkNumerator (val : Text) : Check :=
  if val = [] then some []
  else
    match parseInt val with
    | none => some [.invalidType val]
    | some numerator => checkedDecimals ethers val (some 0)
        (if numerator < 1 then some [.invalidRange val "1"] else some [])

def denominatorTooSmall (denominator numerator : Int) : String :=
  "The denominator (" ++ toString denominator ++ ") should be greater than the numerator (" ++
    toString numerator ++ ")."

def checkDenominator (this : AddFractionalFeeRequest) (val : Text) : Check :=
  if val = [] then
    if (truthy this.amountNumerator).isSome then some [.invalidType val] else some []
  else
    match parseInt val with
    | none => some [.invalidType val]
    | some denominator => checkedDecimals ethers val (some 0)
        (match (truthy this.amountNumerator).bind parseInt with
        | none => some []
        | some numerator =>
            if denominator ≤ numerator then
              some [.invalidValue (denominatorTooSmall denominator numerator)]
            else some [])

def checkPercentage (this : AddFractionalFeeRequest) (val : Text) : Check :=
  if (truthy this.amountNumerator).isSome then some []
  else if val = [] then some [.invalidType val]
  else checkedAmount ethers val (some MAX_PERCENTAGE_DECIMALS) do
    let zero ← fromString ethers ['0'] (some MAX_PERCENTAGE_DECIMALS)
    let oneHundred ← fromString ethers "100".toList (some MAX_PERCENTAGE_DECIMALS)
    let value ← fromString ethers val (some MAX_PERCENTAGE_DECIMALS)
    if isLowerOrEqualThan ethers value zero || isGreaterOrEqualThan ethers value oneHundred then
      return [.invalidRange (BigDecimal.toString ethers value) "0+..100"]
    return []

def checkMin (this : AddFractionalFeeRequest) (val : Text) : Check :=
  if val = [] then some []
  else checkedAmount ethers val this.decimals do
    let zero ← fromString ethers ['0'] this.decimals
    let minimum ← fromString ethers val this.decimals
    if isLowerThan ethers minimum zero then return [.invalidRange val "0"]
    return []

def maximumTooSmall (max min : Text) : String :=
  "The maximum (" ++ String.ofList max ++ ") should be greater than or equal to the minimum (" ++
    String.ofList min ++ ")."

def checkMax (this : AddFractionalFeeRequest) (val : Text) : Check :=
  if val = [] then some []
  else checkedAmount ethers val this.decimals do
    let maximum ← fromString ethers val this.decimals
    match truthy this.min with
    | none => return []
    | some min => do
        let minimum ← fromString ethers min this.decimals
        if isGreaterThan ethers minimum maximum then
          return [.invalidValue (maximumTooSmall val min)]
        return []

def schema (this : AddFractionalFeeRequest) : List Property :=
  [⟨"tokenId", false, this.tokenId.map (checkHederaIdFormat false)⟩,
    ⟨"collectorId", false, this.collectorId.map (checkHederaIdFormat false)⟩,
    ⟨"amountNumerator", true, this.amountNumerator.map (checkNumerator ethers)⟩,
    ⟨"amountDenominator", true, this.amountDenominator.map (this.checkDenominator ethers)⟩,
    ⟨"percentage", true, this.percentage.map (this.checkPercentage ethers)⟩,
    ⟨"min", true, this.min.map (this.checkMin ethers)⟩,
    ⟨"max", true, this.max.map (this.checkMax ethers)⟩]

end AddFractionalFeeRequest

/-! ## `UpdateCustomFeesRequest` -/

structure UpdateCustomFeesRequest where
  customFees : Option (List RequestCustomFee)
  tokenId : Option Text

/-- What the callback returns for a fee. -/
inductive Built where
  | fixedFee (request : AddFixedFeeRequest)
  | fractionalFee (request : AddFractionalFeeRequest)
  | refused (errors : List BaseError)

namespace UpdateCustomFeesRequest

def build (this : UpdateCustomFeesRequest) (customFee : RequestCustomFee) : Built :=
  if isRequestFixedFee customFee then
    .fixedFee
      { tokenId := this.tokenId
        collectorId := customFee.collectorId
        collectorsExempt := customFee.collectorsExempt
        decimals := customFee.decimals
        tokenIdCollected := customFee.tokenIdCollected
        amount := customFee.amount.join }
  else if isRequestFractionalFee customFee then
    .fractionalFee
      { tokenId := this.tokenId
        collectorId := customFee.collectorId
        collectorsExempt := customFee.collectorsExempt
        decimals := customFee.decimals
        percentage := customFee.percentage
        amountNumerator := customFee.amountNumerator.join
        amountDenominator := customFee.amountDenominator
        min := customFee.min
        max := customFee.max
        net := customFee.net }
  else .refused [.notAFee]

/-- `forEach`, which drops what the callback returns. -/
def forEach {item result : Type} (items : List item) (callback : item → result) : Unit :=
  (items.map callback).foldl (fun _ _ => ()) ()

def checkCustomFees (this : UpdateCustomFeesRequest) (val : List RequestCustomFee) : Check :=
  if val.length = 0 then some []
  else if MAX_CUSTOM_FEES < val.length then
    some [.invalidLength (toString val.length) 0 MAX_CUSTOM_FEES]
  else
    match forEach val this.build with
    | () => some []

def schema (this : UpdateCustomFeesRequest) : List Property :=
  [⟨"tokenId", false, this.tokenId.map (checkHederaIdFormat false)⟩,
    ⟨"customFees", false, this.customFees.map this.checkCustomFees⟩]

/-- The fee is of one of the two kinds, and the request that adds it is accepted. -/
def Accepts (this : UpdateCustomFeesRequest) (customFee : RequestCustomFee) : Prop :=
  match this.build customFee with
  | .fixedFee request => validate (request.schema ethers) = []
  | .fractionalFee request => validate (request.schema ethers) = []
  | .refused _ => False

def ReportsError (this : UpdateCustomFeesRequest) (name : String) : Prop :=
  ∃ response ∈ validate this.schema, response.name = name

variable {this : UpdateCustomFeesRequest} {fees : List RequestCustomFee}

theorem checked_iff : this.checkCustomFees fees = some [] ↔ fees.length ≤ MAX_CUSTOM_FEES := by
  rw [checkCustomFees]
  by_cases empty : fees.length = 0
  · rw [if_pos empty, empty]
    exact iff_of_true rfl (Nat.zero_le _)
  · rw [if_neg empty, ← Nat.not_lt]
    by_cases long : MAX_CUSTOM_FEES < fees.length
    · rw [if_pos long]
      exact iff_of_false (by intro passed; cases passed) (not_not_intro long)
    · rw [if_neg long]
      exact iff_of_true rfl long

/-- Only the length of the list is ever reported. -/
theorem reports_iff (listed : this.customFees = some fees) :
    this.ReportsError "customFees" ↔ MAX_CUSTOM_FEES < fees.length := by
  have only : ∀ property ∈ this.schema, property.name = "customFees" →
      property = ⟨"customFees", false, some (this.checkCustomFees fees)⟩ := by
    intro property member named
    rw [schema, listed, Option.map_some, List.mem_cons, List.mem_singleton] at member
    cases member with
    | inl other =>
      rw [other] at named
      exact absurd named (show "tokenId" ≠ "customFees" by decide)
    | inr same => exact same
  rw [ReportsError, reported_iff, ← Nat.not_le, ← checked_iff]
  constructor
  · intro ⟨property, member, named, refused⟩
    rw [only property member named] at refused
    exact refused
  · intro refused
    refine ⟨⟨"customFees", false, some (this.checkCustomFees fees)⟩, ?_, rfl, refused⟩
    rw [schema, listed]
    exact List.mem_cons_of_mem _ (List.mem_singleton_self _)

end UpdateCustomFeesRequest

/-- Every fee of a list that is not too long has to be acceptable for the list to be validated. -/
theorem validates_every_fee_iff (fees : List RequestCustomFee) (tokenId : Option Text) :
    let request : UpdateCustomFeesRequest := ⟨some fees, tokenId⟩
    (request.ReportsError "customFees" ↔
        MAX_CUSTOM_FEES < fees.length ∨ ∃ fee ∈ fees, ¬request.Accepts ethers fee) ↔
      MAX_CUSTOM_FEES < fees.length ∨ ∀ fee ∈ fees, request.Accepts ethers fee := by
  intro request
  rw [UpdateCustomFeesRequest.reports_iff (show request.customFees = some fees from rfl)]
  by_cases long : MAX_CUSTOM_FEES < fees.length
  · exact iff_of_true (iff_of_true long (Or.inl long)) (Or.inl long)
  · have every : (∀ fee ∈ fees, request.Accepts ethers fee) ↔
        ¬∃ fee ∈ fees, ¬request.Accepts ethers fee := by
      simp only [not_exists, not_and, not_not]
    rw [iff_false_left long, or_iff_right long, or_iff_right long, every]

end Requests

/-! ## A fixed fee below zero -/

def feeBelowZero : RequestCustomFee :=
  .fixedFee "0.0.5".toList true 2 "-1".toList "0.0.0".toList

theorem fee_below_zero_unreported :
    let request : UpdateCustomFeesRequest := ⟨some [feeBelowZero], some "0.0.7".toList⟩
    ¬(request.ReportsError "customFees" ↔
      MAX_CUSTOM_FEES < [feeBelowZero].length ∨
        ∃ fee ∈ [feeBelowZero], ¬request.Accepts exactNumbers fee) := by
  intro request agree
  have refused : ¬request.Accepts exactNumbers feeBelowZero := by
    show ¬validate (AddFixedFeeRequest.schema exactNumbers _) = []
    decide +kernel
  have reported := agree.mpr (Or.inr ⟨feeBelowZero, List.mem_singleton_self _, refused⟩)
  rw [UpdateCustomFeesRequest.reports_iff (show request.customFees = some [feeBelowZero] from rfl)]
    at reported
  exact absurd reported (by decide)

end StablecoinStudio.Sdk.FeeRequests
