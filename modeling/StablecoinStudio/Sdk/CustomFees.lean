import Mathlib.Data.List.TakeWhile
import StablecoinStudio.Foundation.FloatIntegers
import StablecoinStudio.Sdk.StableCoins

/-!
# Custom fees of a request

A request names a fee by the keys its object has: one with an amount is fixed,
another with a numerator is fractional, also where the value is missing.
-/

namespace StablecoinStudio.Sdk.CustomFees

open StablecoinStudio.Foundation.DecimalTexts
open StablecoinStudio.Foundation.FloatIntegers
open StablecoinStudio.Sdk.BigDecimal
open StablecoinStudio.Sdk.StableCoins

set_option autoImplicit false

def MAX_CUSTOM_FEES : Nat := 10

def MAX_PERCENTAGE_DECIMALS : Nat := 2

def HBAR_DECIMALS : Nat := 8

/-! ## `parseInt` -/

def digitValue (character : Char) : Nat :=
  if character.isDigit then character.toNat - 48
  else if character.isLower then character.toNat - 87
  else if character.isUpper then character.toNat - 55
  else 36

/-- The digits in front, as the value they have. -/
def readInteger (radix : Nat) (text : Text) : Option Nat :=
  let digits := text.takeWhile fun character => digitValue character < radix
  if digits = [] then none
  else some (digits.foldl (fun value digit => value * radix + digitValue digit) 0)

def readMagnitude : Text → Option Nat
  | '0' :: 'x' :: rest => readInteger 16 rest
  | '0' :: 'X' :: rest => readInteger 16 rest
  | text => readInteger 10 text

/-- `none` is `NaN`; the other results are numbers of the format. -/
def parseInt (value : Text) : Option Int :=
  match value.dropWhile isWhiteSpace with
  | '-' :: rest => (readMagnitude rest).map fun magnitude => -(nearest numberBits magnitude : Int)
  | '+' :: rest => (readMagnitude rest).map fun magnitude => (nearest numberBits magnitude : Int)
  | text => (readMagnitude text).map fun magnitude => (nearest numberBits magnitude : Int)

theorem digitValue_digit {digit : Char} (isDigit : digit.isDigit = true) :
    digitValue digit = digit.toNat - 48 ∧ digitValue digit < 10 := by
  have value : digitValue digit = digit.toNat - 48 := by
    rw [digitValue, if_pos isDigit]
  simp only [Char.isDigit, Bool.and_eq_true, decide_eq_true_eq] at isDigit
  have upper : digit.toNat ≤ 57 := isDigit.2
  exact ⟨value, by omega⟩

theorem readInteger_digits {digits : Text} (valid : Digits digits) (some_ : digits ≠ []) :
    readInteger 10 digits = some (number digits) := by
  have all : digits.takeWhile (fun character => digitValue character < 10) = digits := by
    apply List.takeWhile_eq_self_iff.mpr
    intro digit member
    exact decide_eq_true (digitValue_digit (valid digit member)).2
  have fold : ∀ start : Nat,
      digits.foldl (fun value digit => value * 10 + digitValue digit) start =
        Nat.ofDigitChars 10 digits start := by
    clear all some_
    induction digits with
    | nil => exact fun _ => rfl
    | cons digit rest ih =>
      intro start
      rw [List.foldl_cons, Nat.ofDigitChars_cons, (digitValue_digit (valid digit
        (List.mem_cons_self ..))).1, Nat.mul_comm start]
      exact ih (fun other member => valid other (List.mem_cons_of_mem _ member)) _
  rw [readInteger, all, if_neg some_, fold]
  rfl

/-- A text of digits has no sign, no space in front and no mark of hexadecimals. -/
theorem parseInt_digits {digits : Text} (valid : Digits digits) (some_ : digits ≠ []) :
    parseInt digits = some (nearest numberBits (number digits) : Int) := by
  cases digits with
  | nil => exact absurd rfl some_
  | cons digit rest =>
    have isDigit := valid digit (List.mem_cons_self ..)
    have noMark : ∀ mark ∈ rest.head?, mark ≠ 'x' ∧ mark ≠ 'X' := by
      intro mark given
      have markDigit := valid mark (List.mem_cons_of_mem _ (List.mem_of_head? given))
      constructor <;> intro same <;> rw [same] at markDigit <;> exact absurd markDigit (by decide)
    have magnitude : readMagnitude (digit :: rest) = some (number (digit :: rest)) := by
      unfold readMagnitude
      split
      · next same => exact absurd rfl (noMark 'x' (by rw [(List.cons.inj same).2]; rfl)).1
      · next same => exact absurd rfl (noMark 'X' (by rw [(List.cons.inj same).2]; rfl)).2
      · exact readInteger_digits valid some_
    rw [parseInt, List.dropWhile_cons, digit_not_space isDigit, if_neg Bool.false_ne_true]
    split
    · next same =>
      rw [(List.cons.inj same).1] at isDigit
      exact absurd isDigit (by decide)
    · next same =>
      rw [(List.cons.inj same).1] at isDigit
      exact absurd isDigit (by decide)
    · rw [magnitude, Option.map_some]

theorem parseInt_natural {value : Nat} (small : value < 2 ^ 53) :
    parseInt (Nat.toDigits 10 value) = some (value : Int) := by
  rw [parseInt_digits (digits_to_digits value) Nat.toDigits_ne_nil, number_to_digits, numberBits,
    nearest_of_lt (by decide) small]

/-! ## Fees -/

/-- `RequestFixedFee` and `RequestFractionalFee`. The outer option of the two
keys that tell them apart says whether the object has the key. -/
structure RequestCustomFee where
  collectorId : Option Text
  collectorsExempt : Option Bool
  decimals : Option Nat
  amount : Option (Option Text)
  tokenIdCollected : Option Text
  percentage : Option Text
  amountNumerator : Option (Option Text)
  amountDenominator : Option Text
  min : Option Text
  max : Option Text
  net : Option Bool

/-- An object with the keys of `RequestFixedFee`. -/
def RequestCustomFee.fixedFee (collectorId : Text) (collectorsExempt : Bool) (decimals : Nat)
    (amount tokenIdCollected : Text) : RequestCustomFee where
  collectorId := some collectorId
  collectorsExempt := some collectorsExempt
  decimals := some decimals
  amount := some (some amount)
  tokenIdCollected := some tokenIdCollected
  percentage := none
  amountNumerator := none
  amountDenominator := none
  min := none
  max := none
  net := none

/-- An object with the keys of `RequestFractionalFee`. -/
def RequestCustomFee.fractionalFee (collectorId : Text) (collectorsExempt : Bool) (decimals : Nat)
    (percentage amountNumerator amountDenominator min max : Text) (net : Bool) :
    RequestCustomFee where
  collectorId := some collectorId
  collectorsExempt := some collectorsExempt
  decimals := some decimals
  amount := none
  tokenIdCollected := none
  percentage := some percentage
  amountNumerator := some (some amountNumerator)
  amountDenominator := some amountDenominator
  min := some min
  max := some max
  net := some net

def isRequestFixedFee (fee : RequestCustomFee) : Bool := fee.amount.isSome

def isRequestFractionalFee (fee : RequestCustomFee) : Bool := fee.amountNumerator.isSome

end StablecoinStudio.Sdk.CustomFees
