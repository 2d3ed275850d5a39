import StablecoinStudio.Sdk.BigDecimal

/-!
# What `setDecimals` keeps

With enough decimals for its text a number loses its fraction, and with fewer
it keeps as many fractional digits as its text has over them.
-/

namespace StablecoinStudio.Sdk.SetDecimals

open StablecoinStudio.Foundation.DecimalQuantities
open StablecoinStudio.Foundation.DecimalTexts
open StablecoinStudio.Sdk.BigDecimal
open StablecoinStudio.Sdk.FixedNumber

set_option autoImplicit false

/-- The fractional digits that stay of a text with so many of them. -/
def keptPlaces (places value : Nat) : Nat := if value < places then places - value else 0

def carriedDecimals (places value : Nat) : Nat :=
  if value < places then max (places - value) value else value

def keptText (decimal : DecimalText) (value : Nat) : DecimalText :=
  if value < decimal.places then decimal.cut (decimal.places - value) else decimal.integer

section Kept

variable {fixed : Type} {ethers : FixedNumbers fixed} {x : fixed} {decimal : DecimalText}
  {value : Nat}

theorem kept_le_carried (places value : Nat) :
    keptPlaces places value ≤ carriedDecimals places value := by
  unfold keptPlaces carriedDecimals
  split <;> omega

theorem kept_text_places : (keptText decimal value).places = keptPlaces decimal.places value := by
  unfold keptText keptPlaces
  split
  · next fewer =>
      rw [DecimalText.places, DecimalText.fractional_cut, List.length_take]
      exact Nat.min_eq_left (Nat.sub_le ..)
  · rfl

theorem kept_text_whole : (keptText decimal value).whole = decimal.whole := by
  unfold keptText
  split <;> rfl

theorem kept_text_amount :
    (keptText decimal value).amount = truncated (keptPlaces decimal.places value) decimal.amount := by
  unfold keptText keptPlaces
  split
  · exact DecimalText.amount_cut (Nat.sub_le ..)
  · exact DecimalText.amount_integer

theorem set_decimals_reads (written : Writes ethers x decimal) :
    setDecimals ethers x value =
      ethers.fromString (keptText decimal value).text (carriedDecimals decimal.places value) := by
  have parts : (ethers.toString x).splitOn SEPARATOR =
      decimal.integerText :: decimal.fraction.toList := by
    rw [written.text]
    exact DecimalText.split_text _
  have fractional : (decimal.integerText :: decimal.fraction.toList).getD 1 [] =
      decimal.fractional := by
    unfold DecimalText.fractional
    cases decimal.fraction <;> rfl
  have first : (decimal.integerText :: decimal.fraction.toList).getD 0 [] =
      decimal.integerText := rfl
  unfold setDecimals
  dsimp only
  rw [parts, fractional, first]
  unfold keptText carriedDecimals
  by_cases fewer : value < decimal.places
  · have some_ : decimal.fractional ≠ [] := by
      intro none_
      rw [DecimalText.places, none_] at fewer
      exact absurd fewer (Nat.not_lt_zero _)
    have length : (decimal.fractional.take (decimal.fractional.length - value)).length =
        decimal.places - value := by
      rw [List.length_take, DecimalText.places]
      exact Nat.min_eq_left (Nat.sub_le ..)
    have cutText : decimal.integerText ++
        SEPARATOR :: decimal.fractional.take (decimal.fractional.length - value) =
        (decimal.cut (decimal.places - value)).text := by
      unfold DecimalText.fractional at some_ ⊢
      unfold DecimalText.text DecimalText.places DecimalText.fractional
      cases given : decimal.fraction with
      | none =>
          rw [given] at some_
          exact absurd rfl some_
      | some digits => simp [DecimalText.cut, given, DecimalText.integerText, DecimalText.sign,
          SEPARATOR]
    rw [if_pos ⟨some_, fewer⟩, if_pos fewer, if_pos fewer, length, cutText]
    rfl
  · rw [if_neg fun both => fewer both.2, if_neg fewer, if_neg fewer, Nat.max_eq_right (Nat.zero_le _)]
    rfl

theorem set_decimals_result (laws : Laws ethers) {y : fixed}
    (given : setDecimals ethers x value = some y) :
    ethers.decimals y = carriedDecimals (ethers.places x) value ∧
      ethers.amount y = truncated (keptPlaces (ethers.places x) value) (ethers.amount x) := by
  obtain ⟨decimal, written⟩ := laws.writes x
  have digits : (keptText decimal value).whole ++ (keptText decimal value).fractional ≠ [] := by
    rw [kept_text_whole]
    exact List.append_ne_nil_of_left_ne_nil written.whole _
  have enough : (keptText decimal value).places ≤ carriedDecimals decimal.places value := by
    rw [kept_text_places]
    exact kept_le_carried _ _
  rw [set_decimals_reads written] at given
  have read := amount_of_read laws enough digits given
  rw [kept_text_amount, written.amount, written.places] at read
  exact read

/-- `setDecimals` returns exactly when the format of the result has the units. -/
theorem set_decimals_returns (laws : Laws ethers) {units : Int}
    (scaled : quantity (carriedDecimals (ethers.places x) value) units =
      truncated (keptPlaces (ethers.places x) value) (ethers.amount x)) :
    (∃ y, setDecimals ethers x value = some y) ↔
      Representable (carriedDecimals (ethers.places x) value) units := by
  obtain ⟨decimal, written⟩ := laws.writes x
  have digits : (keptText decimal value).whole ++ (keptText decimal value).fractional ≠ [] := by
    rw [kept_text_whole]
    exact List.append_ne_nil_of_left_ne_nil written.whole _
  have enough : (keptText decimal value).places ≤ carriedDecimals decimal.places value := by
    rw [kept_text_places]
    exact kept_le_carried _ _
  have sameUnits : (keptText decimal value).unitsAt (carriedDecimals decimal.places value) =
      units := by
    rw [← written.places, ← written.amount, ← kept_text_amount,
      ← DecimalText.quantity_units_at enough] at scaled
    exact quantity_injective _ scaled.symm
  rw [set_decimals_reads written, laws.accepts _ _ enough digits, sameUnits, written.places]

/-- With decimals enough for the format a number loses its whole fraction. -/
theorem set_decimals_whole (laws : Laws ethers) {decimals : Nat} {units : Int}
    (is : ethers.Is x decimals units) (enough : decimals ≤ value)
    (fits : Representable value (truncatedUnits 0 (quantity decimals units) * 10 ^ value)) :
    ∃ y, setDecimals ethers x value = some y ∧ ethers.decimals y = value ∧
      ethers.amount y = truncated 0 (quantity decimals units) := by
  have places : ethers.places x ≤ value := by
    rw [FixedNumbers.places, is.decimals]
    exact Nat.le_trans (writtenPlaces_le _ _) enough
  have kept : keptPlaces (ethers.places x) value = 0 := if_neg (Nat.not_lt.mpr places)
  have carried : carriedDecimals (ethers.places x) value = value :=
    if_neg (Nat.not_lt.mpr places)
  have shifted := quantity_shift 0 value (truncatedUnits 0 (quantity decimals units))
  have scaled : quantity (carriedDecimals (ethers.places x) value)
      (truncatedUnits 0 (quantity decimals units) * 10 ^ value) =
        truncated (keptPlaces (ethers.places x) value) (ethers.amount x) := by
    rw [Nat.zero_add] at shifted
    rw [carried, kept, is.amount, shifted, truncated]
  obtain ⟨y, given⟩ := (set_decimals_returns laws scaled).mpr (by rw [carried]; exact fits)
  obtain ⟨resultDecimals, amount⟩ := set_decimals_result laws given
  rw [carried] at resultDecimals
  rw [kept, is.amount] at amount
  exact ⟨y, given, resultDecimals, amount⟩

end Kept

/-! ## The value -/

section Value

variable {fixed : Type} (ethers : FixedNumbers fixed)

/-- The number itself where the decimals are enough for its significant digits,
else its first digits; the result carries the decimals. -/
def ValueKept (x : fixed) (value : Nat) : Prop :=
  ∃ y, setDecimals ethers x value = some y ∧ ethers.decimals y = value ∧
    (ethers.significantPlaces x ≤ value → ethers.amount y = ethers.amount x) ∧
    (value < ethers.significantPlaces x → ethers.amount y = truncated value (ethers.amount x)) ∧
    |ethers.amount x - ethers.amount y| < 1 / 10 ^ value

/-- A whole number whose text has no more places than asked for; or a text with
more places, but at most twice as many, and zeros at the places that are lost. -/
def NoDigitLost (x : fixed) (value : Nat) : Prop :=
  ethers.places x ≤ value ∧ ethers.significantPlaces x = 0 ∨
    value < ethers.places x ∧ ethers.places x ≤ 2 * value ∧
      10 ^ (2 * value - ethers.places x) ∣ ⌊|ethers.amount x| * 10 ^ value⌋₊

/-- And the format that is asked for has the number. -/
structure DigitsSurvive (x : fixed) (value : Nat) : Prop where
  representable : Representable value (truncatedUnits value (ethers.amount x))
  digits : NoDigitLost ethers x value

variable {ethers} {x : fixed} {value : Nat}

theorem truncated_significant (enough : ethers.significantPlaces x ≤ value) :
    truncated value (ethers.amount x) = ethers.amount x := by
  obtain ⟨whole, scaled⟩ := (significant_le_iff _ _ _).mp enough
  exact truncated_of_integer scaled

/-- The value is kept where the result is the truncated number, with the
decimals asked for. -/
theorem value_kept_iff :
    ValueKept ethers x value ↔ ∃ y, setDecimals ethers x value = some y ∧
      ethers.decimals y = value ∧ ethers.amount y = truncated value (ethers.amount x) := by
  constructor
  · intro kept
    obtain ⟨y, given, decimals, enough, tooFew, _⟩ := kept
    refine ⟨y, given, decimals, ?_⟩
    rcases Nat.lt_or_ge value (ethers.significantPlaces x) with fewer | more
    · exact tooFew fewer
    · rw [truncated_significant more]
      exact enough more
  · intro kept
    obtain ⟨y, given, decimals, amount⟩ := kept
    refine ⟨y, given, decimals, ?_, fun _ => amount, ?_⟩
    · intro more
      rw [amount, truncated_significant more]
    · rw [amount]
      exact truncated_error value (ethers.amount x)

/-- The two decimals agree: the text has no more places, or at most twice as
many. -/
theorem carried_decimals_iff (places value : Nat) :
    carriedDecimals places value = value ↔ places ≤ value ∨ value < places ∧ places ≤ 2 * value := by
  unfold carriedDecimals
  split <;> omega

theorem kept_digits_iff (carried : carriedDecimals (ethers.places x) value = value) :
    truncated (keptPlaces (ethers.places x) value) (ethers.amount x) =
        truncated value (ethers.amount x) ↔ NoDigitLost ethers x value := by
  have significantFewer : ethers.significantPlaces x ≤ ethers.places x :=
    significant_le_writtenPlaces (ethers.decimals x) (ethers.value x)
  rcases (carried_decimals_iff _ _).mp carried with short | long
  · have none_ : keptPlaces (ethers.places x) value = 0 := if_neg (Nat.not_lt.mpr short)
    rw [none_, truncated_significant (Nat.le_trans significantFewer short)]
    constructor
    · intro whole
      left
      refine ⟨short, Nat.le_zero.mp ((significant_le_iff _ _ _).mpr ?_)⟩
      refine ⟨truncatedUnits 0 (ethers.amount x), ?_⟩
      rw [truncated, quantity, pow_zero, div_one] at whole
      rw [pow_zero, mul_one]
      exact whole.symm
    · intro digits
      rcases digits with whole | many
      · exact truncated_significant (Nat.le_of_eq whole.2)
      · exact absurd many.1 (Nat.not_lt.mpr short)
  · have some_ : keptPlaces (ethers.places x) value = ethers.places x - value := if_pos long.1
    have fewer : ethers.places x - value ≤ value := by omega
    have lost : value - (ethers.places x - value) = 2 * value - ethers.places x := by omega
    rw [some_, truncated_eq_iff fewer, lost]
    constructor
    · intro zeros
      exact Or.inr ⟨long.1, long.2, zeros⟩
    · intro digits
      rcases digits with short | zeros
      · exact absurd short.1 (Nat.not_le.mpr long.1)
      · exact zeros.2.2

theorem value_kept_of_digits (laws : Laws ethers) (survive : DigitsSurvive ethers x value) :
    ValueKept ethers x value := by
  have carried : carriedDecimals (ethers.places x) value = value := by
    rw [carried_decimals_iff]
    rcases survive.digits with short | long
    · exact Or.inl short.1
    · exact Or.inr ⟨long.1, long.2.1⟩
  have same := (kept_digits_iff carried).mpr survive.digits
  have scaled : quantity (carriedDecimals (ethers.places x) value)
      (truncatedUnits value (ethers.amount x)) =
        truncated (keptPlaces (ethers.places x) value) (ethers.amount x) := by
    rw [carried, same, truncated]
  have fits : Representable (carriedDecimals (ethers.places x) value)
      (truncatedUnits value (ethers.amount x)) := by
    rw [carried]
    exact survive.representable
  obtain ⟨y, given⟩ := (set_decimals_returns laws scaled).mpr fits
  have result := set_decimals_result laws given
  exact value_kept_iff.mpr ⟨y, given, result.1.trans carried, result.2.trans same⟩

theorem digits_of_value_kept (laws : Laws ethers) (kept : ValueKept ethers x value) :
    DigitsSurvive ethers x value := by
  obtain ⟨y, given, decimals, amount⟩ := value_kept_iff.mp kept
  have result := set_decimals_result laws given
  have carried := result.1.symm.trans decimals
  have same := result.2.symm.trans amount
  have scaled : quantity (carriedDecimals (ethers.places x) value)
      (truncatedUnits value (ethers.amount x)) =
        truncated (keptPlaces (ethers.places x) value) (ethers.amount x) := by
    rw [carried, same, truncated]
  have fits := (set_decimals_returns laws scaled).mp ⟨y, given⟩
  rw [carried] at fits
  exact ⟨fits, (kept_digits_iff carried).mp same⟩

end Value

/-- The value is kept exactly where the digits survive, and between such
numbers the order is kept. -/
theorem value_kept_iff_digits_survive {fixed : Type} (ethers : FixedNumbers fixed)
    (laws : Laws ethers) :
    (∀ x value, ValueKept ethers x value ↔ DigitsSurvive ethers x value) ∧
    ∀ x other value y z, DigitsSurvive ethers x value → DigitsSurvive ethers other value →
      setDecimals ethers x value = some y → setDecimals ethers other value = some z →
      ethers.amount x ≤ ethers.amount other → ethers.amount y ≤ ethers.amount z := by
  constructor
  · intro x value
    exact ⟨digits_of_value_kept laws, value_kept_of_digits laws⟩
  · intro x other value y z first second givenFirst givenSecond ordered
    obtain ⟨y', sameFirst, _, amountFirst⟩ := value_kept_iff.mp (value_kept_of_digits laws first)
    obtain ⟨z', sameSecond, _, amountSecond⟩ :=
      value_kept_iff.mp (value_kept_of_digits laws second)
    rw [Option.some.inj (givenFirst.symm.trans sameFirst),
      Option.some.inj (givenSecond.symm.trans sameSecond), amountFirst, amountSecond]
    exact truncated_mono value ordered

/-- 12.34 with one decimal is 12.3. -/
theorem value_kept_iff_digits_survive_on_samples :
    ValueKept exactNumbers ⟨1234, 2⟩ 1 := by
  refine ((value_kept_iff_digits_survive exactNumbers exact_laws).1 ⟨1234, 2⟩ 1).mpr ⟨?_, ?_⟩
  · exact ⟨by decide, by decide +kernel, by decide +kernel⟩
  · exact Or.inr (by decide +kernel)

/-- 1.25 with three decimals is 1. -/
theorem fraction_lost : setDecimals exactNumbers ⟨125, 2⟩ 3 = some ⟨1000, 3⟩ ∧
    ¬ValueKept exactNumbers ⟨125, 2⟩ 3 := by
  have result : setDecimals exactNumbers ⟨125, 2⟩ 3 = some ⟨1000, 3⟩ := by decide +kernel
  refine ⟨result, ?_⟩
  intro kept
  obtain ⟨y, given, _, enough, _⟩ := kept
  have same := enough (by decide +kernel)
  rw [← Option.some.inj (result.symm.trans given)] at same
  revert same
  decide +kernel

end StablecoinStudio.Sdk.SetDecimals
