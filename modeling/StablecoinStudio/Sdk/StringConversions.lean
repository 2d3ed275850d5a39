import StablecoinStudio.Sdk.FeeSchedule

/-!
# Conversions of a BigDecimal by way of its text

`toLong` puts the text of the number together again without its point, and
`toString` gives a text for `fromString`. Both keep the integer value.
-/

namespace StablecoinStudio.Sdk.StringConversions

open StablecoinStudio.Foundation.DecimalTexts
open StablecoinStudio.Sdk.BigDecimal
open StablecoinStudio.Sdk.FeeSchedule
open StablecoinStudio.Sdk.FixedNumber

set_option autoImplicit false

section Conversions

variable {fixed : Type} (ethers : FixedNumbers fixed) (parseLong : Text → Option Int)

/-- The text that is shown is the one of the package up to a `.0` at its end. -/
def DropsPointZero (value : fixed) : Prop :=
  ethers.toString value = BigDecimal.toString ethers value ++ [SEPARATOR, '0'] ∨
    (¬[SEPARATOR, '0'] <:+ ethers.toString value ∧
      BigDecimal.toString ethers value = ethers.toString value)

/-- What the text of a number is converted to agrees with its integer value. -/
structure ConversionsAgree (value : fixed) : Prop where
  toLong : toLong ethers parseLong value = some (toBigInt ethers value)
  fromString : ∃ copy,
    fromString ethers (BigDecimal.toString ethers value) (some (ethers.decimals value)) =
      some copy ∧
    ethers.decimals copy = ethers.decimals value ∧ toBigInt ethers copy = toBigInt ethers value
  toString : DropsPointZero ethers value

variable {ethers parseLong}

theorem drops_point_zero (value : fixed) : DropsPointZero ethers value := by
  by_cases ends : [SEPARATOR, '0'] <:+ ethers.toString value
  · obtain ⟨shown, text⟩ := ends
    exact Or.inl (by rw [toString_of_point_zero text.symm, text])
  · refine Or.inr ⟨ends, ?_⟩
    have other : ¬(ethers.toString value).drop ((ethers.toString value).length - 2) =
        [SEPARATOR, '0'] := by
      intro same
      exact ends (same ▸ List.drop_suffix _ _)
    rw [BigDecimal.toString, if_neg other]

theorem conversions_agree (laws : FormatLaws ethers) (longs : SignedLongLaws parseLong)
    (value : fixed) (lower : -2 ^ 63 ≤ toBigInt ethers value)
    (upper : toBigInt ethers value < 2 ^ 63) :
    ConversionsAgree ethers parseLong value := by
  have is : ethers.Is value (ethers.decimals value) (toBigInt ethers value) := ⟨rfl, rfl⟩
  have fits := representable_of_long laws value lower upper
  obtain ⟨copy, read, copyIs⟩ := fromString_toString laws.toLaws is fits
  exact ⟨toLong_signed laws.toLaws longs is lower upper,
    ⟨copy, read, copyIs.decimals, copyIs.value⟩, drops_point_zero value⟩

end Conversions

/-! ## The integers to evaluate on -/

theorem signed_long_laws : SignedLongLaws readLong where
  toLongLaws := long_laws
  reads_least := by
    intro digits valid least
    have some_ : digits ≠ [] := by
      intro empty
      rw [empty, number_nil] at least
      omega
    rw [readLong_negative valid some_, least]
    rfl

/-- Five hundredths below zero, shown as `-0.05`. -/
theorem five_hundredths_agree :
    (formattedNumbers.toString ⟨⟨-5, 2⟩, Nat.le_of_ble_eq_true rfl⟩ = "-0.05".toList) ∧
      ConversionsAgree formattedNumbers readLong ⟨⟨-5, 2⟩, Nat.le_of_ble_eq_true rfl⟩ :=
  ⟨by decide +kernel,
    conversions_agree formatted_laws signed_long_laws ⟨⟨-5, 2⟩, Nat.le_of_ble_eq_true rfl⟩
      (by decide) (by decide)⟩

end StablecoinStudio.Sdk.StringConversions
