import Mathlib.Data.List.TakeWhile
import StablecoinStudio.Sdk.TokenKeys

/-!
# Hex

The SDK writes bytes as hexadecimal text in lower case, two digits a byte, and
reads such texts with `Buffer.from`.
-/

namespace StablecoinStudio.Sdk.Hex

open StablecoinStudio.Backend.Utils
open StablecoinStudio.Foundation.DecimalTexts
open StablecoinStudio.Sdk.TokenKeys

set_option autoImplicit false

/-- `('0' + byte.toString(16)).slice(-2)`. -/
def byteText (byte : UInt8) : Text :=
  let text := '0' :: Nat.toDigits 16 byte.toNat
  text.drop (text.length - 2)

def fromUint8Array (uint8ArrayKey : Bytes) : Text := uint8ArrayKey.flatMap byteText

def toUint8Array (hex : Text) : Bytes := bufferFromHex hex

/-! ## Digits -/

section Digits

variable {digit : Char} {value : Nat}

theorem hexDigit_digitChar (small : value < 16) : hexDigit (Nat.digitChar value) = some value := by
  have all : ∀ value < 16, hexDigit (Nat.digitChar value) = some value := by decide
  exact all value small

theorem lower_digitChar (small : value < 16) :
    (Nat.digitChar value).toLower = Nat.digitChar value := by
  have all : ∀ value < 16, (Nat.digitChar value).toLower = Nat.digitChar value := by decide
  exact all value small

theorem le_of_hexDigit (read : hexDigit digit = some value) : digit.toNat < 'f'.toNat + 1 := by
  have before : ∀ {last : Char}, last.toNat ≤ 'f'.toNat → digit ≤ last →
      digit.toNat < 'f'.toNat + 1 := by
    intro last earlier upper
    exact Nat.lt_succ_of_le (Nat.le_trans upper earlier)
  unfold hexDigit at read
  split at read
  · next decimal => exact before (by decide) decimal.2
  · split at read
    · next lower => exact before (by decide) lower.2
    · split at read
      · next upper => exact before (by decide) upper.2
      · cases read

theorem digitChar_of_hexDigit (read : hexDigit digit = some value) :
    value < 16 ∧ Nat.digitChar value = digit.toLower := by
  have all : ∀ code < 'f'.toNat + 1, (hexDigit (Char.ofNat code)).all (fun value =>
      decide (value < 16 ∧ Nat.digitChar value = (Char.ofNat code).toLower)) = true := by
    decide
  have holds := all digit.toNat (le_of_hexDigit read)
  rw [Char.ofNat_toNat, read] at holds
  exact of_decide_eq_true holds

end Digits

/-! ## Bytes -/

section Bytes

theorem byteText_digits (byte : UInt8) :
    byteText byte = [Nat.digitChar (byte.toNat / 16), Nat.digitChar (byte.toNat % 16)] := by
  have bounded : byte.toNat < 256 := byte.toNat_lt
  unfold byteText
  rcases Nat.lt_or_ge byte.toNat 16 with short | long
  · rw [Nat.toDigits_of_lt_base short, Nat.div_eq_of_lt short, Nat.mod_eq_of_lt short]
    rfl
  · have first : byte.toNat / 16 < 16 := by omega
    rw [Nat.toDigits_of_base_le (by decide) long, Nat.toDigits_of_lt_base first]
    rfl

theorem fromUint8Array_cons (byte : UInt8) (bytes : Bytes) :
    fromUint8Array (byte :: bytes) =
      Nat.digitChar (byte.toNat / 16) :: Nat.digitChar (byte.toNat % 16) ::
        fromUint8Array bytes := by
  rw [fromUint8Array, List.flatMap_cons, byteText_digits]
  rfl

theorem low_digit_lt (byte : UInt8) : byte.toNat % 16 < 16 := Nat.mod_lt _ (by decide)

theorem high_digit_lt (byte : UInt8) : byte.toNat / 16 < 16 := by
  have bounded : byte.toNat < 256 := byte.toNat_lt
  omega

/-- What is written are digits, in lower case already. -/
theorem fromUint8Array_digits (bytes : Bytes) :
    (fromUint8Array bytes).all isHexDigit = true ∧
      (fromUint8Array bytes).map Char.toLower = fromUint8Array bytes := by
  induction bytes with
  | nil => exact ⟨rfl, rfl⟩
  | cons byte bytes ih =>
    have high := high_digit_lt byte
    have low := low_digit_lt byte
    rw [fromUint8Array_cons]
    constructor
    · simp [isHexDigit, hexDigit_digitChar high, hexDigit_digitChar low, ih.1]
    · rw [List.map_cons, List.map_cons, lower_digitChar high, lower_digitChar low, ih.2]

theorem parseHexPair_digits (byte : UInt8) :
    parseHexPair (Nat.digitChar (byte.toNat / 16), Nat.digitChar (byte.toNat % 16)) = byte := by
  rw [parseHexPair, hexDigit_digitChar (high_digit_lt byte), hexDigit_digitChar (low_digit_lt byte),
    Option.getD_some, Option.getD_some, Nat.div_add_mod', UInt8.ofNat_toNat]

/-- Each byte is written as one pair, which is read as the byte. -/
theorem pairs_of_bytes (bytes : Bytes) :
    (hexPairs (fromUint8Array bytes)).map parseHexPair = bytes := by
  induction bytes with
  | nil => rfl
  | cons byte bytes ih =>
    rw [fromUint8Array_cons, hexPairs, List.map_cons, parseHexPair_digits, ih]

theorem byteText_parseHexPair {first second : Char} (firstDigit : isHexDigit first = true)
    (secondDigit : isHexDigit second = true) :
    byteText (parseHexPair (first, second)) = [first.toLower, second.toLower] := by
  obtain ⟨high, readHigh⟩ := Option.isSome_iff_exists.mp firstDigit
  obtain ⟨low, readLow⟩ := Option.isSome_iff_exists.mp secondDigit
  obtain ⟨highSmall, highChar⟩ := digitChar_of_hexDigit readHigh
  obtain ⟨lowSmall, lowChar⟩ := digitChar_of_hexDigit readLow
  have value : (parseHexPair (first, second)).toNat = high * 16 + low := by
    rw [parseHexPair, readHigh, readLow, Option.getD_some, Option.getD_some, UInt8.toNat_ofNat']
    omega
  have quotient : (high * 16 + low) / 16 = high := by omega
  have remainder : (high * 16 + low) % 16 = low := by omega
  rw [byteText_digits, value, quotient, remainder, highChar, lowChar]

end Bytes

/-! ## Texts of digits -/

section Texts

variable {text : Text}

theorem pairs_of_digits (digits : text.all isHexDigit = true) :
    ∀ pair ∈ hexPairs text, isHexDigit pair.1 = true ∧ isHexDigit pair.2 = true := by
  fun_induction hexPairs text with
  | case1 first second rest ih =>
    rw [List.all_cons, List.all_cons, Bool.and_eq_true, Bool.and_eq_true] at digits
    intro pair member
    rcases List.mem_cons.mp member with same | later
    · rw [same]
      exact ⟨digits.1, digits.2.1⟩
    · exact ih digits.2.2 pair later
  | case2 => exact fun pair member => absurd member List.not_mem_nil

theorem toUint8Array_digits (digits : text.all isHexDigit = true) :
    toUint8Array text = (hexPairs text).map parseHexPair := by
  have kept : ((hexPairs text).takeWhile fun pair => isHexDigit pair.1 && isHexDigit pair.2) =
      hexPairs text := by
    apply List.takeWhile_eq_self_iff.mpr
    intro pair member
    exact Bool.and_eq_true_iff.mpr (pairs_of_digits digits pair member)
  rw [toUint8Array, bufferFromHex, kept]

theorem toUint8Array_fromUint8Array (bytes : Bytes) :
    toUint8Array (fromUint8Array bytes) = bytes := by
  rw [toUint8Array_digits (fromUint8Array_digits bytes).1, pairs_of_bytes]

/-- The pairs of a text are written as the text up to a last single digit. -/
theorem fromUint8Array_pairs (digits : text.all isHexDigit = true) :
    fromUint8Array ((hexPairs text).map parseHexPair) =
      ((hexPairs text).flatMap fun pair => [pair.1, pair.2]).map Char.toLower := by
  have valid := pairs_of_digits digits
  generalize hexPairs text = pairs at valid ⊢
  induction pairs with
  | nil => rfl
  | cons pair pairs ih =>
    have first := valid pair (List.mem_cons_self ..)
    have later := ih fun other member => valid other (List.mem_cons_of_mem _ member)
    rw [List.map_cons, fromUint8Array, List.flatMap_cons, byteText_parseHexPair first.1 first.2,
      List.flatMap_cons, List.map_append, ← later]
    rfl

end Texts

end StablecoinStudio.Sdk.Hex
