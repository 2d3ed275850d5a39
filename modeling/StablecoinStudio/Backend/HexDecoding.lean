import StablecoinStudio.Sdk.Hex

/-!
# What the backend decodes from hexadecimal text

`hexToUint8Array` looks at all the characters of a text and then takes them in
pairs. A last single digit is in no pair and is lost.
-/

namespace StablecoinStudio.Backend.HexDecoding

open StablecoinStudio.Backend.Utils
open StablecoinStudio.Foundation.DecimalTexts
open StablecoinStudio.Sdk.Hex

set_option autoImplicit false

def cleanHexString (hexString : String) : Text := withoutHexPrefix hexString.toList

def SameUpToCase (first second : Text) : Prop :=
  first.map Char.toLower = second.map Char.toLower

instance (first second : Text) : Decidable (SameUpToCase first second) :=
  inferInstanceAs (Decidable (first.map Char.toLower = second.map Char.toLower))

/-- The bytes, if there are any, are written as the text was. -/
def LosesNothing (hexString : String) : Prop :=
  ∀ bytes, hexToUint8Array hexString = .ok bytes →
    SameUpToCase (fromUint8Array bytes) (cleanHexString hexString)

/-- Whole pairs, or a text that is refused: a single character, or another
character than a digit. -/
def Whole (hexString : String) : Prop :=
  (cleanHexString hexString).length % 2 = 0 ∨ (cleanHexString hexString).length = 1 ∨
    (cleanHexString hexString).all isHexDigit = false

def unpaired : Text → Text
  | _ :: _ :: rest => unpaired rest
  | text => text

/-! ## Pairs -/

theorem pairs_append_unpaired (text : Text) :
    ((hexPairs text).flatMap fun pair => [pair.1, pair.2]) ++ unpaired text = text := by
  fun_induction hexPairs text with
  | case1 first second rest ih =>
    rw [unpaired, List.flatMap_cons, List.append_assoc, ih]
    rfl
  | case2 text noPair =>
    rw [unpaired]
    · rfl
    · exact noPair

theorem length_lt_two {text : Text}
    (noPair : ∀ first second rest, text = first :: second :: rest → False) : text.length < 2 := by
  cases text with
  | nil => exact Nat.zero_lt_two
  | cons first rest =>
    cases rest with
    | nil => exact Nat.one_lt_two
    | cons second rest => exact absurd rfl (noPair first second rest)

theorem unpaired_eq_nil (text : Text) : unpaired text = [] ↔ text.length % 2 = 0 := by
  fun_induction unpaired text with
  | case1 first second rest ih =>
    rw [ih, List.length_cons, List.length_cons]
    omega
  | case2 text noPair =>
    have short := length_lt_two noPair
    rw [← List.length_eq_zero_iff]
    omega

theorem pairs_eq_nil {text : Text} : hexPairs text = [] ↔ text.length < 2 := by
  fun_cases hexPairs text with
  | case1 first second rest =>
    rw [List.length_cons, List.length_cons]
    exact iff_of_false (List.cons_ne_nil _ _) (by omega)
  | case2 text noPair => exact iff_of_true rfl (length_lt_two noPair)

/-! ## Decoding -/

section Decoding

variable {hexString : String} {bytes : Bytes}

theorem hexToUint8Array_eq_ok : hexToUint8Array hexString = .ok bytes ↔
    (cleanHexString hexString).all isHexDigit = true ∧ 2 ≤ (cleanHexString hexString).length ∧
      bytes = (hexPairs (cleanHexString hexString)).map parseHexPair := by
  unfold hexToUint8Array
  dsimp only
  rw [← cleanHexString]
  generalize cleanHexString hexString = text
  split
  · next digits =>
    split
    · next none_ =>
      have short := pairs_eq_nil.mp none_
      exact iff_of_false (fun same => nomatch same) (fun given => by omega)
    · next some_ =>
      have long : 2 ≤ text.length := Nat.le_of_not_lt fun short => some_ (pairs_eq_nil.mpr short)
      rw [Except.ok.injEq]
      exact ⟨fun same => ⟨digits.2, long, same.symm⟩, fun given => given.2.2.symm⟩
  · next refused =>
    refine iff_of_false (fun same => nomatch same) ?_
    intro given
    refine refused ⟨?_, given.1⟩
    intro empty
    have long := given.2.1
    rw [empty] at long
    exact absurd long (by decide)

/-- The text that is decoded is the one the bytes are written as, with what is in
no pair after it. -/
theorem text_of_decoded (decoded : hexToUint8Array hexString = .ok bytes) :
    (cleanHexString hexString).map Char.toLower =
      fromUint8Array bytes ++ (unpaired (cleanHexString hexString)).map Char.toLower := by
  obtain ⟨digits, _, rfl⟩ := hexToUint8Array_eq_ok.mp decoded
  rw [fromUint8Array_pairs digits, ← List.map_append, pairs_append_unpaired]

theorem unpaired_of_whole (whole : Whole hexString)
    (decoded : hexToUint8Array hexString = .ok bytes) :
    unpaired (cleanHexString hexString) = [] := by
  obtain ⟨digits, long, _⟩ := hexToUint8Array_eq_ok.mp decoded
  rcases whole with even | single | other
  · exact (unpaired_eq_nil _).mpr even
  · omega
  · rw [digits] at other
    cases other

theorem loses_nothing_iff_whole : LosesNothing hexString ↔ Whole hexString := by
  constructor
  · intro kept
    by_contra broken
    obtain ⟨odd, more⟩ := not_or.mp broken
    obtain ⟨notSingle, noOther⟩ := not_or.mp more
    have digits : (cleanHexString hexString).all isHexDigit = true :=
      Bool.of_not_eq_false noOther
    have decoded := hexToUint8Array_eq_ok.mpr ⟨digits, by omega, rfl⟩
    have same : fromUint8Array _ = _ :=
      (fromUint8Array_digits _).2.symm.trans ((kept _ decoded).trans (text_of_decoded decoded))
    have nothing := List.map_eq_nil_iff.mp (List.self_eq_append_right.mp same)
    exact odd ((unpaired_eq_nil _).mp nothing)
  · intro whole bytes decoded
    have text := text_of_decoded decoded
    rw [unpaired_of_whole whole decoded, List.map_nil, List.append_nil] at text
    rw [SameUpToCase, text, (fromUint8Array_digits bytes).2]

/-- Texts with the same bytes differ only in what is in no pair. -/
theorem same_iff_unpaired {other : String} (decoded : hexToUint8Array hexString = .ok bytes)
    (otherDecoded : hexToUint8Array other = .ok bytes) :
    SameUpToCase (cleanHexString hexString) (cleanHexString other) ↔
      SameUpToCase (unpaired (cleanHexString hexString)) (unpaired (cleanHexString other)) := by
  rw [SameUpToCase, text_of_decoded decoded, text_of_decoded otherDecoded, List.append_right_inj,
    SameUpToCase]

theorem withoutHexPrefix_digits {text : Text} (digits : text.all isHexDigit = true) :
    withoutHexPrefix text = text := by
  unfold withoutHexPrefix
  split
  · exact absurd digits (by simp [isHexDigit, hexDigit])
  · exact absurd digits (by simp [isHexDigit, hexDigit])
  · rfl

theorem hexToUint8Array_fromUint8Array (some_ : bytes ≠ []) :
    hexToUint8Array (String.ofList (fromUint8Array bytes)) = .ok bytes := by
  have digits := (fromUint8Array_digits bytes).1
  have clean : cleanHexString (String.ofList (fromUint8Array bytes)) = fromUint8Array bytes := by
    rw [cleanHexString, String.toList_ofList, withoutHexPrefix_digits digits]
  apply hexToUint8Array_eq_ok.mpr
  rw [clean, pairs_of_bytes]
  refine ⟨digits, ?_, rfl⟩
  cases bytes with
  | nil => exact absurd rfl some_
  | cons byte bytes =>
    rw [fromUint8Array_cons, List.length_cons, List.length_cons]
    omega

end Decoding

/-- Just the texts with whole pairs lose nothing, and no two of them decode
alike; what the SDK writes is decoded. -/
theorem whole_texts_decoded (hexString other : String) (uint8ArrayKey : Bytes) :
    (LosesNothing hexString ↔ Whole hexString) ∧
    (∀ bytes, hexToUint8Array hexString = .ok bytes → hexToUint8Array other = .ok bytes →
      (SameUpToCase (cleanHexString hexString) (cleanHexString other) ↔
        SameUpToCase (unpaired (cleanHexString hexString)) (unpaired (cleanHexString other))) ∧
      (Whole hexString → Whole other →
        SameUpToCase (cleanHexString hexString) (cleanHexString other))) ∧
    (uint8ArrayKey ≠ [] →
      hexToUint8Array (String.ofList (fromUint8Array uint8ArrayKey)) = .ok uint8ArrayKey) := by
  refine ⟨loses_nothing_iff_whole, ?_, hexToUint8Array_fromUint8Array⟩
  intro bytes decoded otherDecoded
  have same := same_iff_unpaired decoded otherDecoded
  refine ⟨same, ?_⟩
  intro whole otherWhole
  apply same.mpr
  rw [unpaired_of_whole whole decoded, unpaired_of_whole otherWhole otherDecoded]
  rfl

/-- Texts that differ in a digit too many are the same bytes. -/
theorem last_digit_lost :
    hexRegex "abc" = true ∧ hexToUint8Array "abc" = .ok [0xab] ∧
      hexToUint8Array "abd" = .ok [0xab] ∧ ¬LosesNothing "abc" ∧
      ¬SameUpToCase (cleanHexString "abc") (cleanHexString "abd") := by
  have decoded : hexToUint8Array "abc" = .ok [0xab] := rfl
  refine ⟨by decide, decoded, rfl, ?_, by decide⟩
  intro kept
  exact absurd (kept _ decoded) (by decide)

end StablecoinStudio.Backend.HexDecoding
