import StablecoinStudio.Sdk.FixedNumber

/-!
# BigDecimal

A `BigDecimal` is a fixed-point number of the package; what the class adds is
the choice of the decimals, made on the decimal text.
-/

namespace StablecoinStudio.Sdk.BigDecimal

open StablecoinStudio.Foundation
open StablecoinStudio.Foundation.DecimalQuantities
open StablecoinStudio.Foundation.DecimalTexts
open StablecoinStudio.Sdk.FixedNumber

set_option autoImplicit false

def SEPARATOR : Char := '.'

/-- The white space that `parseInt` and `BigInt` skip. -/
def isWhiteSpace (character : Char) : Bool :=
  character.toNat ∈ [0x20, 0xA0, 0x1680, 0x2028, 0x2029, 0x202F, 0x205F, 0x3000, 0xFEFF] ||
    (decide (0x09 ≤ character.toNat) && decide (character.toNat ≤ 0x0D)) ||
    (decide (0x2000 ≤ character.toNat) && decide (character.toNat ≤ 0x200A))

/-- `CheckNums.isNumber` on a text: `BigInt` reads as a number what `parseInt`
does not only when there is nothing but white space. -/
def isNumber (value : Text) : Bool := !value.all isWhiteSpace

/-- `replace(/\.0+$/, '')`. -/
def dropPointZeros : Text → Text
  | [] => []
  | character :: rest =>
      if character = SEPARATOR ∧ rest ≠ [] ∧ rest.all (· == '0') then []
      else character :: dropPointZeros rest

def getDecimalsFromString (val : Text) : Nat :=
  if val.length = 0 then 0
  else
    match val.splitOn SEPARATOR with
    | _ :: dec :: _ =>
        if dec = [] then 0
        else if !isNumber dec then 0
        else (dropPointZeros dec).length
    | _ => 0

section Numbers

variable {fixed : Type} (ethers : FixedNumbers fixed)

def fromString (value : Text) (format : Option Nat) : Option fixed :=
  ethers.fromString value (format.getD (getDecimalsFromString value))

def fromStringFixed (value : Text) (decimals : Nat) : Option fixed :=
  let formattedValue :=
    if value.length < decimals then
      ['0', SEPARATOR] ++ (List.replicate (decimals - value.length) '0' ++ value)
    else
      let position := value.length - decimals
      value.take position ++ SEPARATOR :: value.drop position
  ethers.fromString formattedValue decimals

def fromFixedNumber (number : fixed) : Option fixed :=
  ethers.fromString (ethers.toString number) (ethers.decimals number)

def addUnsafe (this other : fixed) : Option fixed := do
  fromFixedNumber ethers (← ethers.addUnsafe this other)

def subUnsafe (this other : fixed) : Option fixed := do
  fromFixedNumber ethers (← ethers.subUnsafe this other)

/-- The text of the number, without `.0` at its end. -/
def toString (this : fixed) : Text :=
  let number := ethers.toString this
  if number.drop (number.length - 2) = [SEPARATOR, '0'] then number.take (number.length - 2)
  else number

def toBigInt (this : fixed) : Int := ethers.value this

def isGreaterThan (this other : fixed) : Bool := ethers.gt this other

def isLowerThan (this other : fixed) : Bool := ethers.lt this other

def isGreaterOrEqualThan (this other : fixed) : Bool := !ethers.lt this other

def isLowerOrEqualThan (this other : fixed) : Bool := !ethers.gt this other

/-- In the default format, which has 18 decimals. -/
def isBigDecimal (value : Text) : Bool := (ethers.fromString value 18).isSome

/-- A part that is not there and an empty part are both falsy. -/
def setDecimals (this : fixed) (value : Nat) : Option fixed :=
  let parts := (ethers.toString this).splitOn SEPARATOR
  let int := parts.getD 0 []
  let float := parts.getD 1 []
  if float ≠ [] ∧ value < float.length then
    let float := float.take (float.length - value)
    fromString ethers (int ++ SEPARATOR :: float) (some (max float.length value))
  else fromString ethers int (some (max 0 value))

/-- The text before the point and the one after it, filled up with zeros. -/
def splitNumber (this : fixed) : Text × Text :=
  match (ethers.toString this).splitOn SEPARATOR with
  | whole :: places :: _ =>
      (whole, places ++ List.replicate (ethers.decimals this - places.length) '0')
  | [whole] => (whole, [])
  | [] => ([], [])

/-- `Long.fromString` is the parameter. -/
def toLong (parseLong : Text → Option Int) (this : fixed) : Option Int :=
  let number := splitNumber ethers this
  parseLong (number.1 ++ number.2)

/-- `CheckNums.hasMoreDecimals` on a text. -/
def hasMoreDecimals (val : Text) (to_ : Nat) : Option Bool := do
  let number ← fromString ethers val none
  return decide (to_ < ethers.decimals number)

end Numbers

/-- What the package `long` says about integers of 64 bits. -/
structure LongLaws (parseLong : Text → Option Int) : Prop where
  reads : ∀ digits, Digits digits → digits ≠ [] → number digits < 2 ^ 63 →
    parseLong digits = some (number digits : Int)
  reads_negative : ∀ digits, Digits digits → digits ≠ [] → number digits < 2 ^ 63 →
    parseLong ('-' :: digits) = some (-(number digits : Int))

/-- Also the least of them, which is not the opposite of one. -/
structure SignedLongLaws (parseLong : Text → Option Int) : Prop extends LongLaws parseLong where
  reads_least : ∀ digits, Digits digits → number digits = 2 ^ 63 →
    parseLong ('-' :: digits) = some (-2 ^ 63)

/-! ## Decimals of a text -/

section Texts

variable {decimal : DecimalText}

theorem dropPointZeros_digits {digits : Text} (valid : Digits digits) :
    dropPointZeros digits = digits := by
  induction digits with
  | nil => rfl
  | cons digit digits ih =>
      have noPoint : digit ≠ SEPARATOR := by
        intro point
        have isDigit := valid digit (List.mem_cons_self ..)
        rw [point] at isDigit
        exact absurd isDigit (by decide)
      have later := ih fun other member => valid other (List.mem_cons_of_mem _ member)
      rw [dropPointZeros, if_neg fun point => noPoint point.1, later]

theorem digit_not_space {digit : Char} (isDigit : digit.isDigit = true) :
    isWhiteSpace digit = false := by
  simp only [Char.isDigit, Bool.and_eq_true, decide_eq_true_eq] at isDigit
  have lower : 48 ≤ digit.toNat := isDigit.1
  have upper : digit.toNat ≤ 57 := isDigit.2
  simp only [isWhiteSpace, List.mem_cons, List.not_mem_nil, or_false, Bool.or_eq_false_iff,
    Bool.and_eq_false_iff, decide_eq_false_iff_not]
  omega

theorem isNumber_digits {digits : Text} (valid : Digits digits) (some_ : digits ≠ []) :
    isNumber digits = true := by
  cases digits with
  | nil => exact absurd rfl some_
  | cons digit digits =>
      have notSpace := digit_not_space (valid digit (List.mem_cons_self ..))
      simp [isNumber, notSpace]

theorem getDecimalsFromString_text : getDecimalsFromString decimal.text = decimal.places := by
  unfold getDecimalsFromString
  have parts : decimal.text.splitOn SEPARATOR = decimal.integerText :: decimal.fraction.toList :=
    DecimalText.split_text _
  split
  · next empty =>
      have nothing : decimal.text = [] := List.length_eq_zero_iff.mp empty
      rw [nothing] at parts
      cases given : decimal.fraction with
      | none => simp [DecimalText.places, DecimalText.fractional, given]
      | some digits =>
          rw [given] at parts
          simp at parts
  · rw [parts]
    cases given : decimal.fraction with
    | none => simp [DecimalText.places, DecimalText.fractional, given]
    | some digits =>
        have valid := decimal.fractionDigits digits given
        have places : decimal.places = digits.length := by
          rw [DecimalText.places, DecimalText.fractional, given, Option.getD_some]
        by_cases empty : digits = []
        · simp [places, empty]
        · simp [places, empty, isNumber_digits valid empty, dropPointZeros_digits valid]

end Texts

/-! ## Units as a text -/

def pointed (negative : Bool) {digits : Text} (valid : Digits digits) (decimals : Nat) :
    DecimalText where
  negative := negative
  whole := if digits.length < decimals then ['0'] else digits.take (digits.length - decimals)
  fraction :=
    if digits.length < decimals then some (List.replicate (decimals - digits.length) '0' ++ digits)
    else some (digits.drop (digits.length - decimals))
  wholeDigits := by
    split
    · intro character member
      rw [List.mem_singleton.mp member]
      decide
    · exact valid.take _
  fractionDigits := by
    intro fraction given character member
    split at given
    · rw [← Option.some.inj given] at member
      rcases List.mem_append.mp member with zero | digit
      · rw [(List.mem_replicate.mp zero).2]
        decide
      · exact valid character digit
    · rw [← Option.some.inj given] at member
      exact valid character (List.mem_of_mem_drop member)

section Pointed

variable {negative : Bool} {digits : Text} (valid : Digits digits) (decimals : Nat)

theorem pointed_places : (pointed negative valid decimals).places = decimals := by
  unfold DecimalText.places DecimalText.fractional pointed
  split
  · next short =>
      rw [Option.getD_some, List.length_append, List.length_replicate]
      omega
  · next long =>
      rw [Option.getD_some, List.length_drop]
      omega

theorem pointed_number : number ((pointed negative valid decimals).whole ++
    (pointed negative valid decimals).fractional) = number digits := by
  unfold DecimalText.fractional pointed
  split
  · rw [Option.getD_some, List.singleton_append, number_cons, number_padded]
    simp
  · rw [Option.getD_some, List.take_append_drop]

theorem pointed_units : (pointed negative valid decimals).unitsAt decimals =
    if negative then -(number digits : Int) else number digits := by
  have sign : (pointed negative valid decimals).negative = negative := rfl
  rw [DecimalText.unitsAt, pointed_places, Nat.sub_self, pow_zero, Int.mul_one, DecimalText.units,
    pointed_number, sign]

theorem pointed_ne_nil (negative : Bool) {digits : Text} (valid : Digits digits) (decimals : Nat)
    (some_ : digits ≠ []) :
    (pointed negative valid decimals).whole ++ (pointed negative valid decimals).fractional ≠
      [] := by
  unfold DecimalText.fractional pointed
  split
  · exact List.cons_ne_nil _ _
  · rw [Option.getD_some, List.take_append_drop]
    exact some_

variable {fixed : Type} {ethers : FixedNumbers fixed}

theorem fromStringFixed_digits :
    fromStringFixed ethers digits decimals =
      ethers.fromString (pointed false valid decimals).text decimals := by
  unfold fromStringFixed DecimalText.text DecimalText.integerText DecimalText.sign pointed
  dsimp only
  split <;> rfl

theorem fromStringFixed_negative (enough : decimals ≤ digits.length) :
    fromStringFixed ethers ('-' :: digits) decimals =
      ethers.fromString (pointed true valid decimals).text decimals := by
  have long : ¬('-' :: digits).length < decimals := by
    rw [List.length_cons]
    omega
  have position : ('-' :: digits).length - decimals = digits.length - decimals + 1 := by
    rw [List.length_cons]
    omega
  unfold fromStringFixed DecimalText.text DecimalText.integerText DecimalText.sign pointed
  dsimp only
  have notShort : ¬digits.length < decimals := Nat.not_lt.mpr enough
  rw [if_neg long, position]
  simp only [if_neg notShort]
  rfl

end Pointed

section Units

variable {fixed : Type} {ethers : FixedNumbers fixed} {decimals : Nat}

theorem fromStringFixed_unsigned (laws : Laws ethers) {digits : Text} (valid : Digits digits)
    (some_ : digits ≠ []) (fits : Representable decimals (number digits)) :
    ∃ value, fromStringFixed ethers digits decimals = some value ∧
      ethers.Is value decimals (number digits) := by
  have scaled : (pointed false valid decimals).unitsAt decimals = number digits :=
    pointed_units valid decimals
  have enough : (pointed false valid decimals).places ≤ decimals :=
    Nat.le_of_eq (pointed_places valid decimals)
  have digit := pointed_ne_nil false valid decimals some_
  rw [fromStringFixed_digits valid]
  obtain ⟨value, read⟩ := (laws.accepts _ decimals enough digit).mpr (by rw [scaled]; exact fits)
  have is := laws.reads _ _ _ enough digit read
  rw [scaled] at is
  exact ⟨value, read, is⟩

theorem fromStringFixed_natural (laws : Laws ethers) {units : Nat}
    (fits : Representable decimals units) :
    ∃ value, fromStringFixed ethers (Nat.toDigits 10 units) decimals = some value ∧
      ethers.Is value decimals units := by
  rw [← number_to_digits units] at fits
  have read := fromStringFixed_unsigned laws (digits_to_digits units) Nat.toDigits_ne_nil fits
  rw [number_to_digits] at read
  exact read

theorem fromStringFixed_large (laws : Laws ethers) {units : Nat}
    (misfit : ¬Representable decimals units) :
    fromStringFixed ethers (Nat.toDigits 10 units) decimals = none := by
  have valid := digits_to_digits units
  have scaled : (pointed false valid decimals).unitsAt decimals = units := by
    rw [pointed_units valid decimals, number_to_digits]
    rfl
  rw [fromStringFixed_digits valid]
  cases read : ethers.fromString (pointed false valid decimals).text decimals with
  | none => rfl
  | some value =>
      have fits := (laws.accepts _ decimals (Nat.le_of_eq (pointed_places valid decimals))
        (pointed_ne_nil _ valid decimals Nat.toDigits_ne_nil)).mp ⟨value, read⟩
      rw [scaled] at fits
      exact absurd fits misfit

theorem fromStringFixed_signed (laws : Laws ethers) {digits : Text} (valid : Digits digits)
    (some_ : digits ≠ []) (enough : decimals ≤ digits.length)
    (fits : Representable decimals (-(number digits : Int))) :
    ∃ value, fromStringFixed ethers ('-' :: digits) decimals = some value ∧
      ethers.Is value decimals (-(number digits : Int)) := by
  have scaled : (pointed true valid decimals).unitsAt decimals = -(number digits : Int) :=
    pointed_units valid decimals
  have places : (pointed true valid decimals).places ≤ decimals :=
    Nat.le_of_eq (pointed_places valid decimals)
  have digit := pointed_ne_nil true valid decimals some_
  rw [fromStringFixed_negative valid decimals enough]
  obtain ⟨value, read⟩ := (laws.accepts _ decimals places digit).mpr (by rw [scaled]; exact fits)
  have is := laws.reads _ _ _ places digit read
  rw [scaled] at is
  exact ⟨value, read, is⟩

/-- With fewer digits than places the sign stands after the point, and nothing is read. -/
theorem fromStringFixed_sign_after_point (laws : Laws ethers) {digits : Text}
    (valid : Digits digits) (few : digits.length < decimals) :
    fromStringFixed ethers ('-' :: digits) decimals = none := by
  have noPoint : '.' ∉ '-' :: digits := by
    intro member
    rcases List.mem_cons.mp member with same | digit
    · exact absurd same (by decide)
    · exact point_not_digit valid digit
  have shapeless : ∀ before zeros, '.' ∉ before → '.' ∉ zeros → ∀ decimal : DecimalText,
      decimal.text = before ++ '.' :: (zeros ++ '-' :: digits) → False := by
    intro before zeros clear clearZeros decimal same
    have noMore : '.' ∉ zeros ++ '-' :: digits := by
      intro member
      rcases List.mem_append.mp member with first | second
      · exact clearZeros first
      · exact noPoint second
    have after := DecimalText.digits_after_point clear noMore same
    have sign := after '-' (List.mem_append_right _ (List.mem_cons_self ..))
    exact absurd sign (by decide)
  unfold fromStringFixed
  apply laws.rejects
  intro decimal same
  split at same
  · next short =>
      refine absurd same (shapeless ['0'] (List.replicate _ '0') (by decide) ?_ decimal)
      intro member
      exact absurd (List.eq_of_mem_replicate member) (by decide)
  · next long =>
      have position : ('-' :: digits).length - decimals = 0 := by
        rw [List.length_cons]
        omega
      dsimp only at same
      rw [position] at same
      exact absurd same (shapeless [] [] List.not_mem_nil List.not_mem_nil decimal)

theorem digits_fill_places {units : Nat} (positive : 0 < units) :
    decimals ≤ (Nat.toDigits 10 units).length ↔ 10 ^ decimals ≤ 10 * units := by
  have some_ : 0 < (Nat.toDigits 10 units).length := Nat.length_toDigits_pos
  cases decimals with
  | zero =>
      rw [pow_zero]
      omega
  | succ places =>
      rw [pow_succ, Nat.mul_comm, Nat.mul_le_mul_left_iff (by decide : 0 < 10)]
      rcases Nat.eq_zero_or_pos places with rfl | more
      · rw [pow_zero]
        omega
      · have short : (Nat.toDigits 10 units).length ≤ places ↔ units < 10 ^ places :=
          Nat.length_toDigits_le_iff (by decide) more
        omega

def Filled (decimals : Nat) (units : Int) : Prop :=
  0 ≤ units ∨ 10 ^ decimals ≤ 10 * units.natAbs

theorem integerDigits_neg {units : Nat} (positive : 0 < units) :
    integerDigits (-(units : Int)) = '-' :: Nat.toDigits 10 units := by
  rw [integerDigits, if_pos (by omega), Int.natAbs_neg, Int.natAbs_natCast]

theorem fromStringFixed_filled (laws : Laws ethers) {units : Int}
    (fits : Representable decimals units) (filled : Filled decimals units) :
    ∃ value, fromStringFixed ethers (integerDigits units) decimals = some value ∧
      ethers.Is value decimals units := by
  rcases Int.lt_or_le units 0 with negative | natural
  · obtain ⟨magnitude, rfl⟩ : ∃ magnitude : Nat, units = -(magnitude : Int) :=
      ⟨units.natAbs, by omega⟩
    have positive : 0 < magnitude := by omega
    have enough : decimals ≤ (Nat.toDigits 10 magnitude).length := by
      rw [digits_fill_places positive]
      rcases filled with natural | filled
      · omega
      · rw [Int.natAbs_neg, Int.natAbs_natCast] at filled
        exact filled
    rw [← number_to_digits magnitude] at fits
    have read := fromStringFixed_signed laws (digits_to_digits magnitude) Nat.toDigits_ne_nil
      enough fits
    rw [number_to_digits] at read
    rw [integerDigits_neg positive]
    exact read
  · obtain ⟨magnitude, rfl⟩ := Int.eq_ofNat_of_zero_le natural
    rw [integerDigits_natCast]
    exact fromStringFixed_natural laws fits

theorem fromStringFixed_unfilled (laws : Laws ethers) {units : Int}
    (unfilled : ¬Filled decimals units) :
    fromStringFixed ethers (integerDigits units) decimals = none := by
  unfold Filled at unfilled
  obtain ⟨negative, few⟩ := not_or.mp unfilled
  obtain ⟨magnitude, rfl⟩ : ∃ magnitude : Nat, units = -(magnitude : Int) :=
    ⟨units.natAbs, by omega⟩
  have positive : 0 < magnitude := by omega
  rw [Int.natAbs_neg, Int.natAbs_natCast, ← digits_fill_places positive] at few
  rw [integerDigits_neg positive]
  exact fromStringFixed_sign_after_point laws (digits_to_digits magnitude) (Nat.not_le.mp few)

/-- A decimal text that has no more places than asked for. -/
theorem fromString_decimal (laws : Laws ethers) {decimal : DecimalText}
    (digits : decimal.whole ++ decimal.fractional ≠ []) (enough : decimal.places ≤ decimals)
    (fits : Representable decimals (decimal.unitsAt decimals)) :
    ∃ number, fromString ethers decimal.text (some decimals) = some number ∧
      ethers.Is number decimals (decimal.unitsAt decimals) := by
  obtain ⟨number, read⟩ := (laws.accepts decimal decimals enough digits).mpr fits
  exact ⟨number, read, laws.reads decimal decimals number enough digits read⟩

theorem fromString_own_decimals (laws : Laws ethers) {decimal : DecimalText}
    (digits : decimal.whole ++ decimal.fractional ≠ [])
    (fits : Representable decimal.places decimal.units) :
    ∃ number, fromString ethers decimal.text none = some number ∧
      ethers.Is number decimal.places decimal.units := by
  have scaled : decimal.unitsAt decimal.places = decimal.units := by
    rw [DecimalText.unitsAt, Nat.sub_self, pow_zero, Int.mul_one]
  obtain ⟨number, read, is⟩ := fromString_decimal laws digits (Nat.le_refl _)
    (by rw [scaled]; exact fits)
  rw [scaled] at is
  refine ⟨number, ?_, is⟩
  rw [fromString, Option.getD_none, getDecimalsFromString_text]
  exact read

theorem fromFixedNumber_is (laws : Laws ethers) {result : fixed} {units : Int}
    (is : ethers.Is result decimals units) (fits : Representable decimals units) :
    ∃ copy, fromFixedNumber ethers result = some copy ∧ ethers.Is copy decimals units := by
  obtain ⟨decimal, written⟩ := laws.writes result
  have digits : decimal.whole ++ decimal.fractional ≠ [] :=
    List.append_ne_nil_of_left_ne_nil written.whole _
  have enough : decimal.places ≤ decimals := by
    rw [written.places, ← is.decimals]
    exact writtenPlaces_le _ _
  have scaled : decimal.unitsAt decimals = units := by
    apply quantity_injective decimals
    rw [DecimalText.quantity_units_at enough, written.amount, is.amount]
  obtain ⟨copy, read, sameUnits⟩ :=
    fromString_decimal laws digits enough (by rw [scaled]; exact fits)
  rw [scaled] at sameUnits
  refine ⟨copy, ?_, sameUnits⟩
  rw [fromFixedNumber, written.text, is.decimals]
  exact read

theorem toString_of_point_zero {number : fixed} {shown : Text}
    (text : ethers.toString number = shown ++ [SEPARATOR, '0']) :
    BigDecimal.toString ethers number = shown := by
  have length : (shown ++ [SEPARATOR, '0']).length - 2 = shown.length := by
    rw [List.length_append]
    rfl
  unfold BigDecimal.toString
  rw [text]
  dsimp only
  rw [length, List.drop_left, List.take_left, if_pos rfl]

/-- A whole number is shown as its integer, though perhaps with a sign for
zero. -/
theorem toString_whole (laws : Laws ethers) {number : fixed} {whole : Int}
    (is : ethers.Is number decimals (whole * 10 ^ decimals)) (some_ : decimals ≠ 0) :
    ∃ (negative : Bool) (digits : Text), Digits digits ∧ digits ≠ [] ∧
      BigDecimal.toString ethers number = (if negative then ['-'] else []) ++ digits ∧
      whole = if negative then -(DecimalTexts.number digits : Int)
        else DecimalTexts.number digits := by
  obtain ⟨decimal, written⟩ := laws.writes number
  have amount : ethers.amount number = quantity 0 whole := by
    have shifted := quantity_shift 0 decimals whole
    rw [Nat.zero_add] at shifted
    rw [is.amount, shifted]
  have noPlaces : significant decimals (whole * 10 ^ decimals) = 0 := by
    apply Nat.le_zero.mp
    rw [significant_le_iff, ← is.amount, amount]
    exact ⟨whole, by simp [quantity]⟩
  have places : decimal.places = 1 := by
    rw [written.places, FixedNumbers.places, is.decimals, is.value, writtenPlaces, if_neg some_,
      noPlaces]
    rfl
  obtain ⟨digit, fraction⟩ : ∃ digit, decimal.fraction = some [digit] := by
    cases given : decimal.fraction with
    | none =>
        have none_ := written.fraction.mp given
        rw [is.decimals] at none_
        exact absurd none_ some_
    | some digits =>
        rw [DecimalText.places, DecimalText.fractional, given, Option.getD_some] at places
        obtain ⟨digit, rfl⟩ := List.length_eq_one_iff.mp places
        exact ⟨digit, rfl⟩
  have same : decimal.amount = quantity 0 whole := written.amount.trans amount
  obtain ⟨zero, units⟩ := DecimalText.whole_of_one_place fraction same
  refine ⟨decimal.negative, decimal.whole, decimal.wholeDigits, written.whole, ?_, units⟩
  apply toString_of_point_zero
  rw [written.text, DecimalText.text, fraction, zero]
  rfl

theorem addUnsafe_is (laws : Laws ethers) {left right : fixed} {first second : Int}
    (leftIs : ethers.Is left decimals first) (rightIs : ethers.Is right decimals second)
    (fits : Representable decimals (first + second)) :
    ∃ sum, addUnsafe ethers left right = some sum ∧ ethers.Is sum decimals (first + second) := by
  have same : ethers.decimals left = ethers.decimals right :=
    leftIs.decimals.trans rightIs.decimals.symm
  have sumFits : Representable (ethers.decimals left) (ethers.value left + ethers.value right) := by
    rw [leftIs.decimals, leftIs.value, rightIs.value]
    exact fits
  obtain ⟨sum, added, is⟩ := laws.adds left right same sumFits
  rw [leftIs.decimals, leftIs.value, rightIs.value] at is
  obtain ⟨copy, read, copyIs⟩ := fromFixedNumber_is laws is fits
  refine ⟨copy, ?_, copyIs⟩
  rw [addUnsafe, added]
  exact read

end Units

/-! ## What is shown -/

section Shown

variable {fixed : Type} {ethers : FixedNumbers fixed} {decimal : DecimalText} {decimals : Nat}

theorem fraction_of_point_zero {front : Text} (text : decimal.text = front ++ [SEPARATOR, '0']) :
    decimal.fraction = some ['0'] := by
  have point : SEPARATOR ∈ [SEPARATOR, '0'] := List.mem_cons_self ..
  have inText : ∀ {before rest : Text}, before ++ [SEPARATOR, '0'] = rest → SEPARATOR ∈ rest :=
    fun same => same ▸ List.mem_append_right _ point
  unfold DecimalText.text at text
  cases given : decimal.fraction with
  | none =>
    rw [given] at text
    exact absurd (inText text.symm) DecimalText.point_not_in_integer
  | some digits =>
    have noPoint := point_not_digit (decimal.fractionDigits digits given)
    rw [given] at text
    rcases List.append_eq_append_iff.mp text with ⟨between, same, rest⟩ | ⟨between, same, rest⟩
    · cases between with
      | nil => rw [(List.cons.inj rest).2]
      | cons first between =>
        exact absurd (inText (List.cons.inj rest).2.symm) noPoint
    · cases between with
      | nil => rw [(List.cons.inj rest).2]
      | cons first between =>
        have inWhole : SEPARATOR ∈ decimal.integerText := by
          rw [same, ← (List.cons.inj rest).1]
          exact List.mem_append_right _ (List.mem_cons_self ..)
        exact absurd inWhole DecimalText.point_not_in_integer

theorem toString_decimal (laws : Laws ethers) (value : fixed) :
    ∃ shown : DecimalText, BigDecimal.toString ethers value = shown.text ∧ shown.whole ≠ [] ∧
      shown.places ≤ ethers.decimals value ∧
      shown.unitsAt (ethers.decimals value) = ethers.value value := by
  obtain ⟨decimal, written⟩ := laws.writes value
  have enough : decimal.places ≤ ethers.decimals value := by
    rw [written.places]
    exact writtenPlaces_le _ _
  have unitsOf : ∀ shown : DecimalText, shown.places ≤ ethers.decimals value →
      shown.amount = decimal.amount →
      shown.unitsAt (ethers.decimals value) = ethers.value value := by
    intro shown few same
    apply quantity_injective (ethers.decimals value)
    rw [DecimalText.quantity_units_at few, same, written.amount, FixedNumbers.amount]
  by_cases ends : (ethers.toString value).drop ((ethers.toString value).length - 2) =
      [SEPARATOR, '0']
  · have parts : decimal.text =
        (ethers.toString value).take ((ethers.toString value).length - 2) ++ [SEPARATOR, '0'] := by
      rw [← ends, List.take_append_drop, written.text]
    have fraction := fraction_of_point_zero parts
    have tenfold : decimal.units = decimal.integer.units * 10 ^ 1 := by
      have digits : number (decimal.whole ++ ['0']) = number decimal.whole * 10 := by
        rw [number_append]
        rfl
      have none_ : decimal.integer.whole ++ decimal.integer.fractional = decimal.whole :=
        List.append_nil _
      have sign : decimal.integer.negative = decimal.negative := rfl
      rw [DecimalText.units, DecimalText.units, none_, sign, DecimalText.fractional, fraction,
        Option.getD_some, digits]
      split
      · omega
      · omega
    have same : decimal.integer.amount = decimal.amount := by
      have places : decimal.places = 0 + 1 := by
        rw [DecimalText.places, DecimalText.fractional, fraction]
        rfl
      rw [DecimalText.amount, DecimalText.amount, tenfold, places, quantity_shift]
      rfl
    refine ⟨decimal.integer, ?_, written.whole, Nat.zero_le _,
      unitsOf decimal.integer (Nat.zero_le _) same⟩
    apply toString_of_point_zero
    rw [written.text, DecimalText.text, fraction]
    rfl
  · refine ⟨decimal, ?_, written.whole, enough, unitsOf decimal enough rfl⟩
    unfold BigDecimal.toString
    dsimp only
    rw [if_neg ends, written.text]

theorem fromString_toString (laws : Laws ethers) {value : fixed} {units : Int}
    (is : ethers.Is value decimals units) (fits : Representable decimals units) :
    ∃ copy, fromString ethers (BigDecimal.toString ethers value) (some decimals) = some copy ∧
      ethers.Is copy decimals units := by
  obtain ⟨shown, text, whole, few, same⟩ := toString_decimal laws value
  rw [is.decimals] at few same
  rw [is.value] at same
  have digits : shown.whole ++ shown.fractional ≠ [] :=
    List.append_ne_nil_of_left_ne_nil whole _
  obtain ⟨copy, read, copyIs⟩ := fromString_decimal laws digits few (by rw [same]; exact fits)
  rw [same] at copyIs
  exact ⟨copy, by rw [text, read], copyIs⟩

theorem toLong_digits (laws : Laws ethers) (parseLong : Text → Option Int) {value : fixed}
    {units : Int} (is : ethers.Is value decimals units) :
    ∃ (negative : Bool) (digits : Text), Digits digits ∧ digits ≠ [] ∧
      toLong ethers parseLong value = parseLong ((if negative then ['-'] else []) ++ digits) ∧
      units = if negative then -(number digits : Int) else number digits := by
  obtain ⟨decimal, written⟩ := laws.writes value
  have enough : decimal.places ≤ decimals := by
    rw [written.places, ← is.decimals]
    exact writtenPlaces_le _ _
  have unitsAre : decimal.unitsAt decimals = units := by
    apply quantity_injective decimals
    rw [DecimalText.quantity_units_at enough, written.amount, is.amount]
  have split : splitNumber ethers value = (decimal.integerText,
      decimal.fractional ++ List.replicate (decimals - decimal.places) '0') := by
    rw [splitNumber, written.text, SEPARATOR, DecimalText.split_text, is.decimals]
    cases given : decimal.fraction with
    | none =>
      have noDecimals := written.fraction.mp given
      rw [is.decimals] at noDecimals
      rw [DecimalText.fractional, given, noDecimals, Nat.zero_sub]
      rfl
    | some places =>
      rw [DecimalText.places, DecimalText.fractional, given]
      rfl
  have all : Digits (decimal.whole ++
      (decimal.fractional ++ List.replicate (decimals - decimal.places) '0')) := by
    intro character member
    rcases List.mem_append.mp member with inWhole | after
    · exact decimal.wholeDigits character inWhole
    · rcases List.mem_append.mp after with inFraction | zero
      · exact DecimalText.fractional_digits character inFraction
      · rw [List.eq_of_mem_replicate zero]
        decide
  have value_ : number (decimal.whole ++
      (decimal.fractional ++ List.replicate (decimals - decimal.places) '0')) =
        number (decimal.whole ++ decimal.fractional) * 10 ^ (decimals - decimal.places) := by
    rw [← List.append_assoc, number_append, number_zeros, List.length_replicate, Nat.add_zero]
  refine ⟨decimal.negative, _, all, List.append_ne_nil_of_left_ne_nil written.whole _, ?_, ?_⟩
  · rw [toLong, split, DecimalText.integerText, DecimalText.sign, List.append_assoc]
  · rw [← unitsAre, DecimalText.unitsAt, DecimalText.units, value_, Nat.cast_mul, Nat.cast_pow,
      Nat.cast_ofNat]
    cases decimal.negative with
    | true => rw [if_pos rfl, if_pos rfl, neg_mul]
    | false => rw [if_neg Bool.false_ne_true, if_neg Bool.false_ne_true]

theorem toLong_units (laws : Laws ethers) {parseLong : Text → Option Int}
    (longs : LongLaws parseLong) {value : fixed} {units : Int}
    (is : ethers.Is value decimals units) (small : units.natAbs < 2 ^ 63) :
    toLong ethers parseLong value = some units := by
  obtain ⟨negative, digits, valid, some_, read, rfl⟩ := toLong_digits laws parseLong is
  rw [read]
  cases negative with
  | true =>
    rw [if_pos rfl, Int.natAbs_neg, Int.natAbs_natCast] at small
    exact longs.reads_negative digits valid some_ small
  | false =>
    rw [if_neg Bool.false_ne_true, Int.natAbs_natCast] at small
    exact longs.reads digits valid some_ small

theorem toLong_signed (laws : Laws ethers) {parseLong : Text → Option Int}
    (longs : SignedLongLaws parseLong) {value : fixed} {units : Int}
    (is : ethers.Is value decimals units) (lower : -2 ^ 63 ≤ units) (upper : units < 2 ^ 63) :
    toLong ethers parseLong value = some units := by
  by_cases least : units = -2 ^ 63
  · obtain ⟨negative, digits, valid, _, read, same⟩ := toLong_digits laws parseLong is
    rw [read, least]
    cases negative with
    | true =>
      rw [if_pos rfl] at same
      exact longs.reads_least digits valid (by omega)
    | false =>
      rw [if_neg Bool.false_ne_true] at same
      omega
  · exact toLong_units laws longs.toLongLaws is (by omega)

end Shown

/-! ## Raw integers -/

section RawIntegers

variable {fixed : Type} (ethers : FixedNumbers fixed)

def ReadsBack (units : Int) (decimals : Nat) : Prop :=
  ∃ value, fromStringFixed ethers (integerDigits units) decimals = some value ∧
    ethers.decimals value = decimals ∧ toBigInt ethers value = units ∧
    ethers.amount value = quantity decimals units

/-- The text of an integer is read back unless its sign comes to stand after
the point. -/
theorem reads_back_iff_filled (laws : Laws ethers) (units : Int) (decimals : Nat)
    (fits : Representable decimals units) :
    ReadsBack ethers units decimals ↔ Filled decimals units := by
  constructor
  · intro readBack
    obtain ⟨value, read, _⟩ := readBack
    by_contra unfilled
    rw [fromStringFixed_unfilled laws unfilled] at read
    cases read
  · intro filled
    obtain ⟨value, read, is⟩ := fromStringFixed_filled laws fits filled
    exact ⟨value, read, is.decimals, is.value, is.amount⟩

theorem twelve_cents_below_zero : ReadsBack exactNumbers (-12) 2 ↔ Filled 2 (-12) :=
  reads_back_iff_filled exactNumbers exact_laws (-12) 2 ⟨by decide, by decide, by decide⟩

/-- Five hundredths below zero: the text that is parsed is `.-5`. -/
theorem five_cents_below_zero : fromStringFixed exactNumbers (integerDigits (-5)) 2 = none ∧
    ¬ReadsBack exactNumbers (-5) 2 := by
  have thrown : fromStringFixed exactNumbers (integerDigits (-5)) 2 = none := by decide +kernel
  refine ⟨thrown, ?_⟩
  intro readBack
  obtain ⟨value, read, _⟩ := readBack
  rw [thrown] at read
  cases read

end RawIntegers

end StablecoinStudio.Sdk.BigDecimal
