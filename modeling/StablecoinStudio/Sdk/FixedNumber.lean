import StablecoinStudio.Foundation.DecimalTexts

/-!
# Fixed-point numbers

The SDK computes with `FixedNumber` of the package `ethers`, which is outside
the sources: a parameter, with what its documentation says about it as laws. A
format is given by its number of decimals and stands for signed numbers of 128
bits.
-/

namespace StablecoinStudio.Sdk.FixedNumber

open StablecoinStudio.Foundation.DecimalQuantities
open StablecoinStudio.Foundation.DecimalTexts

set_option autoImplicit false

/-- The functions that are called; `none` where the package throws. -/
structure FixedNumbers (fixed : Type) where
  fromString : Text → (decimals : Nat) → Option fixed
  fromValue : (value : Int) → (valueDecimals decimals : Nat) → Option fixed
  toString : fixed → Text
  value : fixed → Int
  decimals : fixed → Nat
  addUnsafe : fixed → fixed → Option fixed
  subUnsafe : fixed → fixed → Option fixed
  lt : fixed → fixed → Bool
  gt : fixed → fixed → Bool

/-- The units that the format has, and at most 80 decimals. -/
structure Representable (decimals : Nat) (units : Int) : Prop where
  decimals : decimals ≤ 80
  lower : -2 ^ 127 ≤ units
  upper : units < 2 ^ 127

/-- The decimal places of the text of a number: none for a format without
decimals, and else the significant ones, but at least one. -/
def writtenPlaces (decimals : Nat) (units : Int) : Nat :=
  if decimals = 0 then 0 else max 1 (significant decimals units)

variable {fixed : Type}

def FixedNumbers.amount (numbers : FixedNumbers fixed) (number : fixed) : ℚ :=
  quantity (numbers.decimals number) (numbers.value number)

structure FixedNumbers.Is (numbers : FixedNumbers fixed) (number : fixed) (decimals : Nat)
    (units : Int) : Prop where
  decimals : numbers.decimals number = decimals
  value : numbers.value number = units

theorem FixedNumbers.Is.amount {numbers : FixedNumbers fixed} {number : fixed} {decimals : Nat}
    {units : Int} (is : numbers.Is number decimals units) :
    numbers.amount number = quantity decimals units := by
  rw [FixedNumbers.amount, is.decimals, is.value]

def FixedNumbers.places (numbers : FixedNumbers fixed) (number : fixed) : Nat :=
  writtenPlaces (numbers.decimals number) (numbers.value number)

/-- The decimal places without the zeros at the end. -/
def FixedNumbers.significantPlaces (numbers : FixedNumbers fixed) (number : fixed) : Nat :=
  significant (numbers.decimals number) (numbers.value number)

/-- The text that `toString` gives. -/
structure Writes (numbers : FixedNumbers fixed) (number : fixed) (decimal : DecimalText) : Prop where
  text : numbers.toString number = decimal.text
  whole : decimal.whole ≠ []
  places : decimal.places = numbers.places number
  fraction : decimal.fraction = none ↔ numbers.decimals number = 0
  amount : decimal.amount = numbers.amount number

/-- Exact fixed-point arithmetic. -/
structure Laws (numbers : FixedNumbers fixed) : Prop where
  accepts : ∀ (decimal : DecimalText) (decimals : Nat), decimal.places ≤ decimals →
    decimal.whole ++ decimal.fractional ≠ [] →
    ((∃ number, numbers.fromString decimal.text decimals = some number) ↔
      Representable decimals (decimal.unitsAt decimals))
  reads : ∀ (decimal : DecimalText) (decimals : Nat) (number : fixed), decimal.places ≤ decimals →
    decimal.whole ++ decimal.fractional ≠ [] →
    numbers.fromString decimal.text decimals = some number →
      numbers.Is number decimals (decimal.unitsAt decimals)
  rejects : ∀ (text : Text) (decimals : Nat),
    (∀ decimal : DecimalText, decimal.text = text → decimal.whole ++ decimal.fractional = []) →
      numbers.fromString text decimals = none
  writes : ∀ number, ∃ decimal, Writes numbers number decimal
  adds : ∀ left right, numbers.decimals left = numbers.decimals right →
    Representable (numbers.decimals left) (numbers.value left + numbers.value right) →
    ∃ sum, numbers.addUnsafe left right = some sum ∧
      numbers.Is sum (numbers.decimals left) (numbers.value left + numbers.value right)
  lt_iff : ∀ left right, numbers.lt left right = true ↔ numbers.amount left < numbers.amount right
  gt_iff : ∀ left right, numbers.gt left right = true ↔ numbers.amount right < numbers.amount left

section Reading

variable {numbers : FixedNumbers fixed} {decimal : DecimalText} {decimals : Nat} {number : fixed}

theorem amount_of_read (laws : Laws numbers) (enough : decimal.places ≤ decimals)
    (digits : decimal.whole ++ decimal.fractional ≠ [])
    (read : numbers.fromString decimal.text decimals = some number) :
    numbers.decimals number = decimals ∧ numbers.amount number = decimal.amount := by
  have is := laws.reads decimal decimals number enough digits read
  refine ⟨is.decimals, ?_⟩
  rw [is.amount, DecimalText.quantity_units_at enough]

end Reading

/-! ## Numbers to evaluate on -/

/-- Units with a number of decimals. -/
structure ExactNumber where
  value : Int
  decimals : Nat
deriving DecidableEq

namespace ExactNumber

def checked (decimals : Nat) (units : Int) : Option ExactNumber :=
  if decimals ≤ 80 ∧ -2 ^ 127 ≤ units ∧ units < 2 ^ 127 then some ⟨units, decimals⟩ else none

def readDigits (text : Text) : Option (Text × Text) :=
  let whole := text.takeWhile Char.isDigit
  match text.dropWhile Char.isDigit with
  | [] => some (whole, [])
  | '.' :: rest => if rest.all Char.isDigit then some (whole, rest) else none
  | _ => none

def readSign : Text → Bool × Text
  | '-' :: rest => (true, rest)
  | text => (false, text)

/-- Digits beyond the format must be zeros. -/
def fromString (text : Text) (decimals : Nat) : Option ExactNumber := do
  let (negative, magnitude) := readSign text
  let (whole, fraction) ← readDigits magnitude
  guard (whole ++ fraction ≠ [])
  guard ((fraction.drop decimals).all (· == '0'))
  let digits := whole ++ fraction.take decimals
  let units := number digits * 10 ^ (decimals - fraction.length)
  checked decimals (if negative then -(units : Int) else units)

/-- The digits of a number, with zeros in front up to the given length. -/
def padded (length value : Nat) : Text :=
  List.replicate (length - (Nat.toDigits 10 value).length) '0' ++ Nat.toDigits 10 value

def fractionText (number : ExactNumber) : Option Text :=
  if number.decimals = 0 then none
  else
    let places := writtenPlaces number.decimals number.value
    some (padded places
      (number.value.natAbs % 10 ^ number.decimals / 10 ^ (number.decimals - places)))

def toString (number : ExactNumber) : Text :=
  (if number.value < 0 then ['-'] else []) ++
    Nat.toDigits 10 (number.value.natAbs / 10 ^ number.decimals) ++
    match number.fractionText with
    | none => []
    | some digits => '.' :: digits

/-- Decimals that the format does not have must be zeros. -/
def fromValue (value : Int) (valueDecimals decimals : Nat) : Option ExactNumber :=
  if value % 10 ^ (valueDecimals - decimals) = 0 then
    checked decimals
      (value / 10 ^ (valueDecimals - decimals) * 10 ^ (decimals - valueDecimals))
  else none

def combine (operation : Int → Int → Int) (left right : ExactNumber) : Option ExactNumber :=
  if left.decimals = right.decimals then
    checked left.decimals (operation left.value right.value)
  else none

end ExactNumber

def exactNumbers : FixedNumbers ExactNumber where
  fromString := ExactNumber.fromString
  fromValue := ExactNumber.fromValue
  toString := ExactNumber.toString
  value := ExactNumber.value
  decimals := ExactNumber.decimals
  addUnsafe := ExactNumber.combine (· + ·)
  subUnsafe := ExactNumber.combine (· - ·)
  lt left right := decide (quantity left.decimals left.value < quantity right.decimals right.value)
  gt left right := decide (quantity right.decimals right.value < quantity left.decimals left.value)

/-! ## The numbers to evaluate on obey the laws -/

section ExactLaws

open ExactNumber

theorem checked_eq_some {decimals : Nat} {units : Int} {number : ExactNumber} :
    checked decimals units = some number ↔
      Representable decimals units ∧ number = ⟨units, decimals⟩ := by
  unfold checked
  split
  · next fits =>
      constructor
      · intro given
        exact ⟨⟨fits.1, fits.2.1, fits.2.2⟩, (Option.some.inj given).symm⟩
      · intro given
        rw [given.2]
  · next misfit =>
      constructor
      · intro given
        cases given
      · intro given
        exact absurd ⟨given.1.decimals, given.1.lower, given.1.upper⟩ misfit

/-- A text that goes on after its digits with nothing or with the point. -/
theorem takeWhile_digits {digits : Text} (rest : Text) (valid : Digits digits)
    (stops : ∀ character ∈ rest.head?, character.isDigit = false) :
    (digits ++ rest).takeWhile Char.isDigit = digits ∧
      (digits ++ rest).dropWhile Char.isDigit = rest := by
  induction digits with
  | nil =>
      cases rest with
      | nil => exact ⟨rfl, rfl⟩
      | cons character rest =>
          have stop := stops character rfl
          simp [stop]
  | cons digit digits ih =>
      have first := valid digit (List.mem_cons_self ..)
      have later := ih fun other member => valid other (List.mem_cons_of_mem _ member)
      simp [first, later]

variable {decimal : DecimalText}

theorem readDigits_text : readDigits
    (match decimal.fraction with
      | none => decimal.whole
      | some digits => decimal.whole ++ '.' :: digits) =
    some (decimal.whole, decimal.fractional) := by
  unfold readDigits DecimalText.fractional
  cases given : decimal.fraction with
  | none =>
      have parts := takeWhile_digits [] decimal.wholeDigits (by simp)
      rw [List.append_nil] at parts
      simp only [parts.1, parts.2]
      rfl
  | some digits =>
      have parts := takeWhile_digits ('.' :: digits) decimal.wholeDigits (by simp)
      have valid : digits.all Char.isDigit = true :=
        List.all_eq_true.mpr (decimal.fractionDigits digits given)
      simp only [parts.1, parts.2, valid, if_true]
      rfl

theorem readSign_text : readSign decimal.text = (decimal.negative,
    match decimal.fraction with
      | none => decimal.whole
      | some digits => decimal.whole ++ '.' :: digits) := by
  have unsigned : ∀ rest : Text, (∀ character ∈ rest.head?, character ≠ '-') →
      readSign rest = (false, rest) := by
    intro rest start
    cases rest with
    | nil => rfl
    | cons character rest =>
        unfold readSign
        split
        · next same =>
            exact absurd (List.cons.inj same).1 (start character rfl)
        · rfl
  have start : ∀ rest : Text, (∀ character ∈ rest.head?, character ≠ '-') →
      ∀ character ∈ (decimal.whole ++ rest).head?, character ≠ '-' := by
    intro rest startRest character first
    cases digits : decimal.whole with
    | nil =>
        rw [digits] at first
        exact startRest character first
    | cons digit others =>
        rw [digits] at first
        have same : digit = character := Option.some.inj first
        have isDigit : digit.isDigit = true :=
          decimal.wholeDigits digit (by rw [digits]; exact List.mem_cons_self ..)
        intro minus
        rw [same, minus] at isDigit
        exact absurd isDigit (by decide)
  unfold DecimalText.text DecimalText.integerText DecimalText.sign
  cases decimal.negative with
  | true => cases decimal.fraction <;> rfl
  | false =>
      cases decimal.fraction with
      | none =>
          have noRest := start [] (by simp)
          rw [List.append_nil] at noRest
          exact unsigned decimal.whole noRest
      | some digits => exact unsigned _ (start ('.' :: digits) (by simp))

/-- Reading a text that has no more places than the format. -/
theorem fromString_text {decimals : Nat} (enough : decimal.places ≤ decimals)
    (digits : decimal.whole ++ decimal.fractional ≠ []) :
    ExactNumber.fromString decimal.text decimals = checked decimals (decimal.unitsAt decimals) := by
  have nothingBeyond : decimal.fractional.drop decimals = [] := List.drop_eq_nil_of_le enough
  have allOfIt : decimal.fractional.take decimals = decimal.fractional := List.take_of_length_le enough
  unfold ExactNumber.fromString
  rw [readSign_text]
  dsimp only
  rw [readDigits_text]
  simp only [Option.bind_eq_bind, Option.bind_some, guard]
  rw [if_pos digits, nothingBeyond, allOfIt]
  unfold DecimalText.unitsAt DecimalText.units DecimalText.places
  cases decimal.negative with
  | true => simp
  | false => simp

theorem shape_of_readDigits {magnitude whole fraction : Text}
    (read : readDigits magnitude = some (whole, fraction)) :
    Digits whole ∧ Digits fraction ∧
      (magnitude = whole ∧ fraction = [] ∨ magnitude = whole ++ '.' :: fraction) := by
  have wholeDigits : Digits (magnitude.takeWhile Char.isDigit) :=
    List.all_eq_true.mp List.all_takeWhile
  have parts : magnitude.takeWhile Char.isDigit ++ magnitude.dropWhile Char.isDigit = magnitude :=
    List.takeWhile_append_dropWhile
  unfold readDigits at read
  dsimp only at read
  split at read
  · next noRest =>
      obtain ⟨rfl, rfl⟩ := Prod.mk.inj (Option.some.inj read)
      rw [noRest, List.append_nil] at parts
      exact ⟨wholeDigits, fun _ member => absurd member List.not_mem_nil, Or.inl ⟨parts.symm, rfl⟩⟩
  · next rest afterPoint =>
      split at read
      · next restDigits =>
          obtain ⟨rfl, rfl⟩ := Prod.mk.inj (Option.some.inj read)
          rw [afterPoint] at parts
          exact ⟨wholeDigits, List.all_eq_true.mp restDigits, Or.inr parts.symm⟩
      · cases read
  · cases read

theorem sign_of_readSign (text : Text) :
    (if (readSign text).1 then ['-'] else []) ++ (readSign text).2 = text := by
  unfold readSign
  split <;> rfl

theorem shape_of_fromString {text : Text} {decimals : Nat} {number : ExactNumber}
    (read : ExactNumber.fromString text decimals = some number) :
    ∃ decimal : DecimalText, decimal.text = text ∧ decimal.whole ++ decimal.fractional ≠ [] := by
  have signed := sign_of_readSign text
  unfold ExactNumber.fromString at read
  dsimp only at read
  cases given : readDigits (readSign text).2 with
  | none =>
      rw [given] at read
      cases read
  | some digits =>
      obtain ⟨wholeDigits, fractionDigits, together⟩ := shape_of_readDigits given
      rw [given] at read
      have some_ : digits.1 ++ digits.2 ≠ [] := by
        intro none_
        have refused : ¬digits.1 ++ digits.2 ≠ [] := not_not.mpr none_
        simp only [Option.bind_eq_bind, Option.bind_some, guard] at read
        rw [if_neg refused] at read
        cases read
      rcases together with noPoint | point
      · refine ⟨⟨(readSign text).1, digits.1, none, wholeDigits, by simp⟩, ?_, ?_⟩
        · rw [noPoint.1] at signed
          exact signed
        · rw [noPoint.2] at some_
          exact some_
      · refine ⟨⟨(readSign text).1, digits.1, some digits.2, wholeDigits, ?_⟩, ?_, some_⟩
        · intro fraction same
          obtain rfl := Option.some.inj same
          exact fractionDigits
        · rw [point, ← List.append_assoc] at signed
          exact signed

theorem length_padded {length value : Nat} (positive : 0 < length) (fits : value < 10 ^ length) :
    (padded length value).length = length := by
  have short : (Nat.toDigits 10 value).length ≤ length :=
    (Nat.length_toDigits_le_iff (by decide) positive).mpr fits
  rw [padded, List.length_append, List.length_replicate]
  exact Nat.sub_add_cancel short

theorem padded_digits (length value : Nat) : Digits (padded length value) := by
  intro character member
  rcases List.mem_append.mp member with zero | digit
  · rw [(List.mem_replicate.mp zero).2]
    decide
  · exact digits_to_digits value character digit

section Written

variable (fixed : ExactNumber)

theorem writtenPlaces_le (decimals : Nat) (units : Int) :
    writtenPlaces decimals units ≤ decimals := by
  have kept := significant_le decimals units
  unfold writtenPlaces
  split <;> omega

theorem writtenPlaces_pos {decimals : Nat} (units : Int) (some_ : decimals ≠ 0) :
    0 < writtenPlaces decimals units := by
  rw [writtenPlaces, if_neg some_]
  exact Nat.lt_of_lt_of_le Nat.zero_lt_one (Nat.le_max_left ..)

theorem significant_le_writtenPlaces (decimals : Nat) (units : Int) :
    significant decimals units ≤ writtenPlaces decimals units := by
  have kept := significant_le decimals units
  unfold writtenPlaces
  split <;> omega

/-- The digits after the point that are written. -/
def writtenFraction : Nat :=
  fixed.value.natAbs % 10 ^ fixed.decimals /
    10 ^ (fixed.decimals - writtenPlaces fixed.decimals fixed.value)

theorem writtenFraction_lt :
    writtenFraction fixed < 10 ^ writtenPlaces fixed.decimals fixed.value := by
  have places := writtenPlaces_le fixed.decimals fixed.value
  have split_ : (10 : Nat) ^ fixed.decimals =
      10 ^ writtenPlaces fixed.decimals fixed.value *
        10 ^ (fixed.decimals - writtenPlaces fixed.decimals fixed.value) := by
    rw [← pow_add, Nat.add_sub_cancel' places]
  apply Nat.div_lt_of_lt_mul
  rw [Nat.mul_comm, ← split_]
  exact Nat.mod_lt _ (by positivity)

def written : DecimalText where
  negative := decide (fixed.value < 0)
  whole := Nat.toDigits 10 (fixed.value.natAbs / 10 ^ fixed.decimals)
  fraction := fixed.fractionText
  wholeDigits := digits_to_digits _
  fractionDigits := by
    intro digits given
    unfold fractionText at given
    split at given
    · cases given
    · rw [← Option.some.inj given]
      exact padded_digits _ _

theorem fractionText_of_decimals (some_ : fixed.decimals ≠ 0) :
    fixed.fractionText = some
      (padded (writtenPlaces fixed.decimals fixed.value) (writtenFraction fixed)) := by
  rw [fractionText, if_neg some_]
  rfl

theorem written_fractional : (written fixed).fractional =
    if fixed.decimals = 0 then []
    else padded (writtenPlaces fixed.decimals fixed.value) (writtenFraction fixed) := by
  have stored : (written fixed).fraction = fixed.fractionText := rfl
  rw [DecimalText.fractional, stored]
  split
  · next none_ => rw [fractionText, if_pos none_, Option.getD_none]
  · next some_ => rw [fractionText_of_decimals fixed some_, Option.getD_some]

theorem written_places :
    (written fixed).places = writtenPlaces fixed.decimals fixed.value := by
  rw [DecimalText.places, written_fractional]
  split
  · next none_ => rw [writtenPlaces, if_pos none_, List.length_nil]
  · next some_ => exact length_padded (writtenPlaces_pos _ some_) (writtenFraction_lt fixed)

/-- The digits that are written, with the zeros at the end that are not. -/
theorem written_number :
    number ((written fixed).whole ++ (written fixed).fractional) *
        10 ^ (fixed.decimals - writtenPlaces fixed.decimals fixed.value) =
      fixed.value.natAbs := by
  have places := writtenPlaces_le fixed.decimals fixed.value
  have zeros : 10 ^ (fixed.decimals - writtenPlaces fixed.decimals fixed.value) ∣
      fixed.value.natAbs := by
    have divides := dvd_of_significant_le places (significant_le_writtenPlaces _ _)
    have asInts : ((10 ^ (fixed.decimals - writtenPlaces fixed.decimals fixed.value) : Nat) : Int) ∣
        fixed.value := by
      push_cast
      exact divides
    exact Int.natCast_dvd.mp asInts
  have split_ : (10 : Nat) ^ fixed.decimals =
      10 ^ writtenPlaces fixed.decimals fixed.value *
        10 ^ (fixed.decimals - writtenPlaces fixed.decimals fixed.value) := by
    rw [← pow_add, Nat.add_sub_cancel' places]
  have fractionZeros : 10 ^ (fixed.decimals - writtenPlaces fixed.decimals fixed.value) ∣
      fixed.value.natAbs % 10 ^ fixed.decimals :=
    (Nat.dvd_mod_iff (Dvd.intro_left _ split_.symm)).mpr zeros
  have wholeNumber : number (written fixed).whole = fixed.value.natAbs / 10 ^ fixed.decimals :=
    number_to_digits _
  have fractionNumber : number (written fixed).fractional = writtenFraction fixed := by
    rw [written_fractional]
    split
    · next none_ =>
        rw [writtenFraction, none_, pow_zero, Nat.mod_one, Nat.zero_div, number_nil]
    · rw [padded, number_padded, number_to_digits]
  have length : (written fixed).fractional.length = writtenPlaces fixed.decimals fixed.value :=
    written_places fixed
  rw [number_append, wholeNumber, fractionNumber, length, Nat.add_mul, Nat.mul_assoc, ← split_,
    writtenFraction, Nat.div_mul_cancel fractionZeros, Nat.mul_comm]
  exact Nat.div_add_mod _ _

theorem written_amount :
    (written fixed).amount = quantity fixed.decimals fixed.value := by
  have places := writtenPlaces_le fixed.decimals fixed.value
  have total := written_number fixed
  have units : (written fixed).units *
      10 ^ (fixed.decimals - writtenPlaces fixed.decimals fixed.value) = fixed.value := by
    have sign : (written fixed).negative = decide (fixed.value < 0) := rfl
    rw [DecimalText.units, sign]
    generalize number ((written fixed).whole ++ (written fixed).fractional) = digits at total ⊢
    have asInts : (digits : Int) *
        10 ^ (fixed.decimals - writtenPlaces fixed.decimals fixed.value) = fixed.value.natAbs := by
      exact_mod_cast total
    split
    · next negative =>
        have below : fixed.value < 0 := of_decide_eq_true negative
        rw [Int.neg_mul, asInts]
        omega
    · next notNegative =>
        have above : ¬fixed.value < 0 := fun below => notNegative (decide_eq_true below)
        rw [asInts]
        omega
  have more := quantity_shift (writtenPlaces fixed.decimals fixed.value)
    (fixed.decimals - writtenPlaces fixed.decimals fixed.value) (written fixed).units
  rw [units, Nat.add_sub_cancel' places] at more
  rw [DecimalText.amount, written_places, more]

theorem written_text : ExactNumber.toString fixed = (written fixed).text := by
  have sign : (written fixed).sign = if fixed.value < 0 then ['-'] else [] := by
    by_cases negative : fixed.value < 0 <;> simp [DecimalText.sign, written, negative]
  have whole : (written fixed).whole =
      Nat.toDigits 10 (fixed.value.natAbs / 10 ^ fixed.decimals) := rfl
  have fraction : (written fixed).fraction = fixed.fractionText := rfl
  rw [ExactNumber.toString, DecimalText.text, fraction, DecimalText.integerText, sign, whole]
  cases fixed.fractionText with
  | none => exact List.append_nil _
  | some digits => rfl

end Written

theorem exact_writes (fixed : ExactNumber) : Writes exactNumbers fixed (written fixed) where
  text := written_text fixed
  whole := Nat.toDigits_ne_nil
  places := written_places fixed
  fraction := by
    have stored : (written fixed).fraction = fixed.fractionText := rfl
    rw [stored, fractionText]
    constructor
    · intro absent
      by_contra some_
      have noDecimals : ¬fixed.decimals = 0 := some_
      rw [if_neg noDecimals] at absent
      cases absent
    · intro none_
      exact if_pos none_
  amount := written_amount fixed

theorem exact_laws : Laws exactNumbers where
  accepts decimal decimals enough digits := by
    have read := fromString_text enough digits
    constructor
    · intro given
      obtain ⟨number, given⟩ := given
      exact (checked_eq_some.mp (read.symm.trans given)).1
    · intro fits
      exact ⟨_, read.trans (checked_eq_some.mpr ⟨fits, rfl⟩)⟩
  reads decimal decimals number enough digits given := by
    have read := fromString_text enough digits
    have parsed := (checked_eq_some.mp (read.symm.trans given)).2
    rw [parsed]
    exact ⟨rfl, rfl⟩
  rejects text decimals shapeless := by
    cases read : ExactNumber.fromString text decimals with
    | none => exact read
    | some number =>
        obtain ⟨decimal, same, digits⟩ := shape_of_fromString read
        exact absurd (shapeless decimal same) digits
  writes number := ⟨written number, exact_writes number⟩
  adds left right same fits :=
    ⟨⟨left.value + right.value, left.decimals⟩,
      (if_pos same).trans (checked_eq_some.mpr ⟨fits, rfl⟩), ⟨rfl, rfl⟩⟩
  lt_iff _ _ := decide_eq_true_iff
  gt_iff _ _ := decide_eq_true_iff

end ExactLaws

/-! ## Formats -/

/-- No number has a format with more than 80 decimals. -/
structure FormatLaws (numbers : FixedNumbers fixed) : Prop extends Laws numbers where
  decimals_le : ∀ number, numbers.decimals number ≤ 80

theorem representable_of_long {numbers : FixedNumbers fixed} (laws : FormatLaws numbers)
    (number : fixed) (lower : -2 ^ 63 ≤ numbers.value number)
    (upper : numbers.value number < 2 ^ 63) :
    Representable (numbers.decimals number) (numbers.value number) where
  decimals := laws.decimals_le number
  lower := by omega
  upper := by omega

abbrev FormattedNumber : Type := { number : ExactNumber // number.decimals ≤ 80 }

def formatted (number : ExactNumber) : Option FormattedNumber :=
  if few : number.decimals ≤ 80 then some ⟨number, few⟩ else none

def formattedNumbers : FixedNumbers FormattedNumber where
  fromString text decimals := (exactNumbers.fromString text decimals).bind formatted
  fromValue value valueDecimals decimals :=
    (exactNumbers.fromValue value valueDecimals decimals).bind formatted
  toString number := exactNumbers.toString number.1
  value number := exactNumbers.value number.1
  decimals number := exactNumbers.decimals number.1
  addUnsafe left right := (exactNumbers.addUnsafe left.1 right.1).bind formatted
  subUnsafe left right := (exactNumbers.subUnsafe left.1 right.1).bind formatted
  lt left right := exactNumbers.lt left.1 right.1
  gt left right := exactNumbers.gt left.1 right.1

section FormattedLaws

theorem bind_formatted {given : Option ExactNumber} {number : FormattedNumber} :
    given.bind formatted = some number ↔ given = some number.1 := by
  cases given with
  | none => exact iff_of_false (fun same => nomatch same) (fun same => nomatch same)
  | some exact_ =>
    rw [Option.bind_some, formatted]
    split
    · rw [Option.some.injEq, Option.some.injEq, Subtype.ext_iff]
    · next many =>
      refine iff_of_false (fun same => nomatch same) ?_
      intro same
      rw [Option.some.inj same] at many
      exact many number.2

theorem formatted_laws : FormatLaws formattedNumbers where
  accepts decimal decimals enough digits := by
    rw [← exact_laws.accepts decimal decimals enough digits]
    constructor
    · intro given
      obtain ⟨number, read⟩ := given
      exact ⟨number.1, bind_formatted.mp read⟩
    · intro given
      obtain ⟨number, read⟩ := given
      have fits := (exact_laws.accepts decimal decimals enough digits).mp ⟨number, read⟩
      have is := exact_laws.reads decimal decimals number enough digits read
      have few : number.decimals ≤ 80 := Nat.le_trans (Nat.le_of_eq is.decimals) fits.decimals
      exact ⟨⟨number, few⟩, bind_formatted.mpr read⟩
  reads decimal decimals number enough digits read := by
    have is := exact_laws.reads decimal decimals number.1 enough digits (bind_formatted.mp read)
    exact ⟨is.decimals, is.value⟩
  rejects text decimals shapeless := by
    have none_ := exact_laws.rejects text decimals shapeless
    show (exactNumbers.fromString text decimals).bind formatted = none
    rw [none_, Option.bind_none]
  writes number := by
    have same := exact_writes number.1
    exact ⟨written number.1, same.text, same.whole, same.places, same.fraction, same.amount⟩
  adds left right same fits := by
    obtain ⟨sum, added, is⟩ := exact_laws.adds left.1 right.1 same fits
    have few : sum.decimals ≤ 80 := Nat.le_trans (Nat.le_of_eq is.decimals) left.2
    exact ⟨⟨sum, few⟩, bind_formatted.mpr added, is.decimals, is.value⟩
  lt_iff left right := exact_laws.lt_iff left.1 right.1
  gt_iff left right := exact_laws.gt_iff left.1 right.1
  decimals_le number := number.2

end FormattedLaws

/-! ## Texts with more places than the format -/

def amountOf (text : Text) : ℚ :=
  let (negative, magnitude) := ExactNumber.readSign text
  match ExactNumber.readDigits magnitude with
  | none => 0
  | some (whole, fraction) =>
      quantity fraction.length
        (if negative then -(number (whole ++ fraction) : Int) else number (whole ++ fraction))

theorem amount_of_text (decimal : DecimalText) : amountOf decimal.text = decimal.amount := by
  unfold amountOf
  rw [readSign_text]
  dsimp only
  rw [readDigits_text]
  rfl

/-- Places that the format does not have are refused, or they are zeros. -/
structure StrictLaws (numbers : FixedNumbers fixed) : Prop extends Laws numbers where
  strict : ∀ (decimal : DecimalText) (decimals : Nat) (number : fixed),
    decimal.whole ++ decimal.fractional ≠ [] →
    numbers.fromString decimal.text decimals = some number →
      numbers.decimals number = decimals ∧ Representable decimals (numbers.value number) ∧
        numbers.amount number = decimal.amount

section Strict

theorem StrictLaws.read {numbers : FixedNumbers fixed} (laws : StrictLaws numbers) {text : Text}
    {decimals : Nat} {number : fixed} (given : numbers.fromString text decimals = some number) :
    numbers.decimals number = decimals ∧ Representable decimals (numbers.value number) ∧
      numbers.amount number = amountOf text := by
  have shaped : ∃ decimal : DecimalText, decimal.text = text ∧
      decimal.whole ++ decimal.fractional ≠ [] := by
    by_contra shapeless
    have rejected := laws.rejects text decimals fun decimal same => by
      by_contra digits
      exact shapeless ⟨decimal, same, digits⟩
    rw [rejected] at given
    cases given
  obtain ⟨decimal, rfl, digits⟩ := shaped
  rw [amount_of_text]
  exact laws.strict decimal decimals number digits given

theorem number_of_zeros {digits : Text} (zeros : digits.all (· == '0') = true) :
    number digits = 0 := by
  have same : digits = List.replicate digits.length '0' := by
    rw [List.eq_replicate_iff]
    exact ⟨rfl, fun digit member => beq_iff_eq.mp (List.all_eq_true.mp zeros digit member)⟩
  rw [same]
  exact number_zeros _

/-- Zeros at the end do not count. -/
theorem amount_of_places {decimal : DecimalText} {decimals : Nat}
    (few : decimals ≤ decimal.places)
    (zeros : (decimal.fractional.drop decimals).all (· == '0') = true) :
    quantity decimals
        (if decimal.negative then -(number (decimal.whole ++ decimal.fractional.take decimals) : Int)
        else number (decimal.whole ++ decimal.fractional.take decimals)) = decimal.amount := by
  have places : decimals + (decimal.places - decimals) = decimal.places :=
    Nat.add_sub_cancel' few
  have split_ : decimal.whole ++ decimal.fractional =
      (decimal.whole ++ decimal.fractional.take decimals) ++ decimal.fractional.drop decimals := by
    rw [List.append_assoc, List.take_append_drop]
  have digits : (number (decimal.whole ++ decimal.fractional) : Int) =
      number (decimal.whole ++ decimal.fractional.take decimals) *
        10 ^ (decimal.places - decimals) := by
    rw [split_, number_append, number_of_zeros zeros, List.length_drop]
    push_cast
    rw [add_zero, DecimalText.places]
  rw [DecimalText.amount, ← places, DecimalText.units, digits, ← quantity_shift decimals
    (decimal.places - decimals)]
  cases decimal.negative with
  | true => simp
  | false => simp

theorem exact_strict_laws : StrictLaws exactNumbers where
  toLaws := exact_laws
  strict decimal decimals given digits read := by
    rcases Nat.le_total decimal.places decimals with enough | few
    · have is := exact_laws.reads decimal decimals given enough digits read
      have fits := (exact_laws.accepts decimal decimals enough digits).mp ⟨given, read⟩
      rw [is.value]
      exact ⟨is.decimals, fits, (amount_of_read exact_laws enough digits read).2⟩
    · change ExactNumber.fromString decimal.text decimals = some given at read
      unfold ExactNumber.fromString at read
      rw [readSign_text] at read
      dsimp only at read
      rw [readDigits_text] at read
      simp only [Option.bind_eq_bind, Option.bind_some, guard] at read
      rw [if_pos digits] at read
      split at read
      · next zeros =>
          have none_ : decimals - decimal.fractional.length = 0 := Nat.sub_eq_zero_of_le few
          rw [none_, pow_zero, Nat.mul_one] at read
          obtain ⟨fits, rfl⟩ := checked_eq_some.mp read
          exact ⟨rfl, fits, amount_of_places few zeros⟩
      · cases read

end Strict

end StablecoinStudio.Sdk.FixedNumber
