import StablecoinStudio.Foundation.DecimalQuantities

/-!
# Decimal texts

A decimal text has a sign, whole digits and, after a point, fractional digits.
It stands for a rational, and cutting fractional digits off the text truncates
that rational towards zero.
-/

namespace StablecoinStudio.Foundation.DecimalTexts

open StablecoinStudio.Foundation.DecimalQuantities

set_option autoImplicit false

abbrev Text := List Char

/-! ## Digits -/

def Digits (text : Text) : Prop := ∀ character ∈ text, character.isDigit = true

instance (text : Text) : Decidable (Digits text) :=
  List.decidableBAll (fun character : Char => character.isDigit = true) text

def number (digits : Text) : Nat := Nat.ofDigitChars 10 digits 0

@[simp] theorem number_nil : number [] = 0 := Nat.ofDigitChars_nil

theorem number_append (first second : Text) :
    number (first ++ second) = number first * 10 ^ second.length + number second := by
  rw [number, Nat.ofDigitChars_append, Nat.ofDigitChars_eq_ofDigitChars_zero, Nat.mul_comm]
  rfl

theorem number_cons (digit : Char) (rest : Text) :
    number (digit :: rest) = (digit.toNat - 48) * 10 ^ rest.length + number rest := by
  have single : number [digit] = digit.toNat - 48 := by
    simp [number, Nat.ofDigitChars_cons]
  rw [← List.singleton_append, number_append, single]

theorem number_zeros (count : Nat) : number (List.replicate count '0') = 0 := by
  rw [number, Nat.ofDigitChars_replicate_zero, Nat.mul_zero]

theorem number_padded (count : Nat) (digits : Text) :
    number (List.replicate count '0' ++ digits) = number digits := by
  rw [number_append, number_zeros, Nat.zero_mul, Nat.zero_add]

theorem number_lt {digits : Text} (valid : Digits digits) : number digits < 10 ^ digits.length := by
  induction digits with
  | nil => simp
  | cons digit rest ih =>
      have later := ih fun other member => valid other (List.mem_cons_of_mem _ member)
      have upper : digit.toNat ≤ 57 := by
        have isDigit := valid digit (List.mem_cons_self ..)
        simp only [Char.isDigit, Bool.and_eq_true, decide_eq_true_eq] at isDigit
        exact isDigit.2
      have bounded : (digit.toNat - 48) * 10 ^ rest.length ≤ 9 * 10 ^ rest.length :=
        Nat.mul_le_mul_right _ (by omega)
      rw [number_cons, List.length_cons, pow_succ]
      omega

theorem Digits.take {digits : Text} (valid : Digits digits) (count : Nat) :
    Digits (digits.take count) :=
  fun character member => valid character (List.mem_of_mem_take member)

theorem number_take {digits : Text} (valid : Digits digits) (count : Nat) :
    number (digits.take count) = number digits / 10 ^ (digits.drop count).length := by
  have rest : number (digits.drop count) < 10 ^ (digits.drop count).length :=
    number_lt fun character member => valid character (List.mem_of_mem_drop member)
  have parts := number_append (digits.take count) (digits.drop count)
  rw [List.take_append_drop] at parts
  rw [parts, Nat.mul_comm, Nat.mul_add_div (by positivity), Nat.div_eq_of_lt rest, Nat.add_zero]

theorem digits_to_digits (value : Nat) : Digits (Nat.toDigits 10 value) :=
  fun _ member => Nat.isDigit_of_mem_toDigits (by decide) (by decide) member

@[simp] theorem number_to_digits (value : Nat) : number (Nat.toDigits 10 value) = value :=
  Nat.ofDigitChars_ten_toDigits

def integerDigits (value : Int) : Text :=
  if value < 0 then '-' :: Nat.toDigits 10 value.natAbs else Nat.toDigits 10 value.natAbs

@[simp] theorem integerDigits_natCast (value : Nat) :
    integerDigits value = Nat.toDigits 10 value := by
  rw [integerDigits, if_neg (Int.not_lt.mpr (Int.natCast_nonneg value)), Int.natAbs_natCast]

theorem point_not_digit {digits : Text} (valid : Digits digits) : '.' ∉ digits := by
  intro member
  exact absurd (valid '.' member) (by decide)

/-! ## Texts -/

structure DecimalText where
  negative : Bool
  whole : Text
  fraction : Option Text
  wholeDigits : Digits whole
  fractionDigits : ∀ digits ∈ fraction, Digits digits

namespace DecimalText

variable (decimal : DecimalText)

def sign : Text := if decimal.negative then ['-'] else []

def fractional : Text := decimal.fraction.getD []

def places : Nat := decimal.fractional.length

def units : Int :=
  if decimal.negative then -(number (decimal.whole ++ decimal.fractional) : Int)
  else number (decimal.whole ++ decimal.fractional)

def amount : ℚ := quantity decimal.places decimal.units

def unitsAt (places : Nat) : Int := decimal.units * 10 ^ (places - decimal.places)

def integerText : Text := decimal.sign ++ decimal.whole

def text : Text :=
  match decimal.fraction with
  | none => decimal.integerText
  | some digits => decimal.integerText ++ '.' :: digits

/-- The text with the first digits after its point only. -/
def cut (count : Nat) : DecimalText where
  negative := decimal.negative
  whole := decimal.whole
  fraction := decimal.fraction.map fun digits => digits.take count
  wholeDigits := decimal.wholeDigits
  fractionDigits := by
    intro digits kept
    obtain ⟨all, given, rfl⟩ := Option.mem_map.mp kept
    exact (decimal.fractionDigits all given).take count

def integer : DecimalText where
  negative := decimal.negative
  whole := decimal.whole
  fraction := none
  wholeDigits := decimal.wholeDigits
  fractionDigits := by
    intro digits absent
    cases absent

def ofInteger (value : Int) : DecimalText where
  negative := decide (value < 0)
  whole := Nat.toDigits 10 value.natAbs
  fraction := none
  wholeDigits := digits_to_digits value.natAbs
  fractionDigits := by
    intro digits absent
    cases absent

theorem text_ofInteger (value : Int) : (ofInteger value).text = integerDigits value := by
  have parts : (ofInteger value).text =
      (if decide (value < 0) = true then ['-'] else []) ++ Nat.toDigits 10 value.natAbs := rfl
  rw [parts, integerDigits]
  by_cases negative : value < 0
  · rw [if_pos negative, if_pos (decide_eq_true negative)]
    rfl
  · rw [if_neg negative, if_neg (by rw [decide_eq_true_eq]; exact negative)]
    rfl

theorem ofInteger_ne_nil (value : Int) :
    (ofInteger value).whole ++ (ofInteger value).fractional ≠ [] :=
  List.append_ne_nil_of_left_ne_nil Nat.toDigits_ne_nil _

theorem units_ofInteger (value : Int) : (ofInteger value).units = value := by
  have digits : (ofInteger value).whole ++ (ofInteger value).fractional =
      Nat.toDigits 10 value.natAbs := List.append_nil _
  have sign : (ofInteger value).negative = decide (value < 0) := rfl
  rw [units, digits, number_to_digits, sign]
  by_cases negative : value < 0
  · rw [if_pos (decide_eq_true negative)]
    omega
  · rw [if_neg (by rw [decide_eq_true_eq]; exact negative)]
    omega

variable {decimal}

theorem fractional_digits : Digits decimal.fractional := by
  intro character member
  unfold fractional at member
  cases given : decimal.fraction with
  | none =>
      rw [given] at member
      exact absurd member List.not_mem_nil
  | some digits =>
      rw [given] at member
      exact decimal.fractionDigits digits given character member

theorem fractional_cut (count : Nat) :
    (decimal.cut count).fractional = decimal.fractional.take count := by
  cases decimal with
  | mk negative whole fraction wholeDigits fractionDigits =>
      cases fraction with
      | none => exact List.take_nil.symm
      | some digits => rfl

theorem quantity_units_at {places : Nat} (enough : decimal.places ≤ places) :
    quantity places (decimal.unitsAt places) = decimal.amount := by
  have split_ : decimal.places + (places - decimal.places) = places := Nat.add_sub_cancel' enough
  rw [amount, ← quantity_shift decimal.places (places - decimal.places), split_, unitsAt]

theorem point_not_in_integer : '.' ∉ decimal.integerText := by
  intro member
  rcases List.mem_append.mp member with inSign | inWhole
  · unfold sign at inSign
    split at inSign
    · exact absurd (List.mem_singleton.mp inSign) (by decide)
    · exact absurd inSign List.not_mem_nil
  · exact point_not_digit decimal.wholeDigits inWhole

theorem split_text (decimal : DecimalText) : decimal.text.splitOn '.' =
    decimal.integerText :: decimal.fraction.toList := by
  unfold text
  cases given : decimal.fraction with
  | none => exact List.splitOn_eq_singleton point_not_in_integer
  | some digits =>
      have valid : '.' ∉ digits := point_not_digit (decimal.fractionDigits digits given)
      rw [List.splitOn_append_cons_self_of_not_mem point_not_in_integer,
        List.splitOn_eq_singleton valid]
      rfl

theorem digits_after_point {before after : Text} (noPoint : '.' ∉ before) (noMore : '.' ∉ after)
    (same : decimal.text = before ++ '.' :: after) : Digits after := by
  have parts := split_text decimal
  rw [same, List.splitOn_append_cons_self_of_not_mem noPoint, List.splitOn_eq_singleton noMore]
    at parts
  have stored : decimal.fraction.toList = [after] := (List.cons.inj parts).2.symm
  cases given : decimal.fraction with
  | none =>
      rw [given] at stored
      cases stored
  | some digits =>
      rw [given] at stored
      obtain rfl := (List.cons.inj stored).1
      exact decimal.fractionDigits digits given

theorem minus_not_digit {digits : Text} (valid : Digits digits) : '-' ∉ digits := by
  intro member
  exact absurd (valid _ member) (by decide)

theorem sign_and_whole {other : DecimalText} (same : decimal.integerText = other.integerText) :
    decimal.negative = other.negative ∧ decimal.whole = other.whole := by
  unfold integerText sign at same
  cases mine : decimal.negative with
  | false =>
      cases its : other.negative with
      | false =>
          rw [mine, its] at same
          exact ⟨rfl, same⟩
      | true =>
          rw [mine, its] at same
          have minus : decimal.whole = '-' :: other.whole := same
          have valid := decimal.wholeDigits
          rw [minus] at valid
          exact absurd (List.mem_cons_self ..) (minus_not_digit valid)
  | true =>
      cases its : other.negative with
      | false =>
          rw [mine, its] at same
          have minus : '-' :: decimal.whole = other.whole := same
          have valid := other.wholeDigits
          rw [← minus] at valid
          exact absurd (List.mem_cons_self ..) (minus_not_digit valid)
      | true =>
          rw [mine, its] at same
          exact ⟨rfl, (List.cons.inj same).2⟩

/-- A text has one reading. -/
theorem units_of_text {other : DecimalText} (same : decimal.text = other.text) :
    decimal.units = other.units := by
  have parts : decimal.integerText :: decimal.fraction.toList =
      other.integerText :: other.fraction.toList := by
    rw [← split_text, ← split_text, same]
  obtain ⟨integers, fractions⟩ := List.cons.inj parts
  obtain ⟨signs, wholes⟩ := sign_and_whole integers
  have fraction : decimal.fraction = other.fraction := by
    have heads := congrArg List.head? fractions
    rwa [Option.head?_toList, Option.head?_toList] at heads
  unfold units fractional
  rw [signs, wholes, fraction]

/-- The digits that are kept are the first digits of the amount. -/
theorem amount_of_kept (decimal kept : DecimalText) (sameSign : kept.negative = decimal.negative)
    (sameWhole : kept.whole = decimal.whole) (count : Nat) (fewer : count ≤ decimal.places)
    (first : kept.fractional = decimal.fractional.take count) :
    kept.amount = truncated count decimal.amount := by
  have length : kept.places = count := by
    rw [places, first, List.length_take]
    exact Nat.min_eq_left fewer
  have rest : (decimal.fractional.drop count).length = decimal.places - count :=
    List.length_drop
  have digits : number (kept.whole ++ kept.fractional) =
      number (decimal.whole ++ decimal.fractional) / 10 ^ (decimal.places - count) := by
    have split_ : (10 : Nat) ^ decimal.places = 10 ^ (decimal.places - count) * 10 ^ count := by
      rw [← pow_add, Nat.sub_add_cancel fewer]
    rw [number_append, number_append, sameWhole, first, number_take fractional_digits, rest,
      List.length_take, ← places, Nat.min_eq_left fewer, split_, Nat.mul_left_comm,
      Nat.mul_add_div (by positivity)]
  have truncatedDigits := truncated_quantity fewer (number (decimal.whole ++ decimal.fractional))
  rw [← digits] at truncatedDigits
  rw [amount, amount, units, units, length, sameSign]
  split
  · rw [quantity_neg, quantity_neg, truncated_neg, truncatedDigits]
  · exact truncatedDigits.symm

theorem amount_cut {count : Nat} (fewer : count ≤ decimal.places) :
    (decimal.cut count).amount = truncated count decimal.amount :=
  amount_of_kept decimal (decimal.cut count) rfl rfl count fewer (fractional_cut count)

/-- With one digit after its point, a text of an integer ends in a zero. -/
theorem whole_of_one_place {digit : Char} {whole : Int} (fraction : decimal.fraction = some [digit])
    (amount : decimal.amount = quantity 0 whole) :
    digit = '0' ∧
      whole = if decimal.negative then -(number decimal.whole : Int) else number decimal.whole := by
  have isDigit : digit.isDigit = true :=
    decimal.fractionDigits _ fraction digit (List.mem_singleton.mpr rfl)
  simp only [Char.isDigit, Bool.and_eq_true, decide_eq_true_eq] at isDigit
  have lower : 48 ≤ digit.toNat := isDigit.1
  have upper : digit.toNat ≤ 57 := isDigit.2
  have fractional : decimal.fractional = [digit] := by
    rw [DecimalText.fractional, fraction, Option.getD_some]
  have places : decimal.places = 1 := by
    rw [DecimalText.places, fractional]
    rfl
  have units : decimal.units = whole * 10 := by
    apply quantity_injective 1
    have shifted := quantity_shift 0 1 whole
    rw [Nat.zero_add, pow_one] at shifted
    rw [shifted, ← amount, DecimalText.amount, places]
  have digits : number (decimal.whole ++ decimal.fractional) =
      number decimal.whole * 10 + (digit.toNat - 48) := by
    rw [fractional, number_append, number_cons, number_nil]
    simp
  rw [DecimalText.units, digits] at units
  constructor
  · have same : digit.toNat = '0'.toNat := by
      change digit.toNat = 48
      split at units <;> omega
    exact Char.ext (UInt32.toNat_inj.mp same)
  · split at units
    · next negative =>
        rw [if_pos negative]
        omega
    · next positive =>
        rw [if_neg positive]
        omega

theorem amount_integer : decimal.integer.amount = truncated 0 decimal.amount :=
  amount_of_kept decimal decimal.integer rfl rfl 0 (Nat.zero_le _) List.take_zero.symm

end DecimalText

end StablecoinStudio.Foundation.DecimalTexts
