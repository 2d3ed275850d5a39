import StablecoinStudio.Sdk.TokenKeys

/-!
# Validation of requests

`ValidatedRequest`, which checks the fields of a request one by one, and the
checks that several requests share.
-/

namespace StablecoinStudio.Sdk.Validation

open StablecoinStudio.Foundation.DecimalTexts
open StablecoinStudio.Sdk.BigDecimal
open StablecoinStudio.Sdk.FixedNumber
open StablecoinStudio.Sdk.TokenKeys

set_option autoImplicit false

/-! ## Errors -/

inductive BaseError where
  | emptyValue (property : String)
  | invalidIdFormatHedera (val : Text)
  | accountIdNotValid (val : Text)
  | invalidType (val : Text)
  /-- `InvalidType` of a whole list of fees. -/
  | notAFee
  | invalidRange (val : Text) (min : String)
  | invalidDecimalRange (val : Text) (min : Nat) (max : Option Nat)
  | invalidLength (val : String) (min max : Nat)
  | invalidValue (message : String)
  | invalidRole (val : Text)
  | invalidSupplierType (val : Text)
  | invalidAmount (val min : Text)
  | initSupplyInvalid (initSupply : Text) (maxSupply : String)
  | cashInAllowanceInvalid (cashInAllowance : Text)
  | initSupplyLargerThanReserveAmount (initSupply reserveInitialAmount : Text)
  | initSupplyLargerThanMaxSupply (initSupply maxSupply : Text)
  | maxSupplyOverLimit (maxSupply limit : Text)
  | invalidMaxSupplySupplyType (maxSupply : Text)
  /-- What the package throws. -/
  | thrown
deriving DecidableEq

/-- The errors that a check returns, unless it throws. -/
abbrev Check := Option (List BaseError)

/-! ## `ValidatedRequest` -/

/-- A property with the outcome of its check, if it has a value to check. -/
structure Property where
  name : String
  optional : Bool
  checked : Option Check

structure ValidationResponse where
  name : String
  errors : List BaseError
deriving DecidableEq

def runValidation (property : Property) : Option ValidationResponse :=
  match property.checked with
  | some (some []) => none
  | some (some errors) => some ⟨property.name, errors⟩
  | some none => some ⟨property.name, [.thrown]⟩
  | none => if property.optional then none else some ⟨property.name, [.emptyValue property.name]⟩

/-- The properties in the order of the schema; a request has all of them. -/
def validate (schema : List Property) : List ValidationResponse := schema.filterMap runValidation

/-- There is a value that passes, or no value is needed. -/
def Passes (property : Property) : Prop :=
  match property.checked with
  | some outcome => outcome = some []
  | none => property.optional = true

theorem name_of_response {property : Property} {response : ValidationResponse}
    (found : runValidation property = some response) : response.name = property.name := by
  unfold runValidation at found
  split at found
  · cases found
  · rw [← Option.some.inj found]
  · rw [← Option.some.inj found]
  · split at found
    · cases found
    · rw [← Option.some.inj found]

theorem silent_iff (property : Property) : runValidation property = none ↔ Passes property := by
  unfold runValidation Passes
  split
  · next passed => simp [passed]
  · next errors some_ checked =>
      rw [checked]
      simp only [reduceCtorEq, Option.some.injEq, false_iff]
      exact some_
  · next thrown => simp [thrown]
  · next missing => cases property.optional <;> simp [missing]

theorem validated_iff {schema : List Property} :
    validate schema = [] ↔ ∀ property ∈ schema, Passes property := by
  rw [validate, List.filterMap_eq_nil_iff]
  exact forall₂_congr fun property _ => silent_iff property

/-- A property is reported when there is one of the name that does not pass. -/
theorem reported_iff {schema : List Property} {name : String} :
    (∃ response ∈ validate schema, response.name = name) ↔
      ∃ property ∈ schema, property.name = name ∧ ¬Passes property := by
  simp only [validate, List.mem_filterMap]
  constructor
  · intro ⟨response, ⟨property, listed, found⟩, named⟩
    refine ⟨property, listed, (name_of_response found).symm.trans named, ?_⟩
    rw [← silent_iff, found]
    exact Option.some_ne_none response
  · intro ⟨property, listed, named, refused⟩
    rw [← silent_iff, ← ne_eq, Option.ne_none_iff_exists'] at refused
    obtain ⟨response, found⟩ := refused
    exact ⟨response, ⟨property, listed, found⟩, (name_of_response found).trans named⟩

def Valid (given : Option Text) (check : Text → Check) : Prop :=
  ∀ val, given = some val → check val = some []

theorem optional_passes_iff {name : String} {given : Option Text} {check : Text → Check} :
    Passes ⟨name, true, given.map check⟩ ↔ Valid given check := by
  cases given with
  | none => simp [Passes, Valid]
  | some val => simp [Passes, Valid]

/-! ## Ids -/

def noAccount : Text := "0.0.0".toList

def checkHederaIdFormat (zeroIsValid : Bool) (val : Text) : Check :=
  if isHederaId val = false then some [.invalidIdFormatHedera val]
  else if zeroIsValid = false ∧ val = noAccount then some [.accountIdNotValid val]
  else some []

theorem hedera_id_checked {val : Text} (passed : checkHederaIdFormat false val = some []) :
    isHederaId val = true ∧ val ≠ noAccount := by
  unfold checkHederaIdFormat at passed
  split at passed
  · cases passed
  · next format =>
      split at passed
      · cases passed
      · next given =>
          exact ⟨Bool.eq_true_of_not_eq_false format, fun same => given ⟨rfl, same⟩⟩

/-! ## Amounts -/

def truthy (text : Option Text) : Option Text := text.filter fun given => decide (given ≠ [])

theorem truthy_eq_some {value : Option Text} {text : Text} :
    truthy value = some text ↔ value = some text ∧ text ≠ [] := by
  simp [truthy, Option.filter_eq_some_iff]

section Amounts

variable {fixed : Type} (ethers : FixedNumbers fixed)

/-- `CheckNums.hasMoreDecimals`; nothing is more than missing decimals. -/
def moreThan (val : Text) : (decimals : Option Nat) → Option Bool
  | some decimals => hasMoreDecimals ethers val decimals
  | none => do
      let _ ← BigDecimal.fromString ethers val none
      return false

/-- No more decimals than there are, and then what else is checked. -/
def checkedDecimals (val : Text) (decimals : Option Nat) (check : Check) : Check := do
  if ← moreThan ethers val decimals then
    return [.invalidDecimalRange val (decimals.getD 0) none]
  check

/-- The checks that amounts begin with: a number in the decimals that there are. -/
def checkedAmount (val : Text) (decimals : Option Nat) (check : Check) : Check :=
  if isBigDecimal ethers val = false then some [.invalidType val]
  else checkedDecimals ethers val decimals check

def checkAmount (zeroIsValid : Bool) (decimals : Nat) (val : Text) : Check :=
  if isBigDecimal ethers val = false then some [.invalidType val]
  else do
    let valueDecimals := getDecimalsFromString val
    let zero ← BigDecimal.fromString ethers ['0'] (some valueDecimals)
    let value ← BigDecimal.fromString ethers val none
    let outside := if zeroIsValid then isLowerThan ethers value zero
      else isLowerOrEqualThan ethers value zero
    return (if outside then [.invalidRange val "0"] else []) ++
      if valueDecimals > decimals then [.invalidDecimalRange val 0 (some decimals)] else []

end Amounts

end StablecoinStudio.Sdk.Validation
