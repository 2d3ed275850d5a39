import StablecoinStudio.Core.Common
import StablecoinStudio.Sdk.BigDecimal

/-!
# What the command handlers read

The coin and the account as the queries answer them, and the errors with which
a handler refuses a request before it sends a transaction.
-/

namespace StablecoinStudio.Sdk.StableCoins

open StablecoinStudio.Core.Common
open StablecoinStudio.Foundation.DecimalQuantities
open StablecoinStudio.Foundation.DecimalTexts
open StablecoinStudio.Sdk.BigDecimal
open StablecoinStudio.Sdk.FixedNumber

set_option autoImplicit false

def numberBits : Nat := 53

inductive TokenSupplyType
  | finite
  | infinite
deriving DecidableEq

/-- The mirror node also answers that freezing does not apply. -/
inductive FreezeStatus
  | unfrozen
  | frozen
  | notApplicable
deriving DecidableEq

inductive KycStatus
  | notApplicable
  | granted
  | revoked
deriving DecidableEq

structure AccountTokenRelation (fixed : Type) where
  balance : fixed
  freezeStatus : FreezeStatus
  kycStatus : KycStatus

/-- The handlers take a limit that is missing for zero. -/
structure AccountAutoAssociation where
  maxAutoAssociations : Option Int
  autoAssociationsCount : Nat
  remainingAutoAssociations : Option Int
deriving DecidableEq

/-- The fields that the handlers read; keys and ids as the texts that they
compare. -/
structure StableCoin (fixed : Type) where
  decimals : Nat
  totalSupply : Option fixed
  maxSupply : Option fixed
  supplyType : TokenSupplyType
  tokenId : Option String
  treasury : Option String
  proxyAddress : Option String
  evmProxyAddress : Option String
  supplyKey : Option String
  wipeKey : Option String

inductive Failure
  | stableCoinNotAssociated (targetId tokenId : String)
  | stableCoinMaxAutoAssociationReached (targetId : String) (maxAssociations : Int)
  | accountFreeze (targetId : String)
  | accountNotKyc (targetId : String)
  | decimalsOverRange (decimals : Nat)
  | operationNotAllowed (message : String)
  | burnableAmountExceeded
  | missingProxySupplyKey
  | missingProxyWipeKey
  | insufficientHoldBalance
  | invalidHoldId
  | notEscrow (caller escrow : Address)
  | invalidHoldDestination
  | expiredHold
  | holdNotExpired
  /-- What the package throws for a number it does not read or hold. -/
  | invalidNumber
  /-- What a query throws for a coin without a proxy. -/
  | invalidTokenId
  /-- What the mirror node's adapter throws instead, also for an account
  without an address. -/
  | invalidResponse
  /-- What a call of the contract throws that is not caught. -/
  | callException (failure : Revert)
deriving DecidableEq

abbrev Checked (result : Type) := Except Failure result

def number {result : Type} : Option result → Checked result
  | none => .error .invalidNumber
  | some value => .ok value

def refuseWhen (condition : Prop) [Decidable condition] (failure : Failure) : Checked Unit :=
  if condition then .error failure else .ok ()

section Checks

variable {result next : Type} {failure : Failure}

theorem bind_ok {first : Checked result} {rest : result → Checked next} {value : next} :
    (first >>= rest) = .ok value ↔ ∃ between, first = .ok between ∧ rest between = .ok value := by
  cases first with
  | error failure =>
      constructor
      · intro impossible
        cases impossible
      · intro given
        cases given.choose_spec.1
  | ok between =>
      constructor
      · intro rest
        exact ⟨between, rfl, rest⟩
      · intro given
        obtain ⟨_, same, rest⟩ := given
        rw [Except.ok.inj same]
        exact rest

theorem number_ok {given : Option result} {value : result} :
    number given = .ok value ↔ given = some value := by
  cases given with
  | none =>
      constructor
      · intro impossible
        cases impossible
      · intro impossible
        cases impossible
  | some held =>
      constructor
      · intro same
        rw [Except.ok.inj same]
      · intro same
        rw [Option.some.inj same]
        rfl

theorem refuse_when_ok {condition : Prop} [Decidable condition] {value : Unit} :
    refuseWhen condition failure = .ok value ↔ ¬condition := by
  unfold refuseWhen
  split
  · next refused =>
      constructor
      · intro impossible
        cases impossible
      · intro passed
        exact absurd refused passed
  · next passed =>
      constructor
      · intro _
        exact passed
      · intro _
        rfl

theorem not_refused {condition : Prop} [Decidable condition] (failure : Failure)
    (passed : ¬condition) : refuseWhen condition failure = .ok () :=
  refuse_when_ok.mpr passed

theorem bind_error {first : Checked result} {rest : result → Checked next} :
    (first >>= rest) = .error failure ↔
      first = .error failure ∨ ∃ between, first = .ok between ∧ rest between = .error failure := by
  cases first with
  | error raised =>
      constructor
      · intro same
        left
        rw [Except.error.inj same]
      · intro given
        rcases given with same | later
        · rw [Except.error.inj same]
          rfl
        · cases later.choose_spec.1
  | ok between =>
      constructor
      · intro rest
        exact Or.inr ⟨between, rfl, rest⟩
      · intro given
        rcases given with impossible | later
        · cases impossible
        · obtain ⟨_, same, rest⟩ := later
          rw [Except.ok.inj same]
          exact rest

theorem refuse_when_error {condition : Prop} [Decidable condition] {refusal : Failure} :
    refuseWhen condition refusal = .error failure ↔ condition ∧ refusal = failure := by
  unfold refuseWhen
  split
  · next refused => simp [refused]
  · next passed => simp [passed]

end Checks

/-! ## The amount of a command -/

section Amounts

variable {fixed : Type} (ethers : FixedNumbers fixed)

def checkDecimals (amount : Text) (decimals : Nat) : Checked Unit := do
  let tooFine ← number (hasMoreDecimals ethers amount decimals)
  refuseWhen tooFine (.decimalsOverRange decimals)

def parsedAmount (amount : Text) (decimals : Nat) : Checked fixed :=
  number (fromString ethers amount (some decimals))

/-- The text of an amount in raw units of a token: it has no more decimals than
the token. -/
structure AmountText (text : Text) (decimals : Nat) (decimal : DecimalText) (amount : Nat) :
    Prop where
  text : text = decimal.text
  digits : decimal.whole ++ decimal.fractional ≠ []
  places : decimal.places ≤ decimals
  units : decimal.unitsAt decimals = amount
  decimals : decimals ≤ 18

/-- The amount as the handlers read it. -/
structure Parsed (text : Text) (decimals amount : Nat) (amountBd : fixed) : Prop where
  read : parsedAmount ethers text decimals = .ok amountBd
  is : ethers.Is amountBd decimals amount
  notTooFine : checkDecimals ethers text decimals = .ok ()
  own : ∃ value, fromString ethers text none = some value ∧
    ethers.amount value = quantity decimals amount

variable {ethers} {text : Text} {decimals amount : Nat} {decimal : DecimalText}

theorem parsed_of_fits (laws : Laws ethers) (given : AmountText text decimals decimal amount)
    (fits : Representable decimals amount) :
    ∃ amountBd, Parsed ethers text decimals amount amountBd := by
  have scale : (1 : Int) ≤ 10 ^ (decimals - decimal.places) := one_le_pow₀ (by decide)
  have units := given.units
  rw [DecimalText.unitsAt] at units
  have ownFits : Representable decimal.places decimal.units := by
    have places := given.places
    have few := given.decimals
    have upper := fits.upper
    refine ⟨by omega, ?_, ?_⟩ <;> nlinarith
  obtain ⟨amountBd, read, is⟩ := fromString_decimal laws given.digits given.places
    (by rw [given.units]; exact fits)
  obtain ⟨own, ownRead, ownIs⟩ := fromString_own_decimals laws given.digits ownFits
  rw [given.units] at is
  rw [← given.text] at read ownRead
  refine ⟨amountBd, number_ok.mpr read, is, ?_, own, ownRead, ?_⟩
  · have fine : hasMoreDecimals ethers text decimals = some false := by
      rw [hasMoreDecimals, ownRead]
      exact congrArg some (decide_eq_false (Nat.not_lt.mpr (by rw [ownIs.decimals]; exact given.places)))
    rw [checkDecimals, fine]
    rfl
  · rw [ownIs.amount, ← given.units, DecimalText.quantity_units_at given.places]
    rfl

theorem amount_text_of_checked (laws : Laws ethers) (few : decimals ≤ 18)
    (checked : checkDecimals ethers text decimals = .ok ())
    (positive : ∀ decimal : DecimalText, decimal.text = text → 0 < decimal.units) :
    ∃ decimal amount, AmountText text decimals decimal amount ∧ 0 < amount := by
  unfold checkDecimals at checked
  obtain ⟨tooFine, fine, allowed⟩ := bind_ok.mp checked
  have notTooFine : ¬tooFine = true := refuse_when_ok.mp allowed
  have read := number_ok.mp fine
  unfold hasMoreDecimals at read
  obtain ⟨own, ownRead, same⟩ := Option.bind_eq_some_iff.mp read
  have shaped : ∃ decimal : DecimalText, decimal.text = text ∧
      decimal.whole ++ decimal.fractional ≠ [] := by
    by_contra noShape
    have refused := laws.rejects text (getDecimalsFromString text) fun decimal same => by
      by_contra digits
      exact noShape ⟨decimal, same, digits⟩
    have given : ethers.fromString text (getDecimalsFromString text) = some own := ownRead
    rw [refused] at given
    cases given
  obtain ⟨decimal, rfl, digits⟩ := shaped
  have ownText : ethers.fromString decimal.text decimal.places = some own := by
    rw [← getDecimalsFromString_text]
    exact ownRead
  have ownIs := laws.reads decimal decimal.places own (Nat.le_refl _) digits ownText
  have places : decimal.places ≤ decimals := by
    by_contra finer
    apply notTooFine
    rw [← Option.some.inj same, ownIs.decimals]
    exact decide_eq_true (Nat.lt_of_not_le finer)
  have more : 0 < decimal.unitsAt decimals :=
    Int.mul_pos (positive decimal rfl) (pow_pos (by decide) _)
  refine ⟨decimal, (decimal.unitsAt decimals).toNat, ⟨rfl, digits, places, ?_, few⟩, ?_⟩ <;> omega

theorem unparsed_of_misfit (laws : Laws ethers) (given : AmountText text decimals decimal amount)
    (misfit : ¬Representable decimals amount) (amountBd : fixed) :
    parsedAmount ethers text decimals ≠ .ok amountBd := by
  intro read
  have parsed := number_ok.mp read
  rw [given.text] at parsed
  have accepted := (laws.accepts decimal _ given.places given.digits).mp ⟨amountBd, parsed⟩
  rw [given.units] at accepted
  exact misfit accepted

end Amounts

end StablecoinStudio.Sdk.StableCoins
