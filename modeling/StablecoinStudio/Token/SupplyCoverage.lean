import StablecoinStudio.Foundation.DecimalQuantities
import StablecoinStudio.Token.ReferenceLedger
import StablecoinStudio.Token.TokenFlows

/-!
# Supply and reserve

Only a mint makes the supply grow, and a mint under a price feed passes only
when the reserve covers the supply after it, compared as rationals.
-/

namespace StablecoinStudio.Token.SupplyCoverage

open StablecoinStudio.Core.Common
open StablecoinStudio.Core.Constants
open StablecoinStudio.Foundation.CheckedInt
open StablecoinStudio.Foundation.DecimalQuantities
open StablecoinStudio.Foundation.Runs
open StablecoinStudio.Token.ProxyState
open StablecoinStudio.Token.ReferenceLedger
open StablecoinStudio.Token.Reserve
open StablecoinStudio.Token.Roles
open StablecoinStudio.Token.Services
open StablecoinStudio.Token.System
open StablecoinStudio.Token.TokenFlows
open StablecoinStudio.Token.TokenLaws
open StablecoinStudio.Token.Treasury

set_option autoImplicit false

variable {world : Type} {p : Platform world} {msg : Msg} {before after state : State world}
  {called : Call}

/-- The feed answers, recently enough when a threshold is set, with a reserve
of at least the supply and the amount, each in its own decimals. -/
def ReserveCovers (p : Platform world) (msg : Msg) (state : State world) (amount : Sint64) :
    Prop :=
  ∃ (answer : Sint256) (updatedAt : Uint256) (reserveDecimals : Uint8),
    p.latestRoundData state.reserve.reserveAddress state.world = some (answer, updatedAt) ∧
    p.feedDecimals state.reserve.reserveAddress state.world = some reserveDecimals ∧
    ((supplyIn p state + amount.toInt : Int) : ℚ) /
        10 ^ (p.decimals state.tokenAddress state.world).toNat ≤
      (answer.toInt : ℚ) / 10 ^ reserveDecimals.toNat ∧
    (0 < state.reserve.updatedAtThreshold.toNat →
      (msg.timestamp.toNat : Int) - updatedAt.toNat ≤ state.reserve.updatedAtThreshold.toNat)

theorem reserve_covers_of_compared {units : Uint256} {amount : Sint64}
    (exact_ : (units.toNat : Int) = amount.toInt)
    (compared : ReserveStorageWrapper.Compared p msg state units true) :
    ReserveCovers p msg state amount := by
  obtain ⟨answer, updatedAt, reserveDecimals, answered, digits, past, fresh, nonNegative,
    sufficient⟩ := compared.exists_feed
  refine ⟨answer, updatedAt, reserveDecimals, answered, digits, ?_, ?_⟩
  · have enough := aligned_le_aligned_iff.mp (of_decide_eq_true sufficient.symm)
    have supplySide : ((supplyIn p state + amount.toInt : Int) : ℚ) =
        (((p.totalSupply state.tokenAddress state.world).toNat + units.toNat : Nat) : ℚ) := by
      rw [← exact_]
      rfl
    have reserveSide : (answer.toInt : ℚ) = ((answer.toInt.toNat : Nat) : ℚ) := by
      have same : ((answer.toInt.toNat : Nat) : Int) = answer.toInt := Int.toNat_of_nonneg nonNegative
      exact_mod_cast congrArg (fun amount : Int => (amount : ℚ)) same.symm
    rw [supplySide, reserveSide]
    exact enough
  · intro limited
    have age := fresh limited
    omega

structure SupplyStep (p : Platform world) (state : State world) (msg : Msg) (called : Call) :
    Prop where
  grows : supplyIn p state < supplyIn p (next p state (.call msg called)) →
    succeeds p state msg called = true ∧ ∃ account amount, called = .mint account amount
  covered : ∀ account amount, called = .mint account amount →
    succeeds p state msg called = true → state.reserve.reserveAddress ≠ 0 →
      ReserveCovers p msg state amount
  holds : ∀ hold, (called = .createHold hold ∨
      ∃ holder operatorData, called = .createHoldByController holder hold operatorData) →
    supplyIn p (next p state (.call msg called)) = supplyIn p state

def SupplyRule (p : Platform world) (state : State world) : Label world → Prop
  | .call msg called => SupplyStep p state msg called
  | .outside _ => True

section Step

variable (laws : SupplyLaws p before.tokenAddress) (control : called.keepsControl p msg)
include laws control

theorem supply_not_raised (effect : Effect p msg before after called)
    (notMint : ∀ account amount, called ≠ .mint account amount) :
    supplyIn p after ≤ supplyIn p before := by
  cases effect with
  | view _ same => rw [same]
  | mint _ => exact (notMint _ _ rfl).elim
  | burn done =>
      have positive := done.positive
      rw [supply_by_burn laws done]
      omega
  | wipe done =>
      have positive := done.positive
      rw [supply_by_wipe laws done]
      omega
  | rescue done => rw [supply_by_rescue laws done]
  | rescueHBAR done => rw [supply_by_hbar_rescue (control.2 rfl) done]
  | administration _ _ _ answered frame =>
      have sameToken : after.tokenAddress = before.tokenAddress := by rw [frame]
      rw [supplyIn, supplyIn, sameToken]
      exact laws.administer answered
  | permission _ _ frame => rw [supplyIn, frame, supplyIn]
  | reserve _ _ frame => rw [supplyIn, frame, supplyIn]
  | createHold done => rw [supply_by_creation laws done]
  | createHoldByController _ done => rw [supply_by_creation laws done]
  | executeHold _ _ _ _ done => rw [supply_by_payment laws done]
  | releaseHold _ _ done => rw [supply_by_payment laws done]
  | reclaimHold _ done => rw [supply_by_payment laws done]
  | configuration _ _ frame => rw [supplyIn, frame, supplyIn]
  | initialization _ => exact (control.1 rfl).elim

theorem supply_step : SupplyStep p before msg called where
  grows := by
    intro grown
    cases outcome : succeeds p before msg called with
    | false =>
        rw [next_of_not_succeeds outcome] at grown
        exact (lt_irrefl _ grown).elim
    | true =>
        refine ⟨rfl, ?_⟩
        by_contra other
        push Not at other
        have effect := effect_of_committed (succeeds_iff.mp outcome)
        exact not_lt_of_ge (supply_not_raised laws control effect other) grown
  covered := by
    rintro account amount rfl committed isSet
    have effect := effect_of_committed (succeeds_iff.mp committed)
    cases effect with
    | mint done =>
        obtain ⟨units, exact_, checked⟩ := done.covered
        obtain ⟨unset, _⟩ | ⟨_, compared⟩ :=
          (ReserveStorageWrapper.check_reserve_amount_ok checked).2
        · exact (isSet unset).elim
        · exact reserve_covers_of_compared exact_ compared
    | view kind _ | administration kind _ _ _ _ | permission kind _ _ | reserve kind _ _
    | configuration kind _ _ => cases kind
  holds := by
    intro hold creates
    cases outcome : succeeds p before msg called with
    | false => rw [next_of_not_succeeds outcome]
    | true =>
        have effect := effect_of_committed (succeeds_iff.mp outcome)
        obtain rfl | ⟨holder, operatorData, rfl⟩ := creates
        · cases effect with
          | createHold done => exact supply_by_creation laws done
          | view kind _ | administration kind _ _ _ _ | permission kind _ _ | reserve kind _ _
          | configuration kind _ _ => cases kind
        · cases effect with
          | createHoldByController _ done => exact supply_by_creation laws done
          | view kind _ | administration kind _ _ _ _ | permission kind _ _ | reserve kind _ _
          | configuration kind _ _ => cases kind

end Step

/-- At every step of every run of the proxy. -/
theorem supply_rule_along_runs (p : Platform world) (start : State world)
    (labels : List (Label world)) (laws : SupplyLaws p start.tokenAddress)
    (control : Along (next p) (KeepsControl p) start labels) :
    Along (next p) (SupplyRule p) start labels := by
  have sameToken : ∀ state label, state.tokenAddress = start.tokenAddress →
      KeepsControl p state label → (next p state label).tokenAddress = start.tokenAddress := by
    intro state label same met
    rw [token_kept_by_step state label met]
    exact same
  apply along_of_invariant (next p) sameToken _ rfl control
  intro state label same met
  cases label with
  | outside later => trivial
  | call msg called =>
      rw [← same] at laws
      exact supply_step laws met

/-- A feed with one decimal answers 20.0 for a token without decimals. -/
def reservedLedger : Ledger where
  balances account := if account = 2 then units256 10 else 0
  supply := units256 10
  round := some (⟨200, by decide, by decide⟩, units256 1)
  roundDecimals := ⟨1, by decide⟩

/-- The administrator 4 sets the feed and makes 5 a supplier, who mints up to
the reserve and then beyond it. -/
def mintingRun : List (Label Ledger) :=
  [.call (sampleMsg 4 1) (.updateReserveAddress 9),
    .call (sampleMsg 4 2) (.grantUnlimitedSupplierRole 5),
    .call (sampleMsg 5 3) (.mint 2 (units64 10)),
    .call (sampleMsg 5 4) (.mint 2 (units64 1)),
    .call (sampleMsg 2 5) (.createHold (sampleHold 10))]

theorem supply_rule_on_sample_run :
    Along (next (reference 1)) (SupplyRule (reference 1))
        (deployed (RolesStorage.grantRole RolesStorage.empty adminRole 4) reservedLedger)
        mintingRun ∧
      supplyIn (reference 1) (run (next (reference 1))
        (deployed (RolesStorage.grantRole RolesStorage.empty adminRole 4) reservedLedger)
        mintingRun) = 20 := by
  refine ⟨supply_rule_along_runs _ _ _ (reference_supply_laws 1 7) ?_, rfl⟩
  simp [mintingRun, Along, KeepsControl, Call.keepsControl, Call.kind]

end StablecoinStudio.Token.SupplyCoverage
