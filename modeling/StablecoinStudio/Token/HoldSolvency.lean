import StablecoinStudio.Token.HoldLifecycle
import StablecoinStudio.Token.TokenFlows

/-!
# Whether the holds are covered

The proxy owes the held total to the parties of the holds. Burning leaves it
alone, rescuing asks only for the raw balance: the total stays covered exactly
as long as nobody rescues what is held.
-/

namespace StablecoinStudio.Token.HoldSolvency

open StablecoinStudio.Core.Common
open StablecoinStudio.Core.Constants
open StablecoinStudio.Foundation.CheckedInt
open StablecoinStudio.Foundation.EnumerableSets
open StablecoinStudio.Foundation.Runs
open StablecoinStudio.Token.HoldBookkeeping
open StablecoinStudio.Token.HoldLifecycle
open StablecoinStudio.Token.HoldManagement
open StablecoinStudio.Token.ProxyState
open StablecoinStudio.Token.ReferenceLedger
open StablecoinStudio.Token.Roles
open StablecoinStudio.Token.Services
open StablecoinStudio.Token.System
open StablecoinStudio.Token.TokenFlows
open StablecoinStudio.Token.TokenLaws

set_option autoImplicit false

variable {world : Type} {p : Platform world} {msg : Msg} {before after state : State world}
  {identifier : HoldIdentifier}

def free (p : Platform world) (state : State world) : Int := balanceIn p p.proxy state - held state

/-- The token service refuses no transfer that the balance of the proxy covers. -/
def PaysWhatIsCovered (p : Platform world) (state : State world) : Prop :=
  ∀ (recipient : Address) (amount : Sint64), 0 < amount.toInt →
    amount.toInt ≤ balanceIn p p.proxy state →
      ∃ later, p.transferToken state.tokenAddress p.proxy recipient amount state.world =
        (success, later)

/-- The hold can be paid out in full by each of the three operations, each in
its own window and by its own caller. -/
structure PayableInFull (p : Platform world) (identifier : HoldIdentifier) (state : State world) :
    Prop where
  execute : ∀ (msg : Msg) (recipient : Address),
    msg.timestamp.toNat <
      (HoldDataStorage.hold state.holds identifier).expirationTimestamp.toNat →
    (HoldDataStorage.hold state.holds identifier).escrow = msg.sender →
    ((HoldDataStorage.hold state.holds identifier).to_ = 0 ∨
      (HoldDataStorage.hold state.holds identifier).to_ = recipient) →
    ∃ answer, executeHold p identifier recipient
      (HoldDataStorage.hold state.holds identifier).amount msg state = .ok answer
  release : ∀ msg : Msg,
    msg.timestamp.toNat <
      (HoldDataStorage.hold state.holds identifier).expirationTimestamp.toNat →
    (HoldDataStorage.hold state.holds identifier).escrow = msg.sender →
    ∃ answer, releaseHold p identifier
      (HoldDataStorage.hold state.holds identifier).amount msg state = .ok answer
  reclaim : ∀ msg : Msg,
    (HoldDataStorage.hold state.holds identifier).expirationTimestamp.toNat ≤
      msg.timestamp.toNat →
    ∃ answer, reclaimHold p identifier msg state = .ok answer

structure Solvent (p : Platform world) (state : State world) : Prop where
  covered : held state ≤ balanceIn p p.proxy state
  holds : ∀ identifier : HoldIdentifier,
    identifier.holdId ∈ state.holds.holdIdsByAccount identifier.tokenHolder →
      (HoldDataStorage.hold state.holds identifier).amount.toInt ≤ balanceIn p p.proxy state ∧
        (PaysWhatIsCovered p state → PayableInFull p identifier state)

theorem payable_in_full (books : Bookkeeping state.holds)
    (live : identifier.holdId ∈ state.holds.holdIdsByAccount identifier.tokenHolder)
    (accepted : ∀ recipient, Accepts p identifier recipient state) :
    PayableInFull p identifier state where
  execute := by
    intro msg recipient inTime escrow destination
    have positive := (((books.accounts identifier.tokenHolder).listed identifier.holdId).mp live).2
    obtain ⟨after, done⟩ := payment_in_full books live (accepted recipient) msg
    exact ⟨(true, after), execute_hold_ok.mpr ⟨rfl, positive, inTime, escrow, destination, done⟩⟩
  release := by
    intro msg inTime escrow
    obtain ⟨after, done⟩ := payment_in_full books live (accepted identifier.tokenHolder) msg
    exact ⟨(true, after), release_hold_ok.mpr ⟨rfl, inTime, escrow, done⟩⟩
  reclaim := by
    intro msg late
    obtain ⟨after, done⟩ := payment_in_full books live (accepted identifier.tokenHolder) msg
    exact ⟨(true, after), reclaim_hold_ok.mpr ⟨rfl, late, done⟩⟩

theorem solvent_of_covered (books : Bookkeeping state.holds)
    (covered : held state ≤ balanceIn p p.proxy state) : Solvent p state where
  covered := covered
  holds := by
    intro identifier live
    have positive := (((books.accounts identifier.tokenHolder).listed identifier.holdId).mp live).2
    have bounds := books.amount_le_total live
    have within : (HoldDataStorage.hold state.holds identifier).amount.toInt ≤
        balanceIn p p.proxy state := (bounds.1.trans bounds.2).trans covered
    refine ⟨within, ?_⟩
    intro pays
    apply payable_in_full books live
    intro recipient
    exact pays recipient _ positive within

/-! ## The operations of the treasury -/

/-- The treasury and hold operations, and those that touch no token at all. The
treasury itself is not wiped, and nobody else moves tokens out of it. -/
def TreasuryOperation (p : Platform world) (state : State world) : Label world → Prop
  | .call _ (.wipe account _) => account ≠ p.proxy
  | .call msg called => called.keepsControl p msg ∧ ∀ role, called.kind ≠ .administration role
  | .outside later =>
      balance p state.tokenAddress p.proxy state.world ≤ balance p state.tokenAddress p.proxy later

/-- A rescue that the guards of the facet let through leaves what is held, and
so does a hold on the tokens of the proxy itself. -/
def TakesWhatIsFree (p : Platform world) (state : State world) : Label world → Prop
  | .call msg (.rescue amount) =>
      RolesStorage.hasRole state.roles rescueRole msg.sender = true → 0 < amount.toInt →
        amount.toInt ≤ balanceIn p p.proxy state → amount.toInt ≤ free p state
  | .call msg (.createHold hold) => msg.sender = p.proxy → hold.amount.toInt ≤ free p state
  | .call _ (.createHoldByController holder hold _) =>
      holder = p.proxy → hold.amount.toInt ≤ free p state
  | _ => True

theorem keeps_control_of_treasury_operation {label : Label world}
    (inScope : TreasuryOperation p state label) : KeepsControl p state label := by
  cases label with
  | outside later => trivial
  | call msg called =>
      cases called with
      | wipe account amount => exact ⟨nofun, nofun⟩
      | _ => exact inScope.1

section Covered

variable (laws : BalanceLaws p before.tokenAddress)
include laws

/-- A hold of the proxy on its own tokens moves none. -/
theorem covered_by_own_creation_iff {hold : Hold} {operatorData : Bytes} {holdId : Uint256}
    (done : Creation p msg p.proxy hold operatorData holdId before after) :
    held after ≤ balanceIn p p.proxy after ↔ hold.amount.toInt ≤ free p before := by
  have moved := balances_by_creation laws done p.proxy
  rw [share_self] at moved
  rw [held_by_creation done, moved, free]
  omega

theorem covered_by_creation {tokenHolder : Address} {hold : Hold} {operatorData : Bytes}
    {holdId : Uint256} (covered : held before ≤ balanceIn p p.proxy before)
    (own : tokenHolder = p.proxy → hold.amount.toInt ≤ free p before)
    (done : Creation p msg tokenHolder hold operatorData holdId before after) :
    held after ≤ balanceIn p p.proxy after := by
  by_cases same : tokenHolder = p.proxy
  · have within := own same
    rw [same] at done
    exact (covered_by_own_creation_iff laws done).mpr within
  · have moved := balances_by_creation laws done p.proxy
    rw [share_self, share_of_ne (Ne.symm same)] at moved
    have positive := done.positive
    rw [held_by_creation done, moved]
    omega

theorem covered_by_payment {recipient : Address} {amount : Sint64}
    (covered : held before ≤ balanceIn p p.proxy before)
    (done : Payment p msg identifier recipient amount before after) :
    held after ≤ balanceIn p p.proxy after := by
  have moved := balances_by_payment laws done p.proxy
  have returned := share_nonneg p.proxy recipient (payment_nonneg laws done)
  rw [share_self] at moved
  rw [held_by_payment done, moved]
  omega

/-- No committed operation takes from the proxy more than it settles. -/
theorem covered_by_call {called : Call} (covered : held before ≤ balanceIn p p.proxy before)
    (inScope : TreasuryOperation p before (.call msg called))
    (takesFree : TakesWhatIsFree p before (.call msg called))
    (effect : Effect p msg before after called) :
    held after ≤ balanceIn p p.proxy after := by
  have control := keeps_control_of_treasury_operation inScope
  cases effect with
  | view _ same =>
      rw [same]
      exact covered
  | @mint account amount done =>
      have sameHeld : held after = held before := by rw [held, held, done.frame]
      have credited := share_nonneg p.proxy account (Int.le_of_lt done.positive)
      rw [sameHeld, balances_by_mint laws done p.proxy]
      omega
  | burn done =>
      have sameHeld : held after = held before := by rw [held, held, done.frame]
      have burnable := done.burnable
      have settled := balances_by_burn laws done p.proxy
      rw [share_self] at settled
      rw [sameHeld, settled, held]
      rw [balanceIn, balance]
      omega
  | wipe done =>
      have sameHeld : held after = held before := by rw [held, held, done.frame]
      rw [sameHeld, balances_by_wipe laws done p.proxy, share_of_ne (Ne.symm inScope), Int.sub_zero]
      exact covered
  | rescue done =>
      have sameHeld : held after = held before := by rw [held, held, done.frame]
      have within := takesFree done.role done.positive done.owned
      have settled := balances_by_rescue laws done p.proxy
      have returned := share_nonneg p.proxy msg.sender (Int.le_of_lt done.positive)
      rw [share_self] at settled
      rw [free] at within
      rw [sameHeld, settled]
      omega
  | rescueHBAR done =>
      have quiet := control.2 rfl
      have sameHeld : held after = held before := by rw [held, held, done.frame quiet]
      rw [sameHeld, balance_by_hbar_rescue quiet done]
      exact covered
  | @administration _ role kind =>
      cases called with
      | wipe account amount => cases kind
      | _ => exact (inScope.2 role kind).elim
  | permission _ _ frame =>
      rw [held, balanceIn, frame]
      exact covered
  | reserve _ _ frame =>
      rw [held, balanceIn, frame]
      exact covered
  | createHold done => exact covered_by_creation laws covered takesFree done
  | createHoldByController _ done => exact covered_by_creation laws covered takesFree done
  | executeHold _ _ _ _ done => exact covered_by_payment laws covered done
  | releaseHold _ _ done => exact covered_by_payment laws covered done
  | reclaimHold _ done => exact covered_by_payment laws covered done
  | configuration _ _ frame =>
      rw [held, balanceIn, frame]
      exact covered
  | initialization _ => exact (control.1 rfl).elim

/-- A committed call after which the holds are covered took only what was free.
The proxy does not call itself. -/
theorem takes_free_of_covered {called : Call}
    (apart : ∀ amount, called = .rescue amount → msg.sender ≠ p.proxy)
    (effect : Effect p msg before after called) (covered : held after ≤ balanceIn p p.proxy after) :
    TakesWhatIsFree p before (.call msg called) := by
  cases called with
  | rescue amount =>
      cases effect with
      | rescue done =>
          intro _ _ _
          have sameHeld : held after = held before := by rw [held, held, done.frame]
          have settled := balances_by_rescue laws done p.proxy
          rw [share_self, share_of_ne (Ne.symm (apart amount rfl)), Int.add_zero] at settled
          rw [free]
          omega
      | view kind | administration kind | permission kind | reserve kind | configuration kind =>
          cases kind
  | createHold hold =>
      cases effect with
      | createHold done =>
          intro own
          rw [own] at done
          exact (covered_by_own_creation_iff laws done).mp covered
      | view kind | administration kind | permission kind | reserve kind | configuration kind =>
          cases kind
  | createHoldByController holder hold operatorData =>
      cases effect with
      | createHoldByController _ done =>
          intro own
          rw [own] at done
          exact (covered_by_own_creation_iff laws done).mp covered
      | view kind | administration kind | permission kind | reserve kind | configuration kind =>
          cases kind
  | _ => trivial

end Covered

/-! ## Along a run -/

structure Sound (p : Platform world) (token : Address) (state : State world) : Prop where
  token_ : state.tokenAddress = token
  books : Bookkeeping state.holds
  covered : held state ≤ balanceIn p p.proxy state

theorem sound_by_step {token : Address} (laws : BalanceLaws p token) (state : State world)
    (label : Label world) (sound : Sound p token state)
    (met : TreasuryOperation p state label ∧ TakesWhatIsFree p state label) :
    Sound p token (next p state label) := by
  have control := keeps_control_of_treasury_operation met.1
  refine ⟨?_, bookkeeping_next state label sound.books control, ?_⟩
  · rw [token_kept_by_step state label control]
    exact sound.token_
  · cases label with
    | outside later => exact sound.covered.trans met.1
    | call msg called =>
        rcases next_cases p state msg called with committed | same
        · rw [← sound.token_] at laws
          exact covered_by_call laws sound.covered met.1 met.2 (effect_of_committed committed)
        · rw [same]
          exact sound.covered

theorem solvent_of_sound {token : Address} (sound : Sound p token state) : Solvent p state :=
  solvent_of_covered sound.books sound.covered

/-- The holds are covered, and stay so at the next call that commits exactly
when it takes only what is free. -/
structure SolventWhileFree (p : Platform world) (state : State world) : Prop where
  solvent : Solvent p state
  next : ∀ msg called after, TreasuryOperation p state (.call msg called) →
    (∀ amount, called = .rescue amount → msg.sender ≠ p.proxy) →
    called.perform p msg state = .ok ((), after) →
    (Solvent p after ↔ TakesWhatIsFree p state (.call msg called))

theorem solvent_by_call_iff {token : Address} (laws : BalanceLaws p token)
    (sound : Sound p token state) {called : Call} (inScope : TreasuryOperation p state (.call msg called))
    (apart : ∀ amount, called = .rescue amount → msg.sender ≠ p.proxy)
    (committed : called.perform p msg state = .ok ((), after)) :
    Solvent p after ↔ TakesWhatIsFree p state (.call msg called) := by
  constructor
  · intro solvent
    rw [← sound.token_] at laws
    exact takes_free_of_covered laws apart (effect_of_committed committed) solvent.covered
  · intro takesFree
    have later := sound_by_step laws state (.call msg called) sound ⟨inScope, takesFree⟩
    rw [next_of_committed committed] at later
    exact solvent_of_sound later

/-- In every run that rescues only what is free the holds stay covered. -/
theorem solvent_along_runs (p : Platform world) (start : State world)
    (labels : List (Label world)) (laws : BalanceLaws p start.tokenAddress)
    (fresh : start.holds = HoldDataStorage.empty)
    (takesFree : Along (next p)
      (fun state label => TreasuryOperation p state label ∧ TakesWhatIsFree p state label)
      start labels) : SolventWhileFree p (run (next p) start labels) := by
  have initial : Sound p start.tokenAddress start := by
    refine ⟨rfl, ?_, ?_⟩
    · rw [fresh]
      exact empty_bookkeeping
    · have nothing : held start = 0 := by
        rw [held, fresh]
        rfl
      rw [nothing]
      exact balance_nonneg p p.proxy start
  have sound : Sound p start.tokenAddress (run (next p) start labels) :=
    invariant_of_steps (next p) (sound_by_step laws) initial takesFree
  exact
    { solvent := solvent_of_sound sound
      next := fun _ _ _ inScope apart committed =>
        solvent_by_call_iff laws sound inScope apart committed }

def rescuerRoles : RolesStorage := RolesStorage.grantRole RolesStorage.empty rescueRole 4

/-- Account 2 puts 10 on hold, and account 4 rescues some of the balance. -/
def rescueRun (rescued : Fin (2 ^ 63)) : List (Label Ledger) :=
  [.call (sampleMsg 2 1) (.createHold (sampleHold 10)),
    .call (sampleMsg 4 2) (.rescue (units64 rescued))]

theorem rescue_leaves_hold_uncovered :
    Along (next (reference 1)) (TreasuryOperation (reference 1))
        (deployed rescuerRoles (holderLedger 10)) (rescueRun 10) ∧
      held (run (next (reference 1)) (deployed rescuerRoles (holderLedger 10)) (rescueRun 10)) = 10 ∧
      balanceIn (reference 1) 1
        (run (next (reference 1)) (deployed rescuerRoles (holderLedger 10)) (rescueRun 10)) = 0 ∧
      (∃ failure, reclaimHold (reference 1) ⟨2, units256 1⟩ (sampleMsg 2 60)
        (run (next (reference 1)) (deployed rescuerRoles (holderLedger 10)) (rescueRun 10)) =
          .error failure) ∧
      ¬ Solvent (reference 1)
        (run (next (reference 1)) (deployed rescuerRoles (holderLedger 10)) (rescueRun 10)) := by
  have owed : held (run (next (reference 1)) (deployed rescuerRoles (holderLedger 10))
      (rescueRun 10)) = 10 := rfl
  have left : balanceIn (reference 1) 1
      (run (next (reference 1)) (deployed rescuerRoles (holderLedger 10)) (rescueRun 10)) = 0 := rfl
  refine ⟨?_, owed, left, ⟨_, rfl⟩, ?_⟩
  · simp [rescueRun, Along, TreasuryOperation, Call.keepsControl, Call.kind]
  · intro solvent
    have covered := solvent.covered
    have short : balanceIn (reference 1) (reference 1).proxy (run (next (reference 1))
        (deployed rescuerRoles (holderLedger 10)) (rescueRun 10)) = 0 := left
    rw [owed, short] at covered
    omega

/-- With 5 more in the treasury the holds stay covered when 5 are rescued. -/
def treasuryLedger : Ledger where
  balances account := if account = 2 then units256 10 else if account = 1 then units256 5 else 0
  supply := units256 15

theorem solvent_on_sample_run :
    SolventWhileFree (reference 1)
      (run (next (reference 1)) (deployed rescuerRoles treasuryLedger) (rescueRun 5)) := by
  apply solvent_along_runs _ _ _ (reference_balance_laws 1 7) rfl
  refine ⟨⟨?_, ?_⟩, ⟨?_, ?_⟩, trivial⟩
  · simp [TreasuryOperation, Call.keepsControl, Call.kind]
  · intro own
    exact absurd own (by decide)
  · simp [TreasuryOperation, Call.keepsControl, Call.kind]
  · intro _ _ _
    decide

end StablecoinStudio.Token.HoldSolvency
