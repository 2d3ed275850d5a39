import StablecoinStudio.Foundation.Ledgers
import StablecoinStudio.Token.HoldSolvency

/-!
# What the accounts own

A hold moves tokens into the treasury, yet they are still the holder's. Counted
this way the proxy is a plain ledger: its entries can be read off the calls that
succeed, and creating, releasing and reclaiming holds post nothing.
-/

namespace StablecoinStudio.Token.HolderClaims

open StablecoinStudio.Core.Common
open StablecoinStudio.Core.Constants
open StablecoinStudio.Foundation.CheckedInt
open StablecoinStudio.Foundation.Ledgers
open StablecoinStudio.Foundation.Runs
open StablecoinStudio.Token.HoldBookkeeping
open StablecoinStudio.Token.HoldManagement
open StablecoinStudio.Token.HoldSolvency
open StablecoinStudio.Token.ProxyState
open StablecoinStudio.Token.ReferenceLedger
open StablecoinStudio.Token.Roles
open StablecoinStudio.Token.Services
open StablecoinStudio.Token.System
open StablecoinStudio.Token.TokenFlows
open StablecoinStudio.Token.TokenLaws

set_option autoImplicit false

variable {world : Type} {p : Platform world} {msg : Msg} {before after state : State world}
  {tokenHolder recipient : Address} {amount : Sint64} {hold : Hold} {operatorData : Bytes}
  {holdId : Uint256} {identifier : HoldIdentifier}

def heldFor (account : Address) (state : State world) : Int :=
  (state.holds.totalHeldAmountByAccount account).toInt

/-- The balance and what is on hold; the treasury owns nothing of the latter. -/
def claim (p : Platform world) (state : State world) (account : Address) : Int :=
  balanceIn p account state + heldFor account state -
    if account = p.proxy then held state else 0

def callEntries (p : Platform world) (msg : Msg) : Call → List (Entry Address)
  | .mint account amount => [.credit account amount.toInt]
  | .burn amount => [.debit p.proxy amount.toInt]
  | .wipe account amount => [.debit account amount.toInt]
  | .rescue amount => [.move p.proxy msg.sender amount.toInt]
  | .executeHold identifier recipient amount =>
      [.move identifier.tokenHolder recipient amount.toInt]
  | _ => []

theorem no_entries {called : Call} {other : Kind} (kind : called.kind = other)
    (apart : ¬ (other = .treasury ∨ other = .hold)) : callEntries p msg called = [] := by
  subst kind
  cases called with
  | mint _ _ | burn _ | wipe _ _ | rescue _ => exact (apart (Or.inl rfl)).elim
  | executeHold _ _ _ => exact (apart (Or.inr rfl)).elim
  | _ => rfl

def outsideChange (p : Platform world) (state : State world) (later : world) (account : Address) :
    Int :=
  balance p state.tokenAddress account later - balanceIn p account state

def entries (p : Platform world) (state : State world) : Label world → List (Entry Address)
  | .call msg called => if succeeds p state msg called then callEntries p msg called else []
  | .outside later => [.adjust (outsideChange p state later)]

/-! ## One step -/

theorem held_for_by_creation
    (done : Creation p msg tokenHolder hold operatorData holdId before after) (other : Address) :
    heldFor other after = heldFor other before + share other tokenHolder hold.amount := by
  obtain ⟨_, total, accountTotal, _, sum, registered⟩ := register_hold_ok.mp done.registered
  rw [heldFor, heldFor, registered]
  by_cases own : other = tokenHolder
  · rw [own, share_self]
    simpa [HoldDataStorage.setTotals, HoldDataStorage.setNextHoldId] using sum
  · rw [share_of_ne own]
    simp [HoldDataStorage.setTotals, HoldDataStorage.setHoldIds, HoldDataStorage.setHold,
      HoldDataStorage.setNextHoldId, own]

theorem held_for_by_payment (done : Payment p msg identifier recipient amount before after)
    (other : Address) :
    heldFor other after = heldFor other before - share other identifier.tokenHolder amount := by
  obtain ⟨remaining, total, accountTotal, _, _, sum, _, decreased⟩ :=
    decrease_hold_amount_ok.mp done.decreased
  have totals : after.holds.totalHeldAmountByAccount =
      Function.update before.holds.totalHeldAmountByAccount identifier.tokenHolder accountTotal := by
    rw [decreased]
    unfold afterDecrease
    split
    · rfl
    · rfl
  rw [heldFor, heldFor, totals]
  by_cases own : other = identifier.tokenHolder
  · rw [own, share_self, Function.update_self]
    exact sum
  · rw [share_of_ne own, Function.update_of_ne own, Int.sub_zero]

theorem claim_of_same_holds (same : after.holds = before.holds) (other : Address) :
    claim p after other =
      claim p before other + (balanceIn p other after - balanceIn p other before) := by
  rw [claim, claim, heldFor, heldFor, held, held, same]
  omega

theorem claim_unmoved (same : after.holds = before.holds)
    (balances : ∀ other, balanceIn p other after = balanceIn p other before) (other : Address) :
    claim p after other = claim p before other := by
  rw [claim_of_same_holds same, balances, Int.sub_self, Int.add_zero]

theorem claim_of_same_world (sameHolds : after.holds = before.holds)
    (sameToken : after.tokenAddress = before.tokenAddress) (sameWorld : after.world = before.world)
    (other : Address) : claim p after other = claim p before other := by
  apply claim_unmoved sameHolds
  intro account
  rw [balanceIn, balanceIn, sameToken, sameWorld]

section Step

variable (laws : BalanceLaws p before.tokenAddress)
include laws

/-- The holder owns the same whether the tokens are on hold or not. -/
theorem claim_by_creation
    (done : Creation p msg tokenHolder hold operatorData holdId before after) (other : Address) :
    claim p after other = claim p before other := by
  rw [claim, claim, balances_by_creation laws done other, held_for_by_creation done other,
    held_by_creation done]
  by_cases treasury : other = p.proxy
  · rw [treasury, share_self, if_pos rfl, if_pos rfl]
    omega
  · rw [share_of_ne treasury, if_neg treasury, if_neg treasury]
    omega

/-- A payment is a move from the holder, whose hold it is, to the recipient. -/
theorem claim_by_payment (done : Payment p msg identifier recipient amount before after)
    (other : Address) :
    claim p after other =
      claim p before other + share other recipient amount -
        share other identifier.tokenHolder amount := by
  rw [claim, claim, balances_by_payment laws done other, held_for_by_payment done other,
    held_by_payment done]
  by_cases treasury : other = p.proxy
  · rw [treasury, share_self, if_pos rfl, if_pos rfl]
    omega
  · rw [share_of_ne treasury, if_neg treasury, if_neg treasury]
    omega

/-- Paid back to the holder, a hold changes nothing. -/
theorem claim_by_return
    (done : Payment p msg identifier identifier.tokenHolder amount before after)
    (other : Address) : claim p after other = claim p before other := by
  rw [claim_by_payment laws done other]
  omega

theorem claim_by_call (quiet : AdministrationLaws p before.tokenAddress) {called : Call}
    (control : called.keepsControl p msg) (effect : Effect p msg before after called) :
    claim p after = run post (claim p before) (callEntries p msg called) := by
  funext other
  rw [run_post]
  cases effect with
  | view kind same =>
      rw [same, no_entries kind (by simp), List.map_nil, List.sum_nil, Int.add_zero]
  | @mint account amount done =>
      have same : after.holds = before.holds := by rw [done.frame]
      rw [claim_of_same_holds same, balances_by_mint laws done]
      simp only [callEntries, Entry.change, share, List.map_cons, List.map_nil, List.sum_singleton]
      omega
  | @burn amount done =>
      have same : after.holds = before.holds := by rw [done.frame]
      rw [claim_of_same_holds same, balances_by_burn laws done]
      simp only [callEntries, Entry.change, share, List.map_cons, List.map_nil, List.sum_singleton]
      omega
  | @wipe account amount done =>
      have same : after.holds = before.holds := by rw [done.frame]
      rw [claim_of_same_holds same, balances_by_wipe laws done]
      simp only [callEntries, Entry.change, share, List.map_cons, List.map_nil, List.sum_singleton]
      omega
  | @rescue amount done =>
      have same : after.holds = before.holds := by rw [done.frame]
      rw [claim_of_same_holds same, balances_by_rescue laws done]
      simp only [callEntries, Entry.change, share, List.map_cons, List.map_nil, List.sum_singleton]
      omega
  | rescueHBAR done =>
      have quietReceiver := control.2 rfl
      rw [claim_unmoved (by rw [done.frame quietReceiver])
        fun account => balance_by_hbar_rescue quietReceiver done]
      exact (Int.add_zero _).symm
  | administration kind _ _ answered frame =>
      have sameToken : after.tokenAddress = before.tokenAddress := by rw [frame]
      have sameHolds : after.holds = before.holds := by rw [frame]
      rw [no_entries kind (by simp), claim_unmoved sameHolds]
      · exact (Int.add_zero _).symm
      · intro account
        rw [balanceIn, balanceIn, sameToken]
        exact quiet.balances answered account
  | permission kind _ frame | reserve kind _ frame | configuration kind _ frame =>
      rw [no_entries kind (by simp),
        claim_of_same_world (by rw [frame]) (by rw [frame]) (by rw [frame])]
      exact (Int.add_zero _).symm
  | createHold done | createHoldByController _ done =>
      rw [claim_by_creation laws done]
      exact (Int.add_zero _).symm
  | @executeHold identifier recipient amount _ _ _ _ done =>
      rw [claim_by_payment laws done]
      simp only [callEntries, Entry.change, share, List.map_cons, List.map_nil, List.sum_singleton]
      omega
  | releaseHold _ _ done | reclaimHold _ done =>
      rw [claim_by_return laws done]
      exact (Int.add_zero _).symm
  | initialization _ => exact (control.1 rfl).elim

end Step

theorem claim_by_step (laws : BalanceLaws p state.tokenAddress)
    (quiet : AdministrationLaws p state.tokenAddress) {label : Label world}
    (control : KeepsControl p state label) :
    claim p (next p state label) = run post (claim p state) (entries p state label) := by
  cases label with
  | outside later =>
      funext other
      simp only [entries, run_cons, run_nil, post, Entry.change, outsideChange, claim, next,
        heldFor, held, balanceIn]
      omega
  | call msg called =>
      cases answer : succeeds p state msg called with
      | true =>
          have effect := effect_of_committed (succeeds_iff.mp answer)
          simp only [entries, answer, if_true]
          exact claim_by_call laws quiet control effect
      | false =>
          rw [next_of_not_succeeds answer]
          simp [entries, answer]

/-! ## Along a run -/

def OneToken (token : Address) (state : State world) : Prop := state.tokenAddress = token

theorem one_token_by_step {token : Address} (state : State world) (label : Label world)
    (same : OneToken token state) (control : KeepsControl p state label) :
    OneToken token (next p state label) := by
  unfold OneToken
  rw [token_kept_by_step state label control]
  exact same

/-- Every step does to what the accounts own what its entries do to a ledger. -/
theorem steps_post_entries {start : State world} {labels : List (Label world)}
    (laws : BalanceLaws p start.tokenAddress) (quiet : AdministrationLaws p start.tokenAddress)
    (control : Along (next p) (KeepsControl p) start labels) :
    Along (next p) (Simulates (next p) post (fun _ _ => True) (claim p) (entries p)) start
      labels := by
  have sameToken : OneToken start.tokenAddress start := rfl
  refine along_of_invariant (next p) one_token_by_step ?_ sameToken control
  intro state label same control
  refine ⟨along_of_forall_mem post (fun _ _ _ => trivial) _, ?_⟩
  unfold OneToken at same
  rw [← same] at laws quiet
  exact claim_by_step laws quiet control

/-- What the accounts own runs as the ledger of the calls that succeed. -/
theorem claims_run_as_ledger (p : Platform world) (start : State world)
    (labels : List (Label world)) (laws : BalanceLaws p start.tokenAddress)
    (quiet : AdministrationLaws p start.tokenAddress)
    (control : Along (next p) (KeepsControl p) start labels) :
    claim p (run (next p) start labels) =
      run post (claim p start) (collect (next p) (entries p) start labels) :=
  (simulation_of_steps (next p) post (steps_post_entries laws quiet control)).2

theorem reference_administration_laws (proxy token : Address) :
    AdministrationLaws (reference proxy) token where
  balances accepted := by
    obtain ⟨_, rfl⟩ := Prod.mk.inj accepted
    exact fun _ => rfl
  supply accepted := by
    obtain ⟨_, rfl⟩ := Prod.mk.inj accepted
    rfl

theorem sample_claims_run_as_ledger :
    claim (reference 1)
        (run (next (reference 1)) (deployed RolesStorage.empty (holderLedger 100)) sampleRun) =
      run post (claim (reference 1) (deployed RolesStorage.empty (holderLedger 100)))
        (collect (next (reference 1)) (entries (reference 1))
          (deployed RolesStorage.empty (holderLedger 100)) sampleRun) :=
  claims_run_as_ledger _ _ _ (reference_balance_laws 1 _) (reference_administration_laws 1 _)
    (by simp [sampleRun, Along, KeepsControl, Call.keepsControl, Call.kind])

/-- The entries of that run: creating the hold posts none. -/
example : (collect (next (reference 1)) (entries (reference 1))
    (deployed RolesStorage.empty (holderLedger 100)) sampleRun).length = 2 := rfl

/-! ## What is posted is covered -/

theorem held_for_nonneg (books : Bookkeeping state.holds) (account : Address) :
    0 ≤ heldFor account state :=
  (books.accounts account).amount_le.2

theorem free_le_claim (books : Bookkeeping state.holds) : free p state ≤ claim p state p.proxy := by
  have nonneg := held_for_nonneg books p.proxy
  rw [claim, free, if_pos rfl]
  omega

theorem claim_nonneg (books : Bookkeeping state.holds)
    (covered : held state ≤ balanceIn p p.proxy state) (account : Address) :
    0 ≤ claim p state account := by
  have nonneg := held_for_nonneg books account
  by_cases treasury : account = p.proxy
  · rw [claim, treasury, if_pos rfl]
    rw [treasury] at nonneg
    omega
  · have owned := balance_nonneg p account state
    rw [claim, if_neg treasury]
    omega

theorem hold_le_claim (sound : Sound p state.tokenAddress state)
    (live : identifier.holdId ∈ state.holds.holdIdsByAccount identifier.tokenHolder) :
    (HoldDataStorage.hold state.holds identifier).amount.toInt ≤
      claim p state identifier.tokenHolder := by
  have within := (sound.books.amount_le_total live).1
  have covered := sound.covered
  have owned := balance_nonneg p identifier.tokenHolder state
  rw [claim, heldFor, HoldDataStorage.hold]
  by_cases treasury : identifier.tokenHolder = p.proxy
  · rw [if_pos treasury]
    rw [treasury] at within ⊢
    omega
  · rw [if_neg treasury]
    omega

theorem entries_covered_by_call {called : Call} (sound : Sound p before.tokenAddress before)
    (inScope : TreasuryOperation p before (.call msg called))
    (takesFree : TakesWhatIsFree p before (.call msg called))
    (effect : Effect p msg before after called) :
    ∀ entry ∈ callEntries p msg called, entry.Covered (claim p before) := by
  intro entry listed
  cases effect with
  | mint done =>
      obtain rfl := List.mem_singleton.mp listed
      exact Int.le_of_lt done.positive
  | burn done =>
      obtain rfl := List.mem_singleton.mp listed
      have burnable := done.burnable
      have owned : free p before ≤ claim p before p.proxy := free_le_claim sound.books
      refine ⟨Int.le_of_lt done.positive, ?_⟩
      rw [free, balanceIn, balance, held] at owned
      omega
  | @wipe account amount done =>
      obtain rfl := List.mem_singleton.mp listed
      have owned := done.owned
      have nonneg := held_for_nonneg sound.books account
      refine ⟨Int.le_of_lt done.positive, ?_⟩
      rw [claim, if_neg inScope, balanceIn, balance]
      omega
  | rescue done =>
      obtain rfl := List.mem_singleton.mp listed
      refine ⟨Int.le_of_lt done.positive, ?_⟩
      exact (takesFree done.role done.positive done.owned).trans (free_le_claim sound.books)
  | executeHold positive _ _ _ done =>
      obtain rfl := List.mem_singleton.mp listed
      exact ⟨Int.le_of_lt positive, done.within.trans (hold_le_claim sound done.live)⟩
  | view kind _ | administration kind _ _ _ _ | permission kind _ _ | reserve kind _ _
  | configuration kind _ _ =>
      rw [no_entries kind (by simp)] at listed
      exact absurd listed List.not_mem_nil
  | _ => exact absurd listed List.not_mem_nil

theorem entries_covered (sound : Sound p state.tokenAddress state) {label : Label world}
    (inScope : TreasuryOperation p state label) (takesFree : TakesWhatIsFree p state label) :
    ∀ entry ∈ entries p state label, entry.Covered (claim p state) := by
  intro entry listed
  cases label with
  | outside later =>
      obtain rfl := List.mem_singleton.mp listed
      intro account
      have nonneg := held_for_nonneg sound.books account
      have covered := sound.covered
      have outside : balanceIn p p.proxy state ≤
        balance p state.tokenAddress p.proxy later := inScope
      have later_nonneg : 0 ≤ balance p state.tokenAddress account later := Int.natCast_nonneg _
      rw [claim, outsideChange]
      by_cases treasury : account = p.proxy
      · rw [if_pos treasury]
        rw [treasury] at nonneg ⊢
        omega
      · rw [if_neg treasury]
        omega
  | call msg called =>
      cases answer : succeeds p state msg called with
      | true =>
          have effect := effect_of_committed (succeeds_iff.mp answer)
          simp only [entries, answer, if_true] at listed
          exact entries_covered_by_call sound inScope takesFree effect entry listed
      | false =>
          simp [entries, answer] at listed

theorem at_most_one_entry (p : Platform world) (state : State world) (label : Label world) :
    entries p state label = [] ∨ ∃ entry, entries p state label = [entry] := by
  cases label with
  | outside later => exact Or.inr ⟨_, rfl⟩
  | call msg called =>
      cases answer : succeeds p state msg called with
      | false => exact Or.inl (by simp [entries, answer])
      | true =>
          have read : entries p state (.call msg called) = callEntries p msg called := by
            simp [entries, answer]
          rw [read]
          cases called with
          | mint _ _ | burn _ | wipe _ _ | rescue _ | executeHold _ _ _ => exact Or.inr ⟨_, rfl⟩
          | _ => exact Or.inl rfl

theorem fresh_sound {start : State world} (fresh : start.holds = HoldDataStorage.empty) :
    Sound p start.tokenAddress start where
  token_ := rfl
  books := by
    rw [fresh]
    exact empty_bookkeeping
  covered := by
    have nothing : held start = 0 := by
      rw [held, fresh]
      rfl
    rw [nothing]
    exact balance_nonneg p p.proxy start

theorem steps_post_covered {start : State world} {labels : List (Label world)}
    (laws : BalanceLaws p start.tokenAddress) (quiet : AdministrationLaws p start.tokenAddress)
    (initial : Sound p start.tokenAddress start)
    (met : Along (next p)
      (fun state label => TreasuryOperation p state label ∧ TakesWhatIsFree p state label)
      start labels) :
    Along (next p)
      (Simulates (next p) post (fun ledger entry => entry.Covered ledger) (claim p) (entries p))
      start labels := by
  refine along_of_invariant (next p) (sound_by_step laws) ?_ initial met
  intro state label sound met
  have control := keeps_control_of_treasury_operation met.1
  have sameToken := sound.token_
  rw [← sameToken] at laws quiet sound
  refine ⟨?_, claim_by_step laws quiet control⟩
  have covered := entries_covered sound met.1 met.2
  rcases at_most_one_entry p state label with none | ⟨entry, one⟩
  · rw [none]
    trivial
  · rw [one] at covered ⊢
    exact ⟨covered entry (List.mem_singleton_self entry), trivial⟩

/-- As long as only what is free is rescued, every entry is covered by what the
account that pays owns at that moment, so nobody is ever in debt. -/
theorem claims_covered_along_runs (p : Platform world) (start : State world)
    (labels : List (Label world)) (laws : BalanceLaws p start.tokenAddress)
    (quiet : AdministrationLaws p start.tokenAddress)
    (fresh : start.holds = HoldDataStorage.empty)
    (takesFree : Along (next p)
      (fun state label => TreasuryOperation p state label ∧ TakesWhatIsFree p state label)
      start labels) :
    Along post (fun ledger entry => entry.Covered ledger) (claim p start)
        (collect (next p) (entries p) start labels) ∧
      ∀ account, 0 ≤ claim p (run (next p) start labels) account := by
  have initial : Sound p start.tokenAddress start := fresh_sound fresh
  obtain ⟨covered, reached⟩ := simulation_of_steps (next p) post
    (steps_post_covered laws quiet initial takesFree)
  refine ⟨covered, ?_⟩
  rw [reached]
  exact run_nonneg (claim_nonneg initial.books initial.covered) covered

theorem sample_claims_covered :
    Along post (fun ledger entry => entry.Covered ledger)
        (claim (reference 1) (deployed RolesStorage.empty (holderLedger 100)))
        (collect (next (reference 1)) (entries (reference 1))
          (deployed RolesStorage.empty (holderLedger 100)) sampleRun) ∧
      ∀ account, 0 ≤ claim (reference 1) (run (next (reference 1))
        (deployed RolesStorage.empty (holderLedger 100)) sampleRun) account :=
  claims_covered_along_runs _ _ _ (reference_balance_laws 1 _) (reference_administration_laws 1 _)
    rfl (by simp [sampleRun, Along, TreasuryOperation, TakesWhatIsFree, Call.keepsControl,
      Call.kind, sampleMsg, reference])

/-! ## The total -/

def totalClaims (p : Platform world) (state : State world) : Int := ∑ account, claim p state account

/-- The holds cancel out: the accounts own what they have. -/
theorem total_claims_eq (books : Bookkeeping state.holds) :
    totalClaims p state = ∑ account, balanceIn p account state := by
  have booked : ∑ account, heldFor account state = held state := books.total.symm
  have treasury : (∑ account : Address, if account = p.proxy then held state else 0) =
      held state := by
    rw [Finset.sum_ite_eq' Finset.univ p.proxy fun _ => held state, if_pos (Finset.mem_univ _)]
  unfold totalClaims claim
  rw [Finset.sum_sub_distrib, Finset.sum_add_distrib, booked, treasury]
  omega

/-- The world outside creates and destroys tokens of this token in step with
its supply: whatever else it does, it moves them between accounts. -/
def OutsideConserves (p : Platform world) (state : State world) : Label world → Prop
  | .call _ _ => True
  | .outside later =>
      supply p state.tokenAddress later - supplyIn p state =
        ∑ account, outsideChange p state later account

theorem supply_by_call (laws : SupplyLaws p before.tokenAddress)
    (quiet : AdministrationLaws p before.tokenAddress) {called : Call}
    (control : called.keepsControl p msg) (effect : Effect p msg before after called) :
    supplyIn p after =
      supplyIn p before + ((callEntries p msg called).map Entry.issued).sum := by
  cases effect with
  | mint done =>
      rw [supply_by_mint laws done]
      simp [callEntries, Entry.issued]
  | burn done =>
      rw [supply_by_burn laws done]
      simp [callEntries, Entry.issued, Int.sub_eq_add_neg]
  | wipe done =>
      rw [supply_by_wipe laws done]
      simp [callEntries, Entry.issued, Int.sub_eq_add_neg]
  | rescue done =>
      rw [supply_by_rescue laws done]
      simp [callEntries, Entry.issued]
  | rescueHBAR done =>
      rw [supply_by_hbar_rescue (control.2 rfl) done]
      exact (Int.add_zero _).symm
  | administration kind _ _ answered frame =>
      have sameToken : after.tokenAddress = before.tokenAddress := by rw [frame]
      rw [no_entries kind (by simp), supplyIn, supplyIn, sameToken,
        quiet.supply answered]
      exact (Int.add_zero _).symm
  | createHold done =>
      rw [supply_by_creation laws done]
      exact (Int.add_zero _).symm
  | createHoldByController _ done =>
      rw [supply_by_creation laws done]
      exact (Int.add_zero _).symm
  | executeHold _ _ _ _ done =>
      rw [supply_by_payment laws done]
      simp [callEntries, Entry.issued]
  | releaseHold _ _ done | reclaimHold _ done =>
      rw [supply_by_payment laws done]
      exact (Int.add_zero _).symm
  | view kind frame | permission kind _ frame | reserve kind _ frame
  | configuration kind _ frame =>
      rw [no_entries kind (by simp), supplyIn, supplyIn, frame]
      exact (Int.add_zero _).symm
  | initialization _ => exact (control.1 rfl).elim

theorem supply_by_step (laws : SupplyLaws p state.tokenAddress)
    (quiet : AdministrationLaws p state.tokenAddress) {label : Label world}
    (control : KeepsControl p state label) (outside : OutsideConserves p state label) :
    supplyIn p (next p state label) =
      supplyIn p state + ((entries p state label).map Entry.issued).sum := by
  cases label with
  | outside later =>
      have changed : supply p state.tokenAddress later - supplyIn p state =
        ∑ account, outsideChange p state later account := outside
      have supplied : supplyIn p (next p state (.outside later)) =
        supply p state.tokenAddress later := rfl
      simp only [entries, List.map_cons, List.map_nil, List.sum_singleton, Entry.issued]
      rw [supplied, ← changed]
      omega
  | call msg called =>
      cases answer : succeeds p state msg called with
      | true =>
          have effect := effect_of_committed (succeeds_iff.mp answer)
          simp only [entries, answer, if_true]
          exact supply_by_call laws quiet control effect
      | false =>
          rw [next_of_not_succeeds answer]
          simp [entries, answer]

theorem total_claims_by_step (laws : BalanceLaws p state.tokenAddress)
    (quiet : AdministrationLaws p state.tokenAddress) {label : Label world}
    (control : KeepsControl p state label) :
    totalClaims p (next p state label) =
      totalClaims p state + ((entries p state label).map Entry.issued).sum := by
  unfold totalClaims
  rw [claim_by_step laws quiet control]
  exact total_run (claim p state) (entries p state label)

/-- One token, agreeing books, and a supply that is what the accounts own. -/
structure Owned (p : Platform world) (token : Address) (state : State world) : Prop where
  token_ : state.tokenAddress = token
  books : Bookkeeping state.holds
  supply : supplyIn p state = totalClaims p state

theorem owned_by_step {token : Address} (laws : BalanceLaws p token) (supplies : SupplyLaws p token)
    (quiet : AdministrationLaws p token) (state : State world) (label : Label world)
    (owned : Owned p token state)
    (met : KeepsControl p state label ∧ OutsideConserves p state label) :
    Owned p token (next p state label) := by
  have sameToken := owned.token_
  refine ⟨?_, bookkeeping_next state label owned.books met.1, ?_⟩
  · rw [token_kept_by_step state label met.1]
    exact sameToken
  · rw [← sameToken] at laws supplies quiet
    rw [supply_by_step supplies quiet met.1 met.2, total_claims_by_step laws quiet met.1,
      owned.supply]

/-- Every token of the supply is owned by somebody, on hold or not, and the
balances add up to the supply as well. -/
theorem supply_is_owned_along_runs (p : Platform world) (start : State world)
    (labels : List (Label world)) (laws : BalanceLaws p start.tokenAddress)
    (supplies : SupplyLaws p start.tokenAddress) (quiet : AdministrationLaws p start.tokenAddress)
    (fresh : start.holds = HoldDataStorage.empty)
    (issued : supplyIn p start = ∑ account, balanceIn p account start)
    (conserving : Along (next p)
      (fun state label => KeepsControl p state label ∧ OutsideConserves p state label)
      start labels) :
    supplyIn p (run (next p) start labels) = totalClaims p (run (next p) start labels) ∧
      supplyIn p (run (next p) start labels) =
        ∑ account, balanceIn p account (run (next p) start labels) := by
  have books : Bookkeeping start.holds := by
    rw [fresh]
    exact empty_bookkeeping
  have initial : Owned p start.tokenAddress start :=
    ⟨rfl, books, issued.trans (total_claims_eq books).symm⟩
  have owned : Owned p start.tokenAddress (run (next p) start labels) :=
    invariant_of_steps (next p) (owned_by_step laws supplies quiet) initial conserving
  exact ⟨owned.supply, owned.supply.trans (total_claims_eq owned.books)⟩

theorem sample_supply_is_owned :
    supplyIn (reference 1) (run (next (reference 1))
        (deployed RolesStorage.empty (holderLedger 100)) sampleRun) =
      totalClaims (reference 1) (run (next (reference 1))
        (deployed RolesStorage.empty (holderLedger 100)) sampleRun) ∧
      supplyIn (reference 1) (run (next (reference 1))
          (deployed RolesStorage.empty (holderLedger 100)) sampleRun) =
        ∑ account, balanceIn (reference 1) account (run (next (reference 1))
          (deployed RolesStorage.empty (holderLedger 100)) sampleRun) := by
  have balances : ∀ account, balanceIn (reference 1) account
      (deployed RolesStorage.empty (holderLedger 100)) = if account = 2 then 100 else 0 := by
    intro account
    simp only [balanceIn, balance, reference, deployed, holderLedger]
    split <;> rfl
  have issued : supplyIn (reference 1) (deployed RolesStorage.empty (holderLedger 100)) =
      ∑ account, balanceIn (reference 1) account
        (deployed RolesStorage.empty (holderLedger 100)) := by
    simp only [balances]
    rw [Finset.sum_ite_eq' Finset.univ (2 : Address) fun _ => (100 : Int),
      if_pos (Finset.mem_univ _)]
    rfl
  exact supply_is_owned_along_runs _ _ _ (reference_balance_laws 1 _) (reference_supply_laws 1 _)
    (reference_administration_laws 1 _) rfl issued
    (by simp [sampleRun, Along, KeepsControl, OutsideConserves, Call.keepsControl, Call.kind])

/-! ## Who takes what an account owns -/

/-- The steps that may take something from an account: a wipe by a wiper, an
execution of one of its holds by the escrow in time, and a change outside. -/
inductive Taking (p : Platform world) (account : Address) (state : State world) :
    Label world → Prop where
  | wipe {msg : Msg} {amount : Sint64}
      (wiper : RolesStorage.hasRole state.roles wipeRole msg.sender = true)
      (owned : amount.toInt ≤ balanceIn p account state) :
      Taking p account state (.call msg (.wipe account amount))
  | execution {msg : Msg} {identifier : HoldIdentifier} {recipient : Address} {amount : Sint64}
      (holder : identifier.tokenHolder = account)
      (live : identifier.holdId ∈ state.holds.holdIdsByAccount account)
      (within : amount.toInt ≤ (HoldDataStorage.hold state.holds identifier).amount.toInt)
      (inTime : msg.timestamp.toNat <
        (HoldDataStorage.hold state.holds identifier).expirationTimestamp.toNat)
      (escrow : (HoldDataStorage.hold state.holds identifier).escrow = msg.sender)
      (destination : (HoldDataStorage.hold state.holds identifier).to_ = 0 ∨
        (HoldDataStorage.hold state.holds identifier).to_ = recipient) :
      Taking p account state (.call msg (.executeHold identifier recipient amount))
  | outside {later : world} (less : outsideChange p state later account < 0) :
      Taking p account state (.outside later)

/-- The entries of a committed call of somebody else add to the account or
leave it alone. -/
theorem taking_of_fall {account : Address} (other : account ≠ p.proxy)
    (laws : BalanceLaws p state.tokenAddress) (quiet : AdministrationLaws p state.tokenAddress)
    {label : Label world} (control : KeepsControl p state label)
    (fell : claim p (next p state label) account < claim p state account) :
    Taking p account state label := by
  rw [claim_by_step laws quiet control, run_post] at fell
  cases label with
  | outside later =>
      simp only [entries, Entry.change, List.map_cons, List.map_nil, List.sum_singleton] at fell
      exact .outside (by omega)
  | call msg called =>
      cases answer : succeeds p state msg called with
      | false => simp [entries, answer] at fell
      | true =>
          have effect := effect_of_committed (succeeds_iff.mp answer)
          simp only [entries, answer, if_true] at fell
          cases effect with
          | mint done =>
              have positive := done.positive
              simp only [callEntries, Entry.change, List.map_cons, List.map_nil,
                List.sum_singleton] at fell
              split at fell <;> omega
          | burn done => simp [callEntries, Entry.change, other] at fell
          | @wipe wiped amount done =>
              have owned := done.owned
              by_cases own : account = wiped
              · rw [← own] at owned ⊢
                exact .wipe done.role owned
              · simp [callEntries, Entry.change, own] at fell
          | rescue done =>
              have positive := done.positive
              simp only [callEntries, Entry.change, List.map_cons, List.map_nil,
                List.sum_singleton, if_neg other] at fell
              split at fell <;> omega
          | @executeHold identifier recipient amount positive inTime escrow destination done =>
              by_cases own : account = identifier.tokenHolder
              · rw [own]
                exact .execution rfl done.live done.within inTime escrow destination
              · simp only [callEntries, Entry.change, List.map_cons, List.map_nil,
                  List.sum_singleton, if_neg own] at fell
                split at fell <;> omega
          | view kind _ | administration kind _ _ _ _ | permission kind _ _ | reserve kind _ _
          | configuration kind _ _ =>
              rw [no_entries kind (by simp)] at fell
              simp at fell
          | _ => simp [callEntries] at fell

/-- Whoever owns less at the end of a run than at its start was wiped by a
wiper, paid out of a hold of its own or spent it outside. -/
theorem claims_fall_by_taking (p : Platform world) (start : State world)
    (labels : List (Label world)) (account : Address) (other : account ≠ p.proxy)
    (laws : BalanceLaws p start.tokenAddress) (quiet : AdministrationLaws p start.tokenAddress)
    (control : Along (next p) (KeepsControl p) start labels)
    (less : claim p (run (next p) start labels) account < claim p start account) :
    ∃ before taken rest, labels = before ++ taken :: rest ∧
      Taking p account (run (next p) start before) taken ∧
      claim p (next p (run (next p) start before) taken) account <
        claim p (run (next p) start before) account := by
  obtain ⟨before, taken, rest, cut, fell⟩ :=
    fall_has_step (next p) (fun state => claim p state account) less
  refine ⟨before, taken, rest, cut, ?_⟩
  rw [cut] at control
  obtain ⟨earlier, now, _⟩ := (along_append (next p)).mp control
  have sameToken : OneToken start.tokenAddress (run (next p) start before) :=
    invariant_of_steps (next p) one_token_by_step rfl earlier
  unfold OneToken at sameToken
  rw [← sameToken] at laws quiet
  exact ⟨taking_of_fall other laws quiet now fell, fell⟩

theorem sample_claims_fall_by_taking :
    ∃ before taken rest, sampleRun = before ++ taken :: rest ∧
      Taking (reference 1) 2 (run (next (reference 1))
        (deployed RolesStorage.empty (holderLedger 100)) before) taken ∧
      claim (reference 1) (next (reference 1) (run (next (reference 1))
          (deployed RolesStorage.empty (holderLedger 100)) before) taken) 2 <
        claim (reference 1) (run (next (reference 1))
          (deployed RolesStorage.empty (holderLedger 100)) before) 2 :=
  claims_fall_by_taking (reference 1) (deployed RolesStorage.empty (holderLedger 100)) sampleRun 2
    (by decide) (reference_balance_laws 1 _) (reference_administration_laws 1 _)
    (by simp [sampleRun, Along, KeepsControl, Call.keepsControl, Call.kind]) (by decide)

end StablecoinStudio.Token.HolderClaims
