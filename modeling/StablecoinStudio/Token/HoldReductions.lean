import StablecoinStudio.Token.ReferenceLedger

/-!
# What executing and releasing take from a hold

`executeHold` asks for a positive amount and `releaseHold` does not: a release
of zero is accepted, and a release of a negative amount would enlarge the hold
if the token service accepted the transfer.
-/

namespace StablecoinStudio.Token.HoldReductions

open StablecoinStudio.Core.Common
open StablecoinStudio.Foundation.CheckedInt
open StablecoinStudio.Foundation.EnumerableSets
open StablecoinStudio.Foundation.Runs
open StablecoinStudio.Foundation.Transaction
open StablecoinStudio.Token.HoldManagement
open StablecoinStudio.Token.ProxyState
open StablecoinStudio.Token.ReferenceLedger
open StablecoinStudio.Token.Roles
open StablecoinStudio.Token.Services
open StablecoinStudio.Token.System

set_option autoImplicit false

/-! ## The books of one decrease -/

/-- The books are the same but for the amounts of one hold, of its holder and
of all holders, which fall by the given amount; a hold of nothing is removed. -/
structure Lowered (identifier : HoldIdentifier) (amount : Int) (before after : HoldDataStorage) :
    Prop where
  hold : (HoldDataStorage.hold after identifier).amount.toInt =
    (HoldDataStorage.hold before identifier).amount.toInt - amount
  total : after.totalHeldAmount.toInt = before.totalHeldAmount.toInt - amount
  accountTotal : (after.totalHeldAmountByAccount identifier.tokenHolder).toInt =
    (before.totalHeldAmountByAccount identifier.tokenHolder).toInt - amount
  removed : identifier.holdId ∉ after.holdIdsByAccount identifier.tokenHolder ↔
    (HoldDataStorage.hold before identifier).amount.toInt = amount
  otherHolds : ∀ other, other ≠ identifier →
    HoldDataStorage.hold after other = HoldDataStorage.hold before other ∧
      (other.holdId ∈ after.holdIdsByAccount other.tokenHolder ↔
        other.holdId ∈ before.holdIdsByAccount other.tokenHolder)
  otherTotals : ∀ account, account ≠ identifier.tokenHolder →
    after.totalHeldAmountByAccount account = before.totalHeldAmountByAccount account
  nextIds : after.nextHoldIdByAccount = before.nextHoldIdByAccount

section Storage

variable {environment : Msg} {storage before after : HoldDataStorage} {identifier : HoldIdentifier}
  {amount remaining total accountTotal : Sint64}

theorem totals_after_decrease (storage : HoldDataStorage) (tokenHolder : Address)
    (holdId : Uint256) (remaining total accountTotal : Sint64) :
    (afterDecrease storage tokenHolder holdId remaining total accountTotal).totalHeldAmount =
        total ∧
      (afterDecrease storage tokenHolder holdId remaining total
          accountTotal).totalHeldAmountByAccount =
        Function.update storage.totalHeldAmountByAccount tokenHolder accountTotal ∧
      (afterDecrease storage tokenHolder holdId remaining total
        accountTotal).nextHoldIdByAccount = storage.nextHoldIdByAccount := by
  unfold afterDecrease
  split
  · exact ⟨rfl, rfl, rfl⟩
  · exact ⟨rfl, rfl, rfl⟩

theorem hold_of_set_hold (hold : HoldData) (other : HoldIdentifier) :
    HoldDataStorage.hold
        (HoldDataStorage.setHold storage identifier.tokenHolder identifier.holdId hold) other =
      if other = identifier then hold else HoldDataStorage.hold storage other := by
  by_cases same : other = identifier
  · subst same
    simp [HoldDataStorage.hold, HoldDataStorage.setHold]
  · rw [if_neg same]
    by_cases holder : other.tokenHolder = identifier.tokenHolder
    · have different : other.holdId ≠ identifier.holdId := by
        intro sameId
        apply same
        cases other
        cases identifier
        simp_all
      simp [HoldDataStorage.hold, HoldDataStorage.setHold, holder, different]
    · simp [HoldDataStorage.hold, HoldDataStorage.setHold, holder]

/-- The record keeps what remains, also when it is deleted. -/
theorem hold_after_decrease :
    (HoldDataStorage.hold (afterDecrease storage identifier.tokenHolder identifier.holdId remaining
      total accountTotal) identifier).amount = remaining := by
  unfold afterDecrease
  split
  · next empty =>
      rw [hold_of_set_hold, if_pos rfl, empty]
      rfl
  · change (HoldDataStorage.hold (HoldDataStorage.setHold storage _ _ _) identifier).amount = _
    rw [hold_of_set_hold, if_pos rfl]
    rfl

theorem other_hold_after_decrease {other : HoldIdentifier} (different : other ≠ identifier) :
    HoldDataStorage.hold (afterDecrease storage identifier.tokenHolder identifier.holdId remaining
      total accountTotal) other = HoldDataStorage.hold storage other := by
  have lowered (hold : HoldData) : HoldDataStorage.hold
      (HoldDataStorage.setHold storage identifier.tokenHolder identifier.holdId hold) other =
        HoldDataStorage.hold storage other := by
    rw [hold_of_set_hold, if_neg different]
  unfold afterDecrease
  split
  · rw [hold_of_set_hold, if_neg different]
    exact lowered _
  · exact lowered _

theorem listed_after_decrease {other : HoldIdentifier} :
    other.holdId ∈ (afterDecrease storage identifier.tokenHolder identifier.holdId remaining total
        accountTotal).holdIdsByAccount other.tokenHolder ↔
      other.holdId ∈ storage.holdIdsByAccount other.tokenHolder ∧
        ¬ (remaining = 0 ∧ other = identifier) := by
  unfold afterDecrease
  by_cases empty : remaining = 0
  · simp only [if_pos empty]
    change other.holdId ∈ Function.update storage.holdIdsByAccount identifier.tokenHolder
      ((storage.holdIdsByAccount identifier.tokenHolder).remove identifier.holdId).2
      other.tokenHolder ↔ _
    by_cases holder : other.tokenHolder = identifier.tokenHolder
    · rw [holder, Function.update_self, EnumerableSet.mem_remove]
      have same : other = identifier ↔ other.holdId = identifier.holdId := by
        cases other
        cases identifier
        simp_all
      rw [same]
      simp [empty]
    · rw [Function.update_of_ne holder]
      have different : other ≠ identifier := fun same => holder (by rw [same])
      simp [different]
  · simp only [if_neg empty]
    change other.holdId ∈ storage.holdIdsByAccount other.tokenHolder ↔ _
    simp [empty]

theorem lowered_of_decrease
    (live : identifier.holdId ∈ before.holdIdsByAccount identifier.tokenHolder)
    (decreased : decreaseHoldAmount identifier.tokenHolder identifier.holdId amount environment
      before = .ok ((), after)) : Lowered identifier amount.toInt before after := by
  obtain ⟨remaining, total, accountTotal, rest, sum, accountSum, _, rfl⟩ :=
    decrease_hold_amount_ok.mp decreased
  have totals := totals_after_decrease before identifier.tokenHolder identifier.holdId remaining
    total accountTotal
  constructor
  · rw [hold_after_decrease]
    exact rest
  · rw [totals.1]
    exact sum
  · rw [totals.2.1, Function.update_self]
    exact accountSum
  · rw [listed_after_decrease]
    have nothing : remaining = 0 ↔
        (HoldDataStorage.hold before identifier).amount.toInt = amount.toInt := by
      rw [Sint.ext_iff, rest]
      exact sub_eq_zero
    simp [live, nothing]
  · intro other different
    rw [other_hold_after_decrease different, listed_after_decrease]
    simp [different]
  · intro account different
    rw [totals.2.1, Function.update_of_ne different]
  · exact totals.2.2

end Storage

/-! ## The two calls -/

variable {world : Type}

/-- A call for `_amount` of a hold: what it commits lowers the hold by a part of
what it has, and for any other amount it reverts on every token service. -/
structure OnlyShrinks (call : Platform world → FacetTx world Bool) (identifier : HoldIdentifier)
    (amount : Sint64) (p : Platform world) (msg : Msg) (state : State world) : Prop where
  committed : ∀ result after, call p msg state = .ok (result, after) →
    0 < amount.toInt ∧
      amount.toInt ≤ (HoldDataStorage.hold state.holds identifier).amount.toInt ∧
      Lowered identifier amount.toInt state.holds after.holds ∧
      after = { state with holds := after.holds, world := after.world }
  refused : ¬ (0 < amount.toInt ∧
      amount.toInt ≤ (HoldDataStorage.hold state.holds identifier).amount.toInt) →
    ∀ service : Platform world, ∃ failure, call service msg state = .error failure

/-- A release that the guards let through without asking for a positive amount:
the hold is live and in time, the escrow calls, and the enlarged amounts fit. -/
structure ReleasesNothing (identifier : HoldIdentifier) (amount : Sint64) (msg : Msg)
    (state : State world) : Prop where
  notPositive : amount.toInt ≤ 0
  within : amount.toInt ≤ (HoldDataStorage.hold state.holds identifier).amount.toInt
  live : identifier.holdId ∈ state.holds.holdIdsByAccount identifier.tokenHolder
  inTime : msg.timestamp.toNat <
    (HoldDataStorage.hold state.holds identifier).expirationTimestamp.toNat
  escrow : (HoldDataStorage.hold state.holds identifier).escrow = msg.sender
  holdFits : (HoldDataStorage.hold state.holds identifier).amount.toInt - amount.toInt < 2 ^ 63
  totalFits : state.holds.totalHeldAmount.toInt - amount.toInt < 2 ^ 63
  accountFits : (state.holds.totalHeldAmountByAccount identifier.tokenHolder).toInt -
    amount.toInt < 2 ^ 63

variable {p : Platform world} {msg : Msg} {state after : State world} {identifier : HoldIdentifier}
  {recipient : Address} {amount : Sint64}

theorem lowered_of_payment (paid : Payment p msg identifier recipient amount state after) :
    Lowered identifier amount.toInt state.holds after.holds :=
  lowered_of_decrease paid.live paid.decreased

theorem execute_only_shrinks :
    OnlyShrinks (fun service => executeHold service identifier recipient amount) identifier amount
      p msg state where
  committed := by
    intro result after committed
    obtain ⟨_, positive, _, _, _, paid⟩ := execute_hold_ok.mp committed
    exact ⟨positive, paid.within, lowered_of_payment paid, paid.frame⟩
  refused := by
    intro outside service
    cases outcome : executeHold service identifier recipient amount msg state with
    | error failure => exact ⟨failure, rfl⟩
    | ok pair =>
        obtain ⟨_, positive, _, _, _, paid⟩ := execute_hold_ok.mp outcome
        exact (outside ⟨positive, paid.within⟩).elim

/-- The token service that accepts every transfer without moving anything. -/
def accepting (p : Platform world) : Platform world :=
  { p with transferToken := fun _ _ _ _ world => (success, world) }

theorem decrease_of_fits (fits : ReleasesNothing identifier amount msg state) :
    ∃ holds, decreaseHoldAmount identifier.tokenHolder identifier.holdId amount msg state.holds =
      .ok ((), holds) := by
  have lowered : ∀ value : Sint64, value.toInt - amount.toInt < 2 ^ 63 →
      ∃ result : Sint64, result.toInt = value.toInt - amount.toInt := by
    intro value below
    have lower := value.lower
    have notPositive := fits.notPositive
    have found : ∃ result : Sint64, Sint.checked (value.toInt - amount.toInt) = some result ∧
        result.toInt = value.toInt - amount.toInt :=
      Sint.checked_of_in_range (by omega) (by omega)
    obtain ⟨result, _, value⟩ := found
    exact ⟨result, value⟩
  obtain ⟨remaining, rest⟩ := lowered _ fits.holdFits
  obtain ⟨total, sum⟩ := lowered _ fits.totalFits
  obtain ⟨accountTotal, accountSum⟩ := lowered _ fits.accountFits
  exact ⟨_, decrease_hold_amount_ok.mpr
    ⟨remaining, total, accountTotal, rest, sum, accountSum, fun _ => fits.live, rfl⟩⟩

theorem release_accepted (p : Platform world) (fits : ReleasesNothing identifier amount msg state) :
    ∃ after, releaseHold (accepting p) identifier amount msg state = .ok (true, after) := by
  obtain ⟨holds, decreased⟩ := decrease_of_fits fits
  refine ⟨{ state with holds := holds }, release_hold_ok.mpr ⟨rfl, fits.inTime, fits.escrow, ?_⟩⟩
  exact ⟨fits.live, fits.within, decreased, rfl, rfl⟩

theorem releases_nothing_of_committed {result : Bool}
    (committed : releaseHold p identifier amount msg state = .ok (result, after))
    (notPositive : ¬ 0 < amount.toInt) : ReleasesNothing identifier amount msg state := by
  obtain ⟨_, inTime, escrow, paid⟩ := release_hold_ok.mp committed
  obtain ⟨remaining, total, accountTotal, rest, sum, accountSum, _⟩ :=
    decrease_hold_amount_ok.mp paid.decreased
  have fits := remaining.upper
  have totalFits := total.upper
  have accountFits := accountTotal.upper
  have hold : (HoldDataStorage.hold state.holds identifier).amount.toInt =
      (state.holds.holdsByAccountAndId identifier.tokenHolder identifier.holdId).amount.toInt := rfl
  exact {
    notPositive := Int.not_lt.mp notPositive
    within := paid.within
    live := paid.live
    inTime := inTime
    escrow := escrow
    holdFits := by omega
    totalFits := by omega
    accountFits := by omega }

theorem release_only_shrinks_iff :
    OnlyShrinks (fun service => releaseHold service identifier amount) identifier amount p msg
        state ↔ ¬ ReleasesNothing identifier amount msg state := by
  constructor
  · intro shrinks fits
    have outside : ¬ (0 < amount.toInt ∧
        amount.toInt ≤ (HoldDataStorage.hold state.holds identifier).amount.toInt) :=
      fun proper => Int.not_lt.mpr fits.notPositive proper.1
    obtain ⟨failure, refused⟩ := shrinks.refused outside (accepting p)
    obtain ⟨after, accepted⟩ := release_accepted p fits
    rw [accepted] at refused
    cases refused
  · intro proper
    have positive {service : Platform world} {result : Bool} {after : State world}
        (committed : releaseHold service identifier amount msg state = .ok (result, after)) :
        0 < amount.toInt := by
      by_contra notPositive
      exact proper (releases_nothing_of_committed committed notPositive)
    constructor
    · intro result after committed
      obtain ⟨_, _, _, paid⟩ := release_hold_ok.mp committed
      exact ⟨positive committed, paid.within, lowered_of_payment paid, paid.frame⟩
    · intro outside service
      cases outcome : releaseHold service identifier amount msg state with
      | error failure => exact ⟨failure, rfl⟩
      | ok pair =>
          obtain ⟨_, _, _, paid⟩ := release_hold_ok.mp outcome
          exact (outside ⟨positive outcome, paid.within⟩).elim

/-- In every state of every run an execution only shrinks its hold, and a
release does unless it passes the guards with nothing to release. -/
theorem only_shrinks_along_runs (p : Platform world) (start : State world)
    (labels : List (Label world)) (msg : Msg) (identifier : HoldIdentifier) (recipient : Address)
    (amount : Sint64) :
    OnlyShrinks (fun service => executeHold service identifier recipient amount) identifier amount
        p msg (run (next p) start labels) ∧
      (OnlyShrinks (fun service => releaseHold service identifier amount) identifier amount p msg
          (run (next p) start labels) ↔
        ¬ ReleasesNothing identifier amount msg (run (next p) start labels)) :=
  ⟨execute_only_shrinks, release_only_shrinks_iff⟩

/-- The escrow of a hold of 10 releases nothing of it. -/
theorem zero_released :
    ¬ OnlyShrinks (fun service => releaseHold service ⟨2, units256 1⟩ 0) ⟨2, units256 1⟩ 0
        (reference 1) (sampleMsg 3 2)
        (run (next (reference 1)) (deployed RolesStorage.empty (holderLedger 100))
          [.call (sampleMsg 2 1) (.createHold (sampleHold 10))]) := by
  intro shrinks
  have accepted : ∃ after, releaseHold (reference 1) ⟨2, units256 1⟩ 0 (sampleMsg 3 2)
      (run (next (reference 1)) (deployed RolesStorage.empty (holderLedger 100))
        [.call (sampleMsg 2 1) (.createHold (sampleHold 10))]) = .ok (true, after) := ⟨_, rfl⟩
  obtain ⟨after, committed⟩ := accepted
  have positive : (0 : Int) < (0 : Sint64).toInt := (shrinks.committed true after committed).1
  exact absurd positive (by decide)

end StablecoinStudio.Token.HoldReductions
