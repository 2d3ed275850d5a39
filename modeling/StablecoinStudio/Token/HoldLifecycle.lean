import StablecoinStudio.Token.HoldBookkeeping

/-!
# The life of a hold

From its creation on, a hold only pays out: what it was created with is what it
still holds and what it has paid. Its id is not used again, its terms do not
change, and once it is empty it is gone for good.
-/

namespace StablecoinStudio.Token.HoldLifecycle

open StablecoinStudio.Core.Common
open StablecoinStudio.Foundation.CheckedInt
open StablecoinStudio.Foundation.EnumerableSets
open StablecoinStudio.Foundation.Runs
open StablecoinStudio.Foundation.Transaction
open StablecoinStudio.Token.HoldBookkeeping
open StablecoinStudio.Token.HoldManagement
open StablecoinStudio.Token.ProxyState
open StablecoinStudio.Token.ReferenceLedger
open StablecoinStudio.Token.Services
open StablecoinStudio.Token.System

set_option autoImplicit false

/-! ## One hold in the storage -/

/-- The hold was numbered, and is either live on its terms or empty and gone. -/
structure Tracked (identifier : HoldIdentifier) (hold : Hold) (storage : HoldDataStorage) :
    Prop where
  numbered : identifier.holdId.toNat ≤
    (storage.nextHoldIdByAccount identifier.tokenHolder).toNat
  terms : identifier.holdId ∈ storage.holdIdsByAccount identifier.tokenHolder →
    (HoldDataStorage.hold storage identifier).expirationTimestamp = hold.expirationTimestamp ∧
      (HoldDataStorage.hold storage identifier).escrow = hold.escrow ∧
      (HoldDataStorage.hold storage identifier).to_ = hold.to_
  gone : identifier.holdId ∉ storage.holdIdsByAccount identifier.tokenHolder →
    (HoldDataStorage.hold storage identifier).amount = 0

section Storage

variable {environment : Msg} {storage after : HoldDataStorage} {identifier : HoldIdentifier}
  {hold : Hold}

/-- What the storage says about one hold is the same before and after. -/
structure Untouched (identifier : HoldIdentifier) (storage after : HoldDataStorage) : Prop where
  record : HoldDataStorage.hold after identifier = HoldDataStorage.hold storage identifier
  listed : identifier.holdId ∈ after.holdIdsByAccount identifier.tokenHolder ↔
    identifier.holdId ∈ storage.holdIdsByAccount identifier.tokenHolder
  counter : (storage.nextHoldIdByAccount identifier.tokenHolder).toNat ≤
    (after.nextHoldIdByAccount identifier.tokenHolder).toNat

theorem Tracked.untouched (tracked : Tracked identifier hold storage)
    (same : Untouched identifier storage after) : Tracked identifier hold after where
  numbered := tracked.numbered.trans same.counter
  terms := by
    intro live
    rw [same.record]
    exact tracked.terms (same.listed.mp live)
  gone := by
    intro absent
    rw [same.record]
    exact tracked.gone fun live => absent (same.listed.mpr live)

theorem untouched_by_registration {tokenHolder : Address} {holdId : Uint256} {other : Hold}
    {operatorData : Bytes}
    (next : holdId.toNat = (storage.nextHoldIdByAccount tokenHolder).toNat + 1)
    (different : identifier ≠ ⟨tokenHolder, holdId⟩)
    (registered : registerHold tokenHolder holdId other operatorData environment
      (HoldDataStorage.setNextHoldId storage tokenHolder holdId) = .ok ((), after)) :
    Untouched identifier storage after := by
  obtain ⟨_, total, accountTotal, _, _, rfl⟩ := register_hold_ok.mp registered
  obtain ⟨account, id⟩ := identifier
  by_cases sameHolder : account = tokenHolder
  · subst sameHolder
    have otherId : id ≠ holdId := by
      rintro rfl
      exact different rfl
    refine ⟨?_, ?_, ?_⟩
    · simp [HoldDataStorage.hold, HoldDataStorage.setTotals, HoldDataStorage.setHoldIds,
        HoldDataStorage.setHold, HoldDataStorage.setNextHoldId, otherId]
    · simp [HoldDataStorage.setTotals, HoldDataStorage.setHoldIds, HoldDataStorage.setHold,
        HoldDataStorage.setNextHoldId, EnumerableSet.mem_add, otherId]
    · simp [HoldDataStorage.setTotals, HoldDataStorage.setHoldIds, HoldDataStorage.setHold,
        HoldDataStorage.setNextHoldId, next]
  · refine ⟨?_, ?_, ?_⟩
    · simp [HoldDataStorage.hold, HoldDataStorage.setTotals, HoldDataStorage.setHoldIds,
        HoldDataStorage.setHold, HoldDataStorage.setNextHoldId, sameHolder]
    · simp [HoldDataStorage.setTotals, HoldDataStorage.setHoldIds, HoldDataStorage.setHold,
        HoldDataStorage.setNextHoldId, sameHolder]
    · simp [HoldDataStorage.setTotals, HoldDataStorage.setHoldIds, HoldDataStorage.setHold,
        HoldDataStorage.setNextHoldId, sameHolder]

theorem untouched_by_decrease {other : HoldIdentifier} {amount : Sint64}
    (different : identifier ≠ other)
    (decreased : decreaseHoldAmount other.tokenHolder other.holdId amount environment storage =
      .ok ((), after)) : Untouched identifier storage after := by
  obtain ⟨remaining, total, accountTotal, _, _, _, _, rfl⟩ := decrease_hold_amount_ok.mp decreased
  obtain ⟨account, id⟩ := identifier
  obtain ⟨otherAccount, otherId⟩ := other
  unfold afterDecrease
  by_cases sameHolder : account = otherAccount
  · subst sameHolder
    have idDiffers : id ≠ otherId := by
      rintro rfl
      exact different rfl
    refine ⟨?_, ?_, ?_⟩
    · split <;> simp [HoldDataStorage.hold, HoldDataStorage.setTotals, HoldDataStorage.setHoldIds,
        HoldDataStorage.setHold, idDiffers]
    · split <;> simp [HoldDataStorage.setTotals, HoldDataStorage.setHoldIds,
        HoldDataStorage.setHold, EnumerableSet.mem_remove, idDiffers]
    · split <;> simp [HoldDataStorage.setTotals, HoldDataStorage.setHoldIds,
        HoldDataStorage.setHold]
  · refine ⟨?_, ?_, ?_⟩
    · split <;> simp [HoldDataStorage.hold, HoldDataStorage.setTotals, HoldDataStorage.setHoldIds,
        HoldDataStorage.setHold, sameHolder]
    · split <;> simp [HoldDataStorage.setTotals, HoldDataStorage.setHoldIds,
        HoldDataStorage.setHold, sameHolder]
    · split <;> simp [HoldDataStorage.setTotals, HoldDataStorage.setHoldIds,
        HoldDataStorage.setHold]

theorem tracked_by_registration {tokenHolder : Address} {holdId : Uint256} {operatorData : Bytes}
    (registered : registerHold tokenHolder holdId hold operatorData environment
      (HoldDataStorage.setNextHoldId storage tokenHolder holdId) = .ok ((), after)) :
    Tracked ⟨tokenHolder, holdId⟩ hold after ∧
      (HoldDataStorage.hold after ⟨tokenHolder, holdId⟩).amount = hold.amount := by
  obtain ⟨_, total, accountTotal, _, _, rfl⟩ := register_hold_ok.mp registered
  refine ⟨⟨?_, ?_, ?_⟩, ?_⟩
  · simp [HoldDataStorage.setTotals, HoldDataStorage.setHoldIds, HoldDataStorage.setHold,
      HoldDataStorage.setNextHoldId]
  · intro _
    simp [HoldDataStorage.hold, HoldDataStorage.setTotals, HoldDataStorage.setHoldIds,
      HoldDataStorage.setHold, HoldDataStorage.setNextHoldId, Hold.toHoldData]
  · intro absent
    simp [HoldDataStorage.setTotals, HoldDataStorage.setHoldIds, HoldDataStorage.setHold,
      HoldDataStorage.setNextHoldId, EnumerableSet.mem_add] at absent
  · simp [HoldDataStorage.hold, HoldDataStorage.setTotals, HoldDataStorage.setHoldIds,
      HoldDataStorage.setHold, HoldDataStorage.setNextHoldId, Hold.toHoldData]

/-- The hold goes on: it stays tracked, loses exactly `paid` and never comes
back once it is gone. -/
structure Continues (identifier : HoldIdentifier) (hold : Hold) (paid : Int)
    (storage after : HoldDataStorage) : Prop where
  tracked : Tracked identifier hold after
  taken : (HoldDataStorage.hold after identifier).amount.toInt + paid =
    (HoldDataStorage.hold storage identifier).amount.toInt
  listedBefore : identifier.holdId ∈ after.holdIdsByAccount identifier.tokenHolder →
    identifier.holdId ∈ storage.holdIdsByAccount identifier.tokenHolder

theorem Tracked.continues (tracked : Tracked identifier hold storage) :
    Continues identifier hold 0 storage storage where
  tracked := tracked
  taken := Int.add_zero _
  listedBefore := id

theorem Tracked.continues_of_untouched (tracked : Tracked identifier hold storage)
    (same : Untouched identifier storage after) : Continues identifier hold 0 storage after where
  tracked := tracked.untouched same
  taken := by rw [same.record, Int.add_zero]
  listedBefore := same.listed.mp

/-- A payment out of the hold takes exactly its amount and keeps the terms. -/
theorem Tracked.continues_of_decrease {amount : Sint64} (tracked : Tracked identifier hold storage)
    (live : identifier.holdId ∈ storage.holdIdsByAccount identifier.tokenHolder)
    (decreased : decreaseHoldAmount identifier.tokenHolder identifier.holdId amount environment
      storage = .ok ((), after)) :
    Continues identifier hold amount.toInt storage after := by
  obtain ⟨remaining, total, accountTotal, rest, _, _, _, rfl⟩ :=
    decrease_hold_amount_ok.mp decreased
  obtain ⟨account, id⟩ := identifier
  have terms := tracked.terms live
  have numbered := tracked.numbered
  simp only at rest
  unfold afterDecrease
  by_cases empty : remaining = 0
  · have nothing : remaining.toInt = 0 := by rw [empty]; rfl
    simp only [empty, if_true]
    refine ⟨⟨?_, ?_, ?_⟩, ?_, fun _ => live⟩
    · simpa [HoldDataStorage.setTotals, HoldDataStorage.setHoldIds, HoldDataStorage.setHold] using
        numbered
    · intro still
      simp [HoldDataStorage.setTotals, HoldDataStorage.setHoldIds, HoldDataStorage.setHold,
        EnumerableSet.mem_remove] at still
    · intro _
      simp [HoldDataStorage.hold, HoldDataStorage.setTotals, HoldDataStorage.setHoldIds,
        HoldDataStorage.setHold, HoldData.zero]
    · simp only [HoldDataStorage.hold, HoldDataStorage.setHold, Function.update_self, HoldData.zero,
        Sint.to_int_zero]
      omega
  · simp only [empty, if_false]
    refine ⟨⟨?_, ?_, ?_⟩, ?_, fun _ => live⟩
    · simpa [HoldDataStorage.setTotals, HoldDataStorage.setHold] using numbered
    · intro _
      simpa [HoldDataStorage.hold, HoldDataStorage.setTotals, HoldDataStorage.setHold,
        HoldData.withAmount] using terms
    · intro absent
      exact (absent live).elim
    · simp only [HoldDataStorage.hold, HoldDataStorage.setTotals, HoldDataStorage.setHold,
        Function.update_self, HoldData.with_amount_amount]
      omega

end Storage

/-! ## One hold along a run -/

variable {world : Type} {p : Platform world} {msg : Msg} {before after : State world}
  {identifier : HoldIdentifier} {hold : Hold}

def remaining (identifier : HoldIdentifier) (state : State world) : Int :=
  (HoldDataStorage.hold state.holds identifier).amount.toInt

def asked (identifier : HoldIdentifier) (storage : HoldDataStorage) (called : Call) : Int :=
  match called.payment storage with
  | some (paid, amount) => if paid = identifier then amount.toInt else 0
  | none => 0

def paidOut (p : Platform world) (identifier : HoldIdentifier) (state : State world) :
    Label world → Int
  | .call msg called => if succeeds p state msg called then asked identifier state.holds called else 0
  | .outside _ => 0

theorem asked_of_other_kind {called : Call} {storage : HoldDataStorage}
    (other : called.kind ≠ .hold) : asked identifier storage called = 0 := by
  simp [asked, payment_of_other_kind storage other]

theorem continues_of_same_holds {called : Call} (tracked : Tracked identifier hold before.holds)
    (other : called.kind ≠ .hold) (same : after.holds = before.holds) :
    Continues identifier hold (asked identifier before.holds called) before.holds after.holds := by
  rw [asked_of_other_kind other, same]
  exact tracked.continues

theorem continues_of_creation {tokenHolder : Address} {other : Hold} {operatorData : Bytes}
    {holdId : Uint256} {called : Call} (tracked : Tracked identifier hold before.holds)
    (nothing : called.payment before.holds = none)
    (done : Creation p msg tokenHolder other operatorData holdId before after) :
    Continues identifier hold (asked identifier before.holds called) before.holds after.holds := by
  have different : identifier ≠ ⟨tokenHolder, holdId⟩ := by
    rintro rfl
    have numbered := tracked.numbered
    have next := done.next
    simp only at numbered
    omega
  have free : asked identifier before.holds called = 0 := by simp [asked, nothing]
  rw [free]
  exact tracked.continues_of_untouched (untouched_by_registration done.next different done.registered)

theorem continues_of_payment {other : HoldIdentifier} {recipient : Address} {amount : Sint64}
    {called : Call} (tracked : Tracked identifier hold before.holds)
    (pays : called.payment before.holds = some (other, amount))
    (done : Payment p msg other recipient amount before after) :
    Continues identifier hold (asked identifier before.holds called) before.holds after.holds := by
  simp only [asked, pays]
  by_cases same : other = identifier
  · subst same
    rw [if_pos rfl]
    exact tracked.continues_of_decrease done.live done.decreased
  · rw [if_neg same]
    exact tracked.continues_of_untouched (untouched_by_decrease (Ne.symm same) done.decreased)

/-- Every committed call takes out of the hold what it asks for. -/
theorem continues_of_call {called : Call} (tracked : Tracked identifier hold before.holds)
    (control : called.keepsControl p msg) (effect : Effect p msg before after called) :
    Continues identifier hold (asked identifier before.holds called) before.holds after.holds := by
  cases effect with
  | view kind same => exact continues_of_same_holds tracked (by rw [kind]; nofun) (by rw [same])
  | mint done => exact continues_of_same_holds tracked nofun (by rw [done.frame])
  | burn done => exact continues_of_same_holds tracked nofun (by rw [done.frame])
  | wipe done => exact continues_of_same_holds tracked nofun (by rw [done.frame])
  | rescue done => exact continues_of_same_holds tracked nofun (by rw [done.frame])
  | rescueHBAR done =>
      exact continues_of_same_holds tracked nofun (by rw [done.frame (control.2 rfl)])
  | administration kind _ _ _ frame =>
      exact continues_of_same_holds tracked (by rw [kind]; nofun) (by rw [frame])
  | permission kind _ frame =>
      exact continues_of_same_holds tracked (by rw [kind]; nofun) (by rw [frame])
  | reserve kind _ frame =>
      exact continues_of_same_holds tracked (by rw [kind]; nofun) (by rw [frame])
  | createHold done => exact continues_of_creation tracked rfl done
  | createHoldByController _ done => exact continues_of_creation tracked rfl done
  | executeHold _ _ _ _ done => exact continues_of_payment tracked rfl done
  | releaseHold _ _ done => exact continues_of_payment tracked rfl done
  | reclaimHold _ done => exact continues_of_payment tracked rfl done
  | configuration kind _ frame =>
      exact continues_of_same_holds tracked (by rw [kind]; nofun) (by rw [frame])
  | initialization _ => exact (control.1 rfl).elim

theorem continues_of_step (state : State world) (label : Label world)
    (tracked : Tracked identifier hold state.holds) (control : KeepsControl p state label) :
    Continues identifier hold (paidOut p identifier state label) state.holds
      (next p state label).holds := by
  cases label with
  | outside later => exact tracked.continues
  | call msg called =>
      simp only [paidOut]
      cases outcome : succeeds p state msg called with
      | true =>
          rw [if_pos rfl]
          exact continues_of_call tracked control (effect_of_committed (succeeds_iff.mp outcome))
      | false =>
          rw [next_of_not_succeeds outcome, if_neg Bool.false_ne_true]
          exact tracked.continues

section Run

variable {start : State world} {labels : List (Label world)}

theorem tracked_run (tracked : Tracked identifier hold start.holds)
    (control : Along (next p) (KeepsControl p) start labels) :
    Tracked identifier hold (run (next p) start labels).holds :=
  invariant_of_steps (next p)
    (fun state label kept met => (continues_of_step state label kept met).tracked) tracked control

/-- Over any run the hold loses exactly what the steps transferred out of it. -/
theorem accounted_run (tracked : Tracked identifier hold start.holds)
    (control : Along (next p) (KeepsControl p) start labels) :
    remaining identifier (run (next p) start labels) +
        tally (next p) (paidOut p identifier) start labels =
      remaining identifier start := by
  have followed : Along (next p)
      (fun state label => KeepsControl p state label ∧ Tracked identifier hold state.holds)
      start labels :=
    along_of_invariant (next p)
      (fun state label kept met => (continues_of_step state label kept met).tracked)
      (fun _ _ kept met => ⟨met, kept⟩) tracked control
  exact spent_of_steps (next p) (remaining identifier) (paidOut p identifier)
    (fun state label met => (continues_of_step state label met.2 met.1).taken) followed

theorem gone_run (tracked : Tracked identifier hold start.holds)
    (absent : identifier.holdId ∉ start.holds.holdIdsByAccount identifier.tokenHolder)
    (control : Along (next p) (KeepsControl p) start labels) :
    identifier.holdId ∉
      (run (next p) start labels).holds.holdIdsByAccount identifier.tokenHolder := by
  let stays (state : State world) : Prop := Tracked identifier hold state.holds ∧
    identifier.holdId ∉ state.holds.holdIdsByAccount identifier.tokenHolder
  have kept : stays (run (next p) start labels) := by
    apply invariant_of_steps (next p) _ ⟨tracked, absent⟩ control
    intro state label stayed met
    have continued := continues_of_step state label stayed.1 met
    exact ⟨continued.tracked, fun live => stayed.2 (continued.listedBefore live)⟩
  exact kept.2

end Run

/-! ## What may happen to a hold in any state after its creation -/

/-- The call of one of the two creating functions that gave `holder` the hold
`holdId` on these terms. -/
inductive Creates (p : Platform world) (msg : Msg) (holder : Address) (hold : Hold)
    (holdId : Uint256) (before after : State world) : Prop where
  | byHolder (sender : msg.sender = holder)
      (committed : createHold p hold msg before = .ok ((true, holdId), after))
  | byController (operatorData : Bytes)
      (committed : createHoldByController p holder hold operatorData msg before =
        .ok ((true, holdId), after))

theorem creation_of_creates {holder : Address} {holdId : Uint256}
    (created : Creates p msg holder hold holdId before after) :
    ∃ operatorData, Creation p msg holder hold operatorData holdId before after := by
  cases created with
  | byHolder sender committed =>
      rw [← sender]
      exact ⟨[], (create_hold_ok committed).2⟩
  | byController operatorData committed =>
      exact ⟨operatorData, (create_hold_by_controller_ok committed).2.2.2⟩

structure NotFound (p : Platform world) (identifier : HoldIdentifier) (state : State world) :
    Prop where
  execute : ∀ msg recipient amount, executeHold p identifier recipient amount msg state =
    .error (.holdNotFound identifier.tokenHolder identifier.holdId)
  release : ∀ msg amount, releaseHold p identifier amount msg state =
    .error (.holdNotFound identifier.tokenHolder identifier.holdId)
  reclaim : ∀ msg, reclaimHold p identifier msg state =
    .error (.holdNotFound identifier.tokenHolder identifier.holdId)
  get : ∀ msg, getHoldFor identifier msg state =
    .error (.holdNotFound identifier.tokenHolder identifier.holdId)

theorem not_found_of_unlisted {state : State world}
    (absent : identifier.holdId ∉ state.holds.holdIdsByAccount identifier.tokenHolder) :
    NotFound p identifier state := by
  have refused : ∀ msg, validHold identifier msg state =
      .error (.holdNotFound identifier.tokenHolder identifier.holdId) := by
    intro msg
    exact valid_hold_error.mpr ⟨absent, rfl⟩
  have behind : ∀ {value : Type} (msg : Msg) (rest : State world → Unit → FacetTx world value),
      (do let current ← Tx.get
          let checked ← validHold identifier
          rest current checked : FacetTx world value) msg state =
        .error (.holdNotFound identifier.tokenHolder identifier.holdId) := by
    intro value msg rest
    apply Tx.bind_error.mpr
    refine Or.inr ⟨state, state, Tx.get_ok.mpr ⟨rfl, rfl⟩, ?_⟩
    exact Tx.bind_error.mpr (Or.inl (refused msg))
  exact {
    execute := fun msg _ _ => behind msg _
    release := fun msg _ => behind msg _
    reclaim := fun msg => behind msg _
    get := fun msg => behind msg _
  }

def Accepts (p : Platform world) (identifier : HoldIdentifier) (recipient : Address)
    (state : State world) : Prop :=
  ∃ later, p.transferToken state.tokenAddress p.proxy recipient
    (HoldDataStorage.hold state.holds identifier).amount state.world = (success, later)

/-- What a state after the creation of a hold says about it, when `paid` was
transferred out of it so far. -/
structure Lifecycle (p : Platform world) (identifier : HoldIdentifier) (hold : Hold)
    (state : State world) (paid : Int) : Prop where
  accounted : hold.amount.toInt = remaining identifier state + paid
  unique : ∀ msg other holdId after,
    Creates p msg identifier.tokenHolder other holdId state after → holdId ≠ identifier.holdId
  gone : remaining identifier state = 0 → NotFound p identifier state
  executed : ∀ msg recipient amount result after,
    executeHold p identifier recipient amount msg state = .ok (result, after) →
      msg.sender = hold.escrow ∧
        msg.timestamp.toNat < hold.expirationTimestamp.toNat ∧
        (hold.to_ ≠ 0 → recipient = hold.to_) ∧
        p.transferToken state.tokenAddress p.proxy recipient amount state.world =
          (success, after.world)
  released : ∀ msg amount result after,
    releaseHold p identifier amount msg state = .ok (result, after) →
      msg.sender = hold.escrow ∧
        msg.timestamp.toNat < hold.expirationTimestamp.toNat ∧
        p.transferToken state.tokenAddress p.proxy identifier.tokenHolder amount state.world =
          (success, after.world)
  reclaimed : ∀ msg result after, reclaimHold p identifier msg state = .ok (result, after) →
    hold.expirationTimestamp.toNat ≤ msg.timestamp.toNat ∧
      p.transferToken state.tokenAddress p.proxy identifier.tokenHolder
        (HoldDataStorage.hold state.holds identifier).amount state.world = (success, after.world)
  executable : ∀ msg recipient, remaining identifier state ≠ 0 → msg.sender = hold.escrow →
    (hold.to_ = 0 ∨ hold.to_ = recipient) → Accepts p identifier recipient state →
    ((∃ answer, executeHold p identifier recipient
        (HoldDataStorage.hold state.holds identifier).amount msg state = .ok answer) ↔
      msg.timestamp.toNat < hold.expirationTimestamp.toNat)
  releasable : ∀ msg, remaining identifier state ≠ 0 → msg.sender = hold.escrow →
    Accepts p identifier identifier.tokenHolder state →
    ((∃ answer, releaseHold p identifier
        (HoldDataStorage.hold state.holds identifier).amount msg state = .ok answer) ↔
      msg.timestamp.toNat < hold.expirationTimestamp.toNat)
  reclaimable : ∀ msg, remaining identifier state ≠ 0 →
    Accepts p identifier identifier.tokenHolder state →
    ((∃ answer, reclaimHold p identifier msg state = .ok answer) ↔
      hold.expirationTimestamp.toNat ≤ msg.timestamp.toNat)

section Lifecycle

variable {state : State world}

theorem listed_iff_remaining (books : Bookkeeping state.holds)
    (tracked : Tracked identifier hold state.holds) :
    identifier.holdId ∈ state.holds.holdIdsByAccount identifier.tokenHolder ↔
      remaining identifier state ≠ 0 := by
  constructor
  · intro live
    have positive := (((books.accounts identifier.tokenHolder).listed identifier.holdId).mp live).2
    exact Int.ne_of_gt positive
  · intro something
    by_contra absent
    have zero := tracked.gone absent
    apply something
    rw [remaining, zero]
    rfl

/-- A live hold pays out in full when the token service accepts the transfer. -/
theorem payment_in_full (books : Bookkeeping state.holds)
    (live : identifier.holdId ∈ state.holds.holdIdsByAccount identifier.tokenHolder)
    {recipient : Address} (accepted : Accepts p identifier recipient state) (msg : Msg) :
    ∃ after, Payment p msg identifier recipient
      (HoldDataStorage.hold state.holds identifier).amount state after := by
  obtain ⟨later, paid⟩ := accepted
  have positive := (((books.accounts identifier.tokenHolder).listed identifier.holdId).mp live).2
  obtain ⟨holds, decreased⟩ :=
    books.decrease_possible msg live (Int.le_of_lt positive) (le_refl _)
  exact ⟨{ state with holds := holds, world := later }, live, le_rfl, decreased, paid, rfl⟩

/-! The terms that decide are those the hold was created with. -/

theorem execute_tracked_ok (tracked : Tracked identifier hold state.holds) {recipient : Address}
    {amount : Sint64} {result : Bool} :
    executeHold p identifier recipient amount msg state = .ok (result, after) ↔
      result = true ∧ 0 < amount.toInt ∧
        msg.timestamp.toNat < hold.expirationTimestamp.toNat ∧ hold.escrow = msg.sender ∧
        (hold.to_ = 0 ∨ hold.to_ = recipient) ∧
        Payment p msg identifier recipient amount state after := by
  rw [execute_hold_ok]
  constructor
  · intro committed
    obtain ⟨answer, positive, inTime, escrow, destination, done⟩ := committed
    obtain ⟨expiration, sameEscrow, sameTo⟩ := tracked.terms done.live
    rw [expiration] at inTime
    rw [sameEscrow] at escrow
    rw [sameTo] at destination
    exact ⟨answer, positive, inTime, escrow, destination, done⟩
  · intro described
    obtain ⟨expiration, sameEscrow, sameTo⟩ := tracked.terms described.2.2.2.2.2.live
    rw [expiration, sameEscrow, sameTo]
    exact described

theorem release_tracked_ok (tracked : Tracked identifier hold state.holds) {amount : Sint64}
    {result : Bool} :
    releaseHold p identifier amount msg state = .ok (result, after) ↔
      result = true ∧ msg.timestamp.toNat < hold.expirationTimestamp.toNat ∧
        hold.escrow = msg.sender ∧
        Payment p msg identifier identifier.tokenHolder amount state after := by
  rw [release_hold_ok]
  constructor
  · intro committed
    obtain ⟨answer, inTime, escrow, done⟩ := committed
    obtain ⟨expiration, sameEscrow, _⟩ := tracked.terms done.live
    rw [expiration] at inTime
    rw [sameEscrow] at escrow
    exact ⟨answer, inTime, escrow, done⟩
  · intro described
    obtain ⟨expiration, sameEscrow, _⟩ := tracked.terms described.2.2.2.live
    rw [expiration, sameEscrow]
    exact described

theorem reclaim_tracked_ok (tracked : Tracked identifier hold state.holds) {result : Bool} :
    reclaimHold p identifier msg state = .ok (result, after) ↔
      result = true ∧ hold.expirationTimestamp.toNat ≤ msg.timestamp.toNat ∧
        Payment p msg identifier identifier.tokenHolder
          (HoldDataStorage.hold state.holds identifier).amount state after := by
  rw [reclaim_hold_ok]
  constructor
  · intro committed
    obtain ⟨answer, late, done⟩ := committed
    rw [(tracked.terms done.live).1] at late
    exact ⟨answer, late, done⟩
  · intro described
    rw [(tracked.terms described.2.2.live).1]
    exact described

theorem fresh_number (tracked : Tracked identifier hold state.holds) {other : Hold}
    {holdId : Uint256} (created : Creates p msg identifier.tokenHolder other holdId state after) :
    holdId ≠ identifier.holdId := by
  obtain ⟨operatorData, done⟩ := creation_of_creates created
  have numbered := tracked.numbered
  have next := done.next
  rintro rfl
  omega

theorem lifecycle_of_tracked (books : Bookkeeping state.holds)
    (tracked : Tracked identifier hold state.holds) {paid : Int}
    (accounted : hold.amount.toInt = remaining identifier state + paid) :
    Lifecycle p identifier hold state paid where
  accounted := accounted
  unique _ _ _ _ := fresh_number tracked
  gone := by
    intro nothing
    apply not_found_of_unlisted
    intro live
    exact (listed_iff_remaining books tracked).mp live nothing
  executed := by
    intro msg recipient amount result after committed
    obtain ⟨_, _, inTime, escrow, destination, done⟩ := (execute_tracked_ok tracked).mp committed
    refine ⟨escrow.symm, inTime, ?_, done.paid⟩
    intro restricted
    exact (destination.resolve_left restricted).symm
  released := by
    intro msg amount result after committed
    obtain ⟨_, inTime, escrow, done⟩ := (release_tracked_ok tracked).mp committed
    exact ⟨escrow.symm, inTime, done.paid⟩
  reclaimed := by
    intro msg result after committed
    obtain ⟨_, late, done⟩ := (reclaim_tracked_ok tracked).mp committed
    exact ⟨late, done.paid⟩
  executable := by
    intro msg recipient something escrow destination accepted
    have live := (listed_iff_remaining books tracked).mpr something
    have positive := (((books.accounts identifier.tokenHolder).listed identifier.holdId).mp live).2
    constructor
    · intro possible
      obtain ⟨⟨result, after⟩, committed⟩ := possible
      exact ((execute_tracked_ok tracked).mp committed).2.2.1
    · intro inTime
      obtain ⟨after, done⟩ := payment_in_full books live accepted msg
      exact ⟨(true, after), (execute_tracked_ok tracked).mpr
        ⟨rfl, positive, inTime, escrow.symm, destination, done⟩⟩
  releasable := by
    intro msg something escrow accepted
    have live := (listed_iff_remaining books tracked).mpr something
    constructor
    · intro possible
      obtain ⟨⟨result, after⟩, committed⟩ := possible
      exact ((release_tracked_ok tracked).mp committed).2.1
    · intro inTime
      obtain ⟨after, done⟩ := payment_in_full books live accepted msg
      exact ⟨(true, after), (release_tracked_ok tracked).mpr ⟨rfl, inTime, escrow.symm, done⟩⟩
  reclaimable := by
    intro msg something accepted
    have live := (listed_iff_remaining books tracked).mpr something
    constructor
    · intro possible
      obtain ⟨⟨result, after⟩, committed⟩ := possible
      exact ((reclaim_tracked_ok tracked).mp committed).2.1
    · intro late
      obtain ⟨after, done⟩ := payment_in_full books live accepted msg
      exact ⟨(true, after), (reclaim_tracked_ok tracked).mpr ⟨rfl, late, done⟩⟩

end Lifecycle

/-! ## From the creation of a hold on -/

theorem tracked_of_creates {holder : Address} {holdId : Uint256}
    (created : Creates p msg holder hold holdId before after) :
    Tracked ⟨holder, holdId⟩ hold after.holds ∧
      remaining ⟨holder, holdId⟩ after = hold.amount.toInt := by
  obtain ⟨operatorData, done⟩ := creation_of_creates created
  obtain ⟨tracked, amount⟩ := tracked_by_registration done.registered
  refine ⟨tracked, ?_⟩
  rw [remaining, amount]

theorem bookkeeping_of_creates {holder : Address} {holdId : Uint256}
    (books : Bookkeeping before.holds)
    (created : Creates p msg holder hold holdId before after) : Bookkeeping after.holds := by
  obtain ⟨operatorData, done⟩ := creation_of_creates created
  exact books.register done.next done.positive done.registered

/-- At any later point the hold has paid what it lacks, may pay out on its own
terms only, and once nothing remains it is not found again. -/
theorem hold_lifecycle_along_runs (p : Platform world) (start created : State world)
    (earlier later afterwards : List (Label world)) (msg : Msg) (holder : Address) (hold : Hold)
    (holdId : Uint256) (fresh : start.holds = HoldDataStorage.empty)
    (controlBefore : Along (next p) (KeepsControl p) start earlier)
    (creation : Creates p msg holder hold holdId (run (next p) start earlier) created)
    (controlAfter : Along (next p) (KeepsControl p) created (later ++ afterwards)) :
    Lifecycle p ⟨holder, holdId⟩ hold (run (next p) created later)
        (tally (next p) (paidOut p ⟨holder, holdId⟩) created later) ∧
      (remaining ⟨holder, holdId⟩ (run (next p) created later) = 0 →
        NotFound p ⟨holder, holdId⟩ (run (next p) created (later ++ afterwards))) := by
  obtain ⟨controlLater, controlAfterwards⟩ := (along_append (next p)).mp controlAfter
  have initial : Bookkeeping created.holds :=
    bookkeeping_of_creates (bookkeeping_run fresh controlBefore) creation
  have books : Bookkeeping (run (next p) created later).holds :=
    invariant_of_steps (next p) bookkeeping_next initial controlLater
  obtain ⟨newborn, whole⟩ := tracked_of_creates creation
  have tracked := tracked_run newborn controlLater
  have accounted := accounted_run newborn controlLater
  rw [whole] at accounted
  refine ⟨lifecycle_of_tracked books tracked accounted.symm, ?_⟩
  intro nothing
  have absent : holdId ∉ (run (next p) created later).holds.holdIdsByAccount holder := by
    intro live
    exact (listed_iff_remaining books tracked).mp live nothing
  rw [run_append]
  exact not_found_of_unlisted (gone_run tracked absent controlAfterwards)

/-- The escrow pays a hold of 10 out in two parts. -/
def sampleExecutions : List (Label Ledger) :=
  [.call (sampleMsg 3 2) (.executeHold ⟨2, units256 1⟩ 4 (units64 4)),
    .call (sampleMsg 3 3) (.executeHold ⟨2, units256 1⟩ 4 (units64 6))]

theorem hold_lifecycle_on_sample_run :
    ∃ created : State Ledger,
      Lifecycle (reference 1) ⟨2, units256 1⟩ (sampleHold 10)
          (run (next (reference 1)) created sampleExecutions)
          (tally (next (reference 1)) (paidOut (reference 1) ⟨2, units256 1⟩) created
            sampleExecutions) ∧
        (remaining ⟨2, units256 1⟩ (run (next (reference 1)) created sampleExecutions) = 0 →
          NotFound (reference 1) ⟨2, units256 1⟩
            (run (next (reference 1)) created (sampleExecutions ++ sampleExecutions))) := by
  have creation : ∃ created, createHold (reference 1) (sampleHold 10) (sampleMsg 2 1)
      (deployed RolesStorage.empty (holderLedger 100)) = .ok ((true, units256 1), created) :=
    ⟨_, rfl⟩
  obtain ⟨created, committed⟩ := creation
  exact ⟨created, hold_lifecycle_along_runs _ _ _ [] _ _ (sampleMsg 2 1) 2 (sampleHold 10) _ rfl
    trivial (.byHolder rfl committed)
    (by simp [sampleExecutions, Along, KeepsControl, Call.keepsControl, Call.kind])⟩

end StablecoinStudio.Token.HoldLifecycle
