import StablecoinStudio.Sdk.HoldChecks
import StablecoinStudio.Token.ReferenceLedger

/-!
# The guards of a hold, twice

A call that the handler sends should meet the guards of the contract, and a
hold that the handler calls expired should be expired for the contract. The
exceptions are the last second of a hold and a target that is left out.
-/

namespace StablecoinStudio.Sdk.HoldAgreement

open StablecoinStudio.Core.Common
open StablecoinStudio.Foundation
open StablecoinStudio.Foundation.DecimalQuantities
open StablecoinStudio.Foundation.DecimalTexts
open StablecoinStudio.Foundation.FloatIntegers
open StablecoinStudio.Foundation.Transaction
open StablecoinStudio.Sdk.BigDecimal
open StablecoinStudio.Sdk.FixedNumber
open StablecoinStudio.Sdk.HoldChecks
open StablecoinStudio.Sdk.StableCoins
open StablecoinStudio.Token
open StablecoinStudio.Token.ProxyState
open StablecoinStudio.Token.ReferenceLedger
open StablecoinStudio.Token.Services

set_option autoImplicit false

/-! ## The guards of the contract -/

section Guards

variable {world : Type}

/-- The modifiers of `executeHold` and `releaseHold`. -/
structure HoldGuards (msg : Msg) (state : State world) (identifier : HoldIdentifier)
    (amount : Sint64) : Prop where
  validHold : HoldManagement.validHold identifier msg state = .ok ((), state)
  validAmount :
    HoldManagement.validAmount (recordOf state identifier).amount amount msg state =
      .ok ((), state)
  nonExpired :
    HoldManagement.nonExpired (recordOf state identifier).expirationTimestamp msg state =
      .ok ((), state)
  isEscrow :
    HoldManagement.isEscrow (recordOf state identifier).escrow msg state = .ok ((), state)

/-- And the condition on the destination. -/
structure ExecuteGuards (msg : Msg) (state : State world) (identifier : HoldIdentifier)
    (recipient : Address) (amount : Sint64) : Prop extends
    HoldGuards msg state identifier amount where
  destination : ¬((recordOf state identifier).to_ ≠ 0 ∧ (recordOf state identifier).to_ ≠ recipient)

/-- The modifiers of `reclaimHold`. -/
structure ReclaimGuards (msg : Msg) (state : State world) (identifier : HoldIdentifier) :
    Prop where
  validHold : HoldManagement.validHold identifier msg state = .ok ((), state)
  expired :
    HoldManagement.expired (recordOf state identifier).expirationTimestamp msg state =
      .ok ((), state)

variable {p : Platform world} {msg : Msg} {state : State world} {identifier : HoldIdentifier}
  {recipient : Address} {amount : Sint64}

theorem hold_guards_iff : HoldGuards msg state identifier amount ↔
    Live state identifier ∧ amount.toInt ≤ (recordOf state identifier).amount.toInt ∧
      msg.timestamp.toNat < (recordOf state identifier).expirationTimestamp.toNat ∧
      (recordOf state identifier).escrow = msg.sender := by
  constructor
  · intro guards
    exact ⟨(HoldManagement.valid_hold_ok.mp guards.validHold).1,
      (HoldManagement.valid_amount_ok.mp guards.validAmount).1,
      (HoldManagement.non_expired_ok.mp guards.nonExpired).1,
      (HoldManagement.is_escrow_ok.mp guards.isEscrow).1⟩
  · intro described
    obtain ⟨live, within, inTime, escrow⟩ := described
    exact ⟨HoldManagement.valid_hold_ok.mpr ⟨live, rfl⟩,
      HoldManagement.valid_amount_ok.mpr ⟨within, rfl⟩,
      HoldManagement.non_expired_ok.mpr ⟨inTime, rfl⟩,
      HoldManagement.is_escrow_ok.mpr ⟨escrow, rfl⟩⟩

theorem listed_of_live (live : Live state identifier) :
    HoldManagement.validHold identifier msg state = .ok ((), state) :=
  HoldManagement.valid_hold_ok.mpr ⟨live, rfl⟩

theorem enough_of_within (within : amount.toInt ≤ (recordOf state identifier).amount.toInt) :
    HoldManagement.validAmount (recordOf state identifier).amount amount msg state =
      .ok ((), state) :=
  HoldManagement.valid_amount_ok.mpr ⟨within, rfl⟩

theorem contract_execute_expired (live : Live state identifier) (positive : 0 < amount.toInt)
    (within : amount.toInt ≤ (recordOf state identifier).amount.toInt)
    (late : (recordOf state identifier).expirationTimestamp.toNat ≤ msg.timestamp.toNat) :
    HoldManagement.executeHold p identifier recipient amount msg state =
      .error (.holdExpired (recordOf state identifier).expirationTimestamp) := by
  have asked : (greaterThanZero amount.toInt : FacetTx world Unit) msg state = .ok ((), state) :=
    Tx.require_ok.mpr ⟨positive, rfl⟩
  rw [HoldManagement.executeHold, Tx.bind_of_ok (Tx.get_ok.mpr ⟨rfl, rfl⟩),
    Tx.bind_of_ok (listed_of_live live), Tx.bind_of_ok asked,
    Tx.bind_of_ok (enough_of_within within), Tx.bind_error]
  exact Or.inl (HoldManagement.non_expired_error.mpr ⟨late, rfl⟩)

theorem contract_release_expired (live : Live state identifier)
    (within : amount.toInt ≤ (recordOf state identifier).amount.toInt)
    (late : (recordOf state identifier).expirationTimestamp.toNat ≤ msg.timestamp.toNat) :
    HoldManagement.releaseHold p identifier amount msg state =
      .error (.holdExpired (recordOf state identifier).expirationTimestamp) := by
  rw [HoldManagement.releaseHold, Tx.bind_of_ok (Tx.get_ok.mpr ⟨rfl, rfl⟩),
    Tx.bind_of_ok (listed_of_live live), Tx.bind_of_ok (enough_of_within within), Tx.bind_error]
  exact Or.inl (HoldManagement.non_expired_error.mpr ⟨late, rfl⟩)

theorem contract_reclaim_not_expired (live : Live state identifier)
    (early : msg.timestamp.toNat < (recordOf state identifier).expirationTimestamp.toNat) :
    HoldManagement.reclaimHold p identifier msg state =
      .error (.holdNotExpired (recordOf state identifier).expirationTimestamp) := by
  rw [HoldManagement.reclaimHold, Tx.bind_of_ok (Tx.get_ok.mpr ⟨rfl, rfl⟩),
    Tx.bind_of_ok (listed_of_live live), Tx.bind_error]
  exact Or.inl (HoldManagement.expired_error.mpr ⟨early, rfl⟩)

theorem contract_ids_listed {tokenHolder : Address} {first length : Uint256} {ids : List Uint256}
    {after : State world}
    (given : HoldManagement.getHoldsIdFor tokenHolder first length msg state = .ok (ids, after)) :
    ∀ id ∈ ids, id ∈ state.holds.holdIdsByAccount tokenHolder := by
  intro id member
  simp only [HoldManagement.getHoldsIdFor, Tx.bind_ok, Tx.get_ok, Tx.of_option_ok, Tx.pure_ok]
    at given
  obtain ⟨_, _, ⟨rfl, rfl⟩, _, _, _, _, _, _, _, _, _, rfl, _⟩ := given
  exact List.mem_of_mem_drop (List.mem_of_mem_take member)

end Guards

/-! ## What a handler has checked -/

section Passed

variable {fixed world : Type} (ethers : FixedNumbers fixed) (msg : Msg) (state : State world)
  (request : Request fixed)

structure Passed (amountBd : fixed) (details : HoldChecks.HoldDetails fixed) : Prop where
  notTooFine : checkDecimals ethers request.amount request.coin.decimals = .ok ()
  parsed : parsedAmount ethers request.amount request.coin.decimals = .ok amountBd
  read : HoldChecks.getHoldFor ethers msg state request = .ok details
  enough : isLowerThan ethers details.amount amountBd = false
  escrow : request.caller = some details.escrowAddress

structure Held (amount : Nat) (identifier : HoldIdentifier) : Prop where
  text : ∃ decimal, AmountText request.amount request.coin.decimals decimal amount
  proxy : request.coin.evmProxyAddress ≠ none
  identified : holdIdentifier request = .ok identifier
  live : Live state identifier
  within : (amount : Int) ≤ (recordOf state identifier).amount.toInt
  escrow : request.caller = some (recordOf state identifier).escrow

def PositiveText : Prop :=
  ∀ decimal : DecimalText, decimal.text = request.amount → 0 < decimal.units

variable {ethers msg state request} {amountBd : fixed} {details : HoldChecks.HoldDetails fixed}

theorem amount_pos_of_text (positive : PositiveText request) {decimal : DecimalText} {amount : Nat}
    (given : AmountText request.amount request.coin.decimals decimal amount) : 0 < amount := by
  have more : 0 < decimal.unitsAt request.coin.decimals :=
    Int.mul_pos (positive decimal given.text.symm) (pow_pos (by decide) _)
  rw [given.units] at more
  exact Int.natCast_pos.mp more

theorem parsed_is (laws : Laws ethers) {decimal : DecimalText} {amount : Nat}
    (given : AmountText request.amount request.coin.decimals decimal amount)
    (parsed : parsedAmount ethers request.amount request.coin.decimals = .ok amountBd) :
    ethers.Is amountBd request.coin.decimals amount := by
  by_cases fits : Representable request.coin.decimals amount
  · obtain ⟨other, otherParsed⟩ := parsed_of_fits laws given fits
    rw [Except.ok.inj (parsed.symm.trans otherParsed.read)]
    exact otherParsed.is
  · exact absurd parsed (unparsed_of_misfit laws given fits amountBd)

theorem not_lower_iff (laws : Laws ethers) {places : Nat} {held amount : Int}
    {heldAmount : fixed} (heldIs : ethers.Is heldAmount places held)
    (is : ethers.Is amountBd places amount) :
    isLowerThan ethers heldAmount amountBd = false ↔ amount ≤ held := by
  rw [← Bool.not_eq_true, isLowerThan, laws.lt_iff, heldIs.amount, is.amount, not_lt,
    quantity_le_iff]

theorem empty_lower (laws : Laws ethers) {places amount : Nat} {zero : fixed}
    (zeroIs : ethers.Is zero 0 0) (is : ethers.Is amountBd places amount) (positive : 0 < amount) :
    isLowerThan ethers zero amountBd = true := by
  have above : (0 : ℚ) < amount := Nat.cast_pos.mpr positive
  rw [isLowerThan, laws.lt_iff, zeroIs.amount, is.amount, quantity, quantity, Int.cast_zero,
    zero_div, Int.cast_natCast]
  exact div_pos above (ten_pow_pos places)

theorem held_of_passed (laws : Laws ethers) (few : request.coin.decimals ≤ 18)
    (positive : PositiveText request) (passed : Passed ethers msg state request amountBd details) :
    ∃ amount identifier, Held state request amount identifier ∧
      Reads ethers state request identifier details ∧
      ethers.Is amountBd request.coin.decimals amount := by
  obtain ⟨decimal, amount, given, more⟩ :=
    amount_text_of_checked laws few passed.notTooFine positive
  have is := parsed_is laws given passed.parsed
  obtain ⟨proxy, identifier, identified, reads | empty⟩ := get_hold_for_ok laws few passed.read
  · have escrow := passed.escrow
    rw [reads.escrow] at escrow
    have within := (not_lower_iff laws reads.amount is).mp passed.enough
    exact ⟨amount, identifier, ⟨⟨decimal, given⟩, proxy, identified, reads.live, within, escrow⟩,
      reads, is⟩
  · have enough := passed.enough
    rw [empty_lower laws empty.2 is more] at enough
    exact Bool.noConfusion enough

theorem passed_of_held (msg : Msg) (laws : Laws ethers) (few : request.coin.decimals ≤ 18)
    (positive : PositiveText request) {amount : Nat} {identifier : HoldIdentifier}
    (held : Held state request amount identifier) :
    ∃ amountBd details, Passed ethers msg state request amountBd details ∧
      Reads ethers state request identifier details ∧
      ethers.Is amountBd request.coin.decimals amount := by
  obtain ⟨decimal, given⟩ := held.text
  have more := amount_pos_of_text positive given
  have within := held.within
  have upper := (recordOf state identifier).amount.upper
  obtain ⟨amountBd, parsed⟩ := parsed_of_fits laws given ⟨by omega, by omega, by omega⟩
  obtain ⟨details, read, reads⟩ := get_hold_for_reads msg laws few held.proxy
    held.identified held.live (by omega)
  have escrow := held.escrow
  rw [← reads.escrow] at escrow
  exact ⟨amountBd, details, ⟨parsed.notTooFine, parsed.read, read,
    (not_lower_iff laws reads.amount parsed.is).mpr within, escrow⟩, reads, parsed.is⟩

end Passed

/-! ## Refusals on expiration -/

def OnExpiration (failure : Failure) : Prop := failure = .expiredHold ∨ failure = .holdNotExpired

/-- A step that does not refuse on expiration. -/
def Silent {result : Type} (outcome : Checked result) : Prop :=
  ∀ failure, OnExpiration failure → outcome ≠ .error failure

section Silent

variable {result next : Type} {failure : Failure}

theorem silent_ok {value : result} : Silent (.ok value : Checked result) := by
  intro failure _ impossible
  cases impossible

theorem silent_error (other : ¬OnExpiration failure) :
    Silent (.error failure : Checked result) := by
  intro raised onExpiration same
  rw [Except.error.inj same] at other
  exact other onExpiration

theorem silent_bind {first : Checked result} {rest : result → Checked next} (silent : Silent first)
    (silentRest : ∀ between, Silent (rest between)) : Silent (first >>= rest) := by
  intro raised onExpiration failed
  rcases bind_error.mp failed with atFirst | later
  · exact silent raised onExpiration atFirst
  · obtain ⟨between, _, atRest⟩ := later
    exact silentRest between raised onExpiration atRest

theorem silent_number (given : Option result) : Silent (number given) := by
  cases given with
  | none => exact silent_error (by simp [OnExpiration])
  | some value => exact silent_ok

theorem silent_refuse {condition : Prop} [Decidable condition] (other : ¬OnExpiration failure) :
    Silent (refuseWhen condition failure) := by
  unfold refuseWhen
  split
  · exact silent_error other
  · exact silent_ok

theorem silent_associated {fixed : Type} (request : Request fixed)
    (relation : Option (AccountTokenRelation fixed)) (accountId : String) :
    Silent (checkAssociated request relation accountId) := by
  cases relation with
  | none => exact silent_error (by simp [OnExpiration])
  | some found => exact silent_ok

theorem silent_status {fixed : Type} (relation : AccountTokenRelation fixed) (accountId : String) :
    Silent (checkStatus relation accountId) :=
  silent_bind (silent_refuse (by simp [OnExpiration])) fun _ =>
    silent_refuse (by simp [OnExpiration])

theorem error_after {first : Checked result} {rest : result → Checked next} (silent : Silent first)
    (onExpiration : OnExpiration failure) (failed : (first >>= rest) = .error failure) :
    ∃ between, first = .ok between ∧ rest between = .error failure :=
  (bind_error.mp failed).resolve_left (silent failure onExpiration)

end Silent

section Shared

variable {fixed world result : Type} {ethers : FixedNumbers fixed} {msg : Msg}
  {state : State world} {request : Request fixed} {failure : Failure}

theorem silent_address (accountId : String) :
    Silent (HoldChecks.accountToEvmAddress request accountId) := by
  unfold HoldChecks.accountToEvmAddress
  split
  · exact silent_error (by simp [OnExpiration])
  · exact silent_ok

theorem silent_identifier : Silent (holdIdentifier request) := by
  refine silent_bind (silent_address _) fun _ => silent_bind ?_ fun _ => silent_ok
  unfold encodedHoldId
  split
  · exact silent_ok
  · exact silent_error (by simp [OnExpiration])

theorem silent_get_hold_for : Silent (HoldChecks.getHoldFor ethers msg state request) := by
  refine silent_bind (silent_refuse (by simp [OnExpiration])) fun _ =>
    silent_bind silent_identifier fun identifier => ?_
  split
  · exact silent_bind (silent_bind (silent_number _) fun _ => silent_number _) fun _ => silent_ok
  · split
    · exact silent_bind (silent_number _) fun _ => silent_ok
    · exact silent_error (by simp [OnExpiration])

theorem silent_get_holds_id_for : Silent (HoldChecks.getHoldsIdFor msg state request) := by
  refine silent_bind (silent_refuse (by simp [OnExpiration])) fun _ =>
    silent_bind (silent_address _) fun tokenHolder => ?_
  split
  · exact silent_ok
  · exact silent_error (by simp [OnExpiration])

theorem silent_target : Silent (checkHoldTarget ethers msg state request) := by
  refine silent_bind silent_get_hold_for fun details => ?_
  dsimp only
  split
  · exact silent_refuse (by simp [OnExpiration])
  · split
    · exact silent_bind (silent_address _) fun _ => silent_refuse (by simp [OnExpiration])
    · exact silent_ok

theorem silent_resolved : Silent (resolvedTarget request) := by
  unfold resolvedTarget
  split
  · exact silent_ok
  · exact silent_address _

/-- The checks that an execution and a release share. -/
def sharedChecks (ethers : FixedNumbers fixed) (msg : Msg) (state : State world)
    (request : Request fixed) (rest : fixed → Checked result) : Checked result := do
  checkDecimals ethers request.amount request.coin.decimals
  let amountBd ← parsedAmount ethers request.amount request.coin.decimals
  checkHoldBalance ethers msg state request amountBd
  checkEscrow ethers msg state request
  rest amountBd

theorem shared_checks_ok {rest : fixed → Checked result} {value : result} :
    sharedChecks ethers msg state request rest = .ok value ↔
      ∃ amountBd details, Passed ethers msg state request amountBd details ∧
        rest amountBd = .ok value := by
  simp only [sharedChecks, checkHoldBalance, checkEscrow, bind_ok, refuse_when_ok]
  constructor
  · intro given
    obtain ⟨_, fine, amountBd, parsed, _, ⟨details, read, enough⟩, _, ⟨again, readAgain, escrow⟩,
      rested⟩ := given
    obtain rfl := Except.ok.inj (read.symm.trans readAgain)
    exact ⟨amountBd, details, ⟨fine, parsed, read, Bool.eq_false_iff.mpr enough, not_not.mp escrow⟩,
      rested⟩
  · intro given
    obtain ⟨amountBd, details, passed, rested⟩ := given
    exact ⟨(), passed.notTooFine, amountBd, passed.parsed, (),
      ⟨details, passed.read, Bool.eq_false_iff.mp passed.enough⟩, (),
      ⟨details, passed.read, not_not.mpr passed.escrow⟩, rested⟩

theorem shared_checks_error {rest : fixed → Checked result} (onExpiration : OnExpiration failure)
    (failed : sharedChecks ethers msg state request rest = .error failure) :
    ∃ amountBd details, Passed ethers msg state request amountBd details ∧
      rest amountBd = .error failure := by
  obtain ⟨_, fine, failed⟩ := error_after
    (silent_bind (silent_number _) fun _ => silent_refuse (by simp [OnExpiration]))
    onExpiration failed
  obtain ⟨amountBd, parsed, failed⟩ := error_after (silent_number _) onExpiration failed
  obtain ⟨_, balance, failed⟩ := error_after
    (silent_bind silent_get_hold_for fun _ => silent_refuse (by simp [OnExpiration]))
    onExpiration failed
  obtain ⟨_, escrow, failed⟩ := error_after
    (silent_bind silent_get_hold_for fun _ => silent_refuse (by simp [OnExpiration]))
    onExpiration failed
  obtain ⟨details, read, enough⟩ := bind_ok.mp balance
  obtain ⟨again, readAgain, caller⟩ := bind_ok.mp escrow
  obtain rfl := Except.ok.inj (read.symm.trans readAgain)
  exact ⟨amountBd, details, ⟨fine, parsed, read, Bool.eq_false_iff.mpr (refuse_when_ok.mp enough),
    not_not.mp (refuse_when_ok.mp caller)⟩, failed⟩

end Shared

/-! ## What the handlers send -/

/-- The clock is at the block, and the account that signs is the sender. -/
structure SameMoment {fixed : Type} (request : Request fixed) (msg : Msg) : Prop where
  clock : request.currentTimestamp = msg.timestamp.toNat
  safe : request.currentTimestamp < 2 ^ numberBits
  caller : ∀ caller ∈ request.caller, caller = msg.sender

def TargetAccepted {fixed : Type} (request : Request fixed) (destination recipient : Address) :
    Prop :=
  match request.targetId with
  | none => destination ≠ 0 ∧ recipient = 0
  | some targetId => request.accountToEvmAddress targetId = some recipient ∧
      (destination = 0 ∨ destination = recipient)

section Sent

variable {fixed world : Type} {ethers : FixedNumbers fixed} {msg : Msg} {state : State world}
  {request : Request fixed} {details : HoldChecks.HoldDetails fixed} {identifier : HoldIdentifier}
  {failure : Failure}

theorem address_ok {accountId : String} {address : Address} :
    HoldChecks.accountToEvmAddress request accountId = .ok address ↔
      request.accountToEvmAddress accountId = some address := by
  unfold HoldChecks.accountToEvmAddress
  split
  · next missing => simp [missing]
  · next found => simp [found]

theorem target_accepted_iff (read : HoldChecks.getHoldFor ethers msg state request = .ok details)
    {recipient : Address} :
    checkHoldTarget ethers msg state request = .ok () ∧ resolvedTarget request = .ok recipient ↔
      TargetAccepted request details.destinationAddress recipient := by
  unfold checkHoldTarget resolvedTarget TargetAccepted
  rw [read]
  cases request.targetId with
  | none =>
      change refuseWhen (details.destinationAddress = 0) _ = _ ∧ _ ↔ _
      rw [refuse_when_ok, Except.ok.injEq]
      exact and_congr_right fun _ => eq_comm
  | some targetId =>
      change (if details.destinationAddress ≠ 0 then _ else _) = _ ∧ _ ↔ _
      rw [address_ok]
      split
      · next given =>
          simp only [bind_ok, address_ok, refuse_when_ok, not_not]
          constructor
          · intro accepted
            obtain ⟨⟨address, found, same⟩, resolved⟩ := accepted
            rw [Option.some.inj (resolved.symm.trans found)]
            exact ⟨found, Or.inr same⟩
          · intro accepted
            obtain ⟨resolved, free | same⟩ := accepted
            · exact absurd free given
            · exact ⟨⟨recipient, resolved, same⟩, resolved⟩
      · next free =>
          constructor
          · intro accepted
            exact ⟨accepted.2, Or.inl (not_not.mp free)⟩
          · intro accepted
            exact ⟨rfl, accepted.1⟩

theorem not_expired_iff (reads : Reads ethers state request identifier details)
    (safe : request.currentTimestamp < 2 ^ numberBits) :
    details.expirationTimeStamp < request.currentTimestamp ↔
      (recordOf state identifier).expirationTimestamp.toNat < request.currentTimestamp := by
  rw [reads.expiration]
  exact nearest_lt_iff (by decide) (Nat.le_of_lt safe)

theorem not_expired_yet_iff (reads : Reads ethers state request identifier details)
    (safe : request.currentTimestamp < 2 ^ numberBits) :
    details.expirationTimeStamp > request.currentTimestamp ↔
      request.currentTimestamp < (recordOf state identifier).expirationTimestamp.toNat := by
  rw [reads.expiration]
  exact lt_nearest_iff (by decide) safe

theorem check_expiration_false
    (read : HoldChecks.getHoldFor ethers msg state request = .ok details) :
    checkHoldExpiration ethers msg state request false =
      refuseWhen (details.expirationTimeStamp < request.currentTimestamp) .expiredHold := by
  unfold checkHoldExpiration
  rw [read]
  by_cases late : details.expirationTimeStamp < request.currentTimestamp
  · simp [refuseWhen, late, bind, Except.bind]
  · simp [refuseWhen, late, bind, Except.bind]

theorem expiration_passed_iff (read : HoldChecks.getHoldFor ethers msg state request = .ok details)
    (reads : Reads ethers state request identifier details)
    (safe : request.currentTimestamp < 2 ^ numberBits) :
    checkHoldExpiration ethers msg state request false = .ok () ↔
      request.currentTimestamp ≤ (recordOf state identifier).expirationTimestamp.toNat := by
  rw [check_expiration_false read, refuse_when_ok, not_expired_iff reads safe, Nat.not_lt]

theorem check_expiration_true
    (read : HoldChecks.getHoldFor ethers msg state request = .ok details) :
    checkHoldExpiration ethers msg state request true =
      refuseWhen (details.expirationTimeStamp > request.currentTimestamp) .holdNotExpired := by
  unfold checkHoldExpiration
  rw [read]
  by_cases early : details.expirationTimeStamp > request.currentTimestamp
  · simp [refuseWhen, early, bind, Except.bind]
  · simp [refuseWhen, early, bind, Except.bind]

theorem execute_shared : executeHold ethers msg state request =
    (checkExecuteRelations request >>= fun _ =>
      sharedChecks ethers msg state request fun amountBd => do
        checkHoldTarget ethers msg state request
        checkHoldExpiration ethers msg state request false
        let identifier ← holdIdentifier request
        let recipient ← resolvedTarget request
        return ⟨identifier, recipient, ethers.value amountBd⟩) := rfl

theorem release_shared : releaseHold ethers msg state request =
    (checkReleaseRelations request >>= fun _ =>
      sharedChecks ethers msg state request fun amountBd => do
        checkHoldExpiration ethers msg state request false
        let identifier ← holdIdentifier request
        return ⟨identifier, identifier.tokenHolder, ethers.value amountBd⟩) := rfl

/-- An execution is sent for a hold with enough, to an accepted recipient, up to
and with the second in which it expires. -/
theorem execute_ok (laws : Laws ethers) (few : request.coin.decimals ≤ 18)
    (positive : PositiveText request) (safe : request.currentTimestamp < 2 ^ numberBits)
    {call : ContractCall} : executeHold ethers msg state request = .ok call ↔
      checkExecuteRelations request = .ok () ∧
        ∃ amount identifier recipient, Held state request amount identifier ∧
          TargetAccepted request (recordOf state identifier).to_ recipient ∧
          request.currentTimestamp ≤ (recordOf state identifier).expirationTimestamp.toNat ∧
          call = ⟨identifier, recipient, amount⟩ := by
  simp only [execute_shared, bind_ok, shared_checks_ok]
  constructor
  · intro sent
    obtain ⟨_, relations, amountBd, details, passed, _, target, _, inTime, identifier, identified,
      recipient, resolved, same⟩ := sent
    obtain ⟨amount, known, held, reads, is⟩ := held_of_passed laws few positive passed
    obtain rfl := Except.ok.inj (identified.symm.trans held.identified)
    have accepted := (target_accepted_iff passed.read).mp ⟨target, resolved⟩
    rw [reads.destination] at accepted
    have before := (expiration_passed_iff passed.read reads safe).mp inTime
    refine ⟨relations, amount, identifier, recipient, held, accepted, before, ?_⟩
    rw [← is.value]
    exact (Except.ok.inj same).symm
  · intro described
    obtain ⟨relations, amount, identifier, recipient, held, accepted, inTime, rfl⟩ := described
    obtain ⟨amountBd, details, passed, reads, is⟩ := passed_of_held msg laws few positive held
    rw [← reads.destination] at accepted
    obtain ⟨target, resolved⟩ := (target_accepted_iff passed.read).mpr accepted
    refine ⟨(), relations, amountBd, details, passed, (), target, (),
      (expiration_passed_iff passed.read reads safe).mpr inTime, identifier, held.identified,
      recipient, resolved, ?_⟩
    rw [is.value]
    rfl

theorem release_ok (laws : Laws ethers) (few : request.coin.decimals ≤ 18)
    (positive : PositiveText request) (safe : request.currentTimestamp < 2 ^ numberBits)
    {call : ContractCall} : releaseHold ethers msg state request = .ok call ↔
      checkReleaseRelations request = .ok () ∧
        ∃ amount identifier, Held state request amount identifier ∧
          request.currentTimestamp ≤ (recordOf state identifier).expirationTimestamp.toNat ∧
          call = ⟨identifier, identifier.tokenHolder, amount⟩ := by
  simp only [release_shared, bind_ok, shared_checks_ok]
  constructor
  · intro sent
    obtain ⟨_, relations, amountBd, details, passed, _, inTime, identifier, identified, same⟩ := sent
    obtain ⟨amount, known, held, reads, is⟩ := held_of_passed laws few positive passed
    obtain rfl := Except.ok.inj (identified.symm.trans held.identified)
    have before := (expiration_passed_iff passed.read reads safe).mp inTime
    refine ⟨relations, amount, identifier, held, before, ?_⟩
    rw [← is.value]
    exact (Except.ok.inj same).symm
  · intro described
    obtain ⟨relations, amount, identifier, held, inTime, rfl⟩ := described
    obtain ⟨amountBd, details, passed, reads, is⟩ := passed_of_held msg laws few positive held
    refine ⟨(), relations, amountBd, details, passed, (),
      (expiration_passed_iff passed.read reads safe).mpr inTime, identifier, held.identified, ?_⟩
    rw [is.value]
    rfl

end Sent

/-! ## What the handlers refuse on expiration -/

section Refused

variable {fixed world : Type} {ethers : FixedNumbers fixed} {msg : Msg} {state : State world}
  {request : Request fixed} {failure : Failure}

theorem silent_execute_relations : Silent (checkExecuteRelations request) := by
  refine silent_bind (silent_associated _ _ _) fun source => ?_
  cases request.targetId with
  | none => exact silent_status _ _
  | some targetId =>
      exact silent_bind (silent_associated _ _ _) fun _ =>
        silent_bind (silent_status _ _) fun _ => silent_status _ _

/-- A release or an execution refuses on expiration what is past its last
second. -/
theorem expired_error (laws : Laws ethers) (few : request.coin.decimals ≤ 18)
    (positive : PositiveText request) (safe : request.currentTimestamp < 2 ^ numberBits)
    {amountBd : fixed} {details : HoldChecks.HoldDetails fixed} {result : Type}
    {rest : Unit → Checked result} (silent : Silent (rest ())) (onExpiration : OnExpiration failure)
    (passed : Passed ethers msg state request amountBd details)
    (failed : (checkHoldExpiration ethers msg state request false >>= rest) = .error failure) :
    ∃ amountBd amount identifier, Held state request amount identifier ∧
      parsedAmount ethers request.amount request.coin.decimals = .ok amountBd ∧
      ethers.Is amountBd request.coin.decimals amount ∧
      (recordOf state identifier).expirationTimestamp.toNat < request.currentTimestamp := by
  have expired := (bind_error.mp failed).resolve_right fun later =>
    silent failure onExpiration later.choose_spec.2
  obtain ⟨amount, identifier, held, reads, is⟩ := held_of_passed laws few positive passed
  rw [check_expiration_false passed.read, refuse_when_error, not_expired_iff reads safe] at expired
  exact ⟨amountBd, amount, identifier, held, passed.parsed, is, expired.1⟩

theorem execute_error (laws : Laws ethers) (few : request.coin.decimals ≤ 18)
    (positive : PositiveText request) (safe : request.currentTimestamp < 2 ^ numberBits)
    (onExpiration : OnExpiration failure)
    (failed : executeHold ethers msg state request = .error failure) :
    ∃ amountBd amount identifier, Held state request amount identifier ∧
      parsedAmount ethers request.amount request.coin.decimals = .ok amountBd ∧
      ethers.Is amountBd request.coin.decimals amount ∧
      (recordOf state identifier).expirationTimestamp.toNat < request.currentTimestamp := by
  rw [execute_shared] at failed
  obtain ⟨_, _, failed⟩ := error_after silent_execute_relations onExpiration failed
  obtain ⟨amountBd, details, passed, failed⟩ := shared_checks_error onExpiration failed
  obtain ⟨_, _, failed⟩ := error_after silent_target onExpiration failed
  refine expired_error laws few positive safe ?_ onExpiration passed failed
  exact silent_bind silent_identifier fun _ => silent_bind silent_resolved fun _ => silent_ok

theorem release_error (laws : Laws ethers) (few : request.coin.decimals ≤ 18)
    (positive : PositiveText request) (safe : request.currentTimestamp < 2 ^ numberBits)
    (onExpiration : OnExpiration failure)
    (failed : releaseHold ethers msg state request = .error failure) :
    ∃ amountBd amount identifier, Held state request amount identifier ∧
      parsedAmount ethers request.amount request.coin.decimals = .ok amountBd ∧
      ethers.Is amountBd request.coin.decimals amount ∧
      (recordOf state identifier).expirationTimestamp.toNat < request.currentTimestamp := by
  rw [release_shared] at failed
  obtain ⟨_, _, failed⟩ := error_after
    (silent_bind (silent_associated _ _ _) fun _ => silent_status _ _) onExpiration failed
  obtain ⟨amountBd, details, passed, failed⟩ := shared_checks_error onExpiration failed
  refine expired_error laws few positive safe ?_ onExpiration passed failed
  exact silent_bind silent_identifier fun _ => silent_ok

/-! ## Reclaiming -/

theorem encoded_hold_id_ok {holdId : Uint256} (encoded : encodedHoldId request = .ok holdId) :
    request.holdId < 2 ^ numberBits ∧ holdId.toNat = request.holdId := by
  unfold encodedHoldId at encoded
  split at encoded
  · next safe =>
      rw [← Except.ok.inj encoded]
      exact ⟨Nat.lt_of_le_of_lt safe (by decide), rfl⟩
  · cases encoded

theorem live_of_listed {identifier : HoldIdentifier}
    (listed : checkValidHoldId msg state request = .ok ())
    (identified : holdIdentifier request = .ok identifier) : Live state identifier := by
  obtain ⟨tokenHolder, holder, identified⟩ := bind_ok.mp identified
  obtain ⟨holdId, encoded, same⟩ := bind_ok.mp identified
  obtain ⟨safe, exact_⟩ := encoded_hold_id_ok encoded
  obtain ⟨holdIds, given, member⟩ := bind_ok.mp listed
  have known := not_not.mp (refuse_when_ok.mp member)
  obtain ⟨_, _, given⟩ := bind_ok.mp given
  obtain ⟨again, holderAgain, given⟩ := bind_ok.mp given
  obtain rfl := Except.ok.inj (holder.symm.trans holderAgain)
  rw [← Except.ok.inj same]
  split at given
  · next ids _ answered =>
      rw [← Except.ok.inj given] at known
      obtain ⟨id, isId, rounded⟩ := List.mem_map.mp known
      have small : id.toNat < 2 ^ numberBits := by
        rw [← rounded, nearest_lt_iff (by decide) (Nat.le_refl _)] at safe
        exact safe
      rw [nearest_of_lt (by decide) small, ← exact_] at rounded
      rw [← CheckedInt.Uint.ext rounded]
      exact contract_ids_listed answered id isId
  · cases given

theorem reclaim_ok (laws : Laws ethers) (few : request.coin.decimals ≤ 18)
    (safe : request.currentTimestamp < 2 ^ numberBits) {identifier : HoldIdentifier}
    (sent : reclaimHold ethers msg state request = .ok identifier) :
    Live state identifier ∧
      (recordOf state identifier).expirationTimestamp.toNat ≤ request.currentTimestamp := by
  obtain ⟨_, _, sent⟩ := bind_ok.mp sent
  obtain ⟨_, listed, sent⟩ := bind_ok.mp sent
  obtain ⟨_, expired, identified⟩ := bind_ok.mp sent
  have live := live_of_listed listed identified
  have checked := expired
  obtain ⟨details, read, _⟩ := bind_ok.mp checked
  obtain ⟨_, known, same, reads | empty⟩ := get_hold_for_ok laws few read
  · obtain rfl := Except.ok.inj (identified.symm.trans same)
    rw [check_expiration_true read, refuse_when_ok, not_expired_yet_iff reads safe] at expired
    exact ⟨live, Nat.not_lt.mp expired⟩
  · obtain rfl := Except.ok.inj (identified.symm.trans same)
    exact absurd live empty.1

theorem reclaim_error (laws : Laws ethers) (few : request.coin.decimals ≤ 18)
    (safe : request.currentTimestamp < 2 ^ numberBits) (onExpiration : OnExpiration failure)
    (failed : reclaimHold ethers msg state request = .error failure) :
    ∃ identifier, holdIdentifier request = .ok identifier ∧ Live state identifier ∧
      request.currentTimestamp < (recordOf state identifier).expirationTimestamp.toNat := by
  obtain ⟨_, _, failed⟩ := error_after
    (silent_bind (silent_associated _ _ _) fun _ => silent_status _ _) onExpiration failed
  obtain ⟨_, listed, failed⟩ := error_after
    (silent_bind silent_get_holds_id_for fun _ => silent_refuse (by simp [OnExpiration]))
    onExpiration failed
  have early := (bind_error.mp failed).resolve_right fun later =>
    silent_identifier failure onExpiration later.choose_spec.2
  obtain ⟨details, read, _⟩ := error_after silent_get_hold_for onExpiration early
  obtain ⟨_, identifier, identified, reads | empty⟩ := get_hold_for_ok laws few read
  · rw [check_expiration_true read, refuse_when_error, not_expired_yet_iff reads safe] at early
    exact ⟨identifier, identified, reads.live, early.1⟩
  · exact absurd (live_of_listed listed identified) empty.1

end Refused

/-! ## Agreement -/

section Agreement

variable {fixed world : Type} (p : Platform world) (ethers : FixedNumbers fixed) (msg : Msg)
  (state : State world) (request : Request fixed)

/-- What is sent meets the guards of the contract, and what is refused on
expiration the contract refuses so too, whatever the recipient. -/
structure ExecuteAgrees : Prop where
  passes : ∀ call, executeHold ethers msg state request = .ok call →
    ∃ amount : Sint64, amount.toInt = call.amount ∧
      ExecuteGuards msg state call.identifier call.recipient amount
  rejects : ∀ failure, OnExpiration failure →
    executeHold ethers msg state request = .error failure →
    ∃ (identifier : HoldIdentifier) (amountBd : fixed) (amount : Sint64),
      holdIdentifier request = .ok identifier ∧
      parsedAmount ethers request.amount request.coin.decimals = .ok amountBd ∧
      amount.toInt = ethers.value amountBd ∧
      ∀ recipient, HoldManagement.executeHold p identifier recipient amount msg state =
        .error (.holdExpired (recordOf state identifier).expirationTimestamp)

structure ReleaseAgrees : Prop where
  passes : ∀ call, releaseHold ethers msg state request = .ok call →
    ∃ amount : Sint64, amount.toInt = call.amount ∧
      HoldGuards msg state call.identifier amount
  rejects : ∀ failure, OnExpiration failure →
    releaseHold ethers msg state request = .error failure →
    ∃ (identifier : HoldIdentifier) (amountBd : fixed) (amount : Sint64),
      holdIdentifier request = .ok identifier ∧
      parsedAmount ethers request.amount request.coin.decimals = .ok amountBd ∧
      amount.toInt = ethers.value amountBd ∧
      HoldManagement.releaseHold p identifier amount msg state =
        .error (.holdExpired (recordOf state identifier).expirationTimestamp)

structure ReclaimAgrees : Prop where
  passes : ∀ identifier, reclaimHold ethers msg state request = .ok identifier →
    ReclaimGuards msg state identifier
  rejects : ∀ failure, OnExpiration failure →
    reclaimHold ethers msg state request = .error failure →
    ∃ identifier, holdIdentifier request = .ok identifier ∧
      HoldManagement.reclaimHold p identifier msg state =
        .error (.holdNotExpired (recordOf state identifier).expirationTimestamp)

/-- The second in which the hold expires, or no target where the hold asks for
one. -/
structure ExecuteDiverges (amount : Nat) (identifier : HoldIdentifier) (recipient : Address) :
    Prop where
  relations : checkExecuteRelations request = .ok ()
  held : Held state request amount identifier
  target : TargetAccepted request (recordOf state identifier).to_ recipient
  exception :
    (recordOf state identifier).expirationTimestamp.toNat = request.currentTimestamp ∨
      request.currentTimestamp < (recordOf state identifier).expirationTimestamp.toNat ∧
        request.targetId = none

structure ReleaseDiverges (amount : Nat) (identifier : HoldIdentifier) : Prop where
  relations : checkReleaseRelations request = .ok ()
  held : Held state request amount identifier
  lastSecond : (recordOf state identifier).expirationTimestamp.toNat = request.currentTimestamp

/-- What a handler calls expired is so for the contract, and was asked for in an
amount that the contract would take. -/
structure Late (amountBd : fixed) (word : Sint64) (identifier : HoldIdentifier) : Prop where
  identified : holdIdentifier request = .ok identifier
  parsed : parsedAmount ethers request.amount request.coin.decimals = .ok amountBd
  value : word.toInt = ethers.value amountBd
  live : Live state identifier
  positive : 0 < word.toInt
  within : word.toInt ≤ (recordOf state identifier).amount.toInt
  late : (recordOf state identifier).expirationTimestamp.toNat ≤ msg.timestamp.toNat

variable {p ethers msg state request} {amount : Nat} {identifier : HoldIdentifier}

theorem word_of_held (held : Held state request amount identifier) :
    ∃ word : Sint64, word.toInt = amount := by
  have within := held.within
  have upper := (recordOf state identifier).amount.upper
  exact ⟨⟨amount, by omega, by omega⟩, rfl⟩

theorem sender_of_held (same : SameMoment request msg)
    (held : Held state request amount identifier) :
    (recordOf state identifier).escrow = msg.sender :=
  same.caller _ held.escrow

theorem guards_of_held (same : SameMoment request msg)
    (held : Held state request amount identifier) {word : Sint64} (isWord : word.toInt = amount)
    (inTime : request.currentTimestamp <
      (recordOf state identifier).expirationTimestamp.toNat) :
    HoldGuards msg state identifier word := by
  rw [same.clock] at inTime
  exact hold_guards_iff.mpr
    ⟨held.live, by rw [isWord]; exact held.within, inTime, sender_of_held same held⟩

theorem late_of_held (positive : PositiveText request) (same : SameMoment request msg)
    {amountBd : fixed} (held : Held state request amount identifier)
    (parsed : parsedAmount ethers request.amount request.coin.decimals = .ok amountBd)
    (is : ethers.Is amountBd request.coin.decimals amount)
    (late : (recordOf state identifier).expirationTimestamp.toNat < request.currentTimestamp) :
    ∃ word, Late ethers msg state request amountBd word identifier := by
  obtain ⟨word, isWord⟩ := word_of_held held
  obtain ⟨decimal, given⟩ := held.text
  have more := amount_pos_of_text positive given
  have within := held.within
  rw [← isWord] at within
  rw [same.clock] at late
  exact ⟨word, held.identified, parsed, isWord.trans is.value.symm, held.live, by omega, within,
    Nat.le_of_lt late⟩

theorem execute_agrees_iff (laws : Laws ethers) (few : request.coin.decimals ≤ 18)
    (positive : PositiveText request) (same : SameMoment request msg) :
    ExecuteAgrees p ethers msg state request ↔
      ∀ amount identifier recipient,
        ¬ExecuteDiverges state request amount identifier recipient := by
  constructor
  · intro agrees amount identifier recipient diverges
    have exception := diverges.exception
    obtain ⟨word, isAmount, guards⟩ := agrees.passes ⟨identifier, recipient, amount⟩
      ((execute_ok laws few positive same.safe).mpr ⟨diverges.relations, amount, identifier,
        recipient, diverges.held, diverges.target, by omega, rfl⟩)
    have inTime : msg.timestamp.toNat < (recordOf state identifier).expirationTimestamp.toNat :=
      (hold_guards_iff.mp guards.toHoldGuards).2.2.1
    rw [← same.clock] at inTime
    rcases exception with lastSecond | noTarget
    · omega
    · have target := diverges.target
      rw [TargetAccepted, noTarget.2] at target
      exact guards.destination ⟨target.1, by rw [target.2]; exact target.1⟩
  · intro converges
    constructor
    · intro call sent
      obtain ⟨relations, amount, identifier, recipient, held, target, inTime, rfl⟩ :=
        (execute_ok laws few positive same.safe).mp sent
      have notLast : (recordOf state identifier).expirationTimestamp.toNat ≠
          request.currentTimestamp := fun lastSecond =>
        converges amount identifier recipient ⟨relations, held, target, Or.inl lastSecond⟩
      have before : request.currentTimestamp <
          (recordOf state identifier).expirationTimestamp.toNat := by omega
      obtain ⟨word, isWord⟩ := word_of_held held
      refine ⟨word, isWord, guards_of_held same held isWord before, ?_⟩
      cases given : request.targetId with
      | none =>
          exact absurd ⟨relations, held, target, Or.inr ⟨before, given⟩⟩
            (converges amount identifier recipient)
      | some targetId =>
          rw [TargetAccepted, given] at target
          exact fun refused => target.2.elim refused.1 refused.2
    · intro failure onExpiration failed
      obtain ⟨amountBd, amount, identifier, held, parsed, is, late⟩ :=
        execute_error laws few positive same.safe onExpiration failed
      obtain ⟨word, call⟩ := late_of_held positive same held parsed is late
      exact ⟨identifier, amountBd, word, call.identified, call.parsed, call.value, fun _ =>
        contract_execute_expired call.live call.positive call.within call.late⟩

theorem release_agrees_iff (laws : Laws ethers) (few : request.coin.decimals ≤ 18)
    (positive : PositiveText request) (same : SameMoment request msg) :
    ReleaseAgrees p ethers msg state request ↔
      ∀ amount identifier, ¬ReleaseDiverges state request amount identifier := by
  constructor
  · intro agrees amount identifier diverges
    have lastSecond := diverges.lastSecond
    obtain ⟨word, isAmount, guards⟩ := agrees.passes ⟨identifier, identifier.tokenHolder, amount⟩
      ((release_ok laws few positive same.safe).mpr ⟨diverges.relations, amount, identifier,
        diverges.held, by omega, rfl⟩)
    have inTime : msg.timestamp.toNat < (recordOf state identifier).expirationTimestamp.toNat :=
      (hold_guards_iff.mp guards).2.2.1
    rw [← same.clock] at inTime
    omega
  · intro converges
    constructor
    · intro call sent
      obtain ⟨relations, amount, identifier, held, inTime, rfl⟩ :=
        (release_ok laws few positive same.safe).mp sent
      have notLast : (recordOf state identifier).expirationTimestamp.toNat ≠
          request.currentTimestamp := fun lastSecond =>
        converges amount identifier ⟨relations, held, lastSecond⟩
      obtain ⟨word, isWord⟩ := word_of_held held
      exact ⟨word, isWord, guards_of_held same held isWord (by omega)⟩
    · intro failure onExpiration failed
      obtain ⟨amountBd, amount, identifier, held, parsed, is, late⟩ :=
        release_error laws few positive same.safe onExpiration failed
      obtain ⟨word, call⟩ := late_of_held positive same held parsed is late
      exact ⟨identifier, amountBd, word, call.identified, call.parsed, call.value,
        contract_release_expired call.live call.within call.late⟩

theorem reclaim_agrees (laws : Laws ethers) (few : request.coin.decimals ≤ 18)
    (same : SameMoment request msg) : ReclaimAgrees p ethers msg state request := by
  constructor
  · intro identifier sent
    obtain ⟨live, late⟩ := reclaim_ok laws few same.safe sent
    rw [same.clock] at late
    exact ⟨HoldManagement.valid_hold_ok.mpr ⟨live, rfl⟩,
      HoldManagement.expired_ok.mpr ⟨late, rfl⟩⟩
  · intro failure onExpiration failed
    obtain ⟨identifier, identified, live, early⟩ :=
      reclaim_error laws few same.safe onExpiration failed
    rw [same.clock] at early
    exact ⟨identifier, identified, contract_reclaim_not_expired live early⟩

end Agreement

/-- The checks agree with the guards, but for the last second of a hold and for
a hold with a destination that is executed without a target. -/
theorem hold_checks_agree_iff {fixed world : Type} (p : Platform world)
    (ethers : FixedNumbers fixed) (laws : Laws ethers) (msg : Msg) (state : State world)
    (request : Request fixed) (few : request.coin.decimals ≤ 18)
    (positive : PositiveText request) (same : SameMoment request msg) :
    (ExecuteAgrees p ethers msg state request ↔
      ∀ amount identifier recipient,
        ¬ExecuteDiverges state request amount identifier recipient) ∧
    (ReleaseAgrees p ethers msg state request ↔
      ∀ amount identifier, ¬ReleaseDiverges state request amount identifier) ∧
    ReclaimAgrees p ethers msg state request :=
  ⟨execute_agrees_iff laws few positive same, release_agrees_iff laws few positive same,
    reclaim_agrees laws few same⟩

/-! ## Two requests about one hold -/

/-- Account 2 holds 10 of its 100 until 50, with account 3 as the escrow and
account 6 as the destination. -/
def heldState : State Ledger :=
  match HoldManagement.createHold (reference 1) { sampleHold 10 with to_ := 6 } (sampleMsg 2 0)
      (deployed RolesStorage.empty (holderLedger 100)) with
  | .ok (_, state) => state
  | .error _ => deployed RolesStorage.empty (holderLedger 100)

/-- Account 3 asks for 5 of the hold. -/
def sampleRequest (targetId : Option String) (currentTimestamp : Nat) : Request ExactNumber where
  tokenId := "0.0.9"
  sourceId := "0.0.2"
  holdId := 1
  amount := ['5']
  targetId := targetId
  coin :=
    { decimals := 0
      totalSupply := some ⟨100, 0⟩
      maxSupply := some ⟨0, 0⟩
      supplyType := .infinite
      tokenId := some "0.0.9"
      treasury := some "0.0.1"
      proxyAddress := some "0.0.1"
      evmProxyAddress := some "0x01"
      supplyKey := some "0.0.1"
      wipeKey := some "0.0.1" }
  sourceRelation := some ⟨⟨90, 0⟩, .notApplicable, .notApplicable⟩
  targetRelation := some ⟨⟨0, 0⟩, .notApplicable, .notApplicable⟩
  accountRelation := some ⟨⟨0, 0⟩, .notApplicable, .notApplicable⟩
  accountToEvmAddress accountId :=
    if accountId = "0.0.2" then some 2 else if accountId = "0.0.6" then some 6 else none
  errorName _ := none
  caller := some 3
  currentTimestamp := currentTimestamp

def sampleIdentifier : HoldIdentifier := ⟨2, units256 1⟩

theorem sample_positive {targetId : Option String} {currentTimestamp : Nat} :
    PositiveText (sampleRequest targetId currentTimestamp) := by
  intro decimal same
  have five : decimal.text = (DecimalText.ofInteger 5).text := by
    rw [same, DecimalText.text_ofInteger]
    rfl
  rw [DecimalText.units_of_text five, DecimalText.units_ofInteger]
  decide

theorem sample_expiration :
    (recordOf heldState sampleIdentifier).expirationTimestamp.toNat = 50 := by decide +kernel

theorem sample_identified {targetId : Option String} {currentTimestamp : Nat}
    {identifier : HoldIdentifier}
    (identified : holdIdentifier (sampleRequest targetId currentTimestamp) = .ok identifier) :
    identifier = sampleIdentifier :=
  (Except.ok.inj identified).symm

/-- In the second before, all agree. -/
theorem hold_checks_agree_on_samples :
    ExecuteAgrees (reference 1) exactNumbers (sampleMsg 3 49) heldState
        (sampleRequest (some "0.0.6") 49) ∧
      ReleaseAgrees (reference 1) exactNumbers (sampleMsg 3 49) heldState
        (sampleRequest (some "0.0.6") 49) := by
  have moment : SameMoment (sampleRequest (some "0.0.6") 49) (sampleMsg 3 49) :=
    ⟨rfl, by decide, fun caller signs => (Option.some.inj signs).symm⟩
  obtain ⟨execute, release, _⟩ := hold_checks_agree_iff (reference 1) exactNumbers exact_laws
    (sampleMsg 3 49) heldState (sampleRequest (some "0.0.6") 49) (by decide) sample_positive moment
  constructor
  · refine execute.mpr fun amount identifier recipient diverges => ?_
    have exception := diverges.exception
    rw [sample_identified diverges.held.identified, sample_expiration] at exception
    exact exception.elim (fun last => absurd last (by decide)) fun early => nomatch early.2
  · refine release.mpr fun amount identifier diverges => ?_
    have lastSecond := diverges.lastSecond
    rw [sample_identified diverges.held.identified, sample_expiration] at lastSecond
    exact absurd lastSecond (by decide)

/-- In its last second the hold is released for the handler and expired for the
contract; before, without a target, it is executed to the zero address. -/
theorem last_second_refused :
    releaseHold exactNumbers (sampleMsg 3 50) heldState (sampleRequest none 50) =
        .ok ⟨sampleIdentifier, 2, 5⟩ ∧
      ¬ReleaseAgrees (reference 1) exactNumbers (sampleMsg 3 50) heldState
        (sampleRequest none 50) ∧
      executeHold exactNumbers (sampleMsg 3 49) heldState (sampleRequest none 49) =
        .ok ⟨sampleIdentifier, 0, 5⟩ ∧
      ¬ExecuteAgrees (reference 1) exactNumbers (sampleMsg 3 49) heldState
        (sampleRequest none 49) := by
  have released : releaseHold exactNumbers (sampleMsg 3 50) heldState (sampleRequest none 50) =
      .ok ⟨sampleIdentifier, 2, 5⟩ := by decide +kernel
  have executed : executeHold exactNumbers (sampleMsg 3 49) heldState (sampleRequest none 49) =
      .ok ⟨sampleIdentifier, 0, 5⟩ := by decide +kernel
  refine ⟨released, fun agrees => ?_, executed, fun agrees => ?_⟩
  · obtain ⟨_, _, guards⟩ := agrees.passes _ released
    have inTime : 50 < (recordOf heldState sampleIdentifier).expirationTimestamp.toNat :=
      (hold_guards_iff.mp guards).2.2.1
    rw [sample_expiration] at inTime
    exact absurd inTime (by decide)
  · obtain ⟨_, _, guards⟩ := agrees.passes _ executed
    have destination : (recordOf heldState sampleIdentifier).to_ = 6 := by decide +kernel
    have refused := guards.destination
    simp only [destination] at refused
    exact refused (by decide)

end StablecoinStudio.Sdk.HoldAgreement
