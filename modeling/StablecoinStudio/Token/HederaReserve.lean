import StablecoinStudio.Core.Constants
import Mathlib.Logic.Function.Basic

/-!
# The example reserve

`HederaReserveFacet.sol` and `HederaReserveStorageWrapper.sol`: a price feed
whose administrator sets the amount. It answers with the current amount and a
time of its own, ten seconds before the block.
-/

namespace StablecoinStudio.Token.HederaReserve

open StablecoinStudio.Core.Common
open StablecoinStudio.Foundation.CheckedInt
open StablecoinStudio.Foundation.Transaction

set_option autoImplicit false

def hederaReserveResolverKey : Bytes32 :=
  0x4d643a5d89820c8022463999841f258da664811d5988318b8ce368f829e28b03

structure HederaReserveDataStorage where
  reserveAmount : Sint256
  admin : Address

/-- The storage of a reserve proxy that the facet uses. -/
structure ReserveState where
  initialized : Bytes32 → Bool
  hederaReserve : HederaReserveDataStorage

inductive ReserveRevert where
  | common (failure : Revert)
  | onlyAdmin (account : Address)
  | notImplemented
deriving DecidableEq

abbrev ReserveTx := Tx Msg ReserveState ReserveRevert

structure RoundData where
  roundId : Uint 80
  answer : Sint256
  startedAt : Uint256
  updatedAt : Uint256
  answeredInRound : Uint 80

namespace HederaReserveFacet

def isAdmin (addr : Address) : ReserveTx Unit := do
  let msg ← Tx.read
  Tx.require (addr = msg.sender) (.onlyAdmin msg.sender)

def addressIsNotZero (addr : Address) : ReserveTx Unit :=
  Tx.require (addr ≠ 0) (.common (.addressZero addr))

def initialize_ (initialReserve : Sint256) (admin : Address) : ReserveTx Unit := do
  let state ← Tx.get
  Tx.require (state.initialized hederaReserveResolverKey = false)
    (.common (.contractIsAlreadyInitialized hederaReserveResolverKey))
  addressIsNotZero admin
  Tx.modify fun state => { state with hederaReserve := ⟨initialReserve, admin⟩ }
  Tx.modify fun state =>
    { state with
      initialized := Function.update state.initialized hederaReserveResolverKey true }

def setAmount (newValue : Sint256) : ReserveTx Unit := do
  let state ← Tx.get
  isAdmin state.hederaReserve.admin
  Tx.modify fun state =>
    { state with hederaReserve := { state.hederaReserve with reserveAmount := newValue } }

def setAdmin (admin : Address) : ReserveTx Unit := do
  let state ← Tx.get
  isAdmin state.hederaReserve.admin
  addressIsNotZero admin
  Tx.modify fun state => { state with hederaReserve := { state.hederaReserve with admin := admin } }

theorem decimals_in_range : 2 < 2 ^ 8 := by decide

def decimals : Uint8 := ⟨2, decimals_in_range⟩

def getRoundData (_ : Uint 80) : ReserveTx RoundData := Tx.revert .notImplemented

def latestRoundData : ReserveTx RoundData := do
  let state ← Tx.get
  let msg ← Tx.read
  let time : Uint256 ← Tx.ofOption (.common (.panic .arithmetic))
    (Uint.checked (msg.timestamp.toNat - 10))
  return {
    roundId := 0
    answer := state.hederaReserve.reserveAmount
    startedAt := time
    updatedAt := time
    answeredInRound := 0
  }

end HederaReserveFacet

inductive ReserveCall where
  | initialize_ (initialReserve : Sint256) (admin : Address)
  | setAmount (newValue : Sint256)
  | setAdmin (admin : Address)

def ReserveCall.perform : ReserveCall → ReserveTx Unit
  | initialize_ initialReserve admin => HederaReserveFacet.initialize_ initialReserve admin
  | setAmount newValue => HederaReserveFacet.setAmount newValue
  | setAdmin admin => HederaReserveFacet.setAdmin admin

/-- A call that reverts leaves the reserve as it was. -/
def nextReserve (state : ReserveState) (taken : Msg × ReserveCall) : ReserveState :=
  match taken.2.perform taken.1 state with
  | .ok (_, later) => later
  | .error _ => state

variable {msg : Msg} {before after : ReserveState} {result : Unit}

namespace HederaReserveFacet

@[simp] theorem is_admin_ok {addr : Address} :
    isAdmin addr msg before = .ok (result, after) ↔ addr = msg.sender ∧ before = after := by
  simp [isAdmin, and_comm]

theorem initialize_ok {initialReserve : Sint256} {admin : Address} :
    initialize_ initialReserve admin msg before = .ok (result, after) ↔
      before.initialized hederaReserveResolverKey = false ∧ admin ≠ 0 ∧
        after = ⟨Function.update before.initialized hederaReserveResolverKey true,
          ⟨initialReserve, admin⟩⟩ := by
  simp only [initialize_, addressIsNotZero, Tx.bind_ok, Tx.get_ok, Tx.require_ok, Tx.modify_ok]
  constructor
  · intro committed
    obtain ⟨_, _, ⟨rfl, rfl⟩, _, _, ⟨first, rfl⟩, _, _, ⟨isSet, rfl⟩, _, _, rfl, rfl⟩ := committed
    exact ⟨first, isSet, rfl⟩
  · intro described
    obtain ⟨first, isSet, rfl⟩ := described
    exact ⟨_, _, ⟨rfl, rfl⟩, (), _, ⟨first, rfl⟩, (), _, ⟨isSet, rfl⟩, (), _, rfl, rfl⟩

theorem set_amount_ok {newValue : Sint256} :
    setAmount newValue msg before = .ok (result, after) ↔
      before.hederaReserve.admin = msg.sender ∧
        after = { before with
          hederaReserve := { before.hederaReserve with reserveAmount := newValue } } := by
  simp only [setAmount, Tx.bind_ok, Tx.get_ok, is_admin_ok, Tx.modify_ok]
  constructor
  · intro committed
    obtain ⟨_, _, ⟨rfl, rfl⟩, _, _, ⟨admin, rfl⟩, rfl⟩ := committed
    exact ⟨admin, rfl⟩
  · intro described
    obtain ⟨admin, rfl⟩ := described
    exact ⟨_, _, ⟨rfl, rfl⟩, (), _, ⟨admin, rfl⟩, rfl⟩

theorem set_admin_ok {admin : Address} :
    setAdmin admin msg before = .ok (result, after) ↔
      before.hederaReserve.admin = msg.sender ∧ admin ≠ 0 ∧
        after = { before with
          hederaReserve := { before.hederaReserve with admin := admin } } := by
  simp only [setAdmin, addressIsNotZero, Tx.bind_ok, Tx.get_ok, is_admin_ok, Tx.require_ok,
    Tx.modify_ok]
  constructor
  · intro committed
    obtain ⟨_, _, ⟨rfl, rfl⟩, _, _, ⟨current, rfl⟩, _, _, ⟨isSet, rfl⟩, rfl⟩ := committed
    exact ⟨current, isSet, rfl⟩
  · intro described
    obtain ⟨current, isSet, rfl⟩ := described
    exact ⟨_, _, ⟨rfl, rfl⟩, (), _, ⟨current, rfl⟩, (), _, ⟨isSet, rfl⟩, rfl⟩

theorem latest_round_data_ok {round : RoundData} :
    latestRoundData msg before = .ok (round, after) ↔
      (∃ time : Uint256, time.toNat + 10 = msg.timestamp.toNat ∧
        round = ⟨0, before.hederaReserve.reserveAmount, time, time, 0⟩) ∧ before = after := by
  simp only [latestRoundData, Tx.bind_ok, Tx.get_ok, Tx.read_ok, Tx.of_option_ok,
    Uint.checked_eq_some, Tx.pure_ok]
  constructor
  · intro committed
    obtain ⟨_, _, ⟨rfl, rfl⟩, _, _, ⟨rfl, rfl⟩, time, _, ⟨past, rfl⟩, rfl, rfl⟩ := committed
    exact ⟨⟨time, by omega, rfl⟩, rfl⟩
  · intro described
    obtain ⟨⟨time, past, rfl⟩, rfl⟩ := described
    exact ⟨_, _, ⟨rfl, rfl⟩, _, _, ⟨rfl, rfl⟩, time, _, ⟨by omega, rfl⟩, rfl, rfl⟩

end HederaReserveFacet

/-! ## What a call does -/

theorem next_reserve_of_committed {called : ReserveCall}
    (committed : called.perform msg before = .ok ((), after)) :
    nextReserve before (msg, called) = after := by
  simp only [nextReserve, committed]

theorem next_reserve_of_refused {called : ReserveCall}
    (refused : ∀ after, called.perform msg before ≠ .ok ((), after)) :
    nextReserve before (msg, called) = before := by
  cases outcome : called.perform msg before with
  | error failure => simp only [nextReserve, outcome]
  | ok pair => exact (refused pair.2 outcome).elim

theorem next_initialization (state : ReserveState) (msg : Msg) (initialReserve : Sint256)
    (admin : Address) :
    nextReserve state (msg, .initialize_ initialReserve admin) =
      if state.initialized hederaReserveResolverKey = false ∧ admin ≠ 0 then
        ⟨Function.update state.initialized hederaReserveResolverKey true, ⟨initialReserve, admin⟩⟩
      else state := by
  split
  · next met =>
      exact next_reserve_of_committed
        (HederaReserveFacet.initialize_ok.mpr ⟨met.1, met.2, rfl⟩)
  · next unmet =>
      apply next_reserve_of_refused
      intro after committed
      obtain ⟨first, isSet, _⟩ := HederaReserveFacet.initialize_ok.mp committed
      exact unmet ⟨first, isSet⟩

theorem next_set_amount (state : ReserveState) (msg : Msg) (newValue : Sint256) :
    nextReserve state (msg, .setAmount newValue) =
      if state.hederaReserve.admin = msg.sender then
        { state with hederaReserve := { state.hederaReserve with reserveAmount := newValue } }
      else state := by
  split
  · next met =>
      exact next_reserve_of_committed (HederaReserveFacet.set_amount_ok.mpr ⟨met, rfl⟩)
  · next unmet =>
      apply next_reserve_of_refused
      intro after committed
      exact unmet (HederaReserveFacet.set_amount_ok.mp committed).1

theorem next_set_admin (state : ReserveState) (msg : Msg) (admin : Address) :
    nextReserve state (msg, .setAdmin admin) =
      if state.hederaReserve.admin = msg.sender ∧ admin ≠ 0 then
        { state with hederaReserve := { state.hederaReserve with admin := admin } }
      else state := by
  split
  · next met =>
      exact next_reserve_of_committed
        (HederaReserveFacet.set_admin_ok.mpr ⟨met.1, met.2, rfl⟩)
  · next unmet =>
      apply next_reserve_of_refused
      intro after committed
      obtain ⟨current, isSet, _⟩ := HederaReserveFacet.set_admin_ok.mp committed
      exact unmet ⟨current, isSet⟩

/-- A call of anybody else leaves an initialized reserve as it is. -/
theorem next_reserve_of_stranger (state : ReserveState) (taken : Msg × ReserveCall)
    (initialized : state.initialized hederaReserveResolverKey = true)
    (stranger : taken.1.sender ≠ state.hederaReserve.admin) : nextReserve state taken = state := by
  obtain ⟨msg, called⟩ := taken
  cases called with
  | initialize_ initialReserve admin =>
      rw [next_initialization, if_neg]
      intro met
      rw [initialized] at met
      cases met.1
  | setAmount newValue =>
      rw [next_set_amount, if_neg]
      exact fun admin => stranger admin.symm
  | setAdmin admin =>
      rw [next_set_admin, if_neg]
      exact fun met => stranger met.1.symm

end StablecoinStudio.Token.HederaReserve
