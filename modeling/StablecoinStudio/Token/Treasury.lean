import StablecoinStudio.Token.HoldManagement
import StablecoinStudio.Token.SupplierAdmin

/-!
# Minting, burning, wiping and rescuing

`CashInFacet.sol`, `BurnableFacet.sol`, `WipeableFacet.sol` and
`RescuableFacet.sol`: the proxy is the treasury of its token, so these are the
operations that create, destroy and move what it holds.
-/

namespace StablecoinStudio.Token.Treasury

open StablecoinStudio.Core.Common
open StablecoinStudio.Core.Constants
open StablecoinStudio.Foundation.CheckedInt
open StablecoinStudio.Foundation.Transaction
open StablecoinStudio.Token.ProxyState
open StablecoinStudio.Token.Reserve
open StablecoinStudio.Token.Roles
open StablecoinStudio.Token.Services
open StablecoinStudio.Token.SupplierAdmin

set_option autoImplicit false

variable {world : Type} (p : Platform world)

namespace CashInFacet

/-- What a mint of a supplier with a limited allowance takes from it. -/
def spendAllowance (amount : Sint64) : FacetTx world Unit := do
  let msg ← Tx.read
  let state ← Tx.get
  if state.supplierAdmin.unlimitedSupplierAllowances msg.sender then pure ()
  else
    let spent ← toUint256 amount.toInt
    SupplierAdminStorageWrapper.decreaseSupplierAllowance msg.sender spent

def mint (account : Address) (amount : Sint64) : FacetTx world Bool := do
  RolesStorageWrapper.onlyRole cashinRole
  let units ← toUint256 amount.toInt
  ReserveStorageWrapper.checkReserveIncrease p units
  addressIsNotZero account
  greaterThanZero amount.toInt
  spendAllowance amount
  let balance ← TokenOwnerStorageWrapper.balanceOf p p.proxy
  let result ← TokenOwnerStorageWrapper.checkedService fun token => p.mintToken token amount
  let minted ← TokenOwnerStorageWrapper.balanceOf p p.proxy
  let difference : Uint256 ← arithmetic (Uint.checked (minted.toNat - balance.toNat))
  let expected ← toUint256 amount.toInt
  Tx.require (difference = expected) .theSmartContractIsNotTheTreasuryAccount
  TokenOwnerStorageWrapper.transfer p account amount
  return result

end CashInFacet

namespace BurnableFacet

def getBurnableAmount : FacetTx world Sint64 := do
  let balance ← TokenOwnerStorageWrapper.balanceOf p p.proxy
  let wide ← toInt256 balance
  let narrow ← toInt64 wide
  let state ← Tx.get
  arithmetic (Sint.checked (narrow.toInt - state.holds.totalHeldAmount.toInt))

def checkBurnAmount (amount : Sint64) : FacetTx world Unit := do
  let burnableAmount ← getBurnableAmount p
  Tx.require (amount.toInt ≤ burnableAmount.toInt) (.burnableAmountExceeded burnableAmount)

def burn (amount : Sint64) : FacetTx world Bool := do
  RolesStorageWrapper.onlyRole burnRole
  greaterThanZero amount.toInt
  checkBurnAmount p amount
  TokenOwnerStorageWrapper.checkedService fun token => p.burnToken token amount

end BurnableFacet

namespace WipeableFacet

def wipe (account : Address) (amount : Sint64) : FacetTx world Bool := do
  RolesStorageWrapper.onlyRole wipeRole
  addressIsNotZero account
  greaterThanZero amount.toInt
  let units ← toUint256 amount.toInt
  let balance ← TokenOwnerStorageWrapper.balanceOf p account
  notGreaterThan units.toNat balance.toNat
  TokenOwnerStorageWrapper.checkedService fun token => p.wipeTokenAccount token account amount

end WipeableFacet

/-- A plain HBAR transfer with the error of its failure. -/
def sendHbar (recipient : Address) (amount : Uint256) (failure : Revert) : FacetTx world Unit := do
  let state ← Tx.get
  let later ← Tx.ofOption failure (p.sendValue recipient amount state)
  Tx.modify fun _ => later

namespace RescuableFacet

def rescue (amount : Sint64) : FacetTx world Bool := do
  RolesStorageWrapper.onlyRole rescueRole
  greaterThanZero amount.toInt
  let units ← toUint256 amount.toInt
  let balance ← TokenOwnerStorageWrapper.balanceOf p p.proxy
  notGreaterThan units.toNat balance.toNat
  let msg ← Tx.read
  TokenOwnerStorageWrapper.checkedService fun token =>
    p.transferToken token p.proxy msg.sender amount

def nonReentrant {value : Type} (body : FacetTx world value) : FacetTx world value := do
  let state ← Tx.get
  Tx.require (state.reentrancyGuardEntered = false) .reentrancyGuardReentrantCall
  Tx.modify fun state => { state with reentrancyGuardEntered := true }
  let result ← body
  Tx.modify fun state => { state with reentrancyGuardEntered := false }
  return result

def rescueHBAR (amount : Uint256) : FacetTx world Bool := do
  RolesStorageWrapper.onlyRole rescueRole
  let state ← Tx.get
  notGreaterThan amount.toNat (p.hbarBalance state.world).toNat
  nonReentrant do
    let msg ← Tx.read
    sendHbar p msg.sender amount (.hbarRescueError amount)
    return true

end RescuableFacet

/-! ## What committed calls do -/

section Committed

variable {p} {environment : Msg} {before after : State world}

/-- The allowance of the caller after a mint of `units`. -/
def Spending (supplier : Address) (units : Nat) (before after : SupplierAdminStorage) : Prop :=
  (before.unlimitedSupplierAllowances supplier = true ∧ after = before) ∨
    (before.unlimitedSupplierAllowances supplier = false ∧
      ∃ newAllowance : Uint256,
        newAllowance.toNat + units = (before.supplierAllowances supplier).toNat ∧
        after = SupplierAdminStorage.setAllowance before supplier newAllowance)

theorem spend_allowance_ok {amount : Sint64} {result : Unit}
    (committed : CashInFacet.spendAllowance amount environment before = .ok (result, after)) :
    Spending environment.sender amount.toInt.toNat before.supplierAdmin after.supplierAdmin ∧
      after = { before with supplierAdmin := after.supplierAdmin } := by
  simp only [CashInFacet.spendAllowance, Tx.bind_ok, Tx.read_ok, Tx.get_ok] at committed
  obtain ⟨_, _, ⟨rfl, rfl⟩, _, _, ⟨rfl, rfl⟩, committed⟩ := committed
  by_cases unlimited : before.supplierAdmin.unlimitedSupplierAllowances environment.sender
  · simp only [unlimited, if_true, Tx.pure_ok] at committed
    obtain ⟨_, rfl⟩ := committed
    exact ⟨Or.inl ⟨unlimited, rfl⟩, rfl⟩
  · simp only [unlimited, Bool.false_eq_true, if_false, Tx.bind_ok, Tx.of_option_ok,
      Uint.checked_eq_some, SupplierAdminStorageWrapper.decrease_supplier_allowance_ok] at committed
    obtain ⟨spent, _, ⟨exact_, rfl⟩, newAllowance, sum, rfl⟩ := committed
    have limited : before.supplierAdmin.unlimitedSupplierAllowances environment.sender = false :=
      Bool.eq_false_iff.mpr unlimited
    have same : amount.toInt.toNat = spent.toNat := by omega
    refine ⟨Or.inr ⟨limited, newAllowance, ?_, rfl⟩, rfl⟩
    rw [same]
    exact sum

structure Minting (p : Platform world) (environment : Msg) (account : Address) (amount : Sint64)
    (before after : State world) : Prop where
  role : RolesStorage.hasRole before.roles cashinRole environment.sender = true
  recipient : account ≠ 0
  positive : 0 < amount.toInt
  covered : ∃ units : Uint256, (units.toNat : Int) = amount.toInt ∧
    ReserveStorageWrapper.checkReserveAmount p units environment before = .ok (true, before)
  spending : Spending environment.sender amount.toInt.toNat before.supplierAdmin
    after.supplierAdmin
  tokens : ∃ minted, p.mintToken before.tokenAddress amount before.world = (success, minted) ∧
    (p.balanceOf before.tokenAddress p.proxy minted).toNat =
      (p.balanceOf before.tokenAddress p.proxy before.world).toNat + amount.toInt.toNat ∧
    ((account = p.proxy ∧ after.world = minted) ∨
      (account ≠ p.proxy ∧
        p.transferToken before.tokenAddress p.proxy account amount minted =
          (success, after.world)))
  frame : after = { before with supplierAdmin := after.supplierAdmin, world := after.world }

theorem mint_ok {account : Address} {amount : Sint64} {result : Bool}
    (committed : CashInFacet.mint p account amount environment before = .ok (result, after)) :
    result = true ∧ Minting p environment account amount before after := by
  simp only [CashInFacet.mint, Tx.bind_ok, RolesStorageWrapper.only_role_ok, Tx.of_option_ok,
    Uint.checked_eq_some, ReserveStorageWrapper.check_reserve_increase_ok, Tx.require_ok,
    TokenOwnerStorageWrapper.balance_of_ok, TokenOwnerStorageWrapper.checked_service_ok,
    TokenOwnerStorageWrapper.transfer_ok, Tx.pure_ok, and_assoc, exists_and_left, exists_eq_left',
    exists_const] at committed
  obtain ⟨role, units, value, covered, isSet, positive, _, spent, spending, _, minted, mint,
    mintFrame, rfl, difference, gain, expected, wanted, treasury, settled, transferred, rfl, rfl⟩ :=
    committed
  obtain ⟨spending, spendFrame⟩ := spend_allowance_ok spending
  subst treasury
  have sameToken : spent.tokenAddress = before.tokenAddress := by rw [spendFrame]
  have mintedToken : minted.tokenAddress = before.tokenAddress := by rw [mintFrame, sameToken]
  have sameWorld : spent.world = before.world := by rw [spendFrame]
  have laterFrame : settled = { minted with world := settled.world } := by
    obtain ⟨_, rfl⟩ | ⟨_, _, frame⟩ := transferred
    · rfl
    · exact frame
  rw [sameToken, sameWorld] at mint gain
  rw [mintedToken] at gain transferred
  have credited : (p.balanceOf before.tokenAddress p.proxy minted.world).toNat =
      (p.balanceOf before.tokenAddress p.proxy before.world).toNat + amount.toInt.toNat := by
    omega
  have mintedAdmin : minted.supplierAdmin = spent.supplierAdmin := by rw [mintFrame]
  have laterAdmin : settled.supplierAdmin = spent.supplierAdmin := by
    rw [laterFrame]
    exact mintedAdmin
  refine ⟨rfl, role, isSet, positive, ⟨units, value, covered⟩, ?_, ⟨minted.world, mint, credited, ?_⟩,
    ?_⟩
  · rw [laterAdmin]
    exact spending
  · obtain ⟨own, rfl⟩ | ⟨other, paid, _⟩ := transferred
    · exact Or.inl ⟨own, rfl⟩
    · exact Or.inr ⟨other, paid⟩
  · rw [laterAdmin]
    rw [laterFrame, mintFrame, spendFrame]

structure Burning (p : Platform world) (environment : Msg) (amount : Sint64)
    (before after : State world) : Prop where
  role : RolesStorage.hasRole before.roles burnRole environment.sender = true
  positive : 0 < amount.toInt
  burnable : amount.toInt ≤
    (p.balanceOf before.tokenAddress p.proxy before.world).toNat -
      before.holds.totalHeldAmount.toInt
  tokens : p.burnToken before.tokenAddress amount before.world = (success, after.world)
  frame : after = { before with world := after.world }

theorem burn_ok {amount : Sint64} {result : Bool}
    (committed : BurnableFacet.burn p amount environment before = .ok (result, after)) :
    result = true ∧ Burning p environment amount before after := by
  simp only [BurnableFacet.burn, BurnableFacet.checkBurnAmount, BurnableFacet.getBurnableAmount,
    Tx.bind_ok, RolesStorageWrapper.only_role_ok, Tx.require_ok, Tx.of_option_ok, Tx.get_ok,
    Sint.checked_eq_some, TokenOwnerStorageWrapper.balance_of_ok,
    TokenOwnerStorageWrapper.checked_service_ok] at committed
  obtain ⟨_, _, ⟨role, rfl⟩, _, _, ⟨positive, rfl⟩, _, _, ⟨burnableAmount, _, ⟨_, _, ⟨rfl, rfl⟩,
    wide, _, ⟨widened, rfl⟩, narrow, _, ⟨narrowed, rfl⟩, _, _, ⟨rfl, rfl⟩, difference, rfl⟩,
    within, rfl⟩, tokens, frame, answer⟩ := committed
  exact ⟨answer, role, positive, by omega, tokens, frame⟩

structure Wiping (p : Platform world) (environment : Msg) (account : Address) (amount : Sint64)
    (before after : State world) : Prop where
  role : RolesStorage.hasRole before.roles wipeRole environment.sender = true
  wiped : account ≠ 0
  positive : 0 < amount.toInt
  owned : amount.toInt ≤ (p.balanceOf before.tokenAddress account before.world).toNat
  tokens : p.wipeTokenAccount before.tokenAddress account amount before.world =
    (success, after.world)
  frame : after = { before with world := after.world }

theorem wipe_ok {account : Address} {amount : Sint64} {result : Bool}
    (committed : WipeableFacet.wipe p account amount environment before = .ok (result, after)) :
    result = true ∧ Wiping p environment account amount before after := by
  simp only [WipeableFacet.wipe, Tx.bind_ok, RolesStorageWrapper.only_role_ok, Tx.require_ok,
    Tx.of_option_ok, Uint.checked_eq_some, TokenOwnerStorageWrapper.balance_of_ok,
    TokenOwnerStorageWrapper.checked_service_ok] at committed
  obtain ⟨_, _, ⟨role, rfl⟩, _, _, ⟨isSet, rfl⟩, _, _, ⟨positive, rfl⟩, units, _, ⟨value, rfl⟩,
    _, _, ⟨rfl, rfl⟩, _, _, ⟨within, rfl⟩, tokens, frame, answer⟩ := committed
  exact ⟨answer, role, isSet, positive, by omega, tokens, frame⟩

/-- What a committed rescue did: the holds are not asked. -/
structure Rescuing (p : Platform world) (environment : Msg) (amount : Sint64)
    (before after : State world) : Prop where
  role : RolesStorage.hasRole before.roles rescueRole environment.sender = true
  positive : 0 < amount.toInt
  owned : amount.toInt ≤ (p.balanceOf before.tokenAddress p.proxy before.world).toNat
  tokens : p.transferToken before.tokenAddress p.proxy environment.sender amount before.world =
    (success, after.world)
  frame : after = { before with world := after.world }

theorem rescue_ok {amount : Sint64} {result : Bool}
    (committed : RescuableFacet.rescue p amount environment before = .ok (result, after)) :
    result = true ∧ Rescuing p environment amount before after := by
  simp only [RescuableFacet.rescue, Tx.bind_ok, RolesStorageWrapper.only_role_ok, Tx.require_ok,
    Tx.of_option_ok, Uint.checked_eq_some, TokenOwnerStorageWrapper.balance_of_ok, Tx.read_ok,
    TokenOwnerStorageWrapper.checked_service_ok] at committed
  obtain ⟨_, _, ⟨role, rfl⟩, _, _, ⟨positive, rfl⟩, units, _, ⟨value, rfl⟩, _, _, ⟨rfl, rfl⟩,
    _, _, ⟨within, rfl⟩, _, _, ⟨rfl, rfl⟩, tokens, frame, answer⟩ := committed
  exact ⟨answer, role, positive, by omega, tokens, frame⟩

structure RescuingHBAR (p : Platform world) (environment : Msg) (amount : Uint256)
    (before after : State world) : Prop where
  role : RolesStorage.hasRole before.roles rescueRole environment.sender = true
  idle : before.reentrancyGuardEntered = false
  sent : ∃ inside,
    p.sendValue environment.sender amount { before with reentrancyGuardEntered := true } =
        some inside ∧
      after = { inside with reentrancyGuardEntered := false }

theorem rescue_hbar_ok {amount : Uint256} {result : Bool}
    (committed : RescuableFacet.rescueHBAR p amount environment before = .ok (result, after)) :
    RescuingHBAR p environment amount before after := by
  simp only [RescuableFacet.rescueHBAR, RescuableFacet.nonReentrant, sendHbar, Tx.bind_ok,
    RolesStorageWrapper.only_role_ok, Tx.get_ok, Tx.require_ok, Tx.modify_ok, Tx.read_ok,
    Tx.of_option_ok, Tx.pure_ok, and_assoc, exists_and_left, exists_eq_left',
    exists_const] at committed
  obtain ⟨role, _, idle, _, inside, ⟨_, ⟨_, sent, rfl⟩, _, rfl⟩, _, left⟩ := committed
  exact ⟨role, idle, _, sent, left.symm⟩

/-- The receiver of an HBAR transfer neither calls back nor moves tokens. -/
structure QuietReceiver (p : Platform world) (recipient : Address) : Prop where
  frame : ∀ {amount asked answered}, p.sendValue recipient amount asked = some answered →
    answered = { asked with world := answered.world }
  balances : ∀ {amount asked answered}, p.sendValue recipient amount asked = some answered →
    ∀ token account, p.balanceOf token account answered.world =
      p.balanceOf token account asked.world
  supply : ∀ {amount asked answered}, p.sendValue recipient amount asked = some answered →
    ∀ token, p.totalSupply token answered.world = p.totalSupply token asked.world

theorem RescuingHBAR.frame {amount : Uint256} (done : RescuingHBAR p environment amount before after)
    (quiet : QuietReceiver p environment.sender) : after = { before with world := after.world } := by
  obtain ⟨inside, sent, rfl⟩ := done.sent
  rw [quiet.frame sent, ← done.idle]

end Committed

end StablecoinStudio.Token.Treasury
