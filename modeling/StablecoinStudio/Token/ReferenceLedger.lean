import StablecoinStudio.Token.System
import StablecoinStudio.Token.TokenLaws

/-!
# A reference token service

A token service that keeps balances and a supply in machine integers, refuses
what is negative, not covered or out of range, and accepts everything else. It
meets the laws, so results that assume them speak about something.
-/

namespace StablecoinStudio.Token.ReferenceLedger

open StablecoinStudio.Core.Common
open StablecoinStudio.Foundation.CheckedInt
open StablecoinStudio.Token.ProxyState
open StablecoinStudio.Token.Services
open StablecoinStudio.Token.System
open StablecoinStudio.Token.TokenLaws

set_option autoImplicit false

structure Ledger where
  balances : Address → Uint256
  supply : Uint256
  tokenDecimals : Uint8 := 0
  round : Option (Sint256 × Uint256) := none
  roundDecimals : Uint8 := 0

/-- `INVALID_TRANSACTION`, for every refusal. -/
def refused : Sint64 := ⟨1, by decide, by decide⟩

namespace Ledger

def addBalance (ledger : Ledger) (account : Address) (amount : Int) : Option Ledger :=
  (Uint.checked ((ledger.balances account).toNat + amount)).map fun balance =>
    { ledger with balances := Function.update ledger.balances account balance }

def addSupply (ledger : Ledger) (amount : Int) : Option Ledger :=
  (Uint.checked (ledger.supply.toNat + amount)).map fun supply => { ledger with supply := supply }

/-- Refuses a negative amount and whatever the update refuses. -/
def answer (ledger : Ledger) (amount : Sint64) (update : Option Ledger) : Sint64 × Ledger :=
  match update with
  | some later => if 0 ≤ amount.toInt then (success, later) else (refused, ledger)
  | none => (refused, ledger)

def issue (treasury : Address) (amount : Sint64) (ledger : Ledger) : Sint64 × Ledger :=
  ledger.answer amount ((ledger.addBalance treasury amount.toInt).bind (·.addSupply amount.toInt))

def destroy (account : Address) (amount : Sint64) (ledger : Ledger) : Sint64 × Ledger :=
  ledger.answer amount
    ((ledger.addBalance account (-amount.toInt)).bind (·.addSupply (-amount.toInt)))

def move (sender recipient : Address) (amount : Sint64) (ledger : Ledger) : Sint64 × Ledger :=
  ledger.answer amount
    ((ledger.addBalance sender (-amount.toInt)).bind (·.addBalance recipient amount.toInt))

end Ledger

def reference (proxy : Address) : Platform Ledger where
  proxy := proxy
  mintToken _ amount := Ledger.issue proxy amount
  burnToken _ amount := Ledger.destroy proxy amount
  wipeTokenAccount _ account amount := Ledger.destroy account amount
  transferToken _ sender recipient amount := Ledger.move sender recipient amount
  getTokenKey _ _ _ := success
  getTokenInfo _ _ := (success, {})
  administer _ ledger := (success, ledger)
  createFungibleToken _ _ _ _ ledger := ((success, 0), ledger)
  balanceOf _ account ledger := ledger.balances account
  totalSupply _ ledger := ledger.supply
  decimals _ ledger := ledger.tokenDecimals
  tokenName _ _ := ""
  tokenSymbol _ _ := ""
  latestRoundData _ ledger := ledger.round
  feedDecimals _ ledger := some ledger.roundDecimals
  configurationRegistered _ _ _ _ := true
  hbarBalance _ := 0
  sendValue _ _ state := some state

/-- A proxy at address 1 right after its initialization, with the roles and the
ledger given; account 2 is a holder and account 3 an escrow in the runs on it. -/
def deployed (roles : RolesStorage) (ledger : Ledger) : State Ledger where
  initialized _ := true
  tokenAddress := 7
  metadata := ""
  roles := roles
  supplierAdmin := SupplierAdminStorage.empty
  reserve := ⟨0, 0⟩
  holds := HoldDataStorage.empty
  resolverProxy := ⟨5, 6, 0⟩
  reentrancyGuardEntered := false
  world := ledger

/-- The same proxy before its initialization. -/
def blank (ledger : Ledger) : State Ledger where
  initialized _ := false
  tokenAddress := 0
  metadata := ""
  roles := RolesStorage.empty
  supplierAdmin := SupplierAdminStorage.empty
  reserve := ⟨0, 0⟩
  holds := HoldDataStorage.empty
  resolverProxy := ⟨5, 6, 0⟩
  reentrancyGuardEntered := false
  world := ledger

instance nonzeroWords63 : NeZero (2 ^ 63) := ⟨by decide⟩

instance nonzeroWords256 : NeZero (2 ^ 256) := ⟨by decide⟩

def units64 (amount : Fin (2 ^ 63)) : Sint64 := ⟨amount, by omega, by omega⟩

def units256 (amount : Fin (2 ^ 256)) : Uint256 := ⟨amount, amount.isLt⟩

/-- Account 2 owns everything. -/
def holderLedger (amount : Fin (2 ^ 256)) : Ledger where
  balances account := if account = 2 then units256 amount else 0
  supply := units256 amount

def sampleHold (amount : Fin (2 ^ 63)) : Hold where
  amount := units64 amount
  expirationTimestamp := units256 50
  escrow := 3
  to_ := 0
  data := []

def sampleMsg (sender : Address) (timestamp : Fin (2 ^ 256)) : Msg where
  sender := sender
  timestamp := units256 timestamp

/-- Account 4 becomes the administrator and account 5 a supplier of 30. -/
def sampleInit : Administration.InitializeStruct where
  token := {}
  initialTotalSupply := 0
  tokenDecimals := 0
  originalSender := 4
  reserveAddress := 0
  updatedAtThreshold := 0
  roles := []
  cashinRole := ⟨5, units256 30⟩
  tokenMetadataURI := ""

theorem reference_quiet_receiver (proxy recipient : Address) :
    Treasury.QuietReceiver (reference proxy) recipient where
  frame sent := by
    cases sent
    rfl
  balances sent token account := by
    cases sent
    rfl
  supply sent token := by
    cases sent
    rfl

variable {before after : Ledger} {amount : Sint64}

theorem add_balance_some {account : Address} {change : Int}
    (added : before.addBalance account change = some after) :
    after.supply = before.supply ∧ ∀ other, ((after.balances other).toNat : Int) =
      (before.balances other).toNat + if other = account then change else 0 := by
  obtain ⟨balance, checked, rfl⟩ := Option.map_eq_some_iff.mp added
  refine ⟨rfl, ?_⟩
  intro other
  by_cases same : other = account
  · subst same
    simp [Uint.checked_eq_some.mp checked]
  · simp [same]

theorem add_supply_some {change : Int} (added : before.addSupply change = some after) :
    (after.supply.toNat : Int) = before.supply.toNat + change ∧
      after.balances = before.balances := by
  obtain ⟨supply, checked, rfl⟩ := Option.map_eq_some_iff.mp added
  exact ⟨Uint.checked_eq_some.mp checked, rfl⟩

theorem add_both_some {account : Address} {change : Int}
    (updated : (before.addBalance account change).bind (·.addSupply change) = some after) :
    (∀ other, ((after.balances other).toNat : Int) =
        (before.balances other).toNat + if other = account then change else 0) ∧
      (after.supply.toNat : Int) = before.supply.toNat + change := by
  obtain ⟨middle, added, supplied⟩ := Option.bind_eq_some_iff.mp updated
  obtain ⟨keptSupply, balances⟩ := add_balance_some added
  obtain ⟨supplyChange, keptBalances⟩ := add_supply_some supplied
  rw [keptSupply] at supplyChange
  rw [← keptBalances] at balances
  exact ⟨balances, supplyChange⟩

theorem answer_success {update : Option Ledger}
    (accepted : before.answer amount update = (success, after)) :
    update = some after ∧ 0 ≤ amount.toInt := by
  have different : refused ≠ success := by decide
  unfold Ledger.answer at accepted
  split at accepted
  · split at accepted
    · next positive =>
        obtain ⟨_, rfl⟩ := Prod.mk.inj accepted
        exact ⟨rfl, positive⟩
    · exact (different (Prod.mk.inj accepted).1).elim
  · exact (different (Prod.mk.inj accepted).1).elim

theorem issue_success {treasury : Address}
    (accepted : Ledger.issue treasury amount before = (success, after)) :
    0 ≤ amount.toInt ∧
      (∀ other, ((after.balances other).toNat : Int) =
        (before.balances other).toNat + share other treasury amount) ∧
      (after.supply.toNat : Int) = before.supply.toNat + amount.toInt := by
  obtain ⟨updated, positive⟩ := answer_success accepted
  obtain ⟨balances, supplyChange⟩ := add_both_some updated
  exact ⟨positive, balances, supplyChange⟩

theorem destroy_success {account : Address}
    (accepted : Ledger.destroy account amount before = (success, after)) :
    0 ≤ amount.toInt ∧
      (∀ other, ((after.balances other).toNat : Int) =
        (before.balances other).toNat - share other account amount) ∧
      (after.supply.toNat : Int) = before.supply.toNat - amount.toInt := by
  obtain ⟨updated, positive⟩ := answer_success accepted
  obtain ⟨balances, supplyChange⟩ := add_both_some updated
  refine ⟨positive, ?_, by omega⟩
  intro other
  have change := balances other
  by_cases own : other = account
  · rw [if_pos own] at change
    rw [own, share_self, ← own]
    omega
  · rw [if_neg own] at change
    rw [share_of_ne own]
    omega

theorem move_success {sender recipient : Address}
    (accepted : Ledger.move sender recipient amount before = (success, after)) :
    0 ≤ amount.toInt ∧
      (∀ other, ((after.balances other).toNat : Int) =
        (before.balances other).toNat - share other sender amount +
          share other recipient amount) ∧
      after.supply = before.supply := by
  obtain ⟨updated, positive⟩ := answer_success accepted
  obtain ⟨middle, debited, credited⟩ := Option.bind_eq_some_iff.mp updated
  obtain ⟨firstSupply, debits⟩ := add_balance_some debited
  obtain ⟨secondSupply, credits⟩ := add_balance_some credited
  refine ⟨positive, ?_, secondSupply.trans firstSupply⟩
  intro other
  have debit := debits other
  have credit : ((after.balances other).toNat : Int) =
      (middle.balances other).toNat + share other recipient amount := credits other
  by_cases own : other = sender
  · rw [if_pos own] at debit
    rw [credit, debit, own, share_self]
    omega
  · rw [if_neg own] at debit
    rw [credit, debit, share_of_ne own]
    omega

theorem reference_balance_laws (proxy token : Address) : BalanceLaws (reference proxy) token where
  mint accepted := ⟨(issue_success accepted).1, (issue_success accepted).2.1⟩
  burn accepted := ⟨(destroy_success accepted).1, (destroy_success accepted).2.1⟩
  wipe accepted := ⟨(destroy_success accepted).1, (destroy_success accepted).2.1⟩
  transfer accepted := ⟨(move_success accepted).1, (move_success accepted).2.1⟩

theorem reference_supply_laws (proxy token : Address) : SupplyLaws (reference proxy) token where
  mint accepted := (issue_success accepted).2.2
  burn accepted := (destroy_success accepted).2.2
  wipe accepted := (destroy_success accepted).2.2
  transfer accepted := by
    have kept := (move_success accepted).2.2
    simp only [supply, reference, kept]
  administer accepted := by
    obtain ⟨_, rfl⟩ := Prod.mk.inj accepted
    exact le_rfl

end StablecoinStudio.Token.ReferenceLedger
