import StablecoinStudio.Token.ReferenceLedger
import StablecoinStudio.Token.TokenFlows

/-!
# Callers without a role

On an initialized proxy an account that holds no role can hold its own tokens,
settle holds it is the escrow of and reclaim expired holds. Everything else it
calls reverts or only reads.
-/

namespace StablecoinStudio.Token.RolelessCaller

open StablecoinStudio.Core.Common
open StablecoinStudio.Core.Constants
open StablecoinStudio.Foundation.CheckedInt
open StablecoinStudio.Token.HoldManagement
open StablecoinStudio.Token.ProxyState
open StablecoinStudio.Token.ReferenceLedger
open StablecoinStudio.Token.Roles
open StablecoinStudio.Token.Services
open StablecoinStudio.Token.System
open StablecoinStudio.Token.TokenFlows
open StablecoinStudio.Token.TokenLaws

set_option autoImplicit false

variable {world : Type} {p : Platform world} {msg : Msg} {before after : State world}
  {called : Call}

def Roleless (state : State world) (account : Address) : Prop :=
  ∀ role, RolesStorage.hasRole state.roles role account = false

/-- The calls that may have an effect, each with what lets the caller make it. -/
inductive OpenCall (p : Platform world) (msg : Msg) (before after : State world) : Call → Prop where
  | createHold {hold : Hold} {holdId : Uint256}
      (done : Creation p msg msg.sender hold [] holdId before after) :
      OpenCall p msg before after (.createHold hold)
  | executeHold {identifier : HoldIdentifier} {recipient : Address} {amount : Sint64}
      (escrow : (HoldDataStorage.hold before.holds identifier).escrow = msg.sender)
      (done : Payment p msg identifier recipient amount before after) :
      OpenCall p msg before after (.executeHold identifier recipient amount)
  | releaseHold {identifier : HoldIdentifier} {amount : Sint64}
      (escrow : (HoldDataStorage.hold before.holds identifier).escrow = msg.sender)
      (done : Payment p msg identifier identifier.tokenHolder amount before after) :
      OpenCall p msg before after (.releaseHold identifier amount)
  | reclaimHold {identifier : HoldIdentifier}
      (late : (HoldDataStorage.hold before.holds identifier).expirationTimestamp.toNat ≤
        msg.timestamp.toNat)
      (done : Payment p msg identifier identifier.tokenHolder
        (HoldDataStorage.hold before.holds identifier).amount before after) :
      OpenCall p msg before after (.reclaimHold identifier)

/-- What a call may have done at most. -/
structure Harmless (p : Platform world) (msg : Msg) (called : Call)
    (before after : State world) : Prop where
  outcome : after = before ∨ OpenCall p msg before after called
  supply : supplyIn p after = supplyIn p before
  roles : after.roles = before.roles
  allowances : after.supplierAdmin = before.supplierAdmin
  reserve : after.reserve = before.reserve
  token : after.tokenAddress = before.tokenAddress
  configuration : after.resolverProxy = before.resolverProxy
  balances : ∀ account, account ≠ msg.sender → account ≠ p.proxy →
    balanceIn p account before ≤ balanceIn p account after
  treasury : balanceIn p p.proxy after < balanceIn p p.proxy before →
    balanceIn p p.proxy before - balanceIn p p.proxy after = held before - held after

theorem harmless_of_same : Harmless p msg called before before where
  outcome := Or.inl rfl
  supply := rfl
  roles := rfl
  allowances := rfl
  reserve := rfl
  token := rfl
  configuration := rfl
  balances _ _ _ := le_rfl
  treasury lower := (lt_irrefl _ lower).elim

section Open

variable (balances : BalanceLaws p before.tokenAddress) (supplies : SupplyLaws p before.tokenAddress)
include balances supplies

theorem harmless_creation {hold : Hold} {operatorData : Bytes} {holdId : Uint256}
    (opened : OpenCall p msg before after called)
    (done : Creation p msg msg.sender hold operatorData holdId before after) :
    Harmless p msg called before after where
  outcome := Or.inr opened
  supply := supply_by_creation supplies done
  roles := by rw [done.frame]
  allowances := by rw [done.frame]
  reserve := by rw [done.frame]
  token := by rw [done.frame]
  configuration := by rw [done.frame]
  balances := by
    intro account notSender notProxy
    rw [balances_by_creation balances done, share_of_ne notSender, share_of_ne notProxy]
    omega
  treasury := by
    intro lower
    have positive := done.positive
    have moved := balances_by_creation balances done p.proxy
    rw [share_self] at moved
    by_cases own : p.proxy = msg.sender
    · rw [← own, share_self] at moved
      omega
    · rw [share_of_ne own] at moved
      omega

theorem harmless_payment {identifier : HoldIdentifier} {recipient : Address} {amount : Sint64}
    (opened : OpenCall p msg before after called)
    (done : Payment p msg identifier recipient amount before after) :
    Harmless p msg called before after where
  outcome := Or.inr opened
  supply := supply_by_payment supplies done
  roles := by rw [done.frame]
  allowances := by rw [done.frame]
  reserve := by rw [done.frame]
  token := by rw [done.frame]
  configuration := by rw [done.frame]
  balances := by
    intro account _ notProxy
    have received := share_nonneg account recipient (payment_nonneg balances done)
    rw [balances_by_payment balances done, share_of_ne notProxy]
    omega
  treasury := by
    intro lower
    have moved := balances_by_payment balances done p.proxy
    rw [share_self] at moved
    rw [held_by_payment done]
    by_cases own : p.proxy = recipient
    · rw [← own, share_self] at moved
      omega
    · rw [share_of_ne own] at moved
      omega

end Open

/-- Whatever an account without roles calls on an initialized proxy. -/
theorem roleless_caller_harmless (p : Platform world) (state : State world) (msg : Msg)
    (called : Call) (balances : BalanceLaws p state.tokenAddress)
    (supplies : SupplyLaws p state.tokenAddress)
    (initialized : state.initialized hederaTokenManagerResolverKey = true)
    (roleless : Roleless state msg.sender) :
    Harmless p msg called state (next p state (.call msg called)) := by
  have noRole : ∀ role, RolesStorage.hasRole state.roles role msg.sender ≠ true := by
    intro role held
    rw [roleless role] at held
    cases held
  rcases next_cases p state msg called with committed | same
  · cases effect_of_committed committed with
    | view _ same =>
        rw [same]
        exact harmless_of_same
    | mint done => exact (noRole _ done.role).elim
    | burn done => exact (noRole _ done.role).elim
    | wipe done => exact (noRole _ done.role).elim
    | rescue done => exact (noRole _ done.role).elim
    | rescueHBAR done => exact (noRole _ done.role).elim
    | administration _ held _ _ _ => exact (noRole _ held).elim
    | permission _ admin _ => exact (noRole _ admin).elim
    | reserve _ admin _ => exact (noRole _ admin).elim
    | createHold done => exact harmless_creation balances supplies (.createHold done) done
    | createHoldByController controller _ => exact (noRole _ controller).elim
    | executeHold _ _ escrow _ done =>
        exact harmless_payment balances supplies (.executeHold escrow done) done
    | releaseHold _ escrow done =>
        exact harmless_payment balances supplies (.releaseHold escrow done) done
    | reclaimHold late done =>
        exact harmless_payment balances supplies (.reclaimHold late done) done
    | configuration _ admin _ => exact (noRole _ admin).elim
    | initialization first =>
        rw [initialized] at first
        cases first
  · rw [same]
    exact harmless_of_same

/-- Account 2 has no role and holds 10 of its tokens. -/
theorem roleless_caller_holds_its_tokens :
    Harmless (reference 1) (sampleMsg 2 1) (.createHold (sampleHold 10))
      (deployed RolesStorage.empty (holderLedger 10))
      (next (reference 1) (deployed RolesStorage.empty (holderLedger 10))
        (.call (sampleMsg 2 1) (.createHold (sampleHold 10)))) :=
  roleless_caller_harmless _ _ _ _ (reference_balance_laws 1 7) (reference_supply_laws 1 7) rfl
    fun _ => rfl

end StablecoinStudio.Token.RolelessCaller
