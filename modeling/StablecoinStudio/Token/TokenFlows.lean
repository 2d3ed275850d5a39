import StablecoinStudio.Token.System
import StablecoinStudio.Token.TokenLaws

/-!
# Where the tokens go

What the committed operations do to balances, to the supply and to the held
total, read off their effects with the laws of the token service.
-/

namespace StablecoinStudio.Token.TokenFlows

open StablecoinStudio.Core.Common
open StablecoinStudio.Foundation.CheckedInt
open StablecoinStudio.Token.HoldManagement
open StablecoinStudio.Token.ProxyState
open StablecoinStudio.Token.Services
open StablecoinStudio.Token.System
open StablecoinStudio.Token.TokenLaws
open StablecoinStudio.Token.Treasury

set_option autoImplicit false

variable {world : Type} {p : Platform world} {msg : Msg} {before after : State world}
  {account tokenHolder recipient : Address} {amount : Sint64} {hold : Hold}
  {operatorData : Bytes} {holdId : Uint256} {identifier : HoldIdentifier}

def balanceIn (p : Platform world) (account : Address) (state : State world) : Int :=
  balance p state.tokenAddress account state.world

def supplyIn (p : Platform world) (state : State world) : Int :=
  supply p state.tokenAddress state.world

def held (state : State world) : Int := state.holds.totalHeldAmount.toInt

theorem balance_nonneg (p : Platform world) (account : Address) (state : State world) :
    0 ≤ balanceIn p account state :=
  Int.natCast_nonneg _

/-! ## The token stays -/

theorem token_kept_by_call {called : Call} (control : called.keepsControl p msg)
    (effect : Effect p msg before after called) : after.tokenAddress = before.tokenAddress := by
  cases effect with
  | view _ same => rw [same]
  | mint done => rw [done.frame]
  | burn done => rw [done.frame]
  | wipe done => rw [done.frame]
  | rescue done => rw [done.frame]
  | rescueHBAR done => rw [done.frame (control.2 rfl)]
  | administration _ _ _ _ frame => rw [frame]
  | permission _ _ frame => rw [frame]
  | reserve _ _ frame => rw [frame]
  | createHold done => rw [done.frame]
  | createHoldByController _ done => rw [done.frame]
  | executeHold _ _ _ _ done => rw [done.frame]
  | releaseHold _ _ done => rw [done.frame]
  | reclaimHold _ done => rw [done.frame]
  | configuration _ _ frame => rw [frame]
  | initialization _ => exact (control.1 rfl).elim

theorem token_kept_by_step (state : State world) (label : Label world)
    (control : KeepsControl p state label) :
    (next p state label).tokenAddress = state.tokenAddress := by
  cases label with
  | outside later => rfl
  | call msg called =>
      rcases next_cases p state msg called with committed | same
      · exact token_kept_by_call control (effect_of_committed committed)
      · rw [same]

/-! ## The held total -/

theorem held_by_creation
    (done : Creation p msg tokenHolder hold operatorData holdId before after) :
    held after = held before + hold.amount.toInt := by
  obtain ⟨_, total, accountTotal, sum, _, registered⟩ := register_hold_ok.mp done.registered
  rw [held, registered]
  exact sum

theorem held_by_payment (done : Payment p msg identifier recipient amount before after) :
    held after = held before - amount.toInt := by
  obtain ⟨rest, total, accountTotal, _, sum, _, _, decreased⟩ :=
    decrease_hold_amount_ok.mp done.decreased
  rw [held, decreased]
  unfold afterDecrease
  split
  · exact sum
  · exact sum

/-! ## Balances -/

section Balances

variable (laws : BalanceLaws p before.tokenAddress)
include laws

theorem balances_by_mint (done : Minting p msg account amount before after) (other : Address) :
    balanceIn p other after = balanceIn p other before + share other account amount := by
  obtain ⟨minted, issued, _, delivered⟩ := done.tokens
  have credited := (laws.mint issued).2 other
  have sameToken : after.tokenAddress = before.tokenAddress := by rw [done.frame]
  rw [balanceIn, balanceIn, sameToken]
  obtain ⟨own, rfl⟩ | ⟨_, paid⟩ := delivered
  · rw [credited, own]
  · have moved := (laws.transfer paid).2 other
    rw [moved, credited]
    omega

theorem balances_by_burn (done : Burning p msg amount before after) (other : Address) :
    balanceIn p other after = balanceIn p other before - share other p.proxy amount := by
  have sameToken : after.tokenAddress = before.tokenAddress := by rw [done.frame]
  rw [balanceIn, balanceIn, sameToken]
  exact (laws.burn done.tokens).2 other

theorem balances_by_wipe (done : Wiping p msg account amount before after) (other : Address) :
    balanceIn p other after = balanceIn p other before - share other account amount := by
  have sameToken : after.tokenAddress = before.tokenAddress := by rw [done.frame]
  rw [balanceIn, balanceIn, sameToken]
  exact (laws.wipe done.tokens).2 other

theorem balances_by_rescue (done : Rescuing p msg amount before after) (other : Address) :
    balanceIn p other after =
      balanceIn p other before - share other p.proxy amount + share other msg.sender amount := by
  have sameToken : after.tokenAddress = before.tokenAddress := by rw [done.frame]
  rw [balanceIn, balanceIn, sameToken]
  exact (laws.transfer done.tokens).2 other

theorem balances_by_creation
    (done : Creation p msg tokenHolder hold operatorData holdId before after) (other : Address) :
    balanceIn p other after =
      balanceIn p other before - share other tokenHolder hold.amount +
        share other p.proxy hold.amount := by
  obtain ⟨wiped, taken, issued⟩ := done.tokens
  have sameToken : after.tokenAddress = before.tokenAddress := by rw [done.frame]
  rw [balanceIn, balanceIn, sameToken, (laws.mint issued).2 other, (laws.wipe taken).2 other]

theorem balances_by_payment (done : Payment p msg identifier recipient amount before after)
    (other : Address) :
    balanceIn p other after =
      balanceIn p other before - share other p.proxy amount + share other recipient amount := by
  have sameToken : after.tokenAddress = before.tokenAddress := by rw [done.frame]
  rw [balanceIn, balanceIn, sameToken]
  exact (laws.transfer done.paid).2 other

theorem payment_nonneg (done : Payment p msg identifier recipient amount before after) :
    0 ≤ amount.toInt :=
  (laws.transfer done.paid).1

end Balances

theorem balance_by_hbar_rescue {sent : Uint256} (quiet : QuietReceiver p msg.sender)
    (done : RescuingHBAR p msg sent before after) : balanceIn p account after =
      balanceIn p account before := by
  have frame := done.frame quiet
  have sameToken : after.tokenAddress = before.tokenAddress := by rw [frame]
  obtain ⟨inside, answered, rfl⟩ := done.sent
  rw [balanceIn, balanceIn, sameToken, balance, balance]
  exact congrArg _ (congrArg _ (quiet.balances answered _ _))

theorem supply_by_hbar_rescue {sent : Uint256} (quiet : QuietReceiver p msg.sender)
    (done : RescuingHBAR p msg sent before after) : supplyIn p after = supplyIn p before := by
  have frame := done.frame quiet
  have sameToken : after.tokenAddress = before.tokenAddress := by rw [frame]
  obtain ⟨inside, answered, rfl⟩ := done.sent
  rw [supplyIn, supplyIn, sameToken, supply, supply]
  exact congrArg _ (congrArg _ (quiet.supply answered _))

/-! ## The supply -/

section Supply

variable (laws : SupplyLaws p before.tokenAddress)
include laws

theorem supply_by_mint (done : Minting p msg account amount before after) :
    supplyIn p after = supplyIn p before + amount.toInt := by
  obtain ⟨minted, issued, _, delivered⟩ := done.tokens
  have issuedSupply := laws.mint issued
  have sameToken : after.tokenAddress = before.tokenAddress := by rw [done.frame]
  rw [supplyIn, supplyIn, sameToken]
  obtain ⟨_, rfl⟩ | ⟨_, paid⟩ := delivered
  · exact issuedSupply
  · rw [laws.transfer paid]
    exact issuedSupply

theorem supply_by_burn (done : Burning p msg amount before after) :
    supplyIn p after = supplyIn p before - amount.toInt := by
  have sameToken : after.tokenAddress = before.tokenAddress := by rw [done.frame]
  rw [supplyIn, supplyIn, sameToken]
  exact laws.burn done.tokens

theorem supply_by_wipe (done : Wiping p msg account amount before after) :
    supplyIn p after = supplyIn p before - amount.toInt := by
  have sameToken : after.tokenAddress = before.tokenAddress := by rw [done.frame]
  rw [supplyIn, supplyIn, sameToken]
  exact laws.wipe done.tokens

theorem supply_by_rescue (done : Rescuing p msg amount before after) :
    supplyIn p after = supplyIn p before := by
  have sameToken : after.tokenAddress = before.tokenAddress := by rw [done.frame]
  rw [supplyIn, supplyIn, sameToken]
  exact laws.transfer done.tokens

/-- What is wiped from the holder is minted again. -/
theorem supply_by_creation
    (done : Creation p msg tokenHolder hold operatorData holdId before after) :
    supplyIn p after = supplyIn p before := by
  obtain ⟨wiped, taken, issued⟩ := done.tokens
  have sameToken : after.tokenAddress = before.tokenAddress := by rw [done.frame]
  rw [supplyIn, supplyIn, sameToken, laws.mint issued, laws.wipe taken]
  exact Int.sub_add_cancel _ _

theorem supply_by_payment (done : Payment p msg identifier recipient amount before after) :
    supplyIn p after = supplyIn p before := by
  have sameToken : after.tokenAddress = before.tokenAddress := by rw [done.frame]
  rw [supplyIn, supplyIn, sameToken]
  exact laws.transfer done.paid

end Supply

end StablecoinStudio.Token.TokenFlows
