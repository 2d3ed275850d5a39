import StablecoinStudio.Token.Services

/-!
# Laws of the token service

What a request answered with `SUCCESS` did to the balances and to the supply of
one token. Nothing is said about other answers: the facets revert on them.
-/

namespace StablecoinStudio.Token.TokenLaws

open StablecoinStudio.Core.Common
open StablecoinStudio.Foundation.CheckedInt
open StablecoinStudio.Token.Services

set_option autoImplicit false

variable {world : Type}

def balance (p : Platform world) (token account : Address) (current : world) : Int :=
  (p.balanceOf token account current).toNat

def supply (p : Platform world) (token : Address) (current : world) : Int :=
  (p.totalSupply token current).toNat

def share (account other : Address) (amount : Sint64) : Int :=
  if account = other then amount.toInt else 0

@[simp] theorem share_self (account : Address) (amount : Sint64) :
    share account account amount = amount.toInt := by
  simp [share]

theorem share_of_ne {account other : Address} (different : account ≠ other) (amount : Sint64) :
    share account other amount = 0 := by
  simp [share, different]

theorem share_nonneg (account other : Address) {amount : Sint64} (positive : 0 ≤ amount.toInt) :
    0 ≤ share account other amount := by
  unfold share
  split
  · exact positive
  · exact le_rfl

/-- Tokens move by exactly the amount, and no negative amount moves. The proxy
is the treasury: it receives what is minted and loses what is burnt. -/
structure BalanceLaws (p : Platform world) (token : Address) : Prop where
  mint : ∀ {amount before after}, p.mintToken token amount before = (success, after) →
    0 ≤ amount.toInt ∧ ∀ account,
      balance p token account after = balance p token account before + share account p.proxy amount
  burn : ∀ {amount before after}, p.burnToken token amount before = (success, after) →
    0 ≤ amount.toInt ∧ ∀ account,
      balance p token account after = balance p token account before - share account p.proxy amount
  wipe : ∀ {wiped amount before after},
    p.wipeTokenAccount token wiped amount before = (success, after) →
    0 ≤ amount.toInt ∧ ∀ account,
      balance p token account after = balance p token account before - share account wiped amount
  transfer : ∀ {sender recipient amount before after},
    p.transferToken token sender recipient amount before = (success, after) →
    0 ≤ amount.toInt ∧ ∀ account,
      balance p token account after =
        balance p token account before - share account sender amount +
          share account recipient amount

/-- Minting, burning and wiping change the supply by exactly the amount;
nothing else makes it grow. -/
structure SupplyLaws (p : Platform world) (token : Address) : Prop where
  mint : ∀ {amount before after}, p.mintToken token amount before = (success, after) →
    supply p token after = supply p token before + amount.toInt
  burn : ∀ {amount before after}, p.burnToken token amount before = (success, after) →
    supply p token after = supply p token before - amount.toInt
  wipe : ∀ {wiped amount before after},
    p.wipeTokenAccount token wiped amount before = (success, after) →
    supply p token after = supply p token before - amount.toInt
  transfer : ∀ {sender recipient amount before after},
    p.transferToken token sender recipient amount before = (success, after) →
    supply p token after = supply p token before
  administer : ∀ {request before after}, p.administer request before = (success, after) →
    supply p token after ≤ supply p token before

/-- Pausing, freezing, granting, deleting and updating move no tokens: a deleted
token stays in the ledger with its balances. -/
structure AdministrationLaws (p : Platform world) (token : Address) : Prop where
  balances : ∀ {request before after}, p.administer request before = (success, after) →
    ∀ account, balance p token account after = balance p token account before
  supply : ∀ {request before after}, p.administer request before = (success, after) →
    supply p token after = supply p token before

end StablecoinStudio.Token.TokenLaws
