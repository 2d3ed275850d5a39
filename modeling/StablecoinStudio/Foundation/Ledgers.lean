import Mathlib.Algebra.BigOperators.Group.Finset.Piecewise
import Mathlib.Algebra.Order.Ring.Int
import Mathlib.Data.Fintype.Basic
import StablecoinStudio.Foundation.Runs

/-!
# Ledgers

What every account has, and the entries that change it: credits, debits, moves
from one account to another and adjustments from outside. Posted entries that
are covered leave no account below zero, and the total changes by what is
issued alone.
-/

namespace StablecoinStudio.Foundation.Ledgers

open StablecoinStudio.Foundation.Runs

set_option autoImplicit false

variable {account : Type} [DecidableEq account]

inductive Entry (account : Type) where
  | credit (owner : account) (amount : Int)
  | debit (owner : account) (amount : Int)
  | move (sender recipient : account) (amount : Int)
  | adjust (change : account → Int)

namespace Entry

def change : Entry account → account → Int
  | credit owner amount, other => if other = owner then amount else 0
  | debit owner amount, other => -(if other = owner then amount else 0)
  | move sender recipient amount, other =>
      (if other = recipient then amount else 0) - (if other = sender then amount else 0)
  | adjust change, other => change other

def issued [Fintype account] : Entry account → Int
  | credit _ amount => amount
  | debit _ amount => -amount
  | move _ _ _ => 0
  | adjust change => ∑ owner, change owner

/-- No negative amount is posted, and who pays has the amount. -/
def Covered (ledger : account → Int) : Entry account → Prop
  | credit _ amount => 0 ≤ amount
  | debit owner amount => 0 ≤ amount ∧ amount ≤ ledger owner
  | move sender _ amount => 0 ≤ amount ∧ amount ≤ ledger sender
  | adjust change => ∀ owner, 0 ≤ ledger owner + change owner

end Entry

def post (ledger : account → Int) (entry : Entry account) : account → Int :=
  fun owner => ledger owner + entry.change owner

/-- One account sees only what the entries add to it. -/
theorem run_post (ledger : account → Int) (entries : List (Entry account)) (owner : account) :
    run post ledger entries owner =
      ledger owner + (entries.map fun entry => entry.change owner).sum := by
  induction entries generalizing ledger with
  | nil => simp
  | cons entry rest ih =>
      rw [run_cons, ih, List.map_cons, List.sum_cons, post]
      omega

theorem post_nonneg {ledger : account → Int} {entry : Entry account}
    (nonneg : ∀ owner, 0 ≤ ledger owner) (covered : entry.Covered ledger) (owner : account) :
    0 ≤ post ledger entry owner := by
  have own := nonneg owner
  cases entry with
  | credit creditor amount =>
      have positive : 0 ≤ amount := covered
      simp only [post, Entry.change]
      split <;> omega
  | debit debtor amount =>
      obtain ⟨_, within⟩ := covered
      simp only [post, Entry.change]
      split
      · next same =>
          rw [same]
          omega
      · omega
  | move sender recipient amount =>
      obtain ⟨positive, within⟩ := covered
      simp only [post, Entry.change]
      by_cases same : owner = sender
      · rw [if_pos same, same]
        split <;> omega
      · rw [if_neg same]
        split <;> omega
  | adjust change => exact covered owner

theorem run_nonneg {ledger : account → Int} {entries : List (Entry account)}
    (nonneg : ∀ owner, 0 ≤ ledger owner)
    (covered : Along post (fun ledger entry => entry.Covered ledger) ledger entries) :
    ∀ owner, 0 ≤ run post ledger entries owner := by
  have step : ∀ (ledger : account → Int) (entry : Entry account), (∀ owner, 0 ≤ ledger owner) →
      entry.Covered ledger → ∀ owner, 0 ≤ post ledger entry owner :=
    fun _ _ nonneg covered => post_nonneg nonneg covered
  exact invariant_of_steps post step nonneg covered

section Totals

variable [Fintype account]

theorem sum_change (entry : Entry account) : ∑ owner, entry.change owner = entry.issued := by
  cases entry with
  | credit owner amount => simp [Entry.change, Entry.issued]
  | debit owner amount => simp [Entry.change, Entry.issued]
  | move sender recipient amount => simp [Entry.change, Entry.issued, Finset.sum_sub_distrib]
  | adjust change => rfl

/-- The total over a run: the start, and what the entries issued. -/
theorem total_run (ledger : account → Int) (entries : List (Entry account)) :
    ∑ owner, run post ledger entries owner =
      ∑ owner, ledger owner + (entries.map Entry.issued).sum := by
  induction entries generalizing ledger with
  | nil => simp
  | cons entry rest ih =>
      have posted : ∑ owner, post ledger entry owner = ∑ owner, ledger owner + entry.issued := by
        rw [← sum_change, ← Finset.sum_add_distrib]
        rfl
      rw [run_cons, ih, posted, List.map_cons, List.sum_cons, add_assoc]

end Totals

end StablecoinStudio.Foundation.Ledgers
