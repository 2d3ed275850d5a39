import StablecoinStudio.Foundation.Runs
import Mathlib.Algebra.GroupWithZero.Nat
import Mathlib.Data.List.Induction

/-!
# The minting right of one supplier

What the roles and the allowances of a proxy say about a single account, and
the changes the operations may make to it. An unlimited right has the numeric
allowance zero; a limited one is an account that is spent and filled up.
-/

namespace StablecoinStudio.Token.SupplierRights

open StablecoinStudio.Foundation.Runs

set_option autoImplicit false

structure Right where
  supplier : Bool
  allowance : Nat
  unlimited : Bool
deriving DecidableEq

def Right.nothing : Right := ⟨false, 0, false⟩

theorem Right.eq_nothing {right : Right} (roleless : right.supplier = false)
    (spent : right.allowance = 0) (limited : right.unlimited = false) : right = nothing := by
  cases right
  cases roleless
  cases spent
  cases limited
  rfl

inductive Change where
  | grant (amount : Nat)
  | grantUnlimited
  | clear
  | gainRole
  | loseRole
  | reset
  | increase (amount : Nat)
  | decrease (amount : Nat)
  | mint (amount : Nat)
deriving DecidableEq

def change (right : Right) : Change → Right
  | .grant amount => ⟨true, amount, right.unlimited⟩
  | .grantUnlimited => ⟨true, 0, true⟩
  | .clear => .nothing
  | .gainRole => { right with supplier := true }
  | .loseRole => { right with supplier := false }
  | .reset => { right with allowance := 0 }
  | .increase amount => { right with allowance := right.allowance + amount }
  | .decrease amount => { right with allowance := right.allowance - amount }
  | .mint amount =>
      if right.unlimited then right else { right with allowance := right.allowance - amount }

def Allowed (right : Right) : Change → Prop
  | .grant _ | .increase _ => right.unlimited = false
  | .decrease amount => right.unlimited = false ∧ amount ≤ right.allowance
  | .mint amount =>
      right.supplier = true ∧ (right.unlimited = true ∨ amount ≤ right.allowance)
  | _ => True

namespace Change

/-- The allowance that a change sets, whatever it was before. -/
def assigned : Change → Option Nat
  | grant amount => some amount
  | grantUnlimited | clear | reset => some 0
  | _ => none

def minted : Change → Nat
  | mint amount => amount
  | _ => 0

def decreased : Change → Nat
  | decrease amount => amount
  | _ => 0

def increased : Change → Nat
  | increase amount => amount
  | _ => 0

end Change

def total (amount : Change → Nat) (changes : List Change) : Nat := (changes.map amount).sum

variable {right : Right} {taken : Change} {changes : List Change}

/-! ## Unlimited rights -/

def Sentinel (right : Right) : Prop := right.unlimited = true → right.allowance = 0

theorem sentinel_of_change (sentinel : Sentinel right) (allowed : Allowed right taken) :
    Sentinel (change right taken) := by
  intro unlimited
  cases taken with
  | grant amount =>
      have limited : right.unlimited = false := allowed
      have still : right.unlimited = true := unlimited
      rw [limited] at still
      cases still
  | increase amount =>
      have limited : right.unlimited = false := allowed
      have still : right.unlimited = true := unlimited
      rw [limited] at still
      cases still
  | decrease amount =>
      have limited : right.unlimited = false := allowed.1
      have still : right.unlimited = true := unlimited
      rw [limited] at still
      cases still
  | mint amount =>
      simp only [change] at unlimited ⊢
      split
      · next already => exact sentinel already
      · next limited =>
          rw [if_neg limited] at unlimited
          exact (limited unlimited).elim
  | grantUnlimited | clear | reset => rfl
  | gainRole | loseRole => exact sentinel unlimited

theorem sentinel_of_changes (sentinel : Sentinel right)
    (allowed : Along change Allowed right changes) : Sentinel (run change right changes) :=
  invariant_of_steps change (fun _ _ kept met => sentinel_of_change kept met) sentinel allowed

/-! ## Conservation of a limited allowance -/

theorem assigned_allowance {amount : Nat} (assigns : taken.assigned = some amount) :
    (change right taken).allowance = amount := by
  cases taken with
  | grant _ | grantUnlimited | clear | reset =>
      cases assigns
      rfl
  | _ => cases assigns

theorem unlimited_kept (keeps : taken.assigned = none) :
    (change right taken).unlimited = right.unlimited := by
  cases taken with
  | grant _ | grantUnlimited | clear | reset => cases keeps
  | mint amount =>
      simp only [change]
      split
      · rfl
      · rfl
  | _ => rfl

theorem balanced_by_change (allowed : Allowed right taken) (keeps : taken.assigned = none)
    (limited : right.unlimited = false) :
    (change right taken).allowance + (taken.minted + taken.decreased) =
      right.allowance + taken.increased := by
  cases taken with
  | grant _ | grantUnlimited | clear | reset => cases keeps
  | gainRole | loseRole | increase _ => rfl
  | decrease amount =>
      have within := allowed.2
      simp only [change, Change.minted, Change.decreased, Change.increased]
      omega
  | mint amount =>
      have within : amount ≤ right.allowance := by
        rcases allowed.2 with unlimited | within
        · rw [limited] at unlimited
          cases unlimited
        · exact within
      simp only [change, limited, Change.minted, Change.decreased, Change.increased]
      simp only [Bool.false_eq_true, if_false]
      omega

theorem unlimited_kept_along (keeps : ∀ taken ∈ changes, taken.assigned = none) :
    (run change right changes).unlimited = right.unlimited := by
  induction changes generalizing right with
  | nil => rfl
  | cons head tail ih =>
      have later : (run change (change right head) tail).unlimited =
          (change right head).unlimited :=
        ih (fun taken member => keeps taken (List.mem_cons_of_mem _ member))
      rw [run_cons, later]
      exact unlimited_kept (keeps head (List.mem_cons_self ..))

/-- While nothing assigns the allowance of a limited right, it is what it was
and what was added, less what was minted and taken away. -/
theorem balanced_along (allowed : Along change Allowed right changes)
    (keeps : ∀ taken ∈ changes, taken.assigned = none) (limited : right.unlimited = false) :
    (run change right changes).allowance + (total Change.minted changes +
        total Change.decreased changes) =
      right.allowance + total Change.increased changes := by
  have kept : Along change (fun _ taken => taken.assigned = none) right changes :=
    along_of_forall_mem change (fun taken member _ => keeps taken member) right
  have limitedAlong : Along change (fun right taken => (Allowed right taken ∧
      taken.assigned = none) ∧ right.unlimited = false) right changes := by
    have limitedStays : ∀ right taken, right.unlimited = false →
        (Allowed right taken ∧ taken.assigned = none) →
          (change right taken).unlimited = false := by
      intro right taken limited met
      rw [unlimited_kept met.2]
      exact limited
    exact along_of_invariant change limitedStays (fun _ _ limited met => ⟨met, limited⟩) limited
      ((along_and change).mpr ⟨allowed, kept⟩)
  have conserved := conserved_of_steps change Right.allowance
    (fun _ taken => taken.increased) (fun _ taken => taken.minted + taken.decreased)
    (fun right taken met => balanced_by_change met.1.1 met.1.2 met.2) limitedAlong
  rw [tally_of_labels, tally_of_labels, List.sum_map_add] at conserved
  exact conserved

/-! ## Nothing left over -/

/-- The role is only lost by an account that has no allowance and no flag left,
or together with them. -/
def LosesNothing (right : Right) : Change → Prop
  | .loseRole => right.allowance = 0 ∧ right.unlimited = false
  | _ => True

def Change.adjusts : Change → Prop
  | increase _ | decrease _ => True
  | _ => False

theorem limited_along_adjustments (limited : right.unlimited = false)
    (adjusts : ∀ taken ∈ changes, taken.adjusts) :
    (run change right changes).unlimited = false := by
  rw [unlimited_kept_along, limited]
  intro taken member
  have adjustment := adjusts taken member
  cases taken with
  | increase _ | decrease _ => rfl
  | _ => cases adjustment

/-- At some point the account had nothing, and since then its allowance was
only increased and decreased. -/
def NothingLeftOver (changes : List Change) : Prop :=
  ∃ earlier since, changes = earlier ++ since ∧ run change .nothing earlier = .nothing ∧
    ∀ taken ∈ since, taken.adjusts

theorem NothingLeftOver.limited (leftOver : NothingLeftOver changes) :
    (run change .nothing changes).unlimited = false := by
  obtain ⟨earlier, since, rfl, gone, adjusts⟩ := leftOver
  rw [run_append, gone]
  exact limited_along_adjustments rfl adjusts

theorem nothing_left_over_of_nothing (gone : run change .nothing changes = .nothing) :
    NothingLeftOver changes :=
  ⟨changes, [], (List.append_nil changes).symm, gone, by simp⟩

theorem NothingLeftOver.adjust (leftOver : NothingLeftOver changes) (adjusts : taken.adjusts) :
    NothingLeftOver (changes ++ [taken]) := by
  obtain ⟨earlier, since, rfl, gone, before⟩ := leftOver
  refine ⟨earlier, since ++ [taken], List.append_assoc .., gone, ?_⟩
  intro other member
  rcases List.mem_append.mp member with earlierOne | last
  · exact before other earlierOne
  · rw [List.mem_singleton.mp last]
    exact adjusts

/-- Without the role there is nothing left over from before it was lost. -/
theorem nothing_left_over_along
    (allowed : Along change (fun right taken => Allowed right taken ∧ LosesNothing right taken)
      .nothing changes) (without : (run change .nothing changes).supplier = false) :
    NothingLeftOver changes := by
  induction changes using List.reverseRecOn with
  | nil => exact nothing_left_over_of_nothing rfl
  | append_singleton earlier taken ih =>
      obtain ⟨before, met, _⟩ := (along_append change).mp allowed
      have earlierCase : (run change .nothing earlier).supplier = false →
          NothingLeftOver earlier := ih before
      rw [run_snoc] at without
      cases taken with
      | grant _ | grantUnlimited | gainRole => cases without
      | clear =>
          apply nothing_left_over_of_nothing
          rw [run_snoc]
          rfl
      | loseRole =>
          obtain ⟨spent, limited⟩ := met.2
          apply nothing_left_over_of_nothing
          rw [run_snoc]
          exact Right.eq_nothing without spent limited
      | reset =>
          apply nothing_left_over_of_nothing
          rw [run_snoc]
          exact Right.eq_nothing without rfl (earlierCase without).limited
      | increase amount => exact (earlierCase without).adjust trivial
      | decrease amount => exact (earlierCase without).adjust trivial
      | mint amount =>
          have held := met.1.1
          simp only [change] at without
          split at without
          · rw [held] at without
            cases without
          · have roleless : (run change .nothing earlier).supplier = false := without
            rw [held] at roleless
            cases roleless

end StablecoinStudio.Token.SupplierRights
