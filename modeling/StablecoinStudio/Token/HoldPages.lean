import StablecoinStudio.Resolver.Listings
import StablecoinStudio.Token.ReferenceLedger

/-!
# Pages of hold ids

`getHoldsIdFor` cuts its page by hand: it caps the end of the page but not its
start, so a page that starts beyond the list has a length below zero. Where a
page starts within the list or right at its end, it is the page that the
listings of the resolver would give.
-/

namespace StablecoinStudio.Token.HoldPages

open StablecoinStudio.Core.Common
open StablecoinStudio.Core.LibCommon
open StablecoinStudio.Foundation.CheckedInt
open StablecoinStudio.Foundation.CountedLoops
open StablecoinStudio.Foundation.EnumerableSets
open StablecoinStudio.Foundation.Pages
open StablecoinStudio.Foundation.Transaction
open StablecoinStudio.Resolver.Listings
open StablecoinStudio.Token.ProxyState
open StablecoinStudio.Token.ReferenceLedger

set_option autoImplicit false

section View

variable {world : Type}

/-- A round of the loop, with `i` from `startIndex` on. -/
def writeHoldId (holdsId : EnumerableSet Uint256) (startIndex i : Uint256)
    (page : List Uint256) : FacetTx world (List Uint256) := do
  let position ← arithmetic (Uint.checked (i.toNat - startIndex.toNat))
  let holdId ← load holdsId.values i
  store page position holdId

/-- `pageEnd > length ? length : pageEnd` -/
def cap (holdsId : EnumerableSet Uint256) (pageEnd : Uint256) : Uint256 :=
  if beyond : pageEnd.toNat > holdsId.length then
    ⟨holdsId.length, Nat.lt_trans beyond pageEnd.bound⟩
  else pageEnd

/-- The view with its loop. -/
def getHoldsIdFor (tokenHolder : Address) (pageIndex pageLength : Uint256) :
    FacetTx world (List Uint256) := do
  let state ← Tx.get
  let holdsId := state.holds.holdIdsByAccount tokenHolder
  let startIndex : Uint256 ← arithmetic (Uint.checked (pageIndex.toNat * pageLength.toNat))
  let pageEnd : Uint256 ← arithmetic (Uint.checked (startIndex.toNat + pageLength.toNat))
  let endIndex := cap holdsId pageEnd
  let count : Uint256 ← arithmetic (Uint.checked (endIndex.toNat - startIndex.toNat))
  countUp endIndex (writeHoldId holdsId startIndex) startIndex (List.replicate count.toNat 0)

end View

/-! ## The loop -/

section Loop

variable {world : Type} {msg : Msg} {state : State world} {holdsId : EnumerableSet Uint256}
  {startIndex endIndex count i : Uint256} {array : List Uint256}

theorem cap_eq_min (holdsId : EnumerableSet Uint256) (pageEnd : Uint256) :
    (cap holdsId pageEnd).toNat = min pageEnd.toNat holdsId.length := by
  unfold cap
  split
  · next beyond => exact (Nat.min_eq_right (Nat.le_of_lt beyond)).symm
  · next within => exact (Nat.min_eq_left (Nat.not_lt.mp within)).symm

def idsBetween (holdsId : EnumerableSet Uint256) (startIndex endIndex : Uint256) : List Uint256 :=
  (holdsId.values.drop startIndex.toNat).take (endIndex.toNat - startIndex.toNat)

theorem length_ids_between (startIndex : Uint256) (within : endIndex.toNat ≤ holdsId.length) :
    (idsBetween holdsId startIndex endIndex).length = endIndex.toNat - startIndex.toNat := by
  have room : endIndex.toNat ≤ holdsId.values.length := within
  rw [idsBetween, List.length_take, List.length_drop]
  omega

theorem write_hold_id (within : endIndex.toNat ≤ holdsId.length)
    (after : startIndex.toNat ≤ i.toNat) (below : i.toNat < endIndex.toNat)
    (written : Written (idsBetween holdsId startIndex endIndex) array
      (i.toNat - startIndex.toNat)) :
    ∃ next, writeHoldId holdsId startIndex i array msg state = .ok (next, state) ∧
      Written (idsBetween holdsId startIndex endIndex) next (i.toNat + 1 - startIndex.toNat) := by
  have length := length_ids_between startIndex within
  have inside : i.toNat - startIndex.toNat < (idsBetween holdsId startIndex endIndex).length := by
    omega
  have listed : i.toNat < holdsId.values.length := Nat.lt_of_lt_of_le below within
  have same : (idsBetween holdsId startIndex endIndex)[i.toNat - startIndex.toNat] =
      holdsId.values[i.toNat] := by
    simp only [idsBetween, List.getElem_take, List.getElem_drop, Nat.add_sub_cancel' after]
  have positionFits : i.toNat - startIndex.toNat < 2 ^ 256 :=
    Nat.lt_of_le_of_lt (Nat.sub_le _ _) i.bound
  have position : (arithmetic (Uint.checked ((i.toNat : Int) - startIndex.toNat)) :
      FacetTx world Uint256) msg state = .ok (⟨_, positionFits⟩, state) :=
    Tx.of_option_ok.mpr ⟨Uint.checked_eq_some.mpr (Int.ofNat_sub after), rfl⟩
  have next := written.write inside
  rw [same, ← Nat.sub_add_comm after] at next
  refine ⟨_, ?_, next⟩
  rw [writeHoldId, Tx.bind_of_ok position, Tx.bind_of_ok (load_ok listed)]
  apply store_ok
  rw [written.length]
  exact inside

/-- The loop ends with the ids between the indexes. -/
theorem loop_ok (within : endIndex.toNat ≤ holdsId.length)
    (ordered : startIndex.toNat ≤ endIndex.toNat)
    (length : count.toNat = endIndex.toNat - startIndex.toNat) :
    countUp endIndex (writeHoldId holdsId startIndex) startIndex (List.replicate count.toNat 0)
      msg state = .ok (idsBetween holdsId startIndex endIndex, state) := by
  let invariant (index : Nat) (array : List Uint256) : Prop :=
    Written (idsBetween holdsId startIndex endIndex) array (index - startIndex.toNat)
  have keeps : Keeps msg state endIndex (writeHoldId holdsId startIndex) invariant
      startIndex.toNat :=
    fun _ _ after below written => write_hold_id within after below written
  have zeros : invariant startIndex.toNat (List.replicate count.toNat 0) := by
    change Written _ _ (startIndex.toNat - startIndex.toNat)
    rw [Nat.sub_self, length, ← length_ids_between _ within]
    exact Written.start 0
  obtain ⟨result, committed, written⟩ := count_up_ok invariant startIndex keeps ordered zeros
  change Written _ _ (endIndex.toNat - startIndex.toNat) at written
  rw [← length_ids_between _ within] at written
  rw [committed, written.done]

end Loop

/-! ## The page -/

section Page

variable {world : Type} {msg : Msg} {state : State world} {tokenHolder : Address}
  {pageIndex pageLength : Uint256}

/-- What the loop collects is the part of the list that the view is given
without it. -/
theorem view_without_loop : getHoldsIdFor tokenHolder pageIndex pageLength msg state =
    HoldManagement.getHoldsIdFor tokenHolder pageIndex pageLength msg state := by
  apply Tx.bind_congr
  intro read _ given
  obtain ⟨rfl, rfl⟩ := Tx.get_ok.mp given
  apply Tx.bind_congr
  intro startIndex _ given
  obtain ⟨_, rfl⟩ := Tx.of_option_ok.mp given
  apply Tx.bind_congr
  intro pageEnd _ given
  obtain ⟨_, rfl⟩ := Tx.of_option_ok.mp given
  have least : (if pageEnd.toNat > (state.holds.holdIdsByAccount tokenHolder).length then
      (state.holds.holdIdsByAccount tokenHolder).length else pageEnd.toNat) =
      (cap (state.holds.holdIdsByAccount tokenHolder) pageEnd).toNat := by
    unfold cap
    split <;> rfl
  have within : (cap (state.holds.holdIdsByAccount tokenHolder) pageEnd).toNat ≤
      (state.holds.holdIdsByAccount tokenHolder).length := by
    rw [cap_eq_min]
    exact Nat.min_le_right _ _
  rw [least]
  apply Tx.bind_congr
  intro count _ given
  obtain ⟨exact_, rfl⟩ := Tx.of_option_ok.mp given
  have difference := Uint.checked_eq_some.mp exact_
  have length : count.toNat =
      (cap (state.holds.holdIdsByAccount tokenHolder) pageEnd).toNat - startIndex.toNat := by
    omega
  rw [loop_ok within (by omega) length, idsBetween, length]
  rfl

/-- The page, or a failure where it starts beyond the end. -/
theorem get_holds_id_for (msg : Msg) (state : State world) (tokenHolder : Address)
    (pageIndex pageLength : Uint256)
    (fits : pageIndex.toNat * pageLength.toNat + pageLength.toNat < 2 ^ 256) :
    getHoldsIdFor tokenHolder pageIndex pageLength msg state =
      if pageIndex.toNat * pageLength.toNat ≤ (state.holds.holdIdsByAccount tokenHolder).length then
        .ok (page (state.holds.holdIdsByAccount tokenHolder).values pageIndex.toNat
          pageLength.toNat, state)
      else .error (.panic .arithmetic) := by
  have startFits : pageIndex.toNat * pageLength.toNat < 2 ^ 256 := by omega
  have start : (arithmetic (Uint.checked (pageIndex.toNat * pageLength.toNat)) :
      FacetTx world Uint256) msg state = .ok (⟨_, startFits⟩, state) :=
    Tx.of_option_ok.mpr ⟨Uint.checked_eq_some.mpr (by simp), rfl⟩
  have pageEnd : (arithmetic (Uint.checked
      (((pageIndex.toNat * pageLength.toNat : Nat) : Int) + pageLength.toNat)) :
      FacetTx world Uint256) msg state = .ok (⟨_, fits⟩, state) :=
    Tx.of_option_ok.mpr ⟨Uint.checked_eq_some.mpr (by simp), rfl⟩
  have capped := cap_eq_min (state.holds.holdIdsByAccount tokenHolder) ⟨_, fits⟩
  rw [getHoldsIdFor, Tx.bind_of_ok (Tx.get_ok.mpr ⟨rfl, rfl⟩)]
  dsimp only
  rw [Tx.bind_of_ok start, Tx.bind_of_ok pageEnd]
  generalize cap (state.holds.holdIdsByAccount tokenHolder) ⟨_, fits⟩ = endIndex at capped ⊢
  dsimp only at capped ⊢
  split
  · next within =>
      have countFits : endIndex.toNat - pageIndex.toNat * pageLength.toNat < 2 ^ 256 :=
        Nat.lt_of_le_of_lt (Nat.sub_le _ _) endIndex.bound
      have count : (arithmetic (Uint.checked
          ((endIndex.toNat : Int) - ((pageIndex.toNat * pageLength.toNat : Nat) : Int))) :
          FacetTx world Uint256) msg state = .ok (⟨_, countFits⟩, state) :=
        Tx.of_option_ok.mpr ⟨Uint.checked_eq_some.mpr (Int.ofNat_sub (by omega)), rfl⟩
      have room : (state.holds.holdIdsByAccount tokenHolder).length =
        (state.holds.holdIdsByAccount tokenHolder).values.length := rfl
      have same : idsBetween (state.holds.holdIdsByAccount tokenHolder) ⟨_, startFits⟩ endIndex =
          page (state.holds.holdIdsByAccount tokenHolder).values pageIndex.toNat
            pageLength.toNat := by
        rw [idsBetween, page, List.take_eq_take_iff, List.length_drop]
        dsimp only
        omega
      rw [Tx.bind_of_ok count, loop_ok (by omega) (by dsimp only; omega) rfl, same]
  · next beyond =>
      rw [Tx.bind_error]
      refine Or.inl (Tx.of_option_error.mpr ⟨?_, rfl⟩)
      unfold Uint.checked
      rw [dif_neg]
      omega

end Page

/-- A page is cut from the ids as the listings of the resolver cut theirs. -/
structure LikeListing {world : Type} (msg : Msg) (state : State world) (tokenHolder : Address)
    (pageIndex pageLength : Uint256) : Prop where
  page : getHoldsIdFor tokenHolder pageIndex pageLength msg state =
    .ok (((state.holds.holdIdsByAccount tokenHolder).values.drop
      (pageIndex.toNat * pageLength.toNat)).take pageLength.toNat, state)
  shared : getHoldsIdFor tokenHolder pageIndex pageLength msg state =
    buildPaginated (state.holds.holdIdsByAccount tokenHolder).values pageIndex pageLength msg state

/-- It is so unless the page starts beyond the end of the list. -/
theorem like_listing_iff {world : Type} (msg : Msg) (state : State world) (tokenHolder : Address)
    (pageIndex pageLength : Uint256)
    (fits : pageIndex.toNat * pageLength.toNat + pageLength.toNat < 2 ^ 256) :
    LikeListing msg state tokenHolder pageIndex pageLength ↔
      pageIndex.toNat * pageLength.toNat ≤
        (state.holds.holdIdsByAccount tokenHolder).length := by
  have known := get_holds_id_for msg state tokenHolder pageIndex pageLength fits
  constructor
  · intro like
    by_contra beyond
    rw [if_neg beyond, like.page] at known
    cases known
  · intro within
    rw [if_pos within] at known
    refine ⟨known, ?_⟩
    rw [known]
    exact ((build_paginated _).page pageIndex pageLength fits).symm

theorem empty_first_page :
    LikeListing (sampleMsg 2 0) (deployed RolesStorage.empty (holderLedger 100)) 2 0
      ⟨10, by decide⟩ :=
  (like_listing_iff (sampleMsg 2 0) (deployed RolesStorage.empty (holderLedger 100)) 2 0
    ⟨10, by decide⟩ (by decide)).mpr (by decide)

/-- The second page of an account without holds. -/
theorem second_page_fails :
    getHoldsIdFor 2 ⟨1, by decide⟩ ⟨10, by decide⟩ (sampleMsg 2 0)
        (deployed RolesStorage.empty (holderLedger 100)) = .error (.panic .arithmetic) ∧
      ¬LikeListing (sampleMsg 2 0) (deployed RolesStorage.empty (holderLedger 100)) 2
        ⟨1, by decide⟩ ⟨10, by decide⟩ := by
  have failed : getHoldsIdFor 2 ⟨1, by decide⟩ ⟨10, by decide⟩ (sampleMsg 2 0)
      (deployed RolesStorage.empty (holderLedger 100)) = .error (.panic .arithmetic) := rfl
  refine ⟨failed, ?_⟩
  intro like
  have listed := like.page
  rw [failed] at listed
  cases listed

end StablecoinStudio.Token.HoldPages
