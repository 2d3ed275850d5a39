import StablecoinStudio.Core.EnumerableSetBytes4
import StablecoinStudio.Foundation.CountedLoops
import StablecoinStudio.Foundation.Pages

/-!
# Pages of the listings

`core/LibCommon.sol`, and the loops that the listings of the resolver run over
one page. An array in memory is a list that is created with zeros; reading or
writing beyond its end is a panic. Memory and gas have no limit here.
-/

namespace StablecoinStudio.Core.LibCommon

open StablecoinStudio.Core.Common
open StablecoinStudio.Core.EnumerableSetBytes4
open StablecoinStudio.Foundation.CheckedInt
open StablecoinStudio.Foundation.CountedLoops
open StablecoinStudio.Foundation.Pages
open StablecoinStudio.Foundation.Transaction

set_option autoImplicit false

variable {state item : Type}

/-- `array[index]` -/
def load (array : List item) (index : Uint256) : ContractTx state item :=
  Tx.ofOption (.panic .arrayOutOfBounds) array[index.toNat]?

/-- `array[index] = value` -/
def store (array : List item) (index : Uint256) (value : item) : ContractTx state (List item) := do
  Tx.require (index.toNat < array.length) (.panic .arrayOutOfBounds)
  return array.set index.toNat value

def getStartAndEnd (pageIndex pageLength : Uint256) : ContractTx state (Uint256 × Uint256) := do
  let start ← arithmetic (Uint.checked (pageIndex.toNat * pageLength.toNat))
  let end_ ← arithmetic (Uint.checked (start.toNat + pageLength.toNat))
  return (start, end_)

def getSize (start end_ : Uint256) (listCount : Nat) : ContractTx state Uint256 :=
  if start.toNat ≥ end_.toNat then return 0
  else if start.toNat ≥ listCount then return 0
  else
    let end_ := if end_.toNat > listCount then listCount else end_.toNat
    arithmetic (Uint.checked (end_ - start.toNat))

section Loops

variable (read : Uint256 → ContractTx state item)

/-- A round of a loop with one counter. -/
def roundByIndex (start index : Uint256) (page : List item) : ContractTx state (List item) := do
  let position ← arithmetic (Uint.checked (start.toNat + index.toNat))
  let value ← read position
  store page index value

/-- A round of a loop that increments `index` and `start` together. -/
def roundByStart (index : Uint256) (carried : Uint256 × List item) :
    ContractTx state (Uint256 × List item) := do
  let (start, page) := carried
  let value ← read start
  let page ← store page index value
  return (increment start, page)

variable [Inhabited item] (start size : Uint256)

def fillByIndex : ContractTx state (List item) :=
  countUp size (roundByIndex read start) 0 (List.replicate size.toNat default)

def fillByStart : ContractTx state (List item) := do
  let (_, page) ← countUp size (roundByStart read) 0 (start, List.replicate size.toNat default)
  return page

end Loops

def getFromSet (pageIndex pageLength : Uint256) : SetTx (List Bytes4) := do
  let set ← Tx.get
  let listCount := EnumerableSetBytes4.length set
  let (start, end_) ← getStartAndEnd pageIndex pageLength
  let size ← getSize start end_ listCount
  fillByIndex (fun position => at_ position.toNat) start size

/-! ## The bounds of a page -/

section Bounds

variable {msg : Msg} {before : state} {pageIndex pageLength start end_ : Uint256}

theorem load_ok {array : List item} {index : Uint256} (inside : index.toNat < array.length) :
    load array index msg before = .ok (array[index.toNat], before) :=
  Tx.of_option_ok.mpr ⟨List.getElem?_eq_getElem inside, rfl⟩

theorem store_ok {array : List item} {index : Uint256} {value : item}
    (inside : index.toNat < array.length) :
    store array index value msg before = .ok (array.set index.toNat value, before) := by
  have checked : (Tx.require (index.toNat < array.length) (.panic .arrayOutOfBounds) :
      ContractTx state Unit) msg before = .ok ((), before) := Tx.require_ok.mpr ⟨inside, rfl⟩
  rw [store, Tx.bind_of_ok checked]
  rfl

theorem get_start_and_end_ok (before : state)
    (fits : pageIndex.toNat * pageLength.toNat + pageLength.toNat < 2 ^ 256) :
    ∃ start end_ : Uint256,
      getStartAndEnd pageIndex pageLength msg before = .ok ((start, end_), before) ∧
        start.toNat = pageIndex.toNat * pageLength.toNat ∧
        end_.toNat = pageIndex.toNat * pageLength.toNat + pageLength.toNat := by
  have startFits : pageIndex.toNat * pageLength.toNat < 2 ^ 256 := by omega
  refine ⟨⟨_, startFits⟩, ⟨_, fits⟩, ?_, rfl, rfl⟩
  have first : (arithmetic (Uint.checked (pageIndex.toNat * pageLength.toNat)) :
      ContractTx state Uint256) msg before = .ok (⟨_, startFits⟩, before) :=
    Tx.of_option_ok.mpr ⟨Uint.checked_eq_some.mpr (by simp), rfl⟩
  have second : (arithmetic (Uint.checked
      (((pageIndex.toNat * pageLength.toNat : Nat) : Int) + pageLength.toNat)) :
      ContractTx state Uint256) msg before = .ok (⟨_, fits⟩, before) :=
    Tx.of_option_ok.mpr ⟨Uint.checked_eq_some.mpr (by simp), rfl⟩
  rw [getStartAndEnd, Tx.bind_of_ok first, Tx.bind_of_ok second]
  rfl

theorem get_size_ok (before : state) (listCount : Nat) (ordered : start.toNat ≤ end_.toNat) :
    ∃ size : Uint256, getSize start end_ listCount msg before = .ok (size, before) ∧
      size.toNat = min (end_.toNat - start.toNat) (listCount - start.toNat) := by
  have endFits := end_.bound
  unfold getSize
  split
  · exact ⟨0, rfl, by rw [Uint.to_nat_zero]; omega⟩
  · split
    · exact ⟨0, rfl, by rw [Uint.to_nat_zero]; omega⟩
    · dsimp only
      generalize last : (if end_.toNat > listCount then listCount else end_.toNat) = lastItem
      have least : lastItem = min end_.toNat listCount := by
        rw [← last]
        split <;> omega
      refine ⟨⟨lastItem - start.toNat, by omega⟩,
        Tx.of_option_ok.mpr ⟨Uint.checked_eq_some.mpr ?_, rfl⟩, ?_⟩
      · dsimp only
        omega
      · dsimp only
        omega

end Bounds

/-! ## The loops -/

section Filling

variable {msg : Msg} {before : state} {read : Uint256 → ContractTx state item}
  {items array : List item} {pageIndex pageLength start size index current : Uint256}

def Reads (msg : Msg) (before : state) (read : Uint256 → ContractTx state item)
    (items : List item) : Prop :=
  ∀ (word : Uint256) (inside : word.toNat < items.length),
    read word msg before = .ok (items[word.toNat], before)

structure Bounds (items : List item) (pageIndex pageLength start size : Uint256) : Prop where
  fits : pageIndex.toNat * pageLength.toNat + pageLength.toNat < 2 ^ 256
  start : start.toNat = pageIndex.toNat * pageLength.toNat
  size : size.toNat = (page items pageIndex.toNat pageLength.toNat).length

theorem Bounds.short (bounds : Bounds items pageIndex pageLength start size) :
    start.toNat + size.toNat < 2 ^ 256 := by
  have room := bounds.fits
  have least : size.toNat ≤ pageLength.toNat := by
    rw [bounds.size, length_page]
    exact Nat.min_le_left _ _
  rw [bounds.start]
  omega

theorem Bounds.inside (bounds : Bounds items pageIndex pageLength start size)
    (below : index.toNat < size.toNat) :
    index.toNat < (page items pageIndex.toNat pageLength.toNat).length := by
  rw [← bounds.size]
  exact below

theorem Reads.on_page (reads : Reads msg before read items)
    (bounds : Bounds items pageIndex pageLength start size) {position : Nat}
    (inside : position < (page items pageIndex.toNat pageLength.toNat).length) {word : Uint256}
    (stands : word.toNat = start.toNat + position) :
    read word msg before =
      .ok ((page items pageIndex.toNat pageLength.toNat)[position], before) := by
  have found := get_page inside
  rw [← bounds.start, ← stands] at found
  obtain ⟨listed, same⟩ := List.getElem?_eq_some_iff.mp found
  rw [reads word listed, same]

theorem round_by_index (reads : Reads msg before read items)
    (bounds : Bounds items pageIndex pageLength start size) (below : index.toNat < size.toNat)
    (written : Written (page items pageIndex.toNat pageLength.toNat) array index.toNat) :
    ∃ next, roundByIndex read start index array msg before = .ok (next, before) ∧
      Written (page items pageIndex.toNat pageLength.toNat) next (index.toNat + 1) := by
  have inside := bounds.inside below
  have short := bounds.short
  have fits : start.toNat + index.toNat < 2 ^ 256 := by omega
  have position : (arithmetic (Uint.checked ((start.toNat : Int) + index.toNat)) :
      ContractTx state Uint256) msg before = .ok (⟨_, fits⟩, before) :=
    Tx.of_option_ok.mpr ⟨Uint.checked_eq_some.mpr (by simp), rfl⟩
  refine ⟨_, ?_, written.write inside⟩
  rw [roundByIndex, Tx.bind_of_ok position, Tx.bind_of_ok (reads.on_page bounds inside rfl)]
  apply store_ok
  rw [written.length]
  exact inside

theorem round_by_start (reads : Reads msg before read items)
    (bounds : Bounds items pageIndex pageLength start size) (below : index.toNat < size.toNat)
    (stands : current.toNat = start.toNat + index.toNat)
    (written : Written (page items pageIndex.toNat pageLength.toNat) array index.toNat) :
    ∃ next, roundByStart read index (current, array) msg before =
        .ok ((increment current, next), before) ∧
      Written (page items pageIndex.toNat pageLength.toNat) next (index.toNat + 1) := by
  have inside := bounds.inside below
  have room : index.toNat < array.length := by
    rw [written.length]
    exact inside
  refine ⟨_, ?_, written.write inside⟩
  rw [roundByStart, Tx.bind_of_ok (reads.on_page bounds inside stands),
    Tx.bind_of_ok (store_ok room)]
  rfl

/-- A listing that computes the bounds and runs a loop that fills the page. -/
theorem listed {fill : Uint256 → Uint256 → ContractTx state (List item)} {listCount : Nat}
    (count : listCount = items.length)
    (filled : ∀ start size, Bounds items pageIndex pageLength start size →
      fill start size msg before = .ok (page items pageIndex.toNat pageLength.toNat, before))
    (fits : pageIndex.toNat * pageLength.toNat + pageLength.toNat < 2 ^ 256) :
    (do
      let (start, end_) ← getStartAndEnd pageIndex pageLength
      let size ← getSize start end_ listCount
      fill start size : ContractTx state (List item)) msg before =
        .ok (page items pageIndex.toNat pageLength.toNat, before) := by
  obtain ⟨start, end_, bounded, startIs, endIs⟩ :=
    get_start_and_end_ok before fits
  subst count
  obtain ⟨size, sized, sizeIs⟩ :=
    get_size_ok before items.length (by omega : start.toNat ≤ end_.toNat)
  rw [Tx.bind_of_ok bounded]
  dsimp only
  rw [Tx.bind_of_ok sized]
  apply filled
  refine ⟨fits, startIs, ?_⟩
  rw [sizeIs, length_page, endIs, startIs, Nat.add_sub_cancel_left]

variable [Inhabited item]

theorem fill_by_index (reads : Reads msg before read items)
    (bounds : Bounds items pageIndex pageLength start size) :
    fillByIndex read start size msg before =
      .ok (page items pageIndex.toNat pageLength.toNat, before) := by
  let invariant (count : Nat) (array : List item) : Prop :=
    Written (page items pageIndex.toNat pageLength.toNat) array count
  have keeps : Keeps msg before size (roundByIndex read start) invariant 0 :=
    fun _ _ _ below written => round_by_index reads bounds below written
  have zeros : Written (page items pageIndex.toNat pageLength.toNat)
      (List.replicate size.toNat default) 0 := by
    rw [bounds.size]
    exact Written.start default
  obtain ⟨result, committed, written⟩ := count_up_ok invariant 0 keeps (Nat.zero_le _) zeros
  rw [bounds.size] at written
  rw [fillByIndex, committed, written.done]

theorem fill_by_start (reads : Reads msg before read items)
    (bounds : Bounds items pageIndex pageLength start size) :
    fillByStart read start size msg before =
      .ok (page items pageIndex.toNat pageLength.toNat, before) := by
  have short := bounds.short
  let invariant (count : Nat) (carried : Uint256 × List item) : Prop :=
    carried.1.toNat = start.toNat + count ∧
      Written (page items pageIndex.toNat pageLength.toNat) carried.2 count
  have keeps : Keeps msg before size (roundByStart read) invariant 0 := by
    intro index carried _ below holds
    obtain ⟨current, array⟩ := carried
    obtain ⟨stands, written⟩ := holds
    obtain ⟨next, committed, later⟩ := round_by_start reads bounds below stands written
    have room : (current.toNat + 1) % 2 ^ 256 = current.toNat + 1 := by
      apply Nat.mod_eq_of_lt
      dsimp only at stands
      omega
    refine ⟨_, committed, ?_, later⟩
    change (current.toNat + 1) % 2 ^ 256 = start.toNat + (index.toNat + 1)
    rw [room, stands, Nat.add_assoc]
  have zeros : Written (page items pageIndex.toNat pageLength.toNat)
      (List.replicate size.toNat default) 0 := by
    rw [bounds.size]
    exact Written.start default
  obtain ⟨⟨last, result⟩, committed, _, written⟩ :=
    count_up_ok invariant 0 keeps (Nat.zero_le _)
      (show invariant 0 (start, List.replicate size.toNat default) from ⟨rfl, zeros⟩)
  rw [bounds.size] at written
  obtain rfl : result = page items pageIndex.toNat pageLength.toNat := written.done
  rw [fillByStart, Tx.bind_of_ok committed]
  rfl

end Filling

end StablecoinStudio.Core.LibCommon
