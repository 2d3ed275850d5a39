import StablecoinStudio.Core.Common
import StablecoinStudio.Foundation.Positions

/-!
# The set of selectors

`core/EnumerableSetBytes4.sol`: the values in an array, and for each value its
position in the array plus one.
-/

namespace StablecoinStudio.Core.EnumerableSetBytes4

open StablecoinStudio.Core.Common
open StablecoinStudio.Foundation.EnumerableSets
open StablecoinStudio.Foundation.Positions
open StablecoinStudio.Foundation.Transaction

set_option autoImplicit false

structure Bytes4Set where
  values : List Bytes4
  indexes : Bytes4 → Nat

def Bytes4Set.empty : Bytes4Set := ⟨[], fun _ => 0⟩

def contains (set : Bytes4Set) (value : Bytes4) : Bool := set.indexes value ≠ 0

def length (set : Bytes4Set) : Nat := set.values.length

abbrev SetTx := ContractTx Bytes4Set

def at_ (index : Nat) : SetTx Bytes4 := do
  let set ← Tx.get
  Tx.ofOption (.panic .arrayOutOfBounds) set.values[index]?

def add (value : Bytes4) : SetTx Bool := do
  let set ← Tx.get
  if contains set value then return false
  else
    Tx.modify fun set =>
      { values := set.values ++ [value]
        indexes := Function.update set.indexes value (set.values.length + 1) }
    return true

/-- Puts the last value in the place of the one that leaves. -/
def moveLast (toDeleteIndex valueIndex : Nat) : SetTx Unit := do
  let set ← Tx.get
  let lastIndex := set.values.length - 1
  if lastIndex ≠ toDeleteIndex then
    let lastValue ← at_ lastIndex
    Tx.require (toDeleteIndex < set.values.length) (.panic .arrayOutOfBounds)
    Tx.modify fun set =>
      { values := set.values.set toDeleteIndex lastValue
        indexes := Function.update set.indexes lastValue valueIndex }
  else pure ()

def remove (value : Bytes4) : SetTx Bool := do
  let set ← Tx.get
  let valueIndex := set.indexes value
  if valueIndex ≠ 0 then
    -- the index of the last value is computed in checked arithmetic
    Tx.require (set.values.length ≠ 0) (.panic .arithmetic)
    moveLast (valueIndex - 1) valueIndex
    Tx.modify fun set =>
      { values := set.values.dropLast
        indexes := Function.update set.indexes value 0 }
    return true
  else return false

/-! ## The set it stands for -/

def place (indexes : Bytes4 → Nat) (value : Bytes4) : Option Nat :=
  if indexes value = 0 then none else some (indexes value - 1)

def Indexed (set : Bytes4Set) : Prop := Positioned set.values (place set.indexes)

theorem indexed_empty : Indexed Bytes4Set.empty := Positioned.empty

variable {environment : Msg} {before after : Bytes4Set} {value : Bytes4} {result : Bool}

theorem contains_iff {set : Bytes4Set} :
    contains set value = true ↔ place set.indexes value ≠ none := by
  by_cases zero : set.indexes value = 0
  · simp [contains, place, zero]
  · simp [contains, place, zero]

theorem place_some {indexes : Bytes4 → Nat} {position : Nat}
    (stands : place indexes value = some position) : indexes value = position + 1 := by
  unfold place at stands
  split at stands
  · cases stands
  · have found := Option.some.inj stands
    omega

theorem place_update (indexes : Bytes4 → Nat) (value : Bytes4) (index : Nat) :
    place (Function.update indexes value index) =
      Function.update (place indexes) value (if index = 0 then none else some (index - 1)) := by
  funext other
  by_cases own : other = value
  · subst own
    simp [place]
  · simp [place, own]

theorem add_ok :
    add value environment before = .ok (result, after) ↔
      result = !contains before value ∧
        after =
          if contains before value then before
          else ⟨before.values ++ [value],
            Function.update before.indexes value (before.values.length + 1)⟩ := by
  simp only [add, Tx.bind_ok, Tx.get_ok, and_assoc, exists_and_left, exists_eq_left']
  by_cases present : contains before value = true
  · simp only [present, if_true, Tx.pure_ok, Bool.not_true]
    exact and_congr eq_comm eq_comm
  · simp only [present, Bool.false_eq_true, if_false, Tx.bind_ok, Tx.modify_ok, Tx.pure_ok]
    constructor
    · rintro ⟨_, _, rfl, rfl, rfl⟩
      simp
    · rintro ⟨rfl, rfl⟩
      simp

theorem indexed_add (indexed : Indexed before)
    (committed : add value environment before = .ok (result, after)) : Indexed after := by
  obtain ⟨_, rfl⟩ := add_ok.mp committed
  split
  · exact indexed
  · next absent =>
      have free : place before.indexes value = none := by
        by_contra present
        exact absent (contains_iff.mpr present)
      have pushed := indexed.push free
      rw [Indexed, place_update]
      exact pushed

theorem contains_add (committed : add value environment before = .ok (result, after))
    (other : Bytes4) : contains after other = (contains before other || decide (other = value)) := by
  obtain ⟨_, rfl⟩ := add_ok.mp committed
  split
  · next present =>
      by_cases own : other = value
      · subst own
        simp [present]
      · simp [own]
  · by_cases own : other = value
    · subst own
      simp [contains]
    · simp [contains, own]

theorem move_last_ok {position valueIndex : Nat} {last : Bytes4} {result : Unit}
    (inside : position < before.values.length) (final : before.values.getLast? = some last)
    (lastIndexed : before.indexes last = before.values.length)
    (index : valueIndex = position + 1) :
    moveLast position valueIndex environment before = .ok (result, after) ↔
      after = ⟨before.values.set position last, Function.update before.indexes last valueIndex⟩ := by
  have lastHeld : before.values[before.values.length - 1]? = some last := by
    rw [← List.getLast?_eq_getElem?]
    exact final
  simp only [moveLast, Tx.bind_ok, Tx.get_ok, and_assoc, exists_and_left, exists_eq_left']
  by_cases atEnd : before.values.length - 1 = position
  · subst atEnd
    have sameIndex : valueIndex = before.indexes last := by omega
    simp only [ne_eq, not_true_eq_false, if_false, Tx.pure_ok, true_and, set_last final, sameIndex,
      Function.update_eq_self]
    exact eq_comm
  · simp only [ne_eq, atEnd, not_false_eq_true, if_true, at_, Tx.bind_ok, Tx.get_ok,
      Tx.of_option_ok, lastHeld, Tx.require_ok, Tx.modify_ok, Option.some.injEq, and_assoc,
      exists_and_left, exists_eq_left', exists_const]
    constructor
    · rintro ⟨_, same⟩
      exact same.symm
    · rintro rfl
      exact ⟨inside, rfl⟩

/-- Removing a value that is there swaps the last value into its place. -/
theorem remove_present {position : Nat} {last : Bytes4} (indexed : Indexed before)
    (present : place before.indexes value = some position)
    (final : before.values.getLast? = some last)
    (committed : remove value environment before = .ok (result, after)) :
    after.values = swapRemove before.values position ∧
      place after.indexes =
        Function.update (Function.update (place before.indexes) last (some position)) value none := by
  have valueIndex := place_some present
  have lastIndex := place_some (indexed.last_place final)
  have inside : position < before.values.length :=
    (List.getElem?_eq_some_iff.mp ((indexed _ _).mpr present)).1
  have isSet : before.indexes value ≠ 0 := by omega
  simp only [remove, Tx.bind_ok, Tx.get_ok, and_assoc, exists_and_left, exists_eq_left',
    if_pos isSet, Tx.require_ok, Tx.modify_ok, Tx.pure_ok, exists_const] at committed
  obtain ⟨_, _, moved, shifted, _, rfl⟩ := committed
  obtain rfl := (move_last_ok (by omega) final (by omega) (by omega)).mp shifted
  constructor
  · rw [swapRemove, final, valueIndex]
    rfl
  · rw [place_update, place_update, valueIndex]
    simp

theorem remove_absent (absent : contains before value = false)
    (committed : remove value environment before = .ok (result, after)) : after = before := by
  have zero : before.indexes value = 0 := by simpa [contains] using absent
  simp only [remove, Tx.bind_ok, Tx.get_ok, and_assoc, exists_and_left, exists_eq_left', zero,
    ne_eq, not_true_eq_false, if_false, Tx.pure_ok] at committed
  exact committed.2.symm

theorem exists_last {position : Nat} (indexed : Indexed before)
    (stands : place before.indexes value = some position) :
    ∃ last, before.values.getLast? = some last := by
  have held := (indexed _ _).mpr stands
  rw [← Option.isSome_iff_exists, List.getLast?_isSome]
  rintro none_
  simp [none_] at held

theorem remove_effect (indexed : Indexed before)
    (committed : remove value environment before = .ok (result, after)) :
    Indexed after ∧
      ∀ other, contains after other = (contains before other && decide (other ≠ value)) := by
  by_cases present : contains before value = true
  · obtain ⟨position, stands⟩ := Option.ne_none_iff_exists'.mp (contains_iff.mp present)
    obtain ⟨last, final⟩ := exists_last indexed stands
    obtain ⟨values, places⟩ := remove_present indexed stands final committed
    constructor
    · rw [Indexed, values, places]
      exact indexed.swap_remove stands final
    · intro other
      apply Bool.eq_iff_iff.mpr
      rw [contains_iff, places, Bool.and_eq_true, contains_iff, decide_eq_true_eq]
      by_cases own : other = value
      · subst own
        simp
      · rw [Function.update_of_ne own]
        by_cases moved : other = last
        · subst moved
          simp [own, indexed.last_place final]
        · simp [own, moved]
  · have absent : contains before value = false := by simpa using present
    obtain rfl := remove_absent absent committed
    refine ⟨indexed, ?_⟩
    intro other
    by_cases own : other = value
    · subst own
      simp [absent]
    · simp [own]

/-! ## What the calls answer -/

structure Consistent (set : Bytes4Set) : Prop where
  nodup : set.values.Nodup
  index_iff : ∀ value position,
    set.indexes value = position + 1 ↔ set.values[position]? = some value
  absent_iff : ∀ value, set.indexes value = 0 ↔ value ∉ set.values

/-- The call commits and answers whether anybody's membership changes. -/
def AnswersChange (call : SetTx Bool) (set : Bytes4Set) : Prop :=
  ∀ environment, ∃ result after, call environment set = .ok (result, after) ∧
    (result = true ↔ ∃ other, contains after other ≠ contains set other)

theorem contains_iff_mem {set : Bytes4Set} (indexed : Indexed set) :
    contains set value = true ↔ value ∈ set.values := by
  rw [contains_iff]
  exact indexed.mem_iff.symm

theorem consistent_of_indexed {set : Bytes4Set} (indexed : Indexed set) : Consistent set where
  nodup := indexed.nodup
  index_iff := by
    intro value position
    rw [indexed position value]
    constructor
    · intro index
      have isSet : set.indexes value ≠ 0 := by omega
      rw [place, if_neg isSet, index, Nat.add_sub_cancel]
    · exact place_some
  absent_iff := by
    intro value
    rw [← contains_iff_mem indexed, contains, decide_eq_true_eq, not_not]

theorem add_commits (environment : Msg) (before : Bytes4Set) (value : Bytes4) :
    ∃ after, add value environment before = .ok (!contains before value, after) :=
  ⟨_, add_ok.mpr ⟨rfl, rfl⟩⟩

/-- With the indexes in order nothing is read or written out of bounds. -/
theorem remove_commits (environment : Msg) (value : Bytes4) (indexed : Indexed before) :
    ∃ after, remove value environment before = .ok (contains before value, after) := by
  by_cases isSet : before.indexes value = 0
  · refine ⟨before, ?_⟩
    simp [remove, Tx.bind_ok, isSet, contains]
  · have present : contains before value = true := by simp [contains, isSet]
    obtain ⟨position, stands⟩ := Option.ne_none_iff_exists'.mp (contains_iff.mp present)
    obtain ⟨last, final⟩ := exists_last indexed stands
    have valueIndex := place_some stands
    have lastIndex := place_some (indexed.last_place final)
    have inside : position < before.values.length :=
      (List.getElem?_eq_some_iff.mp ((indexed _ _).mpr stands)).1
    have nonempty : before.values.length ≠ 0 := by omega
    have moved : moveLast (before.indexes value - 1) (before.indexes value) environment before =
        .ok ((), ⟨before.values.set (before.indexes value - 1) last,
          Function.update before.indexes last (before.indexes value)⟩) :=
      (move_last_ok (by omega) final (by omega) (by omega)).mpr rfl
    have removed : ∃ after, remove value environment before = .ok (true, after) := by
      simp only [remove, Tx.bind_ok, Tx.get_ok, and_assoc, exists_and_left, exists_eq_left',
        ne_eq, isSet, not_false_eq_true, if_true, Tx.require_ok, Tx.modify_ok, Tx.pure_ok,
        exists_const, nonempty]
      exact ⟨trivial, _, (), _, moved, trivial, rfl⟩
    rw [present]
    exact removed

/-- A call that can only change one value answers whether it does. -/
theorem changes_iff_own (elsewhere : ∀ other, other ≠ value →
      contains after other = contains before other) :
    (∃ other, contains after other ≠ contains before other) ↔
      contains after value ≠ contains before value := by
  constructor
  · intro changed
    obtain ⟨other, differs⟩ := changed
    by_cases own : other = value
    · rw [← own]
      exact differs
    · exact absurd (elsewhere other own) differs
  · intro differs
    exact ⟨value, differs⟩

theorem answers_add (set : Bytes4Set) : AnswersChange (add value) set := by
  intro environment
  obtain ⟨after, committed⟩ := add_commits environment set value
  have elsewhere : ∀ other, other ≠ value → contains after other = contains set other := by
    intro other own
    simp [contains_add committed, own]
  refine ⟨_, after, committed, ?_⟩
  rw [changes_iff_own elsewhere, contains_add committed]
  cases contains set value with
  | true => simp
  | false => simp

theorem answers_remove {set : Bytes4Set} (indexed : Indexed set) :
    AnswersChange (remove value) set := by
  intro environment
  obtain ⟨after, committed⟩ := remove_commits environment value indexed
  have effect := (remove_effect indexed committed).2
  have elsewhere : ∀ other, other ≠ value → contains after other = contains set other := by
    intro other own
    simp [effect, own]
  refine ⟨_, after, committed, ?_⟩
  rw [changes_iff_own elsewhere, effect]
  cases contains set value with
  | true => simp
  | false => simp

end StablecoinStudio.Core.EnumerableSetBytes4
