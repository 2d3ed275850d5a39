import Mathlib.Algebra.BigOperators.Group.List.Basic
import Mathlib.Algebra.BigOperators.Group.Finset.Basic
import Mathlib.Data.List.Nodup
import Mathlib.Data.List.Perm.Basic

/-!
# Sets kept as duplicate-free lists

A list that loses an item by moving its last item into the gap, and the
enumerable set built on it: the set carries the proof that no item occurs
twice, so adding and removing report exactly whether membership changed.
-/

namespace StablecoinStudio.Foundation.EnumerableSets

set_option autoImplicit false

variable {α : Type}

/-- Moves the last item to `index` and drops the last place. -/
def swapRemove (items : List α) (index : Nat) : List α :=
  match items.getLast? with
  | some last => (items.set index last).dropLast
  | none => []

theorem set_last {items : List α} {last : α} (final : items.getLast? = some last) :
    items.set (items.length - 1) last = items := by
  apply List.ext_getElem?
  intro place
  rw [List.getElem?_set]
  split
  · next same =>
      rw [List.getLast?_eq_getElem?] at final
      have inside := (List.getElem?_eq_some_iff.mp final).1
      rw [if_pos inside, ← same, final]
  · rfl

/-- Up to order, the list loses exactly the item at the position. -/
theorem swap_remove_perm (items : List α) (index : Nat) (inside : index < items.length) :
    items.Perm (items[index] :: swapRemove items index) := by
  obtain ⟨front, last, rfl⟩ : ∃ front last, items = front ++ [last] := by
    refine ⟨items.dropLast, items.getLast (by rintro rfl; simp at inside), ?_⟩
    exact (List.dropLast_append_getLast _).symm
  simp only [swapRemove, List.getLast?_concat]
  by_cases atEnd : index = front.length
  · subst atEnd
    simp only [List.getElem_concat_length, List.set_append, Nat.lt_irrefl, ↓reduceIte,
      Nat.sub_self, List.set_cons_zero, List.dropLast_concat]
    exact List.perm_append_singleton last front
  · have earlier : index < front.length := by
      simp only [List.length_append, List.length_cons, List.length_nil] at inside
      omega
    simp only [List.set_append, earlier, ↓reduceIte, List.dropLast_concat,
      List.getElem_append_left earlier]
    refine (List.perm_append_singleton last front).trans ?_
    -- the moved item takes the place of the removed one
    have split : front = front.take index ++ front[index] :: front.drop (index + 1) := by
      rw [List.getElem_cons_drop, List.take_append_drop]
    rw [List.set_eq_take_append_cons_drop, if_pos earlier]
    conv_lhs => rw [split]
    refine (List.Perm.cons last List.perm_middle).trans ?_
    refine (List.Perm.swap _ _ _).trans ?_
    exact List.Perm.cons _ List.perm_middle.symm

/-- A set enumerated by a list without duplicates. -/
structure EnumerableSet (α : Type) where
  values : List α
  nodup : values.Nodup

namespace EnumerableSet

instance : Membership α (EnumerableSet α) := ⟨fun set value => value ∈ set.values⟩

instance : EmptyCollection (EnumerableSet α) := ⟨⟨[], List.nodup_nil⟩⟩

instance : Inhabited (EnumerableSet α) := ⟨∅⟩

theorem mem_values {set : EnumerableSet α} {value : α} : value ∈ set.values ↔ value ∈ set := Iff.rfl

@[simp] theorem not_mem_empty (value : α) : value ∉ (∅ : EnumerableSet α) := List.not_mem_nil

@[simp] theorem values_empty : (∅ : EnumerableSet α).values = [] := rfl

variable [DecidableEq α]

instance (set : EnumerableSet α) (value : α) : Decidable (value ∈ set) :=
  inferInstanceAs (Decidable (value ∈ set.values))

def length (set : EnumerableSet α) : Nat := set.values.length

/-- Adds a value; the flag tells whether it was new. -/
def add (set : EnumerableSet α) (value : α) : Bool × EnumerableSet α :=
  if present : value ∈ set.values then (false, set)
  else (true, ⟨set.values ++ [value], List.nodup_append_comm.mp (by
    simpa using ⟨present, set.nodup⟩)⟩)

/-- Removes a value by swap and pop; the flag tells whether it was there. -/
def remove (set : EnumerableSet α) (value : α) : Bool × EnumerableSet α :=
  if present : value ∈ set.values then
    (true, ⟨swapRemove set.values (set.values.idxOf value), by
      have inside := List.idxOf_lt_length_of_mem present
      have shuffled := swap_remove_perm set.values _ inside
      exact (List.nodup_cons.mp (shuffled.nodup_iff.mp set.nodup)).2⟩)
  else (false, set)

theorem add_of_not_mem {set : EnumerableSet α} {value : α} (absent : value ∉ set) :
    (set.add value).1 = true ∧ (set.add value).2.values = set.values ++ [value] := by
  simp [add, show value ∉ set.values from absent]

theorem remove_of_mem {set : EnumerableSet α} {value : α} (present : value ∈ set) :
    (set.remove value).1 = true ∧
      set.values.Perm (value :: (set.remove value).2.values) := by
  have listed : value ∈ set.values := present
  have inside := List.idxOf_lt_length_of_mem listed
  have shuffled := swap_remove_perm set.values _ inside
  rw [List.getElem_idxOf inside] at shuffled
  simp [remove, listed, shuffled]

theorem mem_add {set : EnumerableSet α} {value other : α} :
    other ∈ (set.add value).2 ↔ other = value ∨ other ∈ set := by
  by_cases present : value ∈ set
  · have unchanged : (set.add value).2 = set := by
      simp [add, show value ∈ set.values from present]
    rw [unchanged]
    constructor
    · exact Or.inr
    · rintro (rfl | member)
      · exact present
      · exact member
  · rw [← mem_values, (add_of_not_mem present).2]
    simp [mem_values, or_comm]

theorem mem_remove {set : EnumerableSet α} {value other : α} :
    other ∈ (set.remove value).2 ↔ other ∈ set ∧ other ≠ value := by
  by_cases present : value ∈ set
  · have shuffled := (remove_of_mem present).2
    have fresh := (List.nodup_cons.mp (shuffled.nodup_iff.mp set.nodup)).1
    have listed : other ∈ set ↔ other = value ∨ other ∈ (set.remove value).2 := by
      rw [← mem_values, shuffled.mem_iff, List.mem_cons, mem_values]
    rw [listed]
    constructor
    · intro member
      refine ⟨Or.inr member, ?_⟩
      rintro rfl
      exact fresh member
    · rintro ⟨rfl | member, different⟩
      · exact (different rfl).elim
      · exact member
  · have unchanged : (set.remove value).2 = set := by
      simp [remove, show value ∉ set.values from present]
    rw [unchanged]
    constructor
    · intro member
      refine ⟨member, ?_⟩
      rintro rfl
      exact present member
    · exact And.left

end EnumerableSet

/-! ## Sums that change in one place -/

section Sums

variable {β : Type} [AddCommMonoid β] {first second : α → β} {value : α}

theorem sum_congr_of_not_mem {values : List α} (absent : value ∉ values)
    (same : ∀ other, other ≠ value → second other = first other) :
    (values.map second).sum = (values.map first).sum := by
  have pointwise : values.map second = values.map first := by
    apply List.map_congr_left
    intro other member
    apply same
    rintro rfl
    exact absent member
  rw [pointwise]

variable [DecidableEq α]

theorem EnumerableSet.sum_add {set : EnumerableSet α} (absent : value ∉ set)
    (same : ∀ other, other ≠ value → second other = first other) :
    ((set.add value).2.values.map second).sum = (set.values.map first).sum + second value := by
  rw [(add_of_not_mem absent).2, List.map_append, List.sum_append,
    sum_congr_of_not_mem absent same]
  simp

theorem EnumerableSet.sum_remove {set : EnumerableSet α} (present : value ∈ set)
    (same : ∀ other, other ≠ value → second other = first other) :
    ((set.remove value).2.values.map second).sum + first value = (set.values.map first).sum := by
  have shuffled := (remove_of_mem present).2
  have fresh : value ∉ (set.remove value).2.values :=
    (List.nodup_cons.mp (shuffled.nodup_iff.mp set.nodup)).1
  rw [(shuffled.map first).sum_eq, List.map_cons, List.sum_cons,
    sum_congr_of_not_mem fresh same, add_comm]

theorem EnumerableSet.sum_change {set : EnumerableSet α} (present : value ∈ set)
    (same : ∀ other, other ≠ value → second other = first other) :
    (set.values.map second).sum + first value = (set.values.map first).sum + second value := by
  have shuffled := (remove_of_mem present).2
  rw [← sum_remove present same, (shuffled.map second).sum_eq, List.map_cons, List.sum_cons,
    add_comm (second value), add_right_comm]

theorem sum_univ_change [Fintype α] (same : ∀ other, other ≠ value → second other = first other) :
    ∑ item, second item + first value = ∑ item, first item + second value := by
  rw [← Finset.add_sum_erase _ second (Finset.mem_univ value),
    ← Finset.add_sum_erase _ first (Finset.mem_univ value)]
  have rest : ∑ item ∈ Finset.univ.erase value, second item =
      ∑ item ∈ Finset.univ.erase value, first item := by
    apply Finset.sum_congr rfl
    intro other member
    exact same other (Finset.ne_of_mem_erase member)
  rw [rest, add_right_comm, add_comm (second value), add_right_comm]

end Sums

end StablecoinStudio.Foundation.EnumerableSets
