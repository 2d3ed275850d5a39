import StablecoinStudio.Foundation.EnumerableSets
import Mathlib.Logic.Function.Basic

/-!
# Lists with an inverse table

A list of values next to a table that knows for every value the one place
where it stands. Pushing a new value and swapping the last value into the
place of one that leaves keep the two in step.
-/

namespace StablecoinStudio.Foundation.Positions

open StablecoinStudio.Foundation.EnumerableSets

set_option autoImplicit false

variable {α : Type}

/-- The table is the inverse of the list. -/
def Positioned (values : List α) (position : α → Option Nat) : Prop :=
  ∀ index value, values[index]? = some value ↔ position value = some index

namespace Positioned

variable {values : List α} {position : α → Option Nat} {value last : α} {index : Nat}

theorem empty : Positioned ([] : List α) fun _ => none := by
  intro index value
  simp

theorem mem_iff (placed : Positioned values position) : value ∈ values ↔ position value ≠ none := by
  rw [List.mem_iff_getElem?, Option.ne_none_iff_exists']
  constructor
  · intro member
    obtain ⟨place, found⟩ := member
    exact ⟨place, (placed place value).mp found⟩
  · intro present
    obtain ⟨place, found⟩ := present
    exact ⟨place, (placed place value).mpr found⟩

theorem place_unique (placed : Positioned values position) {first second : Nat}
    (atFirst : values[first]? = some value) (atSecond : values[second]? = some value) :
    first = second := by
  have firstPlace := (placed first value).mp atFirst
  have secondPlace := (placed second value).mp atSecond
  exact Option.some.inj (firstPlace.symm.trans secondPlace)

theorem nodup (placed : Positioned values position) : values.Nodup := by
  rw [List.nodup_iff_getElem?_ne_getElem?]
  intro first second earlier inside same
  rw [List.getElem?_eq_getElem inside] at same
  have apart := placed.place_unique same (List.getElem?_eq_getElem inside)
  omega

theorem push [DecidableEq α] (placed : Positioned values position)
    (absent : position value = none) :
    Positioned (values ++ [value]) (Function.update position value (some values.length)) := by
  intro place other
  have inside := placed place other
  by_cases own : other = value
  · subst own
    rw [Function.update_self, Option.some.injEq]
    rcases Nat.lt_trichotomy place values.length with before | rfl | after
    · rw [List.getElem?_append_left before, inside, absent]
      simp
      omega
    · simp
    · rw [List.getElem?_eq_none (by simp; omega)]
      simp
      omega
  · rw [Function.update_of_ne own, ← inside]
    rcases Nat.lt_trichotomy place values.length with before | rfl | after
    · rw [List.getElem?_append_left before]
    · simp [Ne.symm own]
    · rw [List.getElem?_eq_none (by simp; omega), List.getElem?_eq_none (by omega)]

theorem last_place (placed : Positioned values position) (final : values.getLast? = some last) :
    position last = some (values.length - 1) := by
  apply (placed _ _).mp
  rw [← List.getLast?_eq_getElem?]
  exact final

/-- Swap and pop, with the table told of both changes. -/
theorem swap_remove [DecidableEq α] (placed : Positioned values position)
    (present : position value = some index) (final : values.getLast? = some last) :
    Positioned (swapRemove values index)
      (Function.update (Function.update position last (some index)) value none) := by
  have held := (placed index value).mpr present
  have inside : index < values.length := (List.getElem?_eq_some_iff.mp held).1
  have lastPlace := placed.last_place final
  have lastHeld := (placed _ _).mpr lastPlace
  have shape (place : Nat) (other : α) :
      (swapRemove values index)[place]? = some other ↔
        place < values.length - 1 ∧
          (if index = place then last = other else values[place]? = some other) := by
    rw [swapRemove, final]
    simp only [List.getElem?_dropLast, List.length_set, List.getElem?_set, inside, if_true]
    by_cases early : place < values.length - 1
    · by_cases same : index = place
      · simp [early, same]
      · simp [early, same]
    · simp [early]
  intro place other
  rw [shape]
  by_cases leaves : other = value
  · subst leaves
    simp only [Function.update_self, reduceCtorEq, iff_false, not_and]
    intro early
    split
    · next same =>
        rintro rfl
        have atEnd := Option.some.inj (present.symm.trans lastPlace)
        omega
    · next different =>
        intro found
        exact different (placed.place_unique held found)
  · rw [Function.update_of_ne leaves]
    by_cases moved : other = last
    · subst moved
      rw [Function.update_self, Option.some.injEq]
      have notLast : index ≠ values.length - 1 := by
        rintro rfl
        exact leaves (Option.some.inj (lastHeld.symm.trans held))
      constructor
      · rintro ⟨early, found⟩
        split at found
        · next same => exact same
        · next different =>
            have atEnd := placed.place_unique found lastHeld
            omega
      · rintro rfl
        exact ⟨by omega, by simp⟩
    · rw [Function.update_of_ne moved, ← placed place other]
      constructor
      · rintro ⟨_, found⟩
        split at found
        · exact (moved found.symm).elim
        · exact found
      · intro found
        have within : place < values.length := (List.getElem?_eq_some_iff.mp found).1
        have different : index ≠ place := by
          rintro rfl
          exact leaves (Option.some.inj (found.symm.trans held))
        have notLast : place ≠ values.length - 1 := by
          rintro rfl
          exact moved (Option.some.inj (found.symm.trans lastHeld))
        rw [if_neg different]
        exact ⟨by omega, found⟩

end Positioned

end StablecoinStudio.Foundation.Positions
