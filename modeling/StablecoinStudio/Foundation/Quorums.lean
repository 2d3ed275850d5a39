import Mathlib.Data.Finset.Card
import Mathlib.Data.Finset.Image
import Mathlib.Data.Set.Function

/-!
# Quorums of names and quorums of values

Names are counted where the values they stand for should be. A name may stand
for nothing, and two names for one value. When every quorum of names from a
pool stands for a quorum of values depends on the pool alone.
-/

namespace StablecoinStudio.Foundation.Quorums

set_option autoImplicit false

variable {name value : Type} (reading : name → Option value)

/-- The names stand for at least `size` different values. -/
def Covers (size : Nat) (names : Finset name) : Prop :=
  ∃ values : Finset value, size ≤ values.card ∧
    ∀ item ∈ values, ∃ given ∈ names, reading given = some item

variable {reading} {size : Nat} {names pool : Finset name}

theorem covers_of_readable (readable : ∀ given ∈ names, (reading given).isSome)
    (apart : Set.InjOn reading names) (enough : size ≤ names.card) :
    Covers reading size names := by
  classical
  have injective : Function.Injective fun given : { given // given ∈ names } =>
      (reading given.1).get (readable given.1 given.2) := by
    intro first second same
    apply Subtype.ext
    exact apart first.2 second.2 (Option.get_inj.mp same)
  refine ⟨names.attach.image fun given => (reading given.1).get (readable given.1 given.2), ?_, ?_⟩
  · rw [Finset.card_image_of_injective _ injective, Finset.card_attach]
    exact enough
  · intro item member
    obtain ⟨given, _, rfl⟩ := Finset.mem_image.mp member
    exact ⟨given.1, given.2, (Option.some_get _).symm⟩

theorem covers_one {given : name} (listed : given ∈ names) (readable : (reading given).isSome) :
    Covers reading 1 names := by
  obtain ⟨item, readAs⟩ := Option.isSome_iff_exists.mp readable
  refine ⟨{item}, by simp, ?_⟩
  intro other member
  rw [Finset.mem_singleton.mp member]
  exact ⟨given, listed, readAs⟩

theorem readable_of_covers (exactly : names.card ≤ size) (covers : Covers reading size names) :
    (∀ given ∈ names, (reading given).isSome) ∧ Set.InjOn reading names := by
  classical
  obtain ⟨values, enough, read⟩ := covers
  choose nameOf listed readAs using read
  have injective : Function.Injective fun item : { item // item ∈ values } =>
      nameOf item.1 item.2 := by
    intro first second same
    have sameName : nameOf first.1 first.2 = nameOf second.1 second.2 := same
    apply Subtype.ext
    apply Option.some.inj
    rw [← readAs first.1 first.2, ← readAs second.1 second.2, sameName]
  have whole : values.attach.image (fun item => nameOf item.1 item.2) = names := by
    apply Finset.eq_of_subset_of_card_le
    · intro given member
      obtain ⟨item, _, rfl⟩ := Finset.mem_image.mp member
      exact listed item.1 item.2
    · rw [Finset.card_image_of_injective _ injective, Finset.card_attach]
      exact Nat.le_trans exactly enough
  have named : ∀ given ∈ names, ∃ item, ∃ member : item ∈ values, nameOf item member = given := by
    intro given member
    rw [← whole] at member
    obtain ⟨item, _, isNamed⟩ := Finset.mem_image.mp member
    exact ⟨item.1, item.2, isNamed⟩
  constructor
  · intro given member
    obtain ⟨item, isValue, rfl⟩ := named given member
    rw [readAs]
    rfl
  · intro first firstListed second secondListed same
    obtain ⟨item, isValue, rfl⟩ := named first firstListed
    obtain ⟨other, isOther, rfl⟩ := named second secondListed
    rw [readAs, readAs] at same
    cases Option.some.inj same
    rfl

/-- Every quorum of names from the pool stands for a quorum of values exactly
when the pool has no quorum, or all of it can be read and, quorums of one
apart, no two names in it stand for one value. -/
theorem every_quorum_covers_iff (positive : 1 ≤ size) :
    (∀ names ⊆ pool, size ≤ names.card → Covers reading size names) ↔
      (size ≤ pool.card → (∀ given ∈ pool, (reading given).isSome) ∧
        (size = 1 ∨ Set.InjOn reading pool)) := by
  classical
  constructor
  · intro covered large
    -- Any few names of the pool belong to a quorum without a name to spare.
    have exact_ : ∀ few ⊆ pool, few.card ≤ size →
        (∀ given ∈ few, (reading given).isSome) ∧ Set.InjOn reading few := by
      intro few inPool small
      obtain ⟨quorum, larger, within, card⟩ :=
        Finset.exists_subsuperset_card_eq inPool small large
      have read := readable_of_covers (Nat.le_of_eq card)
        (covered quorum within (Nat.le_of_eq card.symm))
      exact ⟨fun given member => read.1 given (larger member), read.2.mono larger⟩
    constructor
    · intro given member
      have single := exact_ {given} (Finset.singleton_subset_iff.mpr member) (by simpa)
      exact single.1 given (Finset.mem_singleton_self given)
    · by_cases one : size = 1
      · exact Or.inl one
      · right
        intro first firstListed second secondListed same
        have pair : ({first, second} : Finset name) ⊆ pool := by
          intro given member
          rcases Finset.mem_insert.mp member with isFirst | isSecond
          · rw [isFirst]
            exact firstListed
          · rw [Finset.mem_singleton.mp isSecond]
            exact secondListed
        have small : ({first, second} : Finset name).card ≤ size :=
          Nat.le_trans (Finset.card_le_two) (by omega)
        exact (exact_ _ pair small).2 (by simp) (by simp) same
  · intro condition few within enough
    obtain ⟨readable, one | apart⟩ := condition (Nat.le_trans enough (Finset.card_le_card within))
    · subst one
      obtain ⟨given, member⟩ := Finset.card_pos.mp enough
      exact covers_one member (readable given (within member))
    · exact covers_of_readable (fun given member => readable given (within member))
        (apart.mono within) enough

end StablecoinStudio.Foundation.Quorums
