import StablecoinStudio.Resolver.VersionTables

/-!
# Laws of version tables

A table that grew out of the empty one by added facets has an entry only where
a facet it lists has one. So what it routes is found by walking its lists, and
a cancelled table is empty.
-/

namespace StablecoinStudio.Resolver.TableLaws

open StablecoinStudio.Core.Common
open StablecoinStudio.Resolver.VersionTables

set_option autoImplicit false

structure WellFormed (table : VersionTable) : Prop where
  distinct : table.facetIds.Nodup
  bound : ∀ facetId, facetId ∈ table.facetIds ↔ table.addr facetId ≠ 0
  declaring : ∀ facetId, table.selectors facetId ≠ [] → facetId ∈ table.facetIds
  supporting : ∀ facetId, table.interfaceIds facetId ≠ [] → facetId ∈ table.facetIds
  /-- A listed facet's selector goes to a listed facet that has it. -/
  routed : ∀ facetId ∈ table.facetIds, ∀ selector ∈ table.selectors facetId,
    ∃ other ∈ table.facetIds, selector ∈ table.selectors other ∧
      table.facetAddress selector = table.addr other ∧
      table.selectorToFacetId selector = other
  /-- Nothing else is routed. -/
  routes : ∀ selector, (∀ facetId ∈ table.facetIds, selector ∉ table.selectors facetId) →
    table.facetAddress selector = 0 ∧ table.selectorToFacetId selector = 0
  supports : ∀ interfaceId, (∀ facetId ∈ table.facetIds, interfaceId ∉ table.interfaceIds facetId) →
    table.supportsInterface interfaceId = false

theorem well_formed_empty : WellFormed VersionTable.empty where
  distinct := List.nodup_nil
  bound := by simp [VersionTable.empty]
  declaring := by simp [VersionTable.empty]
  supporting := by simp [VersionTable.empty]
  routed := by simp [VersionTable.empty]
  routes := by simp [VersionTable.empty]
  supports := by simp [VersionTable.empty]

variable {table : VersionTable} {entry : FacetConfiguration} {binding : Binding}

/-! ## Adding -/

theorem new_facet (formed : WellFormed table) (free : table.addr entry.id = 0) :
    entry.id ∉ table.facetIds := by
  intro listed
  exact (formed.bound entry.id).mp listed free

theorem well_formed_add (formed : WellFormed table) (isSet : binding.address ≠ 0)
    (free : table.addr entry.id = 0) : WellFormed (table.add entry binding) := by
  have new := new_facet formed free
  have other {facetId : Bytes32} (listed : facetId ∈ table.facetIds) : facetId ≠ entry.id :=
    fun same => new (same ▸ listed)
  rw [VersionTable.add_eq]
  constructor
  · -- distinct
    rw [List.nodup_append]
    refine ⟨formed.distinct, by simp, ?_⟩
    intro facetId listed added isAdded
    rw [List.mem_singleton.mp isAdded]
    exact other listed
  · -- bound
    intro facetId
    by_cases own : facetId = entry.id
    · subst own
      simpa using isSet
    · simp [own, formed.bound facetId]
  · -- declaring
    intro facetId declared
    by_cases own : facetId = entry.id
    · simp [own]
    · simp only [Function.update_of_ne own] at declared
      exact List.mem_append_left _ (formed.declaring facetId declared)
  · -- supporting
    intro facetId supported
    by_cases own : facetId = entry.id
    · simp [own]
    · simp only [Function.update_of_ne own] at supported
      exact List.mem_append_left _ (formed.supporting facetId supported)
  · -- routed
    intro facetId listed selector has
    by_cases again : selector ∈ binding.selectors
    · -- the new facet takes the selector over
      refine ⟨entry.id, by simp, by simpa using again, ?_, ?_⟩
      · simp [again]
      · simp [again]
    · simp only [List.mem_append, List.mem_singleton] at listed
      rcases listed with listed | rfl
      · simp only [Function.update_of_ne (other listed)] at has
        obtain ⟨target, targetListed, targetHas, address, id⟩ :=
          formed.routed facetId listed selector has
        refine ⟨target, List.mem_append_left _ targetListed, ?_, ?_, ?_⟩
        · simpa only [Function.update_of_ne (other targetListed)] using targetHas
        · simp only [if_neg again, Function.update_of_ne (other targetListed), address]
        · simp only [if_neg again, id]
      · simp only [Function.update_self] at has
        exact (again has).elim
  · -- routes
    intro selector unused
    have notNew : selector ∉ binding.selectors := by
      simpa using unused entry.id (by simp)
    simp only [if_neg notNew]
    apply formed.routes
    intro facetId listed
    simpa only [Function.update_of_ne (other listed)] using
      unused facetId (List.mem_append_left _ listed)
  · -- supports
    intro interfaceId unused
    have notNew : interfaceId ∉ binding.interfaceIds := by
      simpa using unused entry.id (by simp)
    simp only [if_neg notNew]
    apply formed.supports
    intro facetId listed
    simpa only [Function.update_of_ne (other listed)] using
      unused facetId (List.mem_append_left _ listed)

section Extend

variable {bound : FacetConfiguration → Option Binding} {entries : List FacetConfiguration}
  {result : VersionTable}

theorem well_formed_extend (isSet : ∀ entry binding, bound entry = some binding →
      binding.address ≠ 0) (formed : WellFormed table)
    (extended : VersionTable.extend bound entries table = some result) : WellFormed result :=
  VersionTable.extend_keeps WellFormed
    (fun _ entry binding formed found free => well_formed_add formed (isSet entry binding found) free)
    formed extended

/-- The entries are added exactly when each is bound, none twice and none that
is there already. -/
theorem extend_some_iff (isSet : ∀ entry binding, bound entry = some binding →
      binding.address ≠ 0) :
    (∃ result, VersionTable.extend bound entries table = some result) ↔
      (∀ entry ∈ entries, ∃ binding, bound entry = some binding) ∧
        (entries.map FacetConfiguration.id).Nodup ∧
        ∀ entry ∈ entries, table.addr entry.id = 0 := by
  induction entries generalizing table with
  | nil => simp [VersionTable.extend]
  | cons entry rest ih =>
      simp only [VersionTable.extend_cons, List.forall_mem_cons, List.map_cons, List.nodup_cons]
      constructor
      · intro added
        obtain ⟨result, binding, found, free, later⟩ := added
        obtain ⟨bindings, distinct, others⟩ := ih.mp ⟨result, later⟩
        simp only [VersionTable.add_eq] at others
        have different : ∀ other ∈ rest, other.id ≠ entry.id := by
          intro other member same
          have taken := others other member
          rw [same, Function.update_self] at taken
          exact isSet entry binding found taken
        refine ⟨⟨⟨binding, found⟩, bindings⟩, ⟨?_, distinct⟩, free, ?_⟩
        · intro repeated
          obtain ⟨other, member, same⟩ := List.mem_map.mp repeated
          exact different other member same
        · intro other member
          simpa only [Function.update_of_ne (different other member)] using others other member
      · intro described
        obtain ⟨⟨⟨binding, found⟩, bindings⟩, ⟨fresh, distinct⟩, free, others⟩ := described
        have later : ∀ other ∈ rest, (table.add entry binding).addr other.id = 0 := by
          intro other member
          have different : other.id ≠ entry.id := by
            intro same
            exact fresh (List.mem_map.mpr ⟨other, member, same⟩)
          simpa only [VersionTable.add_eq, Function.update_of_ne different] using others other member
        obtain ⟨result, extended⟩ := ih.mpr ⟨bindings, distinct, later⟩
        exact ⟨result, binding, found, free, extended⟩

theorem listed_after_add (binding : Binding) (formed : WellFormed table)
    (free : table.addr entry.id = 0) (facetId : Bytes32) (selector : Bytes4) :
    (facetId ∈ (table.add entry binding).facetIds ∧
        selector ∈ (table.add entry binding).selectors facetId) ↔
      (facetId ∈ table.facetIds ∧ selector ∈ table.selectors facetId) ∨
        (entry.id = facetId ∧ selector ∈ binding.selectors) := by
  by_cases own : facetId = entry.id
  · subst own
    have new := new_facet formed free
    simp [VersionTable.add_eq, new]
  · simp [VersionTable.add_eq, own, Ne.symm own]

theorem listed_after_extend (isSet : ∀ entry binding, bound entry = some binding →
      binding.address ≠ 0) (formed : WellFormed table)
    (extended : VersionTable.extend bound entries table = some result) (facetId : Bytes32)
    (selector : Bytes4) :
    (facetId ∈ result.facetIds ∧ selector ∈ result.selectors facetId) ↔
      (facetId ∈ table.facetIds ∧ selector ∈ table.selectors facetId) ∨
        ∃ entry ∈ entries, entry.id = facetId ∧
          ∃ binding, bound entry = some binding ∧ selector ∈ binding.selectors := by
  induction entries generalizing table with
  | nil =>
      cases extended
      simp
  | cons entry rest ih =>
      obtain ⟨binding, found, free, later⟩ := VersionTable.extend_cons.mp extended
      have added := listed_after_add binding formed free facetId selector
      rw [ih (well_formed_add formed (isSet entry binding found) free) later, added, or_assoc]
      simp only [List.mem_cons, exists_eq_or_imp, found, Option.some.injEq, exists_eq_left']

theorem addr_kept {facetId : Bytes32} (isSet : table.addr facetId ≠ 0)
    (extended : VersionTable.extend bound entries table = some result) :
    result.addr facetId = table.addr facetId := by
  apply VersionTable.extend_keeps (fun later => later.addr facetId = table.addr facetId) _ rfl extended
  intro later entry binding same _ free
  have different : facetId ≠ entry.id := by
    rintro rfl
    rw [same] at free
    exact isSet free
  rw [VersionTable.add_eq]
  exact (Function.update_of_ne different _ _).trans same

theorem addr_after_extend (isSet : ∀ entry binding, bound entry = some binding →
      binding.address ≠ 0)
    (extended : VersionTable.extend bound entries table = some result)
    (member : entry ∈ entries) :
    ∃ binding, bound entry = some binding ∧ result.addr entry.id = binding.address := by
  induction entries generalizing table with
  | nil => cases member
  | cons first rest ih =>
      obtain ⟨binding, found, free, later⟩ := VersionTable.extend_cons.mp extended
      rcases List.mem_cons.mp member with rfl | member
      · have added : (table.add entry binding).addr entry.id = binding.address := by
          simp [VersionTable.add_eq]
        refine ⟨binding, found, ?_⟩
        rw [addr_kept (by rw [added]; exact isSet entry binding found) later, added]
      · exact ih later member

end Extend

/-! ## Cancelling -/

/-- What a forgotten facet changes, field by field. -/
theorem drop_eq (table : VersionTable) (facetId : Bytes32) :
    table.drop facetId =
      { table with
        addr := Function.update table.addr facetId 0
        selectors := Function.update table.selectors facetId []
        interfaceIds := Function.update table.interfaceIds facetId []
        facetAddress := fun selector =>
          if selector ∈ table.selectors facetId then 0 else table.facetAddress selector
        selectorToFacetId := fun selector =>
          if selector ∈ table.selectors facetId then 0 else table.selectorToFacetId selector
        supportsInterface := fun interfaceId =>
          if interfaceId ∈ table.interfaceIds facetId then false
          else table.supportsInterface interfaceId } := by
  simp only [VersionTable.drop, VersionTable.bind, VersionTable.route_all,
    VersionTable.support_all, VersionTable.declareSelectors, VersionTable.declareInterfaceIds]

section Walk

variable {value : Type} {head : Bytes32} {tail : List Bytes32}

theorem erased_cons (entries : Bytes32 → value) (zero : value) :
    (fun facetId => if facetId ∈ tail then zero else Function.update entries head zero facetId) =
      fun facetId => if facetId ∈ head :: tail then zero else entries facetId := by
  funext facetId
  by_cases later : facetId ∈ tail
  · simp [later]
  · by_cases first : facetId = head
    · simp [first]
    · simp [later, first]

theorem cleared_cons (declared : Bytes32 → List Bytes4) (entries : Bytes4 → value) (zero : value) :
    (fun key =>
        if ∃ facetId ∈ tail, key ∈ Function.update declared head [] facetId then zero
        else if key ∈ declared head then zero else entries key) =
      fun key =>
        if ∃ facetId ∈ head :: tail, key ∈ declared facetId then zero else entries key := by
  funext key
  by_cases first : key ∈ declared head
  · simp [first]
  · have same : (∃ facetId ∈ tail, key ∈ Function.update declared head [] facetId) ↔
        ∃ facetId ∈ tail, key ∈ declared facetId := by
      constructor
      · rintro ⟨facetId, member, has⟩
        by_cases own : facetId = head
        · rw [own, Function.update_self] at has
          cases has
        · exact ⟨facetId, member, by simpa only [Function.update_of_ne own] using has⟩
      · rintro ⟨facetId, member, has⟩
        have own : facetId ≠ head := by
          rintro rfl
          exact first has
        exact ⟨facetId, member, by simpa only [Function.update_of_ne own] using has⟩
    simp [same, first]

end Walk

theorem drop_all (facetIds : List Bytes32) (table : VersionTable) :
    facetIds.foldl VersionTable.drop table =
      { table with
        addr := fun facetId => if facetId ∈ facetIds then 0 else table.addr facetId
        selectors := fun facetId => if facetId ∈ facetIds then [] else table.selectors facetId
        interfaceIds := fun facetId =>
          if facetId ∈ facetIds then [] else table.interfaceIds facetId
        facetAddress := fun selector =>
          if ∃ facetId ∈ facetIds, selector ∈ table.selectors facetId then 0
          else table.facetAddress selector
        selectorToFacetId := fun selector =>
          if ∃ facetId ∈ facetIds, selector ∈ table.selectors facetId then 0
          else table.selectorToFacetId selector
        supportsInterface := fun interfaceId =>
          if ∃ facetId ∈ facetIds, interfaceId ∈ table.interfaceIds facetId then false
          else table.supportsInterface interfaceId } := by
  induction facetIds generalizing table with
  | nil => simp
  | cons head tail ih =>
      rw [List.foldl_cons, ih, drop_eq]
      simp only [erased_cons, cleared_cons]

/-- A cancelled table is empty: no entry escapes the walk over the lists. -/
theorem cancel_eq_empty (formed : WellFormed table) : table.cancel = VersionTable.empty := by
  rw [VersionTable.cancel, drop_all, VersionTable.empty]
  simp only [VersionTable.mk.injEq, true_and]
  refine ⟨?_, ?_, ?_, ?_, ?_, ?_⟩
  · funext facetId
    split
    · rfl
    · next unlisted => exact not_not.mp fun isSet => unlisted ((formed.bound facetId).mpr isSet)
  · funext facetId
    split
    · rfl
    · next unlisted => exact not_not.mp fun has => unlisted (formed.declaring facetId has)
  · funext facetId
    split
    · rfl
    · next unlisted => exact not_not.mp fun has => unlisted (formed.supporting facetId has)
  · funext selector
    split
    · rfl
    · next unused =>
        exact (formed.routes selector fun facetId listed has => unused ⟨facetId, listed, has⟩).1
  · funext selector
    split
    · rfl
    · next unused =>
        exact (formed.routes selector fun facetId listed has => unused ⟨facetId, listed, has⟩).2
  · funext interfaceId
    split
    · rfl
    · next unused =>
        exact formed.supports interfaceId fun facetId listed has => unused ⟨facetId, listed, has⟩

/-! ## Routing -/

def Routed (table : VersionTable) : Prop :=
  ∀ facetId ∈ table.facetIds, ∀ selector ∈ table.selectors facetId,
    table.facetAddress selector = table.addr facetId ∧ table.selectorToFacetId selector = facetId

def SelectorsApart (table : VersionTable) : Prop :=
  ∀ first ∈ table.facetIds, ∀ second ∈ table.facetIds, ∀ selector,
    selector ∈ table.selectors first → selector ∈ table.selectors second → first = second

theorem routed_iff_apart (formed : WellFormed table) : Routed table ↔ SelectorsApart table := by
  constructor
  · intro routed first firstListed second secondListed selector inFirst inSecond
    have toFirst := (routed first firstListed selector inFirst).2
    have toSecond := (routed second secondListed selector inSecond).2
    exact toFirst.symm.trans toSecond
  · intro apart facetId listed selector has
    obtain ⟨other, otherListed, otherHas, address, id⟩ := formed.routed facetId listed selector has
    have same := apart facetId listed other otherListed selector has otherHas
    rw [same]
    exact ⟨address, id⟩

end StablecoinStudio.Resolver.TableLaws
