import StablecoinStudio.Core.Common

/-!
# The table of one configuration version

What the resolver knows about one version of one configuration: the facets it
lists and how it routes selectors. Facets are added one by one; a table is
otherwise only emptied again.
-/

namespace StablecoinStudio.Resolver.VersionTables

open StablecoinStudio.Core.Common

set_option autoImplicit false

structure FacetConfiguration where
  id : Bytes32
  version : Nat
deriving DecidableEq

structure Binding where
  address : Address
  selectors : List Bytes4
  interfaceIds : List Bytes4

structure VersionTable where
  facetIds : List Bytes32
  facetVersions : List Nat
  addr : Bytes32 → Address
  selectors : Bytes32 → List Bytes4
  interfaceIds : Bytes32 → List Bytes4
  facetAddress : Bytes4 → Address
  selectorToFacetId : Bytes4 → Bytes32
  supportsInterface : Bytes4 → Bool

namespace VersionTable

def empty : VersionTable where
  facetIds := []
  facetVersions := []
  addr _ := 0
  selectors _ := []
  interfaceIds _ := []
  facetAddress _ := 0
  selectorToFacetId _ := 0
  supportsInterface _ := false

/-- Routes one selector to a facet, over whatever it was routed to before. -/
def route (facetId : Bytes32) (address : Address) (table : VersionTable) (selector : Bytes4) :
    VersionTable :=
  { table with
    facetAddress := Function.update table.facetAddress selector address
    selectorToFacetId := Function.update table.selectorToFacetId selector facetId }

def support (isSupported : Bool) (table : VersionTable) (interfaceId : Bytes4) : VersionTable :=
  { table with
    supportsInterface := Function.update table.supportsInterface interfaceId isSupported }

def list (table : VersionTable) (entry : FacetConfiguration) : VersionTable :=
  { table with
    facetIds := table.facetIds ++ [entry.id]
    facetVersions := table.facetVersions ++ [entry.version] }

def bind (table : VersionTable) (facetId : Bytes32) (address : Address) : VersionTable :=
  { table with addr := Function.update table.addr facetId address }

def declareSelectors (table : VersionTable) (facetId : Bytes32) (selectors : List Bytes4) :
    VersionTable :=
  { table with selectors := Function.update table.selectors facetId selectors }

def declareInterfaceIds (table : VersionTable) (facetId : Bytes32) (interfaceIds : List Bytes4) :
    VersionTable :=
  { table with interfaceIds := Function.update table.interfaceIds facetId interfaceIds }

def add (table : VersionTable) (entry : FacetConfiguration) (binding : Binding) : VersionTable :=
  binding.interfaceIds.foldl (support true)
    (declareInterfaceIds
      (binding.selectors.foldl (route entry.id binding.address)
        (declareSelectors (bind (list table entry) entry.id binding.address) entry.id
          binding.selectors))
      entry.id binding.interfaceIds)

/-- Adds entries while each is bound to some code and is not there yet. -/
def extend (bound : FacetConfiguration → Option Binding) :
    List FacetConfiguration → VersionTable → Option VersionTable
  | [], table => some table
  | entry :: rest, table =>
      match bound entry with
      | some binding =>
          if table.addr entry.id = 0 then extend bound rest (table.add entry binding) else none
      | none => none

def drop (table : VersionTable) (facetId : Bytes32) : VersionTable :=
  let unbound := bind table facetId 0
  let unrouted := declareSelectors ((unbound.selectors facetId).foldl (route 0 0) unbound) facetId []
  declareInterfaceIds ((unrouted.interfaceIds facetId).foldl (support false) unrouted) facetId []

def cancel (table : VersionTable) : VersionTable :=
  { table.facetIds.foldl drop table with facetIds := [], facetVersions := [] }

/-! ## Adding a facet -/

variable {table : VersionTable} {entry : FacetConfiguration} {binding : Binding}

theorem updated_list {key answer : Type} [DecidableEq key] (before : key → answer) (given : answer)
    (head : key) (tail : List key) :
    (fun asked => if asked ∈ tail then given else Function.update before head given asked) =
      fun asked => if asked ∈ head :: tail then given else before asked := by
  funext asked
  by_cases later : asked ∈ tail
  · simp [later]
  · by_cases first : asked = head
    · simp [first]
    · simp [later, first]

theorem route_all (facetId : Bytes32) (address : Address) (selectors : List Bytes4)
    (table : VersionTable) :
    selectors.foldl (route facetId address) table =
      { table with
        facetAddress := fun selector =>
          if selector ∈ selectors then address else table.facetAddress selector
        selectorToFacetId := fun selector =>
          if selector ∈ selectors then facetId else table.selectorToFacetId selector } := by
  induction selectors generalizing table with
  | nil => simp
  | cons head tail ih =>
      rw [List.foldl_cons, ih]
      simp only [route, mk.injEq, true_and, and_true]
      exact ⟨updated_list _ _ _ _, updated_list _ _ _ _⟩

theorem support_all (isSupported : Bool) (interfaceIds : List Bytes4) (table : VersionTable) :
    interfaceIds.foldl (support isSupported) table =
      { table with
        supportsInterface := fun interfaceId =>
          if interfaceId ∈ interfaceIds then isSupported
          else table.supportsInterface interfaceId } := by
  induction interfaceIds generalizing table with
  | nil => simp
  | cons head tail ih =>
      rw [List.foldl_cons, ih]
      simp only [support, mk.injEq, true_and]
      exact updated_list _ _ _ _

/-- What an added facet changes, field by field. -/
theorem add_eq (table : VersionTable) (entry : FacetConfiguration) (binding : Binding) :
    table.add entry binding =
      { facetIds := table.facetIds ++ [entry.id]
        facetVersions := table.facetVersions ++ [entry.version]
        addr := Function.update table.addr entry.id binding.address
        selectors := Function.update table.selectors entry.id binding.selectors
        interfaceIds := Function.update table.interfaceIds entry.id binding.interfaceIds
        facetAddress := fun selector =>
          if selector ∈ binding.selectors then binding.address else table.facetAddress selector
        selectorToFacetId := fun selector =>
          if selector ∈ binding.selectors then entry.id else table.selectorToFacetId selector
        supportsInterface := fun interfaceId =>
          if interfaceId ∈ binding.interfaceIds then true
          else table.supportsInterface interfaceId } := by
  rw [add, support_all, route_all]
  rfl

theorem extend_cons {bound : FacetConfiguration → Option Binding} {rest : List FacetConfiguration}
    {result : VersionTable} :
    extend bound (entry :: rest) table = some result ↔
      ∃ binding, bound entry = some binding ∧ table.addr entry.id = 0 ∧
        extend bound rest (table.add entry binding) = some result := by
  rw [extend]
  cases found : bound entry with
  | none => simp
  | some binding => simp

theorem extend_append (bound : FacetConfiguration → Option Binding)
    (first second : List FacetConfiguration) (table : VersionTable) :
    extend bound (first ++ second) table =
      (extend bound first table).bind (extend bound second) := by
  induction first generalizing table with
  | nil => rfl
  | cons entry rest ih =>
      simp only [List.cons_append, extend]
      cases bound entry with
      | none => rfl
      | some binding =>
          by_cases free : table.addr entry.id = 0
          · simp only [if_pos free, ih]
          · simp only [if_neg free, Option.bind_none]

/-- An invariant of tables that every added entry keeps holds of the extended
table. -/
theorem extend_keeps {bound : FacetConfiguration → Option Binding} (invariant : VersionTable → Prop)
    (step : ∀ table entry binding, invariant table → bound entry = some binding →
      table.addr entry.id = 0 → invariant (table.add entry binding))
    {entries : List FacetConfiguration} {result : VersionTable} (initial : invariant table)
    (extended : extend bound entries table = some result) : invariant result := by
  induction entries generalizing table with
  | nil =>
      cases extended
      exact initial
  | cons entry rest ih =>
      obtain ⟨binding, found, free, later⟩ := extend_cons.mp extended
      exact ih (step table entry binding initial found free) later

theorem extend_lists {bound : FacetConfiguration → Option Binding}
    {entries : List FacetConfiguration} {result : VersionTable}
    (extended : extend bound entries table = some result) :
    result.facetIds = table.facetIds ++ entries.map FacetConfiguration.id ∧
      result.facetVersions = table.facetVersions ++ entries.map FacetConfiguration.version := by
  induction entries generalizing table with
  | nil =>
      cases extended
      simp
  | cons entry rest ih =>
      obtain ⟨binding, found, free, later⟩ := extend_cons.mp extended
      obtain ⟨ids, versions⟩ := ih later
      rw [add_eq] at ids versions
      simp [ids, versions]

end VersionTable

end StablecoinStudio.Resolver.VersionTables
