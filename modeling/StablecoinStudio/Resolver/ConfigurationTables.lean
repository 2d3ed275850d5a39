import StablecoinStudio.Resolver.BusinessLogicResolver

/-!
# The flat storage as version tables

The entries of one version of one configuration form its table. Every function
that writes the flat mappings works on one table and leaves the others, so the
storage behaves as a map from versions to tables.
-/

namespace StablecoinStudio.Resolver.ConfigurationTables

open StablecoinStudio.Core.Common
open StablecoinStudio.Core.EnumerableSetBytes4
open StablecoinStudio.Foundation.KeyedTables
open StablecoinStudio.Foundation.Transaction
open StablecoinStudio.Resolver.BusinessLogicResolverWrapper
open StablecoinStudio.Resolver.DiamondCutManagerWrapper
open StablecoinStudio.Resolver.VersionTables

set_option autoImplicit false

def tableAt (dcms : DiamondCutManagerStorage) (key : ConfigVersion) : VersionTable where
  facetIds := dcms.facetIds key
  facetVersions := dcms.facetVersions key
  addr := row dcms.addr key
  selectors := row dcms.selectors key
  interfaceIds := row dcms.interfaceIds key
  facetAddress := row dcms.facetAddress key
  selectorToFacetId := row dcms.selectorToFacetId key
  supportsInterface := row dcms.supportsInterface key

def setTable (key : ConfigVersion) (dcms : DiamondCutManagerStorage) (table : VersionTable) :
    DiamondCutManagerStorage :=
  { dcms with
    facetIds := Function.update dcms.facetIds key table.facetIds
    facetVersions := Function.update dcms.facetVersions key table.facetVersions
    addr := setRow dcms.addr key table.addr
    selectors := setRow dcms.selectors key table.selectors
    interfaceIds := setRow dcms.interfaceIds key table.interfaceIds
    facetAddress := setRow dcms.facetAddress key table.facetAddress
    selectorToFacetId := setRow dcms.selectorToFacetId key table.selectorToFacetId
    supportsInterface := setRow dcms.supportsInterface key table.supportsInterface }

variable {dcms : DiamondCutManagerStorage} {key other : ConfigVersion} {table later : VersionTable}

@[simp] theorem table_at_set_table : tableAt (setTable key dcms table) key = table := by
  simp [tableAt, setTable]

@[simp] theorem table_at_set_table_of_ne (different : other ≠ key) :
    tableAt (setTable key dcms table) other = tableAt dcms other := by
  simp [tableAt, setTable, different]

@[simp] theorem set_table_set_table :
    setTable key (setTable key dcms table) later = setTable key dcms later := by
  simp [setTable]

@[simp] theorem set_table_table_at : setTable key dcms (tableAt dcms key) = dcms := by
  simp [setTable, tableAt]

@[simp] theorem latest_version_set_table :
    (setTable key dcms table).latestVersion = dcms.latestVersion := rfl

@[simp] theorem batch_version_set_table :
    (setTable key dcms table).batchVersion = dcms.batchVersion := rfl

@[simp] theorem active_configurations_set_table :
    (setTable key dcms table).activeConfigurations = dcms.activeConfigurations := rfl

theorem selectors_at (facetId : Bytes32) :
    dcms.selectors (key, facetId) = (tableAt dcms key).selectors facetId := rfl

theorem interface_ids_at (facetId : Bytes32) :
    dcms.interfaceIds (key, facetId) = (tableAt dcms key).interfaceIds facetId := rfl

/-! ## What each write does to its table -/

theorem push_facet_eq (facet : FacetConfiguration) :
    pushFacet key facet dcms = setTable key dcms ((tableAt dcms key).list facet) := by
  simp [pushFacet, setTable, tableAt, VersionTable.list]

theorem set_addr_eq (facetId : Bytes32) (address : Address) :
    setAddr key facetId address dcms =
      setTable key dcms ((tableAt dcms key).bind facetId address) := by
  simp [setAddr, setTable, tableAt, VersionTable.bind, update_eq_set_row]

theorem set_selectors_eq (facetId : Bytes32) (selectors : List Bytes4) :
    setSelectors key facetId selectors dcms =
      setTable key dcms ((tableAt dcms key).declareSelectors facetId selectors) := by
  simp [setSelectors, setTable, tableAt, VersionTable.declareSelectors, update_eq_set_row]

theorem set_interface_ids_eq (facetId : Bytes32) (interfaceIds : List Bytes4) :
    setInterfaceIds key facetId interfaceIds dcms =
      setTable key dcms ((tableAt dcms key).declareInterfaceIds facetId interfaceIds) := by
  simp [setInterfaceIds, setTable, tableAt, VersionTable.declareInterfaceIds, update_eq_set_row]

theorem set_route_eq (dcms : DiamondCutManagerStorage) (facetId : Bytes32) (address : Address)
    (selector : Bytes4) :
    setRoute key facetId address dcms selector =
      setTable key dcms ((tableAt dcms key).route facetId address selector) := by
  simp [setRoute, setTable, tableAt, VersionTable.route, update_eq_set_row]

theorem set_support_eq (dcms : DiamondCutManagerStorage) (isSupported : Bool) (interfaceId : Bytes4) :
    setSupport key isSupported dcms interfaceId =
      setTable key dcms ((tableAt dcms key).support isSupported interfaceId) := by
  simp [setSupport, setTable, tableAt, VersionTable.support, update_eq_set_row]

theorem fold_eq (key : ConfigVersion) {item : Type}
    {write : DiamondCutManagerStorage → item → DiamondCutManagerStorage}
    {change : VersionTable → item → VersionTable}
    (round : ∀ dcms item,
      write dcms item = setTable key dcms (change (tableAt dcms key) item))
    (items : List item) (dcms : DiamondCutManagerStorage) :
    items.foldl write dcms = setTable key dcms (items.foldl change (tableAt dcms key)) := by
  induction items generalizing dcms with
  | nil => simp
  | cons head tail ih => simp [ih, round]

/-- All the writes of one round of `_addFacetsToBatchConfiguration`. -/
theorem record_facet_eq (facet : FacetConfiguration) (binding : Binding) :
    binding.interfaceIds.foldl (setSupport key true)
        (setInterfaceIds key facet.id binding.interfaceIds
          (binding.selectors.foldl (setRoute key facet.id binding.address)
            (setSelectors key facet.id binding.selectors
              (setAddr key facet.id binding.address (pushFacet key facet dcms))))) =
      setTable key dcms ((tableAt dcms key).add facet binding) := by
  have routes := fold_eq key fun dcms selector =>
    set_route_eq dcms facet.id binding.address selector
  have supports := fold_eq key fun dcms interfaceId => set_support_eq dcms true interfaceId
  simp only [push_facet_eq, set_addr_eq, set_selectors_eq, set_interface_ids_eq, routes, supports,
    table_at_set_table, set_table_set_table, VersionTable.add]

theorem clean_facet_eq (dcms : DiamondCutManagerStorage) (facetId : Bytes32) :
    cleanFacet key dcms facetId = setTable key dcms ((tableAt dcms key).drop facetId) := by
  have routes := fold_eq key fun dcms selector => set_route_eq dcms 0 0 selector
  have supports := fold_eq key fun dcms interfaceId => set_support_eq dcms false interfaceId
  simp only [cleanFacet, cleanSelectors, cleanInterfacesIds, set_addr_eq, routes, set_selectors_eq,
    supports, set_interface_ids_eq, selectors_at, interface_ids_at, table_at_set_table,
    set_table_set_table, VersionTable.drop]

theorem cancel_batch_eq (configurationId : Bytes32) (dcms : DiamondCutManagerStorage) :
    cancelBatchConfiguration configurationId dcms =
      { setTable (configurationId, dcms.batchVersion configurationId) dcms
          (tableAt dcms (configurationId, dcms.batchVersion configurationId)).cancel with
        batchVersion := Function.update dcms.batchVersion configurationId 0 } := by
  have cleaned := fold_eq (configurationId, dcms.batchVersion configurationId)
    fun dcms facetId => clean_facet_eq dcms facetId
  simp only [cancelBatchConfiguration, cleaned, batch_version_set_table]
  simp [setTable, VersionTable.cancel, tableAt]

/-! ## What an entry is bound to -/

/-- What the internal function resolves to, where it does not revert. -/
def resolvedAddress (registry : BusinessLogicResolverDataStorage) (facet : FacetConfiguration) :
    Option Address :=
  if registry.businessLogicActive facet.id then
    ((registry.businessLogics facet.id)[registry.businessLogicVersionIndex
      (facet.id, facet.version)]?).map BusinessLogicVersion.businessLogicAddress
  else some 0

/-- The code an entry of the configuration is bound to, if the checks on it
pass. -/
def bound (facets : StaticFunctionSelectors) (registry : BusinessLogicResolverDataStorage)
    (configurationId : Bytes32) (facet : FacetConfiguration) : Option Binding := do
  let address ← resolvedAddress registry facet
  guard (address ≠ 0)
  let selectors ← facets.getStaticFunctionSelectors address
  guard (∀ selector ∈ selectors,
    contains (registry.selectorBlacklist configurationId) selector = false)
  let interfaceIds ← facets.getStaticInterfaceIds address
  return ⟨address, selectors, interfaceIds⟩

section Committed

variable {facets : StaticFunctionSelectors} {environment : Msg} {configurationId : Bytes32}
  {facet : FacetConfiguration} {binding : Binding}

theorem bound_some {registry : BusinessLogicResolverDataStorage} :
    bound facets registry configurationId facet = some binding ↔
      resolvedAddress registry facet = some binding.address ∧ binding.address ≠ 0 ∧
        facets.getStaticFunctionSelectors binding.address = some binding.selectors ∧
        (∀ selector ∈ binding.selectors,
          contains (registry.selectorBlacklist configurationId) selector = false) ∧
        facets.getStaticInterfaceIds binding.address = some binding.interfaceIds := by
  simp only [bound, Option.bind_eq_bind, Option.bind_eq_some_iff, Option.guard_eq_some',
    Option.pure_def, Option.some.injEq]
  constructor
  · rintro ⟨address, resolved, _, isSet, selectors, declared, _, allowed, interfaceIds, supported,
      rfl⟩
    exact ⟨resolved, isSet, declared, allowed, supported⟩
  · rintro ⟨resolved, isSet, declared, allowed, supported⟩
    exact ⟨_, resolved, (), isSet, _, declared, (), allowed, _, supported, rfl⟩

theorem resolve_ok (environment : Msg) (facet : FacetConfiguration)
    {registry after : BusinessLogicResolverDataStorage} {address : Address} :
    resolveBusinessLogicByVersion facet.id facet.version environment registry =
        .ok (address, after) ↔
      resolvedAddress registry facet = some address ∧ registry = after := by
  simp only [resolveBusinessLogicByVersion, Tx.bind_ok, Tx.get_ok, resolvedAddress, and_assoc,
    exists_and_left, exists_eq_left']
  by_cases active : registry.businessLogicActive facet.id = true
  · simp only [if_pos active, Tx.bind_ok, Tx.of_option_ok, Tx.pure_ok, Option.map_eq_some_iff,
      and_assoc, exists_and_left, exists_eq_left']
    constructor
    · intro committed
      obtain ⟨found, located, named, same⟩ := committed
      exact ⟨⟨found, located, named⟩, same⟩
    · intro described
      obtain ⟨⟨found, located, named⟩, same⟩ := described
      exact ⟨found, located, named, same⟩
  · simp only [if_neg active, Tx.pure_ok, Option.some.injEq]

variable {key : ConfigVersion} {before after : ResolverState}

theorem add_facet_ok {result : Unit} :
    addFacetToBatchConfiguration facets key facet environment before = .ok (result, after) ↔
      ∃ binding, bound facets before.businessLogicResolver key.1 facet = some binding ∧
        (tableAt before.diamondCutManager key).addr facet.id = 0 ∧
        { before with
          diamondCutManager := setTable key before.diamondCutManager
            ((tableAt before.diamondCutManager key).add facet binding) } = after := by
  simp only [addFacetToBatchConfiguration, registerSelectors, registerInterfaceIds,
    checkSelectorsBlacklist, onManager, onRegistry, Tx.bind_ok, Tx.modify_ok, Tx.focus_ok,
    resolve_ok, Tx.require_ok, Tx.get_ok, Tx.of_option_ok, Tx.for_each_require_ok, bound_some,
    and_assoc, exists_and_left, exists_eq_left', exists_const]
  constructor
  · intro committed
    obtain ⟨address, resolved, isSet, free, middle, ⟨selectors, declared, allowed, routed⟩,
      interfaceIds, supported, recorded⟩ := committed
    subst routed
    refine ⟨⟨address, selectors, interfaceIds⟩, resolved, isSet, declared, allowed, supported, free,
      ?_⟩
    rw [← recorded, ← record_facet_eq]
  · intro described
    obtain ⟨binding, resolved, isSet, declared, allowed, supported, free, recorded⟩ := described
    refine ⟨_, resolved, isSet, free, _, ⟨_, declared, allowed, rfl⟩, _, supported, ?_⟩
    rw [← recorded, ← record_facet_eq]

/-- The loop over the entries extends the table of the version. -/
theorem add_facets_ok {facetConfigurations : List FacetConfiguration} {result : Unit} :
    addFacetsToBatchConfiguration facets key facetConfigurations environment before =
        .ok (result, after) ↔
      ∃ table, VersionTable.extend (bound facets before.businessLogicResolver key.1)
          facetConfigurations (tableAt before.diamondCutManager key) = some table ∧
        { before with
          diamondCutManager := setTable key before.diamondCutManager table } = after := by
  unfold addFacetsToBatchConfiguration
  induction facetConfigurations generalizing before with
  | nil => simp [VersionTable.extend]
  | cons facet rest ih =>
      rw [Tx.for_each_cons_ok]
      constructor
      · intro committed
        obtain ⟨middle, first, later⟩ := committed
        obtain ⟨binding, found, free, rfl⟩ := add_facet_ok.mp first
        obtain ⟨table, extended, rfl⟩ := ih.mp later
        rw [table_at_set_table] at extended
        refine ⟨table, VersionTable.extend_cons.mpr ⟨binding, found, free, extended⟩, ?_⟩
        rw [set_table_set_table]
      · intro described
        obtain ⟨table, extended, rfl⟩ := described
        obtain ⟨binding, found, free, later⟩ := VersionTable.extend_cons.mp extended
        refine ⟨_, add_facet_ok.mpr ⟨binding, found, free, rfl⟩, ih.mpr ⟨table, ?_, ?_⟩⟩
        · rw [table_at_set_table]
          exact later
        · rw [set_table_set_table]

end Committed

end StablecoinStudio.Resolver.ConfigurationTables
