import StablecoinStudio.Resolver.ProxyNetworks

/-!
# Tables without orphans

What a version routes and supports is what the facets it lists declare, in
every reachable state and for every version: finished, under way, cancelled or
never started.
-/

namespace StablecoinStudio.Resolver.Orphans

open StablecoinStudio.Core.Common
open StablecoinStudio.Foundation.Runs
open StablecoinStudio.Resolver.ConfigurationTables
open StablecoinStudio.Resolver.DiamondCutManagerWrapper
open StablecoinStudio.Resolver.ProxyNetworks
open StablecoinStudio.Resolver.ResolverEffects
open StablecoinStudio.Resolver.TableLaws
open StablecoinStudio.Resolver.VersionHistory
open StablecoinStudio.Resolver.VersionTables

set_option autoImplicit false

/-- The views of one version, the latest for zero. -/
structure NoOrphans (dcms : DiamondCutManagerStorage) (configurationId : Bytes32)
    (version : Nat) : Prop where
  lengths : (dcms.facetIds
      (configurationId, resolveVersion dcms configurationId version)).length =
    (dcms.facetVersions (configurationId, resolveVersion dcms configurationId version)).length
  distinct : (getFacetIdsByConfigurationIdAndVersion dcms configurationId version).Nodup
  routed : ∀ selector, resolveResolverProxyCall dcms configurationId version selector ≠ 0 ↔
    ∃ facetId ∈ getFacetIdsByConfigurationIdAndVersion dcms configurationId version,
      selector ∈
        (getFacetByConfigurationIdVersionAndFacetId dcms configurationId version facetId).selectors
  routes : ∀ selector, resolveResolverProxyCall dcms configurationId version selector ≠ 0 →
    ∃ facetId ∈ getFacetIdsByConfigurationIdAndVersion dcms configurationId version,
      selector ∈ (getFacetByConfigurationIdVersionAndFacetId dcms configurationId version
          facetId).selectors ∧
        resolveResolverProxyCall dcms configurationId version selector =
          (getFacetByConfigurationIdVersionAndFacetId dcms configurationId version facetId).addr ∧
        getFacetIdByConfigurationIdVersionAndSelector dcms configurationId version selector = facetId
  supported : ∀ interfaceId,
    resolveSupportsInterface dcms configurationId version interfaceId = true ↔
      ∃ facetId ∈ getFacetIdsByConfigurationIdAndVersion dcms configurationId version,
        interfaceId ∈ (getFacetByConfigurationIdVersionAndFacetId dcms configurationId version
          facetId).interfaceIds
  unstarted : dcms.latestVersion configurationId < version →
    version ≠ dcms.batchVersion configurationId →
    tableAt dcms (configurationId, version) = VersionTable.empty

/-! ## The lists of a table -/

structure Paired (table : VersionTable) : Prop where
  lengths : table.facetIds.length = table.facetVersions.length
  supported : ∀ facetId ∈ table.facetIds, ∀ interfaceId ∈ table.interfaceIds facetId,
    table.supportsInterface interfaceId = true

theorem paired_empty : Paired VersionTable.empty where
  lengths := rfl
  supported _ listed := absurd listed List.not_mem_nil

variable {table result : VersionTable} {entry : FacetConfiguration} {binding : Binding}

theorem paired_add (paired : Paired table) : Paired (table.add entry binding) := by
  rw [VersionTable.add_eq]
  constructor
  · simp [paired.lengths]
  · intro facetId listed interfaceId has
    by_cases new : interfaceId ∈ binding.interfaceIds
    · simp [new]
    · by_cases own : facetId = entry.id
      · subst own
        simp only [Function.update_self] at has
        exact (new has).elim
      · simp only [Function.update_of_ne own] at has
        rcases List.mem_append.mp listed with old | added
        · simpa [new] using paired.supported facetId old interfaceId has
        · exact (own (List.mem_singleton.mp added)).elim

theorem paired_extend {bound : FacetConfiguration → Option Binding}
    {entries : List FacetConfiguration} (paired : Paired table)
    (extended : VersionTable.extend bound entries table = some result) : Paired result :=
  VersionTable.extend_keeps Paired (fun _ _ _ paired _ _ => paired_add paired) paired extended

theorem routed_iff_declared (formed : WellFormed table) (selector : Bytes4) :
    table.facetAddress selector ≠ 0 ↔
      ∃ facetId ∈ table.facetIds, selector ∈ table.selectors facetId := by
  constructor
  · intro routed
    by_contra undeclared
    apply routed
    apply (formed.routes selector _).1
    intro facetId listed has
    exact undeclared ⟨facetId, listed, has⟩
  · intro declared
    obtain ⟨facetId, listed, has⟩ := declared
    obtain ⟨other, otherListed, _, address, _⟩ := formed.routed facetId listed selector has
    rw [address]
    exact (formed.bound other).mp otherListed

theorem supported_iff_declared (formed : WellFormed table) (paired : Paired table)
    (interfaceId : Bytes4) :
    table.supportsInterface interfaceId = true ↔
      ∃ facetId ∈ table.facetIds, interfaceId ∈ table.interfaceIds facetId := by
  constructor
  · intro supported
    by_contra undeclared
    have unsupported := formed.supports interfaceId fun facetId listed has =>
      undeclared ⟨facetId, listed, has⟩
    rw [supported] at unsupported
    cases unsupported
  · intro declared
    obtain ⟨facetId, listed, has⟩ := declared
    exact paired.supported facetId listed interfaceId has

/-! ## Along a run -/

structure TablesInOrder (dcms : DiamondCutManagerStorage) : Prop where
  manager : ManagerInvariant dcms
  paired : ∀ key, Paired (tableAt dcms key)

theorem tables_in_order_empty : TablesInOrder DiamondCutManagerStorage.empty where
  manager := manager_invariant_empty
  paired _ := paired_empty

variable {outside : Type} {d : Deployment outside} {network : Network outside}

theorem tables_in_order_step (ordered : TablesInOrder (manager network))
    (label : NetworkLabel outside) : TablesInOrder (manager (nextNetwork d network label)) := by
  refine ⟨manager_invariant_step ordered.manager label, ?_⟩
  intro key
  rcases resolver_after_step label with ⟨msg, called, rfl, effect⟩ | same
  · simp only [manager]
    cases effect with
    | initialized _ frame | registered _ _ _ frame =>
        rw [frame]
        exact ordered.paired key
    | blacklisted _ _ _ frame =>
        rw [frame]
        exact ordered.paired key
    | @created _ configurationId _ _ _ _ done =>
        rw [done.frame, table_at_activate]
        by_cases own : key =
            (configurationId, targetVersion network.resolver.diamondCutManager configurationId)
        · rw [own, table_at_under_way]
          exact paired_extend (ordered.paired _) done.extended
        · rw [table_at_under_way_of_ne own]
          exact ordered.paired key
    | cancelled _ _ frame =>
        rw [frame, table_at_cancelled ordered.manager]
        split
        · exact paired_empty
        · exact ordered.paired key
  · simp only [manager, same]
    exact ordered.paired key

theorem tables_in_order_along_run (labels : List (NetworkLabel outside))
    (ordered : TablesInOrder (manager network)) :
    TablesInOrder (manager (run (nextNetwork d) network labels)) :=
  invariant_of_every_step (nextNetwork d) (fun network => TablesInOrder (manager network))
    (fun _ taken ordered => tables_in_order_step ordered taken) labels ordered

theorem no_orphans_of_order {dcms : DiamondCutManagerStorage} (ordered : TablesInOrder dcms)
    (configurationId : Bytes32) (version : Nat) : NoOrphans dcms configurationId version := by
  have formed := ordered.manager.formed
    (configurationId, resolveVersion dcms configurationId version)
  have paired := ordered.paired (configurationId, resolveVersion dcms configurationId version)
  constructor
  · exact paired.lengths
  · exact formed.distinct
  · exact routed_iff_declared formed
  · intro selector routed
    obtain ⟨facetId, listed, has⟩ := (routed_iff_declared formed selector).mp routed
    exact formed.routed facetId listed selector has
  · exact supported_iff_declared formed paired
  · intro above idle
    apply ordered.manager.unstarted
    · omega
    · intro ongoing
      exact idle ongoing.1

/-- In every reachable state, for every configuration and every version of it. -/
theorem no_orphans (d : Deployment outside) (world : outside)
    (labels : List (NetworkLabel outside)) (configurationId : Bytes32) (version : Nat) :
    NoOrphans (manager (run (nextNetwork d) (freshNetwork world) labels)) configurationId version :=
  no_orphans_of_order (tables_in_order_along_run labels tables_in_order_empty) configurationId
    version

end StablecoinStudio.Resolver.Orphans
