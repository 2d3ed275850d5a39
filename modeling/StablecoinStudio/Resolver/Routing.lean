import StablecoinStudio.Resolver.ProxyNetworks

/-!
# Calls reach the facet that the loupe shows

A version is dispatched by selector and shown by facet. The two agree exactly
when no two facets of the version declare the same selector, which the
registration does not check.
-/

namespace StablecoinStudio.Resolver.Routing

open StablecoinStudio.Core.Common
open StablecoinStudio.Foundation.Runs
open StablecoinStudio.Resolver.BusinessLogicResolver
open StablecoinStudio.Resolver.ConfigurationTables
open StablecoinStudio.Resolver.DiamondCutManagerWrapper
open StablecoinStudio.Resolver.ProxyNetworks
open StablecoinStudio.Resolver.ResolverEffects
open StablecoinStudio.Resolver.TableLaws
open StablecoinStudio.Resolver.VersionHistory
open StablecoinStudio.Resolver.VersionTables

set_option autoImplicit false

/-- Every facet the version lists is called for every selector it is listed
with. -/
def VersionRouted (dcms : DiamondCutManagerStorage) (configurationId : Bytes32) (version : Nat) :
    Prop :=
  ∀ facetId ∈ getFacetIdsByConfigurationIdAndVersion dcms configurationId version,
    ∀ selector ∈
        (getFacetByConfigurationIdVersionAndFacetId dcms configurationId version facetId).selectors,
      resolveResolverProxyCall dcms configurationId version selector =
          (getFacetByConfigurationIdVersionAndFacetId dcms configurationId version facetId).addr ∧
        getFacetIdByConfigurationIdVersionAndSelector dcms configurationId version selector = facetId

def ActivatedVersionsRouted (dcms : DiamondCutManagerStorage) : Prop :=
  ∀ configurationId version, 1 ≤ version → version ≤ dcms.latestVersion configurationId →
    VersionRouted dcms configurationId version

theorem version_routed_iff {dcms : DiamondCutManagerStorage} {configurationId : Bytes32}
    {version : Nat} (positive : 1 ≤ version) :
    VersionRouted dcms configurationId version ↔ Routed (tableAt dcms (configurationId, version)) := by
  have same : resolveVersion dcms configurationId version = version := if_pos positive
  simp only [VersionRouted, getFacetIdsByConfigurationIdAndVersion,
    getFacetByConfigurationIdVersionAndFacetId, resolveResolverProxyCall,
    getFacetIdByConfigurationIdVersionAndSelector, same]
  exact Iff.rfl

/-! ## What a call adds -/

/-- A facet of the batch under way, or one of the entries given, comes with the
selector. -/
def Offered (facets : StaticFunctionSelectors) (state : ResolverState) (configurationId : Bytes32)
    (facetConfigurations : List FacetConfiguration) (facetId : Bytes32) (selector : Bytes4) : Prop :=
  (facetId ∈ (targetTable state.diamondCutManager configurationId).facetIds ∧
      selector ∈ (targetTable state.diamondCutManager configurationId).selectors facetId) ∨
    ∃ facet ∈ facetConfigurations, facet.id = facetId ∧
      ∃ binding, bound facets state.businessLogicResolver configurationId facet = some binding ∧
        selector ∈ binding.selectors

/-- A call that finishes a version and passes the guards brings no selector
twice: neither among its own facets nor with those added before. -/
def KeepsSelectorsApart {outside : Type} (d : Deployment outside) (network : Network outside) :
    NetworkLabel outside → Prop
  | .resolver msg called => ∀ configurationId facetConfigurations,
      called.creation = some (configurationId, facetConfigurations, true) →
      Accepted d.facets msg configurationId facetConfigurations network.resolver →
      ∀ first second selector,
        Offered d.facets network.resolver configurationId facetConfigurations first selector →
        Offered d.facets network.resolver configurationId facetConfigurations second selector →
        first = second
  | _ => True

variable {outside : Type} {d : Deployment outside} {network : Network outside}

theorem offered_after_creating {msg : Msg} {configurationId : Bytes32}
    {facetConfigurations : List FacetConfiguration} {isLastBatch : Bool}
    {before after : ResolverState} {facets : StaticFunctionSelectors} {table : VersionTable}
    (invariant : ManagerInvariant before.diamondCutManager)
    (done : Creating facets msg configurationId facetConfigurations isLastBatch before after table)
    (facetId : Bytes32) (selector : Bytes4) :
    (facetId ∈ table.facetIds ∧ selector ∈ table.selectors facetId) ↔
      Offered facets before configurationId facetConfigurations facetId selector :=
  listed_after_extend (bound_is_set _ _) (invariant.formed _) done.extended facetId selector

theorem routed_kept {before after : DiamondCutManagerStorage} (grows : Grows before after)
    (sameVersions : after.latestVersion = before.latestVersion) :
    ActivatedVersionsRouted after ↔ ActivatedVersionsRouted before := by
  simp only [ActivatedVersionsRouted, sameVersions]
  refine forall_congr' fun configurationId => forall_congr' fun version => ?_
  refine forall_congr' fun positive => forall_congr' fun finished => ?_
  rw [version_routed_iff positive, version_routed_iff positive,
    grows.tables configurationId version positive finished]

/-- A finished version is routed exactly when its facets are apart. -/
theorem routed_after_creating {msg : Msg} {configurationId : Bytes32}
    {facetConfigurations : List FacetConfiguration} {before after : ResolverState}
    {facets : StaticFunctionSelectors} {table : VersionTable}
    (invariant : ManagerInvariant before.diamondCutManager)
    (routed : ActivatedVersionsRouted before.diamondCutManager)
    (done : Creating facets msg configurationId facetConfigurations true before after table) :
    ActivatedVersionsRouted after.diamondCutManager ↔ SelectorsApart table := by
  have formed := well_formed_extend (bound_is_set _ _) (invariant.formed _) done.extended
  have target := target_version_eq invariant.ordered configurationId
  have tables (key : ConfigVersion) : tableAt after.diamondCutManager key =
      if key = (configurationId, targetVersion before.diamondCutManager configurationId) then table
      else tableAt before.diamondCutManager key := by
    rw [done.frame, table_at_activate]
    split
    · next own => rw [own, table_at_under_way]
    · next own => rw [table_at_under_way_of_ne own]
  have versions (other : Bytes32) : after.diamondCutManager.latestVersion other =
      if other = configurationId then targetVersion before.diamondCutManager configurationId
      else before.diamondCutManager.latestVersion other := by
    rw [done.frame, latest_version_activate]
    simp
  rw [← routed_iff_apart formed]
  constructor
  · intro routedAfter
    have own := routedAfter configurationId (targetVersion before.diamondCutManager configurationId)
      (by omega) (by rw [versions, if_pos rfl])
    rw [version_routed_iff (by omega), tables, if_pos rfl] at own
    exact own
  · intro tableRouted other version positive finished
    rw [version_routed_iff positive, tables]
    split
    · exact tableRouted
    · next different =>
        rw [← version_routed_iff positive]
        apply routed other version positive
        rw [versions] at finished
        split at finished
        · next own =>
            subst own
            have notTarget : version ≠ targetVersion before.diamondCutManager other :=
              fun same => different (by rw [same])
            omega
        · exact finished

theorem nothing_activated : ActivatedVersionsRouted DiamondCutManagerStorage.empty := by
  intro configurationId version positive finished
  have none_ : version ≤ 0 := finished
  omega

theorem silent_call {msg : Msg} {called : ResolverCall}
    (creates : ∀ configurationId facetConfigurations,
      called.creation ≠ some (configurationId, facetConfigurations, true))
    (same : ActivatedVersionsRouted (manager (nextNetwork d network (.resolver msg called))) ↔
      ActivatedVersionsRouted (manager network))
    (routed : ActivatedVersionsRouted (manager network)) :
    ActivatedVersionsRouted (manager (nextNetwork d network (.resolver msg called))) ↔
      KeepsSelectorsApart d network (.resolver msg called) := by
  refine iff_of_true (same.mpr routed) ?_
  intro configurationId facetConfigurations creation
  exact absurd creation (creates configurationId facetConfigurations)

theorem apart_iff_kept {msg : Msg} {called : ResolverCall} {configurationId : Bytes32}
    {facetConfigurations : List FacetConfiguration} {after : ResolverState} {table : VersionTable}
    (invariant : ManagerInvariant (manager network))
    (creation : called.creation = some (configurationId, facetConfigurations, true))
    (done : Creating d.facets msg configurationId facetConfigurations true network.resolver after
      table) :
    SelectorsApart table ↔ KeepsSelectorsApart d network (.resolver msg called) := by
  have offered := offered_after_creating invariant done
  constructor
  · intro apart other otherFacets otherCreation _ first second selector inFirst inSecond
    rw [creation] at otherCreation
    cases otherCreation
    obtain ⟨firstListed, firstHas⟩ := (offered first selector).mpr inFirst
    obtain ⟨secondListed, secondHas⟩ := (offered second selector).mpr inSecond
    exact apart first firstListed second secondListed selector firstHas secondHas
  · intro kept first firstListed second secondListed selector firstHas secondHas
    exact kept _ _ creation (accepted_of_creating done) first second selector
      ((offered first selector).mp ⟨firstListed, firstHas⟩)
      ((offered second selector).mp ⟨secondListed, secondHas⟩)

theorem routed_call_iff {msg : Msg} {called : ResolverCall} {after : ResolverState}
    {result : Unit} (invariant : ManagerInvariant (manager network))
    (routed : ActivatedVersionsRouted (manager network))
    (outcome : called.perform d.facets msg network.resolver = .ok (result, after)) :
    ActivatedVersionsRouted (manager (nextNetwork d network (.resolver msg called))) ↔
      KeepsSelectorsApart d network (.resolver msg called) := by
  have effect := resolver_effect outcome
  obtain ⟨_, grows⟩ := history_of_effect invariant.ordered effect
  have later : manager (nextNetwork d network (.resolver msg called)) =
      after.diamondCutManager := by
    simp only [nextNetwork, manager, resolver_next_of_committed outcome]
  cases effect with
  | initialized _ frame | registered _ _ _ frame =>
      refine silent_call ?_ ?_ routed
      · intro _ _ creation
        cases creation
      · rw [later, frame]
  | blacklisted kind _ _ frame =>
      refine silent_call ?_ ?_ routed
      · intro _ _ creation
        rw [creation_of_blacklist kind] at creation
        cases creation
      · rw [later, frame]
  | cancelled _ _ frame =>
      refine silent_call ?_ ?_ routed
      · intro _ _ creation
        cases creation
      · rw [later]
        apply routed_kept grows
        rw [frame, cancel_batch_eq]
        rfl
  | @created _ configurationId facetConfigurations isLastBatch table creation done =>
      cases isLastBatch with
      | false =>
          refine silent_call ?_ ?_ routed
          · intro other otherFacets otherCreation
            rw [creation] at otherCreation
            cases otherCreation
          · rw [later]
            apply routed_kept grows
            rw [done.frame]
            rfl
      | true =>
          rw [later, routed_after_creating invariant routed done]
          exact apart_iff_kept invariant creation done

theorem routed_step_iff (label : NetworkLabel outside)
    (invariant : ManagerInvariant (manager network))
    (routed : ActivatedVersionsRouted (manager network)) :
    ActivatedVersionsRouted (manager (nextNetwork d network label)) ↔
      KeepsSelectorsApart d network label := by
  cases label with
  | deploy _ _ _ _ _ _ =>
      rw [manager, resolver_after_deploy]
      exact iff_of_true routed trivial
  | proxy _ _ _ =>
      rw [manager, resolver_after_proxy]
      exact iff_of_true routed trivial
  | outside _ => exact iff_of_true routed trivial
  | resolver msg called =>
      cases outcome : called.perform d.facets msg network.resolver with
      | ok pair => exact routed_call_iff invariant routed outcome
      | error failure =>
          simp only [nextNetwork, manager, resolver_next_of_reverted outcome]
          refine iff_of_true routed ?_
          intro configurationId facetConfigurations creation accepted
          obtain ⟨after, committed⟩ := (commits_iff_accepted creation).mpr accepted
          rw [outcome] at committed
          cases committed

/-- In every run, what is activated is routed in every state exactly when every
call that finishes a version keeps its selectors apart. -/
theorem activated_versions_routed_iff (d : Deployment outside) (world : outside)
    (labels : List (NetworkLabel outside)) :
    Along (nextNetwork d)
        (fun network label => ActivatedVersionsRouted (manager (nextNetwork d network label)))
        (freshNetwork world) labels ↔
      Along (nextNetwork d) (KeepsSelectorsApart d) (freshNetwork world) labels := by
  have kept : ∀ network taken, ManagerInvariant (manager network) →
      ManagerInvariant (manager (nextNetwork d network taken)) :=
    fun _ taken invariant => manager_invariant_step invariant taken
  have routed : ∀ network taken, ManagerInvariant (manager network) →
      ActivatedVersionsRouted (manager network) →
      (ActivatedVersionsRouted (manager (nextNetwork d network taken)) ↔
        KeepsSelectorsApart d network taken) :=
    fun _ taken invariant now => routed_step_iff taken invariant now
  exact along_iff_of_steps (nextNetwork d) kept routed manager_invariant_empty nothing_activated

/-- Facets 1 and 3 share the selector 0x102; the version lists both, and calls
of it reach facet 3 only. -/
theorem shared_selector_misrouted :
    ¬ ActivatedVersionsRouted
      (manager (run (nextNetwork sample) (freshNetwork ())
        (sampleRegistrations ++ [byAdmin (.createConfiguration 9 [⟨1, 1⟩, ⟨3, 1⟩])]))) := by
  intro routed
  have called := (routed 9 1 (by decide) (by decide) 1 (by decide) 0x102 (by decide)).2
  revert called
  decide

end StablecoinStudio.Resolver.Routing
