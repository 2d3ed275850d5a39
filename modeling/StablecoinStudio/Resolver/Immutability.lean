import StablecoinStudio.Resolver.ProxyNetworks

/-!
# Finished versions never change

Over every interleaving of calls of the resolver, constructions of proxies and
calls of proxies: the table of a finished version stays as it is, and a proxy
is only ever pointed at finished versions.
-/

namespace StablecoinStudio.Resolver.Immutability

open StablecoinStudio.Core.Common
open StablecoinStudio.Foundation.Runs
open StablecoinStudio.Foundation.Transaction
open StablecoinStudio.Resolver.BusinessLogicResolver
open StablecoinStudio.Resolver.ConfigurationTables
open StablecoinStudio.Resolver.DiamondCutManagerWrapper
open StablecoinStudio.Resolver.ProxyNetworks
open StablecoinStudio.Resolver.ResolverEffects
open StablecoinStudio.Resolver.VersionHistory
open StablecoinStudio.Token.ProxyState
open StablecoinStudio.Token.ReferenceLedger
open StablecoinStudio.Token.System

set_option autoImplicit false

variable {outside : Type} {d : Deployment outside} {network : Network outside}

def Registered (d : Deployment outside) (network : Network outside)
    (stored : ResolverProxyStorage) : Prop :=
  stored.resolver = d.resolverAddress →
    isResolverProxyConfigurationRegistered (manager network) stored.resolverProxyConfigurationId
      stored.version = true

def routes (network : Network outside) (stored : ResolverProxyStorage) (selector : Bytes4) :
    Address :=
  resolveResolverProxyCall (manager network) stored.resolverProxyConfigurationId stored.version
    selector

structure NetworkInvariant (d : Deployment outside) (network : Network outside) : Prop where
  ordered : VersionsInOrder (manager network)
  registered : ∀ proxy state, network.proxies proxy = some state →
    Registered d network state.resolverProxy

/-! ## One step -/

theorem registered_iff (dcms : DiamondCutManagerStorage) (configurationId : Bytes32)
    (version : Nat) :
    isResolverProxyConfigurationRegistered dcms configurationId version = true ↔
      dcms.activeConfigurations configurationId = true ∧
        version ≤ dcms.latestVersion configurationId := by
  simp [isResolverProxyConfigurationRegistered]

theorem registered_later {before after : DiamondCutManagerStorage} {configurationId : Bytes32}
    {version : Nat} (orderedBefore : VersionsInOrder before) (orderedAfter : VersionsInOrder after)
    (grows : Grows before after)
    (registered : isResolverProxyConfigurationRegistered before configurationId version = true) :
    isResolverProxyConfigurationRegistered after configurationId version = true := by
  rw [registered_iff] at registered ⊢
  obtain ⟨active, within⟩ := registered
  have more := grows.versions configurationId
  have finished := (orderedBefore.active configurationId).mp active
  exact ⟨(orderedAfter.active configurationId).mpr (finished.trans more), within.trans more⟩

/-- What the resolver's address confirms is what the resolver has registered. -/
theorem registered_of_confirmed {proxy : Address} {before after : State (ResolverState × outside)}
    (sameWorld : before.world.1 = network.resolver)
    (confirmed : ResolverProxy.Confirmed (d.platformOf proxy) before after) :
    Registered d network after.resolverProxy := by
  intro ours
  rw [ResolverProxy.Confirmed, Deployment.platformOf] at confirmed
  simp only [if_pos ours, sameWorld] at confirmed
  exact confirmed

theorem registered_after_deploy {proxy resolver : Address} {msg : Msg} {configurationId : Bytes32}
    {version : Nat} {roles : List Token.Administration.RolesStruct} {state : State Unit}
    (done : constructed d network.world proxy msg resolver configurationId version roles =
      some state) : Registered d network state.resolverProxy := by
  unfold constructed at done
  split at done
  · next result later committed =>
      cases done
      exact registered_of_confirmed rfl (ResolverProxy.initialize_confirmed committed)
  · cases done

theorem registered_after_call {proxy : Address} {msg : Msg} {called : Call} {state : State Unit}
    (undisturbed : called.undisturbed (d.platformOf proxy) msg)
    (registered : Registered d network state.resolverProxy) :
    Registered d network
      (next (d.platformOf proxy) (inWorld state network.world) (.call msg called)).resolverProxy := by
  rcases next_cases (d.platformOf proxy) (inWorld state network.world) msg called with
    committed | same
  · rcases ResolverProxy.stored_kept_or_confirmed undisturbed committed with kept | confirmed
    · rw [kept]
      exact registered
    · exact registered_of_confirmed rfl confirmed
  · rw [same]
    exact registered

theorem network_invariant_step (label : NetworkLabel outside) (invariant : NetworkInvariant d network)
    (undisturbed : NobodyCallsBack d network label) :
    NetworkInvariant d (nextNetwork d network label) := by
  obtain ⟨ordered, grows⟩ := manager_step d invariant.ordered label
  refine ⟨ordered, ?_⟩
  -- what was registered before the step still is
  have later {stored : ResolverProxyStorage} (registered : Registered d network stored) :
      Registered d (nextNetwork d network label) stored :=
    fun ours => registered_later invariant.ordered ordered grows (registered ours)
  intro proxy state stored
  apply later
  cases label with
  | resolver msg called => exact invariant.registered proxy state stored
  | outside world => exact invariant.registered proxy state stored
  | deploy deployedProxy msg resolver configurationId version roles =>
      simp only [nextNetwork] at stored
      split at stored
      · next newState free done =>
          by_cases new : proxy = deployedProxy
          · subst new
            rw [Network.setProxy] at stored
            simp only [Function.update_self, Option.some.injEq] at stored
            rw [← stored]
            exact registered_after_deploy done
          · simp only [Network.setProxy, Function.update_of_ne new] at stored
            exact invariant.registered proxy state stored
      · exact invariant.registered proxy state stored
  | proxy called msg call =>
      simp only [nextNetwork] at stored
      split at stored
      · exact invariant.registered proxy state stored
      · next earlier known =>
          by_cases own : proxy = called
          · subst own
            simp only [Network.setProxy, Function.update_self, Option.some.injEq] at stored
            rw [← stored]
            exact registered_after_call undisturbed (invariant.registered proxy earlier known)
          · simp only [Network.setProxy, Function.update_of_ne own] at stored
            exact invariant.registered proxy state stored

/-! ## Every run -/

theorem network_invariant_fresh (world : outside) : NetworkInvariant d (freshNetwork world) where
  ordered := versions_in_order_empty
  registered _ _ stored := by cases stored

theorem invariant_along_run {labels : List (NetworkLabel outside)}
    (invariant : NetworkInvariant d network)
    (undisturbed : Along (nextNetwork d) (NobodyCallsBack d) network labels) :
    NetworkInvariant d (run (nextNetwork d) network labels) :=
  invariant_of_steps (nextNetwork d) (fun _ taken => network_invariant_step taken) invariant
    undisturbed

/-- What holds of the network after a run, and between an earlier state of it
and the state at its end. -/
structure FinishedVersionsFixed (d : Deployment outside) (earlier later : Network outside) :
    Prop where
  latest : ∀ configurationId,
    (manager earlier).latestVersion configurationId ≤ (manager later).latestVersion configurationId
  batch : ∀ configurationId, (manager later).batchVersion configurationId = 0 ∨
    (manager later).batchVersion configurationId =
      (manager later).latestVersion configurationId + 1
  table : ∀ configurationId version, 1 ≤ version →
    version ≤ (manager earlier).latestVersion configurationId →
    tableAt (manager later) (configurationId, version) =
      tableAt (manager earlier) (configurationId, version)
  registered : ∀ proxy state, later.proxies proxy = some state →
    state.resolverProxy.resolver = d.resolverAddress →
      (manager later).activeConfigurations state.resolverProxy.resolverProxyConfigurationId = true ∧
      state.resolverProxy.version ≤
        (manager later).latestVersion state.resolverProxy.resolverProxyConfigurationId
  /-- The version a call is routed by is finished, not the one under way. -/
  finished : ∀ proxy state, later.proxies proxy = some state →
    state.resolverProxy.resolver = d.resolverAddress →
      1 ≤ resolveVersion (manager later) state.resolverProxy.resolverProxyConfigurationId
          state.resolverProxy.version ∧
      resolveVersion (manager later) state.resolverProxy.resolverProxyConfigurationId
          state.resolverProxy.version ≤
        (manager later).latestVersion state.resolverProxy.resolverProxyConfigurationId
  routing : ∀ proxy before after, earlier.proxies proxy = some before →
    later.proxies proxy = some after → after.resolverProxy = before.resolverProxy →
    before.resolverProxy.resolver = d.resolverAddress → 0 < before.resolverProxy.version →
    ∀ selector, routes later after.resolverProxy selector =
      routes earlier before.resolverProxy selector

theorem resolve_version_finished {dcms : DiamondCutManagerStorage} {configurationId : Bytes32}
    {version : Nat} (ordered : VersionsInOrder dcms)
    (registered : isResolverProxyConfigurationRegistered dcms configurationId version = true) :
    1 ≤ resolveVersion dcms configurationId version ∧
      resolveVersion dcms configurationId version ≤ dcms.latestVersion configurationId := by
  obtain ⟨active, within⟩ := (registered_iff _ _ _).mp registered
  have finished := (ordered.active configurationId).mp active
  unfold resolveVersion
  split
  · exact ⟨by omega, within⟩
  · exact ⟨finished, le_rfl⟩

/-- For every run from the deployment on and every earlier state of it. -/
theorem finished_versions_fixed (d : Deployment outside) (world : outside)
    (first second : List (NetworkLabel outside))
    (undisturbed : Along (nextNetwork d) (NobodyCallsBack d) (freshNetwork world) (first ++ second)) :
    FinishedVersionsFixed d (run (nextNetwork d) (freshNetwork world) first)
      (run (nextNetwork d) (freshNetwork world) (first ++ second)) := by
  rw [along_append] at undisturbed
  rw [run_append]
  have earlier := invariant_along_run (network_invariant_fresh world) undisturbed.1
  have later := invariant_along_run earlier undisturbed.2
  have grows := grows_along_run d second earlier.ordered
  exact {
    latest := grows.versions
    batch := later.ordered.batch
    table := grows.tables
    registered := by
      intro proxy state stored ours
      exact (registered_iff _ _ _).mp (later.registered proxy state stored ours)
    finished := by
      intro proxy state stored ours
      exact resolve_version_finished later.ordered (later.registered proxy state stored ours)
    routing := by
      intro proxy before after stored _ same ours positive selector
      have registered := (registered_iff _ _ _).mp (earlier.registered proxy before stored ours)
      have fixed := grows.tables _ _ positive registered.2
      rw [same]
      simp only [routes, resolveResolverProxyCall, resolveVersion, if_pos positive]
      exact congrFun (congrArg VersionTables.VersionTable.facetAddress fixed) selector }

/-- A proxy is constructed on version 1 of configuration 9 and moves to version
2, which is put together by two calls. -/
def upgradeRun : List (NetworkLabel Unit) :=
  [.deploy 20 (sampleMsg 6 2) 5 9 1 [⟨0, 6⟩],
    byAdmin (.createBatchConfiguration 9 [⟨1, 1⟩] false),
    .proxy 20 (sampleMsg 6 3) (.updateConfigVersion 2),
    byAdmin (.createBatchConfiguration 9 [⟨2, 1⟩] true),
    .proxy 20 (sampleMsg 6 4) (.updateConfigVersion 2)]

theorem finished_versions_fixed_on_sample_run :
    FinishedVersionsFixed sample
        (run (nextNetwork sample) (freshNetwork ())
          (sampleRegistrations ++ [byAdmin (.createConfiguration 9 [⟨1, 1⟩])]))
        (run (nextNetwork sample) (freshNetwork ())
          ((sampleRegistrations ++ [byAdmin (.createConfiguration 9 [⟨1, 1⟩])]) ++ upgradeRun)) ∧
      ((run (nextNetwork sample) (freshNetwork ())
          ((sampleRegistrations ++ [byAdmin (.createConfiguration 9 [⟨1, 1⟩])]) ++
            upgradeRun)).proxies 20).map (fun state => state.resolverProxy) = some ⟨5, 9, 2⟩ := by
  refine ⟨finished_versions_fixed sample () _ _ ?_, rfl⟩
  simp [sampleRegistrations, upgradeRun, byAdmin, Along, NobodyCallsBack, Call.undisturbed, Call.kind]

end StablecoinStudio.Resolver.Immutability
