import StablecoinStudio.Resolver.ProxyNetworks

/-!
# Configurations bind the versions they name

The registry keeps the addresses of a facet in the order of its registrations,
and an index from versions to positions that is zero for a version that was
never registered. The configuration functions resolve without asking whether
the version exists, so they bind such a version to the first address.
-/

namespace StablecoinStudio.Resolver.FacetVersions

open StablecoinStudio.Core.Common
open StablecoinStudio.Foundation.Runs
open StablecoinStudio.Foundation.Transaction
open StablecoinStudio.Resolver.BusinessLogicResolver
open StablecoinStudio.Resolver.BusinessLogicResolverWrapper
open StablecoinStudio.Resolver.ConfigurationTables
open StablecoinStudio.Resolver.DiamondCutManagerWrapper
open StablecoinStudio.Resolver.ProxyNetworks
open StablecoinStudio.Resolver.ResolverEffects
open StablecoinStudio.Resolver.TableLaws
open StablecoinStudio.Resolver.VersionHistory
open StablecoinStudio.Resolver.VersionTables
open StablecoinStudio.Token

set_option autoImplicit false

/-! ## The registry -/

def addresses (registry : BusinessLogicResolverDataStorage) (facetId : Bytes32) : List Address :=
  (registry.businessLogics facetId).map BusinessLogicVersion.businessLogicAddress

/-- The version is one of the facet's, as `_checkValidVersion` asks. -/
def VersionExists (registry : BusinessLogicResolverDataStorage) (facet : FacetConfiguration) :
    Prop :=
  1 ≤ facet.version ∧ facet.version ≤ registry.latestVersionByFacetId facet.id

structure RegistryInvariant (registry : BusinessLogicResolverDataStorage) : Prop where
  counted : ∀ facetId, registry.latestVersionByFacetId facetId =
    (registry.businessLogics facetId).length
  active : ∀ facetId, registry.businessLogicActive facetId = true ↔
    1 ≤ registry.latestVersionByFacetId facetId
  placed : ∀ facetId version, registry.businessLogicVersionIndex (facetId, version) =
    if version ≤ registry.latestVersionByFacetId facetId then version - 1 else 0

theorem registry_invariant_empty : RegistryInvariant BusinessLogicResolverDataStorage.empty where
  counted _ := rfl
  active _ := by simp [BusinessLogicResolverDataStorage.empty]
  placed facetId version := by
    change 0 = if version ≤ 0 then version - 1 else 0
    by_cases none_ : version ≤ 0
    · rw [if_pos none_]
      omega
    · rw [if_neg none_]

variable {registry : BusinessLogicResolverDataStorage} {facet : FacetConfiguration}

theorem addresses_register (data : BusinessLogicRegistryData) (facetId : Bytes32) :
    addresses (registerBusinessLogic registry data) facetId =
      addresses registry facetId ++
        if data.businessLogicKey = facetId then [data.businessLogicAddress] else [] := by
  by_cases own : data.businessLogicKey = facetId
  · subst own
    simp [addresses, registerBusinessLogic]
  · simp [addresses, registerBusinessLogic, own, Ne.symm own]

theorem registry_invariant_register (data : BusinessLogicRegistryData)
    (invariant : RegistryInvariant registry) :
    RegistryInvariant (registerBusinessLogic registry data) := by
  have counted := invariant.counted data.businessLogicKey
  constructor
  · intro facetId
    by_cases own : facetId = data.businessLogicKey
    · subst own
      simp [registerBusinessLogic, counted]
    · simp [registerBusinessLogic, own, invariant.counted facetId]
  · intro facetId
    by_cases own : facetId = data.businessLogicKey
    · subst own
      simp [registerBusinessLogic]
    · simpa [registerBusinessLogic, own] using invariant.active facetId
  · intro facetId version
    by_cases own : facetId = data.businessLogicKey
    · subst own
      have placed := invariant.placed data.businessLogicKey version
      by_cases new : version = registry.latestVersionByFacetId data.businessLogicKey + 1
      · subst new
        simp [registerBusinessLogic, counted]
      · simp only [registerBusinessLogic, Function.update_self]
        rw [Function.update_of_ne (by simpa using new), placed]
        split
        · rw [if_pos (by omega)]
        · rw [if_neg (by omega)]
    · simp only [registerBusinessLogic, Function.update_of_ne own]
      rw [Function.update_of_ne (by simp [own])]
      exact invariant.placed facetId version

theorem resolved_of_exists (invariant : RegistryInvariant registry)
    (exists_ : VersionExists registry facet) :
    resolvedAddress registry facet = (addresses registry facet.id)[facet.version - 1]? := by
  have active := (invariant.active facet.id).mpr (exists_.1.trans exists_.2)
  rw [resolvedAddress, if_pos active, invariant.placed, if_pos exists_.2, addresses,
    List.getElem?_map]

/-! ## The history of registrations -/

def addressesFor (facetId : Bytes32) (businessLogics : List BusinessLogicRegistryData) :
    List Address :=
  (businessLogics.filter fun data => data.businessLogicKey = facetId).map
    BusinessLogicRegistryData.businessLogicAddress

theorem registry_after_registrations (businessLogics : List BusinessLogicRegistryData)
    (invariant : RegistryInvariant registry) :
    RegistryInvariant (businessLogics.foldl registerBusinessLogic registry) ∧
      ∀ facetId, addresses (businessLogics.foldl registerBusinessLogic registry) facetId =
        addresses registry facetId ++ addressesFor facetId businessLogics := by
  induction businessLogics generalizing registry with
  | nil => exact ⟨invariant, fun facetId => (List.append_nil _).symm⟩
  | cons data rest ih =>
      obtain ⟨kept, listed⟩ := ih (registry_invariant_register data invariant)
      refine ⟨kept, ?_⟩
      intro facetId
      rw [List.foldl_cons, listed, addresses_register, List.append_assoc]
      by_cases own : data.businessLogicKey = facetId
      · simp [addressesFor, own]
      · simp [addressesFor, own]

variable {outside : Type} {d : Deployment outside} {network : Network outside}

def registeredBy (d : Deployment outside) (facetId : Bytes32) (network : Network outside) :
    NetworkLabel outside → List Address
  | .resolver msg (.registerBusinessLogics businessLogics) =>
      match (ResolverCall.registerBusinessLogics businessLogics).perform d.facets msg
          network.resolver with
      | .ok _ => addressesFor facetId businessLogics
      | .error _ => []
  | _ => []

def registrations (d : Deployment outside) (world : outside) (labels : List (NetworkLabel outside))
    (facetId : Bytes32) : List Address :=
  collect (nextNetwork d) (registeredBy d facetId) (freshNetwork world) labels

theorem same_registrations {msg : Msg} {before after : ResolverState} {called : ResolverCall}
    (effect : ResolverEffect d.facets msg before after called)
    (other : ∀ businessLogics, called ≠ .registerBusinessLogics businessLogics) :
    SameRegistrations before.businessLogicResolver after.businessLogicResolver := by
  cases effect with
  | registered _ _ _ _ => exact (other _ rfl).elim
  | initialized _ frame | cancelled _ _ frame =>
      rw [frame]
      rfl
  | created _ done =>
      rw [done.frame]
      rfl
  | blacklisted _ _ same _ => exact same

theorem registered_by_other {msg : Msg} {called : ResolverCall} (facetId : Bytes32)
    (other : ∀ businessLogics, called ≠ .registerBusinessLogics businessLogics) :
    registeredBy d facetId network (.resolver msg called) = [] := by
  cases called with
  | registerBusinessLogics businessLogics => exact (other businessLogics rfl).elim
  | _ => rfl

theorem registry_step (label : NetworkLabel outside)
    (invariant : RegistryInvariant network.resolver.businessLogicResolver) :
    RegistryInvariant (nextNetwork d network label).resolver.businessLogicResolver ∧
      ∀ facetId, addresses (nextNetwork d network label).resolver.businessLogicResolver facetId =
        addresses network.resolver.businessLogicResolver facetId ++
          registeredBy d facetId network label := by
  have unchanged {later : BusinessLogicResolverDataStorage} {produced : Bytes32 → List Address}
      (same : SameRegistrations network.resolver.businessLogicResolver later)
      (nothing : ∀ facetId, produced facetId = []) :
      RegistryInvariant later ∧ ∀ facetId, addresses later facetId =
        addresses network.resolver.businessLogicResolver facetId ++ produced facetId := by
    rw [same]
    refine ⟨⟨invariant.counted, invariant.active, invariant.placed⟩, ?_⟩
    intro facetId
    rw [nothing, List.append_nil]
    rfl
  cases label with
  | deploy _ _ _ _ _ _ =>
      rw [resolver_after_deploy]
      exact unchanged rfl fun _ => rfl
  | proxy _ _ _ =>
      rw [resolver_after_proxy]
      exact unchanged rfl fun _ => rfl
  | outside _ => exact unchanged rfl fun _ => rfl
  | resolver msg called =>
      by_cases registering : ∃ businessLogics, called = .registerBusinessLogics businessLogics
      · obtain ⟨businessLogics, rfl⟩ := registering
        cases outcome : (ResolverCall.registerBusinessLogics businessLogics).perform d.facets msg
            network.resolver with
        | error failure =>
            simp only [nextNetwork, resolver_next_of_reverted outcome, registeredBy, outcome]
            exact unchanged rfl fun _ => rfl
        | ok pair =>
            obtain ⟨_, after⟩ := pair
            simp only [nextNetwork, resolver_next_of_committed outcome, registeredBy, outcome]
            cases resolver_effect outcome with
            | registered _ _ _ frame =>
                rw [frame]
                exact registry_after_registrations businessLogics invariant
            | blacklisted kind _ _ _ => cases kind
            | created creation _ => cases creation
      · have other : ∀ businessLogics, called ≠ .registerBusinessLogics businessLogics :=
          fun businessLogics same => registering ⟨businessLogics, same⟩
        rcases resolver_next_cases d.facets network.resolver msg called with effect | same
        · exact unchanged (same_registrations effect other) fun facetId =>
            registered_by_other facetId other
        · simp only [nextNetwork, same]
          exact unchanged rfl fun facetId => registered_by_other facetId other

theorem registry_invariant_along_run (labels : List (NetworkLabel outside))
    (invariant : RegistryInvariant network.resolver.businessLogicResolver) :
    RegistryInvariant (run (nextNetwork d) network labels).resolver.businessLogicResolver :=
  invariant_of_every_step (nextNetwork d)
    (fun network => RegistryInvariant network.resolver.businessLogicResolver)
    (fun _ taken invariant => (registry_step taken invariant).1) labels invariant

theorem addresses_along_run (d : Deployment outside) (world : outside)
    (labels : List (NetworkLabel outside)) (facetId : Bytes32) :
    addresses (run (nextNetwork d) (freshNetwork world) labels).resolver.businessLogicResolver
        facetId = registrations d world labels facetId := by
  apply grown_of_steps (nextNetwork d)
    (fun network => RegistryInvariant network.resolver.businessLogicResolver)
    (fun network => addresses network.resolver.businessLogicResolver facetId)
    (registeredBy d facetId) _ labels registry_invariant_empty
  intro network taken invariant
  obtain ⟨kept, grown⟩ := registry_step taken invariant
  exact ⟨kept, grown facetId⟩

/-! ## What a configuration binds -/

/-- A committed call records its entries, each with a version of the facet that
exists and the address of that registration; a call with any other version
reverts. -/
def BindsRegisteredVersions (d : Deployment outside) (registered : Bytes32 → List Address)
    (network : Network outside) (msg : Msg) (called : ResolverCall) : Prop :=
  ∀ configurationId facetConfigurations isLastBatch,
    called.creation = some (configurationId, facetConfigurations, isLastBatch) →
    (∀ after, called.perform d.facets msg network.resolver = .ok ((), after) →
      ∀ key, key = (configurationId,
        targetVersion network.resolver.diamondCutManager configurationId) →
      (tableAt after.diamondCutManager key).facetIds =
          (tableAt network.resolver.diamondCutManager key).facetIds ++
            facetConfigurations.map FacetConfiguration.id ∧
        (tableAt after.diamondCutManager key).facetVersions =
          (tableAt network.resolver.diamondCutManager key).facetVersions ++
            facetConfigurations.map FacetConfiguration.version ∧
        ∀ facet ∈ facetConfigurations,
          VersionExists network.resolver.businessLogicResolver facet ∧
            (registered facet.id)[facet.version - 1]? =
              some ((tableAt after.diamondCutManager key).addr facet.id)) ∧
    ((∃ facet ∈ facetConfigurations,
        ¬ VersionExists network.resolver.businessLogicResolver facet) →
      (∃ failure, called.perform d.facets msg network.resolver = .error failure) ∧
        nextNetwork d network (.resolver msg called) = network)

def NamesExistingVersions (d : Deployment outside) (network : Network outside) (msg : Msg)
    (called : ResolverCall) : Prop :=
  ∀ configurationId facetConfigurations isLastBatch,
    called.creation = some (configurationId, facetConfigurations, isLastBatch) →
    Accepted d.facets msg configurationId facetConfigurations network.resolver →
    ∀ facet ∈ facetConfigurations, VersionExists network.resolver.businessLogicResolver facet

/-- For every reachable registry and every call. -/
theorem binds_registered_versions_iff (d : Deployment outside) (world : outside)
    (labels : List (NetworkLabel outside)) (msg : Msg) (called : ResolverCall) :
    BindsRegisteredVersions d (registrations d world labels)
        (run (nextNetwork d) (freshNetwork world) labels) msg called ↔
      NamesExistingVersions d (run (nextNetwork d) (freshNetwork world) labels) msg called := by
  have invariant : RegistryInvariant
      (run (nextNetwork d) (freshNetwork world) labels).resolver.businessLogicResolver :=
    registry_invariant_along_run labels registry_invariant_empty
  have listed := addresses_along_run d world labels
  generalize run (nextNetwork d) (freshNetwork world) labels = network at invariant listed ⊢
  constructor
  · intro binds configurationId facetConfigurations isLastBatch creation accepted facet member
    obtain ⟨after, committed⟩ := (commits_iff_accepted creation).mpr accepted
    have recorded := (binds _ _ _ creation).1 after committed _ rfl
    exact (recorded.2.2 facet member).1
  · intro names configurationId facetConfigurations isLastBatch creation
    have exists_ := names _ _ _ creation
    constructor
    · intro after committed key own
      obtain ⟨table, done⟩ := (creation_ok creation).mp committed
      have stored : tableAt after.diamondCutManager key = table := by
        rw [own, done.frame, table_at_activate, table_at_under_way]
      obtain ⟨ids, versions⟩ := VersionTable.extend_lists done.extended
      rw [stored]
      refine ⟨by rw [ids, own]; rfl, by rw [versions, own]; rfl, ?_⟩
      intro facet member
      have versionExists := exists_ (accepted_of_creating done) facet member
      obtain ⟨binding, found, address⟩ := addr_after_extend (bound_is_set _ _) done.extended member
      refine ⟨versionExists, ?_⟩
      rw [address, ← listed, ← resolved_of_exists invariant versionExists]
      exact (bound_some.mp found).1
    · intro unregistered
      obtain ⟨facet, member, missing⟩ := unregistered
      cases outcome : called.perform d.facets msg network.resolver with
      | ok pair =>
          obtain ⟨_, after⟩ := pair
          have accepted := (commits_iff_accepted creation).mp ⟨after, outcome⟩
          exact (missing (exists_ accepted facet member)).elim
      | error failure =>
          refine ⟨⟨failure, rfl⟩, ?_⟩
          simp only [nextNetwork, resolver_next_of_reverted outcome]

/-- Facet 1 has one version; an entry that names version 7 of it is bound to
the address of the first. -/
theorem unregistered_version_bound :
    ¬ BindsRegisteredVersions sample (registrations sample () sampleRegistrations) sampleStart
      (ReferenceLedger.sampleMsg 4 1) (.createConfiguration 9 [⟨1, 7⟩]) := by
  intro binds
  have reverts := ((binds 9 [⟨1, 7⟩] true rfl).2 ⟨⟨1, 7⟩, by decide, by
    unfold VersionExists
    decide⟩).1
  obtain ⟨failure, reverted⟩ := reverts
  cases reverted

end StablecoinStudio.Resolver.FacetVersions
