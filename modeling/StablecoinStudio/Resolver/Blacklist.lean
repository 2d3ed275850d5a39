import StablecoinStudio.Resolver.Batches

/-!
# The selector blacklist and the versions that become live

A selector is looked up in the blacklist of its configuration when the call
that adds it is performed. A version of several batches is finished by its
last one, so the blacklist may have grown since.
-/

namespace StablecoinStudio.Resolver.Blacklist

open StablecoinStudio.Core.Common
open StablecoinStudio.Core.EnumerableSetBytes4
open StablecoinStudio.Foundation.Runs
open StablecoinStudio.Foundation.Transaction
open StablecoinStudio.Resolver.Batches
open StablecoinStudio.Resolver.BusinessLogicResolver
open StablecoinStudio.Resolver.BusinessLogicResolverWrapper
open StablecoinStudio.Resolver.ConfigurationTables
open StablecoinStudio.Resolver.DiamondCutManagerWrapper
open StablecoinStudio.Resolver.ProxyNetworks
open StablecoinStudio.Resolver.ResolverEffects
open StablecoinStudio.Resolver.TableLaws
open StablecoinStudio.Resolver.VersionHistory
open StablecoinStudio.Resolver.VersionTables
open StablecoinStudio.Token.ReferenceLedger

set_option autoImplicit false

/-! ## What the calls do to the blacklists -/

def Blacklisted (registry : BusinessLogicResolverDataStorage) (configurationId : Bytes32)
    (selector : Bytes4) : Prop :=
  contains (registry.selectorBlacklist configurationId) selector = true

def BlacklistsIndexed (registry : BusinessLogicResolverDataStorage) : Prop :=
  ∀ configurationId, Indexed (registry.selectorBlacklist configurationId)

/-- The blacklists stay in order and only get the named selectors. -/
structure GrowsBy (named : Bytes32 → Bytes4 → Prop)
    (before after : BusinessLogicResolverDataStorage) : Prop where
  indexed : BlacklistsIndexed before → BlacklistsIndexed after
  only : BlacklistsIndexed before → ∀ configurationId selector,
    Blacklisted after configurationId selector →
      Blacklisted before configurationId selector ∨ named configurationId selector

variable {named : Bytes32 → Bytes4 → Prop}

instance : Std.Refl (GrowsBy named) := ⟨fun _ => ⟨id, fun _ _ _ => Or.inl⟩⟩

instance : IsTrans BusinessLogicResolverDataStorage (GrowsBy named) := by
  constructor
  intro first second third start rest
  constructor
  · intro indexed
    exact rest.indexed (start.indexed indexed)
  · intro indexed configurationId selector last
    rcases rest.only (start.indexed indexed) configurationId selector last with middle | new
    · exact start.only indexed configurationId selector middle
    · exact Or.inr new

theorem grows_by_of_same {before after : BusinessLogicResolverDataStorage}
    (same : after.selectorBlacklist = before.selectorBlacklist) : GrowsBy named before after := by
  constructor
  · intro indexed configurationId
    rw [same]
    exact indexed configurationId
  · intro _ configurationId selector last
    rw [Blacklisted, same] at last
    exact Or.inl last

theorem grows_by_on_blacklist {value : Type} (configurationId : Bytes32) (call : SetTx value)
    (effect : ∀ environment before result after, call environment before = .ok (result, after) →
      Indexed before → Indexed after ∧ ∀ selector, contains after selector = true →
        contains before selector = true ∨ named configurationId selector) :
    Tx.Respects (GrowsBy named) (do let _ ← onBlacklist configurationId call) := by
  intro environment before result after committed
  simp only [onBlacklist, Tx.bind_ok, Tx.focus_ok, Tx.pure_ok] at committed
  obtain ⟨_, _, ⟨changed, called, rfl⟩, _, rfl⟩ := committed
  constructor
  · intro indexed other
    by_cases own : other = configurationId
    · subst own
      simpa using (effect _ _ _ _ called (indexed other)).1
    · simpa [own] using indexed other
  · intro indexed other selector last
    by_cases own : other = configurationId
    · subst own
      simp only [Blacklisted, Function.update_self] at last
      exact (effect _ _ _ _ called (indexed other)).2 selector last
    · simp only [Blacklisted, Function.update_of_ne own] at last
      exact Or.inl last

theorem add_selectors_grows_by (configurationId : Bytes32) (selectors : List Bytes4) :
    (BusinessLogicResolverWrapper.addSelectorsToBlacklist configurationId selectors).Respects
      (GrowsBy fun other selector => other = configurationId ∧ selector ∈ selectors) := by
  apply Tx.respects_for_each
  intro selector member
  apply grows_by_on_blacklist
  intro environment before result after committed indexed
  refine ⟨indexed_add indexed committed, ?_⟩
  intro other present
  rw [contains_add committed, Bool.or_eq_true, decide_eq_true_eq] at present
  rcases present with earlier | rfl
  · exact Or.inl earlier
  · exact Or.inr ⟨rfl, member⟩

theorem remove_selectors_grows_by (configurationId : Bytes32) (selectors : List Bytes4) :
    (BusinessLogicResolverWrapper.removeSelectorsFromBlacklist configurationId selectors).Respects
      (GrowsBy named) := by
  apply Tx.respects_for_each
  intro selector _
  apply grows_by_on_blacklist
  intro environment before result after committed indexed
  obtain ⟨kept, contained⟩ := remove_effect indexed committed
  refine ⟨kept, ?_⟩
  intro other present
  rw [contained, Bool.and_eq_true] at present
  exact Or.inl present.1

theorem blacklist_of_registrations (businessLogics : List BusinessLogicRegistryData)
    (registry : BusinessLogicResolverDataStorage) :
    (businessLogics.foldl registerBusinessLogic registry).selectorBlacklist =
      registry.selectorBlacklist := by
  induction businessLogics generalizing registry with
  | nil => rfl
  | cons data rest ih => exact ih (registerBusinessLogic registry data)

def namedBy : ResolverCall → Bytes32 → Bytes4 → Prop
  | .addSelectorsToBlacklist configurationId selectors, other, selector =>
      other = configurationId ∧ selector ∈ selectors
  | _, _, _ => False

variable {facets : StaticFunctionSelectors} {msg : Msg} {before after : ResolverState}
  {called : ResolverCall}

theorem same_blacklists_of_committed (kind : called.onBlacklist = false)
    (committed : called.perform facets msg before = .ok ((), after)) :
    after.businessLogicResolver.selectorBlacklist =
      before.businessLogicResolver.selectorBlacklist := by
  cases resolver_effect committed with
  | initialized _ frame => rw [frame]
  | registered _ _ _ frame =>
      rw [frame]
      exact blacklist_of_registrations _ _
  | blacklisted blacklists _ _ _ =>
      rw [kind] at blacklists
      cases blacklists
  | created _ done => rw [done.frame]
  | cancelled _ _ frame => rw [frame]

/-- Only an addition to the blacklist blacklists anything. -/
theorem blacklists_of_committed (committed : called.perform facets msg before = .ok ((), after)) :
    GrowsBy (namedBy called) before.businessLogicResolver after.businessLogicResolver := by
  cases called with
  | addSelectorsToBlacklist configurationId selectors =>
      simp only [ResolverCall.perform, BusinessLogicResolver.addSelectorsToBlacklist, onRegistry,
        Tx.bind_ok, only_role_ok, Tx.focus_ok] at committed
      obtain ⟨_, _, ⟨_, rfl⟩, registry, added, rfl⟩ := committed
      exact add_selectors_grows_by _ _ _ _ _ _ added
  | removeSelectorsFromBlacklist configurationId selectors =>
      simp only [ResolverCall.perform, BusinessLogicResolver.removeSelectorsFromBlacklist,
        onRegistry, Tx.bind_ok, only_role_ok, Tx.focus_ok] at committed
      obtain ⟨_, _, ⟨_, rfl⟩, registry, removed, rfl⟩ := committed
      exact remove_selectors_grows_by _ _ _ _ _ _ removed
  | _ => exact grows_by_of_same (same_blacklists_of_committed rfl committed)

/-! ## Steps of the network -/

variable {outside : Type} {d : Deployment outside} {network : Network outside}

abbrev registry (network : Network outside) : BusinessLogicResolverDataStorage :=
  network.resolver.businessLogicResolver

/-- A committed call that adds the selector to the given version of the
configuration, while it is not blacklisted. -/
def AddsUnlisted (d : Deployment outside) (configurationId : Bytes32) (version : Nat)
    (selector : Bytes4) (network : Network outside) (label : NetworkLabel outside) : Prop :=
  Succeeds d network label ∧ ¬ Blacklisted (registry network) configurationId selector ∧
    targetVersion (manager network) configurationId = version ∧
    ∃ msg called facetConfigurations isLastBatch, label = .resolver msg called ∧
      called.creation = some (configurationId, facetConfigurations, isLastBatch) ∧
      ∃ facet ∈ facetConfigurations, ∃ address selectors,
        resolvedAddress (registry network) facet = some address ∧
        d.facets.getStaticFunctionSelectors address = some selectors ∧ selector ∈ selectors

def Blacklists (d : Deployment outside) (configurationId : Bytes32) (selector : Bytes4)
    (network : Network outside) (label : NetworkLabel outside) : Prop :=
  Succeeds d network label ∧ ∃ msg selectors,
    label = .resolver msg (.addSelectorsToBlacklist configurationId selectors) ∧
    selector ∈ selectors

/-- The version has the selector among those of a facet it lists. -/
def Listed (dcms : DiamondCutManagerStorage) (key : ConfigVersion) (selector : Bytes4) : Prop :=
  ∃ facetId ∈ (tableAt dcms key).facetIds, selector ∈ (tableAt dcms key).selectors facetId

theorem listed_of_routed {key : ConfigVersion} {selector : Bytes4}
    (invariant : ManagerInvariant (manager network))
    (routed : (tableAt (manager network) key).facetAddress selector ≠ 0) :
    Listed (manager network) key selector := by
  by_contra unlisted
  apply routed
  apply ((invariant.formed key).routes selector _).1
  intro facetId listed has
  exact unlisted ⟨facetId, listed, has⟩

/-- Only a creating call lists selectors, those of the facets it adds. -/
theorem listed_after_effect {configurationId : Bytes32} {version : Nat} {selector : Bytes4}
    (invariant : ManagerInvariant before.diamondCutManager)
    (effect : ResolverEffect facets msg before after called)
    (listed : Listed after.diamondCutManager (configurationId, version) selector) :
    Listed before.diamondCutManager (configurationId, version) selector ∨
      targetVersion before.diamondCutManager configurationId = version ∧
        ∃ facetConfigurations isLastBatch,
          called.creation = some (configurationId, facetConfigurations, isLastBatch) ∧
          ∃ facet ∈ facetConfigurations, ∃ binding,
            bound facets before.businessLogicResolver configurationId facet = some binding ∧
            selector ∈ binding.selectors := by
  cases effect with
  | initialized _ frame | registered _ _ _ frame =>
      rw [frame] at listed
      exact Or.inl listed
  | blacklisted _ _ _ frame =>
      rw [frame] at listed
      exact Or.inl listed
  | @created _ created facetConfigurations isLastBatch table creation done =>
      rw [done.frame] at listed
      simp only [Listed, table_at_activate] at listed
      by_cases own : (configurationId, version) =
          (created, targetVersion before.diamondCutManager created)
      · obtain ⟨rfl, rfl⟩ := Prod.mk.inj own
        rw [table_at_under_way] at listed
        obtain ⟨facetId, member, has⟩ := listed
        rcases (listed_after_extend (bound_is_set _ _) (invariant.formed _) done.extended facetId
            selector).mp ⟨member, has⟩ with earlier | ⟨facet, added, _, binding, found, declared⟩
        · exact Or.inl ⟨facetId, earlier⟩
        · exact Or.inr ⟨rfl, _, _, creation, facet, added, binding, found, declared⟩
      · rw [table_at_under_way_of_ne own] at listed
        exact Or.inl listed
  | @cancelled cancelled _ _ frame =>
      rw [frame] at listed
      simp only [Listed, table_at_cancelled invariant] at listed
      split at listed
      · obtain ⟨_, member, _⟩ := listed
        cases member
      · exact Or.inl listed

theorem listed_after_step {configurationId : Bytes32} {version : Nat} {selector : Bytes4}
    (invariant : ManagerInvariant (manager network)) (label : NetworkLabel outside)
    (listed : Listed (manager (nextNetwork d network label)) (configurationId, version) selector) :
    Listed (manager network) (configurationId, version) selector ∨
      AddsUnlisted d configurationId version selector network label := by
  rcases resolver_step d network label with ⟨msg, called, rfl, committed⟩ | same
  · rcases listed_after_effect invariant (resolver_effect committed) listed with
      earlier | ⟨target, facetConfigurations, isLastBatch, creation, facet, added, binding, found,
        declared⟩
    · exact Or.inl earlier
    · obtain ⟨resolved, _, selectors, allowed, _⟩ := bound_some.mp found
      have unlisted : ¬ Blacklisted (registry network) configurationId selector := by
        rw [Blacklisted, Bool.not_eq_true]
        exact allowed selector declared
      exact Or.inr ⟨⟨_, committed⟩, unlisted, target, msg, called, facetConfigurations,
        isLastBatch, rfl, creation, facet, added, _, _, resolved, selectors, declared⟩
  · left
    rw [manager, same] at listed
    exact listed

theorem blacklisted_after_step (d : Deployment outside)
    (indexed : BlacklistsIndexed (registry network)) (label : NetworkLabel outside) :
    BlacklistsIndexed (registry (nextNetwork d network label)) ∧
      ∀ configurationId selector,
        Blacklisted (registry (nextNetwork d network label)) configurationId selector →
          Blacklisted (registry network) configurationId selector ∨
            Blacklists d configurationId selector network label := by
  rcases resolver_step d network label with ⟨msg, called, rfl, committed⟩ | same
  · have grows := blacklists_of_committed committed
    refine ⟨grows.indexed indexed, ?_⟩
    intro configurationId selector blacklisted
    rcases grows.only indexed _ _ blacklisted with earlier | new
    · exact Or.inl earlier
    · right
      refine ⟨⟨_, committed⟩, ?_⟩
      cases called with
      | addSelectorsToBlacklist _ selectors =>
          obtain ⟨rfl, member⟩ := new
          exact ⟨msg, selectors, rfl, member⟩
      | _ => cases new
  · simp only [registry, same]
    exact ⟨indexed, fun _ _ => Or.inl⟩

theorem unlisted_after_adding {configurationId : Bytes32} {version : Nat} {selector : Bytes4}
    (indexed : BlacklistsIndexed (registry network)) {label : NetworkLabel outside}
    (adds : AddsUnlisted d configurationId version selector network label) :
    ¬ Blacklisted (registry (nextNetwork d network label)) configurationId selector := by
  obtain ⟨_, unlisted, _, msg, called, _, _, rfl, creation, _⟩ := adds
  intro blacklisted
  rcases (blacklisted_after_step d indexed _).2 _ _ blacklisted with earlier | ⟨_, _, _, named, _⟩
  · exact unlisted earlier
  · cases named
    cases creation

/-! ## Runs -/

/-- A selector of the version was added by a call while it was not blacklisted,
and if it is blacklisted at the end of the run, then by a call made after the
last one that added it. -/
def AddedUnlisted (d : Deployment outside) (world : outside) (labels : List (NetworkLabel outside))
    (configurationId : Bytes32) (version : Nat) (selector : Bytes4) : Prop :=
  SinceLast (nextNetwork d) (AddsUnlisted d configurationId version selector)
    (Blacklists d configurationId selector)
    (fun network => Blacklisted (registry network) configurationId selector)
    (freshNetwork world) labels

theorem listed_selector_added_unlisted (d : Deployment outside) (world : outside)
    (labels : List (NetworkLabel outside)) {configurationId : Bytes32} {version : Nat}
    {selector : Bytes4}
    (listed : Listed (manager (run (nextNetwork d) (freshNetwork world) labels))
      (configurationId, version) selector) :
    AddedUnlisted d world labels configurationId version selector := by
  let invariant (network : Network outside) : Prop :=
    ManagerInvariant (manager network) ∧ BlacklistsIndexed (registry network)
  have keeps (network : Network outside) (label : NetworkLabel outside)
      (holds : invariant network) : invariant (nextNetwork d network label) :=
    ⟨manager_invariant_step holds.1 label, (blacklisted_after_step d holds.2 label).1⟩
  have initial : invariant (freshNetwork world) := ⟨manager_invariant_empty, fun _ => indexed_empty⟩
  let listedIn (network : Network outside) : Prop :=
    Listed (manager network) (configurationId, version) selector
  have unmarked : ¬ listedIn (freshNetwork world) := by
    intro ⟨_, member, _⟩
    cases member
  apply since_last_of_steps (nextNetwork d) keeps _ _ _ initial unmarked labels listed
  · intro network label holds listed
    exact listed_after_step holds.1 label listed
  · intro network label holds blacklisted
    exact (blacklisted_after_step d holds.2 label).2 _ _ blacklisted
  · intro network label holds adds
    exact unlisted_after_adding holds.2 adds

/-! ## Activation -/

/-- The configuration has a new latest version, and everything it routes was
added while it was not blacklisted. -/
structure ActivatesAllowed (d : Deployment outside) (world : outside)
    (labels : List (NetworkLabel outside)) (activating : NetworkLabel outside)
    (configurationId : Bytes32) (before after : Network outside) : Prop where
  activated : (manager after).latestVersion configurationId =
    (manager before).latestVersion configurationId + 1
  allowed : ∀ selector,
    resolveResolverProxyCall (manager after) configurationId
        ((manager after).latestVersion configurationId) selector ≠ 0 →
      AddedUnlisted d world (labels ++ [activating]) configurationId
        ((manager after).latestVersion configurationId) selector

/-- For every interleaving of calls that ends with one that activates a version. -/
theorem activated_selectors_were_allowed (d : Deployment outside) (world : outside)
    (labels : List (NetworkLabel outside)) (msg : Msg) (called : ResolverCall)
    (configurationId : Bytes32) (facetConfigurations : List FacetConfiguration)
    (creation : called.creation = some (configurationId, facetConfigurations, true))
    (succeeds : Succeeds d (run (nextNetwork d) (freshNetwork world) labels)
      (.resolver msg called)) :
    ActivatesAllowed d world labels (.resolver msg called) configurationId
      (run (nextNetwork d) (freshNetwork world) labels)
      (run (nextNetwork d) (freshNetwork world) (labels ++ [.resolver msg called])) := by
  have invariant : ManagerInvariant (manager (run (nextNetwork d) (freshNetwork world) labels)) :=
    manager_invariant_along_run labels manager_invariant_empty
  have activated :
      (manager (run (nextNetwork d) (freshNetwork world)
          (labels ++ [.resolver msg called]))).latestVersion configurationId =
        (manager (run (nextNetwork d) (freshNetwork world) labels)).latestVersion
          configurationId + 1 := by
    obtain ⟨after, committed⟩ := succeeds
    obtain ⟨table, done⟩ := (creation_ok creation).mp committed
    have reached : manager (run (nextNetwork d) (freshNetwork world)
        (labels ++ [.resolver msg called])) = after.diamondCutManager := by
      rw [run_snoc]
      simp only [nextNetwork, manager, resolver_next_of_committed committed]
    rw [reached, done.frame]
    simp only [latest_version_activate, and_self, if_true]
    exact target_version_eq invariant.ordered configurationId
  refine ⟨activated, ?_⟩
  intro selector routed
  apply listed_selector_added_unlisted
  apply listed_of_routed (manager_invariant_along_run _ manager_invariant_empty)
  rw [resolveResolverProxyCall, activated, resolveVersion, if_pos (Nat.succ_pos _)] at routed
  rw [activated]
  exact routed

/-- The stronger law that nothing blacklisted is routed when a version becomes
the latest one. -/
def ActivatesUnlisted (d : Deployment outside) (network : Network outside) (msg : Msg)
    (called : ResolverCall) : Prop :=
  ∀ configurationId facetConfigurations,
    called.creation = some (configurationId, facetConfigurations, true) →
    ∀ after, called.perform d.facets msg network.resolver = .ok ((), after) →
      ∀ selector,
        resolveResolverProxyCall after.diamondCutManager configurationId
            (after.diamondCutManager.latestVersion configurationId) selector ≠ 0 →
          ¬ Blacklisted after.businessLogicResolver configurationId selector

/-- The first facet is added, then its selector blacklisted. -/
def sampleInterleaving : List (NetworkLabel Unit) :=
  sampleRegistrations ++
    [byAdmin (.createBatchConfiguration 9 [⟨1, 1⟩] false),
      byAdmin (.addSelectorsToBlacklist 9 [0x101])]

/-- The second facet finishes the version. -/
def sampleActivation : ResolverCall := .createBatchConfiguration 9 [⟨2, 1⟩] true

theorem activated_selectors_were_allowed_sample :
    ActivatesAllowed sample () sampleInterleaving (byAdmin sampleActivation) 9
      (run (nextNetwork sample) (freshNetwork ()) sampleInterleaving)
      (run (nextNetwork sample) (freshNetwork ())
        (sampleInterleaving ++ [byAdmin sampleActivation])) :=
  activated_selectors_were_allowed sample () sampleInterleaving (sampleMsg 4 1) sampleActivation 9
    [⟨2, 1⟩] rfl ⟨_, rfl⟩

/-- The selector of the first facet is live and blacklisted. -/
theorem blacklisted_selector_becomes_live :
    ¬ ∀ labels msg called,
      ActivatesUnlisted sample (run (nextNetwork sample) (freshNetwork ()) labels) msg called := by
  intro law
  have broken := law sampleInterleaving (sampleMsg 4 1) sampleActivation 9 [⟨2, 1⟩] rfl _ rfl 0x101
  exact broken (by decide) (by rfl)

end StablecoinStudio.Resolver.Blacklist
