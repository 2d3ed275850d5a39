import StablecoinStudio.Resolver.ResolverEffects
import StablecoinStudio.Resolver.TableLaws

/-!
# The history of the versions of a configuration

What a creating call is accepted for, as a condition on its arguments and the
storage before it. The version under way is always the one after the latest, so
a call of the resolver only ever writes a table that is not finished.
-/

namespace StablecoinStudio.Resolver.VersionHistory

open StablecoinStudio.Core.Common
open StablecoinStudio.Core.Constants
open StablecoinStudio.Resolver.BusinessLogicResolver
open StablecoinStudio.Resolver.ConfigurationTables
open StablecoinStudio.Resolver.DiamondCutManagerWrapper
open StablecoinStudio.Resolver.ResolverEffects
open StablecoinStudio.Resolver.TableLaws
open StablecoinStudio.Resolver.VersionTables
open StablecoinStudio.Token.Roles

set_option autoImplicit false

/-! ## When a list of facets is accepted -/

section Acceptance

structure Accepted (facets : StaticFunctionSelectors) (msg : Msg) (configurationId : Bytes32)
    (facetConfigurations : List FacetConfiguration) (before : ResolverState) : Prop where
  configured : configurationId ≠ 0
  admin : RolesStorage.hasRole before.roles adminRole msg.sender = true
  nonEmpty : facetConfigurations ≠ []
  bound : ∀ facet ∈ facetConfigurations,
    ∃ binding, bound facets before.businessLogicResolver configurationId facet = some binding
  distinct : (facetConfigurations.map FacetConfiguration.id).Nodup
  new : ∀ facet ∈ facetConfigurations,
    (targetTable before.diamondCutManager configurationId).addr facet.id = 0

variable {facets : StaticFunctionSelectors} {msg : Msg} {configurationId : Bytes32}
  {facetConfigurations : List FacetConfiguration} {isLastBatch : Bool}
  {before after : ResolverState} {table : VersionTable}

theorem bound_is_set (registry : BusinessLogicResolverWrapper.BusinessLogicResolverDataStorage)
    (configurationId : Bytes32) (facet : FacetConfiguration) (binding : Binding)
    (found : bound facets registry configurationId facet = some binding) : binding.address ≠ 0 :=
  (bound_some.mp found).2.1

theorem accepted_of_creating
    (done : Creating facets msg configurationId facetConfigurations isLastBatch before after table) :
    Accepted facets msg configurationId facetConfigurations before := by
  obtain ⟨bindings, distinct, new⟩ :=
    (extend_some_iff (bound_is_set _ _)).mp ⟨table, done.extended⟩
  exact ⟨done.configured, done.admin, done.nonEmpty, bindings, distinct, new⟩

theorem creating_of_accepted (isLastBatch : Bool)
    (accepted : Accepted facets msg configurationId facetConfigurations before) :
    ∃ after table,
      Creating facets msg configurationId facetConfigurations isLastBatch before after table := by
  obtain ⟨table, extended⟩ := (extend_some_iff (bound_is_set _ _)).mpr
    ⟨accepted.bound, accepted.distinct, accepted.new⟩
  exact ⟨_, table, accepted.configured, accepted.admin, accepted.nonEmpty, extended, rfl⟩

theorem commits_iff_accepted {called : ResolverCall}
    (creation : called.creation = some (configurationId, facetConfigurations, isLastBatch)) :
    (∃ after, called.perform facets msg before = .ok ((), after)) ↔
      Accepted facets msg configurationId facetConfigurations before := by
  simp only [creation_ok creation]
  constructor
  · intro committed
    obtain ⟨after, table, done⟩ := committed
    exact accepted_of_creating done
  · intro accepted
    exact creating_of_accepted isLastBatch accepted

end Acceptance

/-! ## Versions in order -/

/-- How the counters of every configuration relate. -/
structure VersionsInOrder (dcms : DiamondCutManagerStorage) : Prop where
  batch : ∀ configurationId, dcms.batchVersion configurationId = 0 ∨
    dcms.batchVersion configurationId = dcms.latestVersion configurationId + 1
  active : ∀ configurationId, dcms.activeConfigurations configurationId = true ↔
    1 ≤ dcms.latestVersion configurationId

/-- The finished versions before are finished versions after, with their tables. -/
structure Grows (before after : DiamondCutManagerStorage) : Prop where
  versions : ∀ configurationId,
    before.latestVersion configurationId ≤ after.latestVersion configurationId
  tables : ∀ configurationId version, 1 ≤ version →
    version ≤ before.latestVersion configurationId →
    tableAt after (configurationId, version) = tableAt before (configurationId, version)

theorem versions_in_order_empty : VersionsInOrder DiamondCutManagerStorage.empty where
  batch _ := Or.inl rfl
  active _ := by simp [DiamondCutManagerStorage.empty]

theorem grows_refl (dcms : DiamondCutManagerStorage) : Grows dcms dcms where
  versions _ := le_rfl
  tables _ _ _ _ := rfl

theorem Grows.trans {first second third : DiamondCutManagerStorage} (start : Grows first second)
    (rest : Grows second third) : Grows first third where
  versions configurationId := (start.versions configurationId).trans (rest.versions configurationId)
  tables configurationId version positive finished := by
    rw [rest.tables configurationId version positive
        (finished.trans (start.versions configurationId)),
      start.tables configurationId version positive finished]

variable {dcms : DiamondCutManagerStorage} {configurationId : Bytes32} {isLastBatch : Bool}
  {table : VersionTable} {key : ConfigVersion}

/-- In either case facets are added to the version after the latest. -/
theorem target_version_eq (ordered : VersionsInOrder dcms) (configurationId : Bytes32) :
    targetVersion dcms configurationId = dcms.latestVersion configurationId + 1 := by
  unfold targetVersion isOngoingConfiguration
  rcases ordered.batch configurationId with idle | ongoing
  · simp [idle]
  · simp [ongoing]

/-! ## Creating -/

@[simp] theorem table_at_activate :
    tableAt (activateConfiguration configurationId isLastBatch dcms) key = tableAt dcms key := by
  cases isLastBatch
  · rfl
  · rfl

@[simp] theorem table_at_under_way :
    tableAt (underWay dcms configurationId table)
      (configurationId, targetVersion dcms configurationId) = table :=
  table_at_set_table

theorem table_at_under_way_of_ne
    (different : key ≠ (configurationId, targetVersion dcms configurationId)) :
    tableAt (underWay dcms configurationId table) key = tableAt dcms key :=
  table_at_set_table_of_ne different

theorem latest_version_activate (other : Bytes32) :
    (activateConfiguration configurationId isLastBatch
      (underWay dcms configurationId table)).latestVersion other =
      if isLastBatch = true ∧ other = configurationId then targetVersion dcms configurationId
      else dcms.latestVersion other := by
  cases isLastBatch
  · simp [activateConfiguration, underWay]
  · by_cases own : other = configurationId
    · subst own
      simp [activateConfiguration, underWay]
    · simp [activateConfiguration, underWay, own]

theorem versions_in_order_created (ordered : VersionsInOrder dcms) :
    VersionsInOrder (activateConfiguration configurationId isLastBatch
      (underWay dcms configurationId table)) := by
  have target := target_version_eq ordered configurationId
  constructor
  · intro other
    rw [latest_version_activate]
    cases isLastBatch with
    | false =>
        by_cases own : other = configurationId
        · subst own
          right
          simp [activateConfiguration, underWay, target]
        · simpa [activateConfiguration, underWay, own] using ordered.batch other
    | true =>
        by_cases own : other = configurationId
        · subst own
          left
          simp [activateConfiguration]
        · simpa [activateConfiguration, underWay, own] using ordered.batch other
  · intro other
    rw [latest_version_activate]
    cases isLastBatch with
    | false => simpa [activateConfiguration, underWay] using ordered.active other
    | true =>
        by_cases own : other = configurationId
        · subst own
          simp [activateConfiguration, target]
        · simpa [activateConfiguration, underWay, own] using ordered.active other

theorem grows_created (ordered : VersionsInOrder dcms) :
    Grows dcms (activateConfiguration configurationId isLastBatch
      (underWay dcms configurationId table)) := by
  have target := target_version_eq ordered configurationId
  constructor
  · intro other
    rw [latest_version_activate]
    split
    · next finished =>
        rw [finished.2, target]
        omega
    · exact le_rfl
  · intro other version _ finished
    rw [table_at_activate, table_at_under_way_of_ne]
    intro same
    -- the version under way is above the latest one
    obtain ⟨rfl, rfl⟩ := Prod.mk.inj same
    omega

/-! ## Cancelling -/

theorem versions_in_order_cancelled (ordered : VersionsInOrder dcms) :
    VersionsInOrder (cancelBatchConfiguration configurationId dcms) := by
  rw [cancel_batch_eq]
  constructor
  · intro other
    by_cases own : other = configurationId
    · subst own
      left
      simp
    · simpa [own] using ordered.batch other
  · intro other
    simpa using ordered.active other

theorem grows_cancelled (ordered : VersionsInOrder dcms) :
    Grows dcms (cancelBatchConfiguration configurationId dcms) := by
  rw [cancel_batch_eq]
  constructor
  · intro other
    exact le_rfl
  · intro other version positive finished
    refine table_at_set_table_of_ne ?_
    intro same
    obtain ⟨rfl, rfl⟩ := Prod.mk.inj same
    rcases ordered.batch other with idle | ongoing
    · omega
    · omega

/-! ## Every call -/

variable {facets : StaticFunctionSelectors} {msg : Msg} {before after : ResolverState}
  {called : ResolverCall}

theorem history_of_effect (ordered : VersionsInOrder before.diamondCutManager)
    (effect : ResolverEffect facets msg before after called) :
    VersionsInOrder after.diamondCutManager ∧
      Grows before.diamondCutManager after.diamondCutManager := by
  cases effect with
  | initialized _ frame | registered _ _ _ frame =>
      rw [frame]
      exact ⟨ordered, grows_refl _⟩
  | blacklisted _ _ _ frame =>
      rw [frame]
      exact ⟨ordered, grows_refl _⟩
  | created _ done =>
      rw [done.frame]
      exact ⟨versions_in_order_created ordered, grows_created ordered⟩
  | cancelled _ _ frame =>
      rw [frame]
      exact ⟨versions_in_order_cancelled ordered, grows_cancelled ordered⟩

/-! ## The tables -/

structure ManagerInvariant (dcms : DiamondCutManagerStorage) : Prop where
  ordered : VersionsInOrder dcms
  formed : ∀ key, WellFormed (tableAt dcms key)
  /-- A version that is neither finished nor under way has an empty table. -/
  unstarted : ∀ configurationId version,
    ¬(1 ≤ version ∧ version ≤ dcms.latestVersion configurationId) →
    ¬(version = dcms.batchVersion configurationId ∧ version ≠ 0) →
    tableAt dcms (configurationId, version) = VersionTable.empty

theorem manager_invariant_empty : ManagerInvariant DiamondCutManagerStorage.empty where
  ordered := versions_in_order_empty
  formed _ := well_formed_empty
  unstarted _ _ _ _ := rfl

theorem manager_invariant_created (invariant : ManagerInvariant dcms) (formed : WellFormed table) :
    ManagerInvariant (activateConfiguration configurationId isLastBatch
      (underWay dcms configurationId table)) := by
  have target := target_version_eq invariant.ordered configurationId
  refine ⟨versions_in_order_created invariant.ordered, ?_, ?_⟩
  · intro key
    rw [table_at_activate]
    by_cases own : key = (configurationId, targetVersion dcms configurationId)
    · rw [own, table_at_under_way]
      exact formed
    · rw [table_at_under_way_of_ne own]
      exact invariant.formed key
  · intro other version unfinished idle
    rw [latest_version_activate] at unfinished
    rw [table_at_activate]
    by_cases own : other = configurationId
    · subst own
      -- the target is under way or, with the last batch, finished
      have different : version ≠ targetVersion dcms other := by
        rintro rfl
        cases isLastBatch
        · simp [activateConfiguration, underWay, target] at idle
        · simp [target] at unfinished
      rw [table_at_under_way_of_ne (by simpa using different)]
      apply invariant.unstarted
      · intro finished
        apply unfinished
        split
        · omega
        · exact finished
      · intro ongoing
        rcases invariant.ordered.batch other with none_ | some_
        · omega
        · omega
    · rw [table_at_under_way_of_ne (by simp [own])]
      apply invariant.unstarted
      · simpa [own] using unfinished
      · cases isLastBatch
        · simpa [activateConfiguration, underWay, own] using idle
        · simpa [activateConfiguration, underWay, own] using idle

theorem table_at_cancelled (invariant : ManagerInvariant dcms) :
    tableAt (cancelBatchConfiguration configurationId dcms) key =
      if key = (configurationId, dcms.batchVersion configurationId) then VersionTable.empty
      else tableAt dcms key := by
  rw [cancel_batch_eq]
  split
  · next own =>
      subst own
      rw [← cancel_eq_empty (invariant.formed _)]
      exact table_at_set_table
  · next own => exact table_at_set_table_of_ne own

theorem manager_invariant_cancelled (invariant : ManagerInvariant dcms) :
    ManagerInvariant (cancelBatchConfiguration configurationId dcms) := by
  refine ⟨versions_in_order_cancelled invariant.ordered, ?_, ?_⟩
  · intro key
    rw [table_at_cancelled invariant]
    split
    · exact well_formed_empty
    · exact invariant.formed key
  · intro other version unfinished idle
    rw [table_at_cancelled invariant]
    split
    · rfl
    · next different =>
        rw [cancel_batch_eq] at unfinished idle
        apply invariant.unstarted other version unfinished
        intro ongoing
        by_cases own : other = configurationId
        · subst own
          exact different (by rw [ongoing.1])
        · exact idle (by simpa [own] using ongoing)

theorem manager_invariant_of_effect (invariant : ManagerInvariant before.diamondCutManager)
    (effect : ResolverEffect facets msg before after called) :
    ManagerInvariant after.diamondCutManager := by
  cases effect with
  | initialized _ frame | registered _ _ _ frame =>
      rw [frame]
      exact invariant
  | blacklisted _ _ _ frame =>
      rw [frame]
      exact invariant
  | created _ done =>
      rw [done.frame]
      exact manager_invariant_created invariant
        (well_formed_extend (bound_is_set _ _) (invariant.formed _) done.extended)
  | cancelled _ _ frame =>
      rw [frame]
      exact manager_invariant_cancelled invariant

end StablecoinStudio.Resolver.VersionHistory
