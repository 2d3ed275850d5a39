import StablecoinStudio.Resolver.ProxyNetworks

/-!
# Batches

A version may be put together by several calls. They compose to one call with
all the facets, and a cancelled batch leaves no trace.
-/

namespace StablecoinStudio.Resolver.Batches

open StablecoinStudio.Core.Common
open StablecoinStudio.Core.Constants
open StablecoinStudio.Foundation.CheckedInt
open StablecoinStudio.Foundation.Runs
open StablecoinStudio.Resolver.BusinessLogicResolver
open StablecoinStudio.Resolver.ConfigurationTables
open StablecoinStudio.Resolver.DiamondCutManagerWrapper
open StablecoinStudio.Resolver.ProxyNetworks
open StablecoinStudio.Resolver.ResolverEffects
open StablecoinStudio.Resolver.TableLaws
open StablecoinStudio.Resolver.VersionHistory
open StablecoinStudio.Resolver.VersionTables
open StablecoinStudio.Token.ReferenceLedger
open StablecoinStudio.Token.Roles

set_option autoImplicit false

variable {dcms : DiamondCutManagerStorage} {configurationId : Bytes32}
  {table later : VersionTable}

/-! ## The version under way -/

theorem target_version_ne_zero (dcms : DiamondCutManagerStorage) (configurationId : Bytes32) :
    targetVersion dcms configurationId ≠ 0 := by
  unfold targetVersion isOngoingConfiguration
  split
  · next ongoing => simpa using ongoing
  · omega

theorem target_version_under_way (dcms : DiamondCutManagerStorage) (configurationId : Bytes32)
    (table : VersionTable) :
    targetVersion (underWay dcms configurationId table) configurationId =
      targetVersion dcms configurationId := by
  have positive := target_version_ne_zero dcms configurationId
  rw [targetVersion]
  simp [isOngoingConfiguration, underWay, positive]

theorem target_table_under_way :
    targetTable (underWay dcms configurationId table) configurationId = table := by
  rw [targetTable, target_version_under_way, table_at_under_way]

theorem under_way_under_way :
    underWay (underWay dcms configurationId table) configurationId later =
      underWay dcms configurationId later := by
  have same := target_version_under_way dcms configurationId table
  rw [underWay, same]
  simp [underWay, setTable]

/-! ## Cancelling -/

theorem batch_version_under_way :
    (underWay dcms configurationId table).batchVersion configurationId =
      targetVersion dcms configurationId := by
  simp [underWay]

/-- Cancelling what was put together leaves the storage it started from. -/
theorem cancel_under_way (idle : dcms.batchVersion configurationId = 0)
    (fresh : targetTable dcms configurationId = VersionTable.empty) (formed : WellFormed table) :
    DiamondCutManagerWrapper.cancelBatchConfiguration configurationId
      (underWay dcms configurationId table) = dcms := by
  have emptied : setTable (configurationId, targetVersion dcms configurationId) dcms
      VersionTable.empty = dcms := by
    rw [← fresh, targetTable, set_table_table_at]
  have restored : Function.update (Function.update dcms.batchVersion configurationId
      (targetVersion dcms configurationId)) configurationId 0 = dcms.batchVersion := by
    rw [Function.update_idem, ← idle, Function.update_eq_self]
  rw [cancel_batch_eq, batch_version_under_way, table_at_under_way, cancel_eq_empty formed]
  calc
    { setTable (configurationId, targetVersion dcms configurationId)
          (underWay dcms configurationId table) VersionTable.empty with
        batchVersion := Function.update (underWay dcms configurationId table).batchVersion
          configurationId 0 } =
      { setTable (configurationId, targetVersion dcms configurationId) dcms VersionTable.empty with
        batchVersion := Function.update (Function.update dcms.batchVersion configurationId
          (targetVersion dcms configurationId)) configurationId 0 } := by
        simp [underWay, setTable]
    _ = dcms := by rw [restored, emptied]

theorem cancel_idle (invariant : ManagerInvariant dcms)
    (idle : dcms.batchVersion configurationId = 0) :
    DiamondCutManagerWrapper.cancelBatchConfiguration configurationId dcms = dcms := by
  have fresh : tableAt dcms (configurationId, 0) = VersionTable.empty :=
    invariant.unstarted configurationId 0 (by omega) (by omega)
  have same : setTable (configurationId, 0) dcms VersionTable.empty = dcms := by
    rw [← fresh, set_table_table_at]
  have kept : Function.update dcms.batchVersion configurationId 0 = dcms.batchVersion := by
    rw [← idle, Function.update_eq_self]
  rw [cancel_batch_eq, idle, cancel_eq_empty (invariant.formed _), kept]
  exact same

section Rollback

variable {outside : Type} {d : Deployment outside} {network : Network outside} {msg : Msg}

def batchCalls (outside : Type) (configurationId : Bytes32)
    (calls : List (Msg × List FacetConfiguration)) : List (NetworkLabel outside) :=
  calls.map fun call => .resolver call.1 (.createBatchConfiguration configurationId call.2 false)

def Succeeds (d : Deployment outside) (network : Network outside) :
    NetworkLabel outside → Prop
  | .resolver msg called =>
      ∃ after, called.perform d.facets msg network.resolver = .ok ((), after)
  | _ => True

theorem batch_call_succeeds {facetConfigurations : List FacetConfiguration}
    (formed : WellFormed (targetTable (manager network) configurationId))
    (succeeds : Succeeds d network
      (.resolver msg (.createBatchConfiguration configurationId facetConfigurations false))) :
    configurationId ≠ 0 ∧ ∃ table, WellFormed table ∧
      manager (nextNetwork d network
        (.resolver msg (.createBatchConfiguration configurationId facetConfigurations false))) =
        underWay (manager network) configurationId table := by
  obtain ⟨after, committed⟩ := succeeds
  obtain ⟨table, done⟩ := (creation_ok rfl).mp committed
  refine ⟨done.configured, table, well_formed_extend (bound_is_set _ _) formed done.extended, ?_⟩
  simp only [nextNetwork, manager, resolver_next_of_committed committed]
  rw [done.frame]
  rfl

/-- Further batches only change the table of the version under way. -/
theorem under_way_after_batches {calls : List (Msg × List FacetConfiguration)}
    (formed : WellFormed table)
    (ongoing : manager network = underWay dcms configurationId table)
    (succeed : Along (nextNetwork d) (Succeeds d) network
      (batchCalls outside configurationId calls)) :
    ∃ last, WellFormed last ∧
      manager (run (nextNetwork d) network (batchCalls outside configurationId calls)) =
        underWay dcms configurationId last := by
  induction calls generalizing network table with
  | nil => exact ⟨table, formed, ongoing⟩
  | cons call rest ih =>
      obtain ⟨now, later⟩ := succeed
      have target : targetTable (manager network) configurationId = table := by
        rw [ongoing, target_table_under_way]
      obtain ⟨_, extended, extendedFormed, stored⟩ :=
        batch_call_succeeds (by rw [target]; exact formed) now
      rw [ongoing, under_way_under_way] at stored
      exact ih extendedFormed stored later

/-- What a cancelled batch leaves, and what cancelling leaves without one. -/
structure RollsBack (d : Deployment outside) (network : Network outside)
    (configurationId : Bytes32) : Prop where
  batches : ∀ calls : List (Msg × List FacetConfiguration), calls ≠ [] →
    Along (nextNetwork d) (Succeeds d) network (batchCalls outside configurationId calls) →
    ∀ msg, RolesStorage.hasRole (run (nextNetwork d) network
        (batchCalls outside configurationId calls)).resolver.roles adminRole msg.sender = true →
      Succeeds d (run (nextNetwork d) network (batchCalls outside configurationId calls))
          (.resolver msg (.cancelBatchConfiguration configurationId)) ∧
        manager (run (nextNetwork d) network (batchCalls outside configurationId calls ++
          [.resolver msg (.cancelBatchConfiguration configurationId)])) = manager network
  nothing : ∀ msg,
    nextNetwork d network (.resolver msg (.cancelBatchConfiguration configurationId)) = network

/-- In every reachable state without a batch of the configuration under way. -/
theorem cancel_rolls_back (d : Deployment outside) (world : outside)
    (labels : List (NetworkLabel outside)) (configurationId : Bytes32)
    (idle : isOngoingConfiguration (manager (run (nextNetwork d) (freshNetwork world) labels))
      configurationId = false) :
    RollsBack d (run (nextNetwork d) (freshNetwork world) labels) configurationId := by
  have invariant : ManagerInvariant (manager (run (nextNetwork d) (freshNetwork world) labels)) :=
    manager_invariant_along_run labels manager_invariant_empty
  generalize run (nextNetwork d) (freshNetwork world) labels = network at idle invariant ⊢
  have none_ : (manager network).batchVersion configurationId = 0 := by
    simpa [isOngoingConfiguration] using idle
  constructor
  · intro calls some_ succeed msg admin
    cases calls with
    | nil => exact (some_ rfl).elim
    | cons call rest =>
        obtain ⟨now, later⟩ := succeed
        obtain ⟨configured, first, firstFormed, stored⟩ :=
          batch_call_succeeds (invariant.formed _) now
        obtain ⟨last, formed, ongoing⟩ := under_way_after_batches firstFormed stored later
        have fresh : targetTable (manager network) configurationId = VersionTable.empty := by
          have target := target_version_eq invariant.ordered configurationId
          exact invariant.unstarted _ _ (by omega) (by omega)
        have committed := (cancellation_ok d.facets).mpr ⟨configured, admin, rfl⟩
        refine ⟨⟨_, committed⟩, ?_⟩
        rw [run_snoc]
        simp only [nextNetwork, manager, resolver_next_of_committed committed]
        calc
          _ = DiamondCutManagerWrapper.cancelBatchConfiguration configurationId
                (underWay (manager network) configurationId last) :=
              congrArg (DiamondCutManagerWrapper.cancelBatchConfiguration configurationId) ongoing
          _ = manager network := cancel_under_way none_ fresh formed
  · intro msg
    rcases resolver_next_cases d.facets network.resolver msg
        (.cancelBatchConfiguration configurationId) with effect | same
    · cases effect with
      | created creation _ => cases creation
      | blacklisted kind _ _ _ => cases kind
      | cancelled _ _ frame =>
          rw [cancel_idle invariant none_] at frame
          simp only [nextNetwork]
          rw [frame]
    · simp only [nextNetwork, same]

end Rollback

/-- Facets 1 and 3 share a selector and come in two batches. -/
theorem cancel_rolls_back_sample_batches :
    RollsBack sample sampleStart 9 ∧
      Along (nextNetwork sample) (Succeeds sample) sampleStart
        (batchCalls Unit 9 [(sampleMsg 4 1, [⟨1, 1⟩]), (sampleMsg 4 2, [⟨3, 1⟩])]) :=
  ⟨cancel_rolls_back sample () sampleRegistrations 9 (by decide), ⟨_, rfl⟩, ⟨_, rfl⟩, trivial⟩

/-! ## Composing -/

variable (facets : StaticFunctionSelectors)

/-- The calls of one account that give the facets in batches, each at its own
time; only the last one finishes the version. The versions they return. -/
def createInBatches (configurationId : Bytes32) (caller : Address) :
    List (Uint256 × List FacetConfiguration) → ResolverState →
      Except Revert (List Nat × ResolverState)
  | [], before => .ok ([], before)
  | (timestamp, batch) :: rest, before =>
      match BusinessLogicResolver.createBatchConfiguration facets configurationId batch
          rest.isEmpty { sender := caller, timestamp := timestamp } before with
      | .error failure => .error failure
      | .ok (version, middle) =>
          match createInBatches configurationId caller rest middle with
          | .error failure => .error failure
          | .ok (versions, after) => .ok (version :: versions, after)

variable {facets} {caller : Address} {before after : ResolverState}

theorem create_in_batches_cons {timestamp : Uint256} {batch : List FacetConfiguration}
    {rest : List (Uint256 × List FacetConfiguration)} {versions : List Nat} :
    createInBatches facets configurationId caller ((timestamp, batch) :: rest) before =
        .ok (versions, after) ↔
      ∃ version middle others,
        BusinessLogicResolver.createBatchConfiguration facets configurationId batch rest.isEmpty
            { sender := caller, timestamp := timestamp } before = .ok (version, middle) ∧
          createInBatches facets configurationId caller rest middle = .ok (others, after) ∧
          versions = version :: others := by
  rw [createInBatches]
  split
  · next failure failed => simp [failed]
  · next version middle first =>
      split
      · next failure failed =>
          simp [first, failed]
      · next others later second =>
          simp only [first, Except.ok.injEq, Prod.mk.injEq]
          constructor
          · rintro ⟨rfl, rfl⟩
            exact ⟨version, middle, others, ⟨rfl, rfl⟩, second, rfl⟩
          · rintro ⟨_, _, _, ⟨rfl, rfl⟩, again, rfl⟩
            rw [second] at again
            cases again
            exact ⟨rfl, rfl⟩

/-- What non-empty batches do together: their facets are added to the table in
one go. -/
theorem create_in_batches_ok {batches : List (Uint256 × List FacetConfiguration)}
    {versions : List Nat} (some_ : batches ≠ [])
    (nonEmpty : ∀ batch ∈ batches, batch.2 ≠ []) :
    createInBatches facets configurationId caller batches before = .ok (versions, after) ↔
      versions =
          batches.map (fun _ => targetVersion before.diamondCutManager configurationId) ∧
        configurationId ≠ 0 ∧ RolesStorage.hasRole before.roles adminRole caller = true ∧
        ∃ table, VersionTable.extend
            (bound facets before.businessLogicResolver configurationId)
            (batches.flatMap Prod.snd)
            (targetTable before.diamondCutManager configurationId) = some table ∧
          after =
            { before with
              diamondCutManager := activateConfiguration configurationId true
                (underWay before.diamondCutManager configurationId table) } := by
  induction batches generalizing before versions with
  | nil => exact (some_ rfl).elim
  | cons batch rest ih =>
      obtain ⟨timestamp, facetConfigurations⟩ := batch
      have now : facetConfigurations ≠ [] := nonEmpty _ (List.mem_cons_self ..)
      have others : ∀ batch ∈ rest, batch.2 ≠ [] :=
        fun batch member => nonEmpty batch (List.mem_cons_of_mem _ member)
      rw [create_in_batches_cons]
      cases rest with
      | nil =>
          simp only [List.isEmpty_nil, createInBatches, Except.ok.injEq, Prod.mk.injEq,
            create_batch_configuration_ok]
          constructor
          · rintro ⟨_, _, _, ⟨rfl, table, done⟩, ⟨rfl, rfl⟩, rfl⟩
            refine ⟨rfl, done.configured, done.admin, table, ?_, done.frame⟩
            simpa using done.extended
          · rintro ⟨rfl, configured, admin, table, extended, frame⟩
            refine ⟨_, _, _, ⟨rfl, table, configured, admin, now, ?_, frame⟩, ⟨rfl, rfl⟩, rfl⟩
            simpa using extended
      | cons next more =>
          simp only [List.isEmpty_cons, create_batch_configuration_ok,
            ih (List.cons_ne_nil _ _) others]
          constructor
          · rintro ⟨_, middle, _, ⟨rfl, first, done⟩, ⟨rfl, _, _, table, extended, frame⟩, rfl⟩
            have started : middle =
                { before with
                  diamondCutManager := underWay before.diamondCutManager configurationId first } :=
              done.frame
            subst started
            rw [target_table_under_way] at extended
            rw [under_way_under_way] at frame
            refine ⟨?_, done.configured, done.admin, table, ?_, frame⟩
            · simp [target_version_under_way]
            · rw [List.flatMap_cons, VersionTable.extend_append, done.extended]
              exact extended
          · rintro ⟨rfl, configured, admin, table, extended, frame⟩
            rw [List.flatMap_cons, VersionTable.extend_append, Option.bind_eq_some_iff] at extended
            obtain ⟨first, begun, finished⟩ := extended
            refine ⟨_, _, _, ⟨rfl, first, configured, admin, now, begun, rfl⟩,
              ⟨rfl, configured, admin, table, ?_, ?_⟩, ?_⟩
            · simp only [activateConfiguration, Bool.false_eq_true, if_false, target_table_under_way]
              exact finished
            · simp only [activateConfiguration, Bool.false_eq_true, if_false, under_way_under_way]
              exact frame
            · simp [activateConfiguration, target_version_under_way]

/-- Giving the facets in batches or all at once succeeds together, and leaves
the same storage under the same version. -/
structure Composes (facets : StaticFunctionSelectors) (configurationId : Bytes32)
    (caller : Address) (before : ResolverState)
    (batches : List (Uint256 × List FacetConfiguration)) (timestamp : Uint256) : Prop where
  together :
    (∃ versions after,
        createInBatches facets configurationId caller batches before = .ok (versions, after)) ↔
      ∃ version after, BusinessLogicResolver.createConfiguration facets configurationId
        (batches.flatMap Prod.snd) { sender := caller, timestamp := timestamp } before =
          .ok (version, after)
  same : ∀ versions after version whole,
    createInBatches facets configurationId caller batches before = .ok (versions, after) →
    BusinessLogicResolver.createConfiguration facets configurationId (batches.flatMap Prod.snd)
        { sender := caller, timestamp := timestamp } before = .ok (version, whole) →
    after = whole ∧ versions.length = batches.length ∧ ∀ returned ∈ versions, returned = version

theorem create_configuration_ok {timestamp : Uint256}
    {facetConfigurations : List FacetConfiguration} {version : Nat} :
    BusinessLogicResolver.createConfiguration facets configurationId facetConfigurations
        { sender := caller, timestamp := timestamp } before = .ok (version, after) ↔
      version = targetVersion before.diamondCutManager configurationId ∧
        ∃ table, Creating facets { sender := caller, timestamp := timestamp } configurationId
          facetConfigurations true before after table :=
  create_batch_configuration_ok

/-- For every state of the resolver, with or without a batch under way. -/
theorem batches_compose (facets : StaticFunctionSelectors) (configurationId : Bytes32)
    (caller : Address) (before : ResolverState)
    (batches : List (Uint256 × List FacetConfiguration)) (timestamp : Uint256)
    (some_ : batches ≠ []) (nonEmpty : ∀ batch ∈ batches, batch.2 ≠ []) :
    Composes facets configurationId caller before batches timestamp := by
  have whole : batches.flatMap Prod.snd ≠ [] := by
    cases batches with
    | nil => exact (some_ rfl).elim
    | cons batch rest =>
        have first := nonEmpty batch (List.mem_cons_self ..)
        simp [first]
  constructor
  · simp only [create_in_batches_ok some_ nonEmpty, create_configuration_ok]
    constructor
    · rintro ⟨_, after, rfl, configured, admin, table, extended, frame⟩
      exact ⟨_, after, rfl, table, configured, admin, whole, extended, frame⟩
    · rintro ⟨_, after, rfl, table, done⟩
      exact ⟨_, after, rfl, done.configured, done.admin, table, done.extended, done.frame⟩
  · intro versions after version last inBatches atOnce
    obtain ⟨rfl, _, _, table, extended, frame⟩ :=
      (create_in_batches_ok some_ nonEmpty).mp inBatches
    obtain ⟨rfl, wholeTable, done⟩ := create_configuration_ok.mp atOnce
    have sameTable : table = wholeTable := by
      have both := extended.symm.trans done.extended
      exact Option.some.inj both
    refine ⟨?_, by simp, by simp⟩
    rw [frame, done.frame, sameTable]

def sampleBatches : List (Uint256 × List FacetConfiguration) :=
  [(units256 1, [⟨1, 1⟩]), (units256 2, [⟨2, 1⟩, ⟨3, 1⟩])]

theorem sample_batches_compose :
    Composes sampleFacets 9 4 sampleStart.resolver sampleBatches (units256 3) ∧
      ∃ after, createInBatches sampleFacets 9 4 sampleBatches sampleStart.resolver =
        .ok ([1, 1], after) :=
  ⟨batches_compose _ _ _ _ _ _ (by simp [sampleBatches]) (by simp [sampleBatches]), _, rfl⟩

end StablecoinStudio.Resolver.Batches
