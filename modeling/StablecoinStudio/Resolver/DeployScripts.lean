import StablecoinStudio.Foundation.Pages
import StablecoinStudio.Resolver.Batches

/-!
# The deployment script

`scripts/resolverDiamondCut.ts`: the script sends the facets of a configuration
in two halves, each a transaction of its own. A transaction that fails stops
the script; what was sent before stays.
-/

namespace StablecoinStudio.Resolver.DeployScripts

open StablecoinStudio.Core.Common
open StablecoinStudio.Foundation.CheckedInt
open StablecoinStudio.Foundation.Pages
open StablecoinStudio.Resolver.Batches
open StablecoinStudio.Resolver.BusinessLogicResolver
open StablecoinStudio.Resolver.ConfigurationTables
open StablecoinStudio.Resolver.DiamondCutManagerWrapper
open StablecoinStudio.Resolver.ProxyNetworks
open StablecoinStudio.Resolver.ResolverEffects
open StablecoinStudio.Resolver.VersionHistory
open StablecoinStudio.Resolver.VersionTables
open StablecoinStudio.Token.ReferenceLedger

set_option autoImplicit false

inductive ScriptError where
  | differentLengths
  /-- A facet that does not answer with its key. -/
  | noResolverKey
  | transactionFailed (failure : Revert)
deriving DecidableEq

/-- Where the resolver is after the script, and why the script stopped early. -/
abbrev Outcome := ResolverState × Option ScriptError

/-- The lists have one length where this is called. -/
def createFacetConfigurations (ids : List Bytes32) (versions : List Nat) :
    List FacetConfiguration :=
  List.zipWith FacetConfiguration.mk ids versions

variable (facets : StaticFunctionSelectors) (signer : Address)

/-- The rounds of the loop; `times` says when the round at a counter is sent. -/
def sendBatches (configId : Bytes32) (facetIdList : List Bytes32) (facetVersionList : List Nat)
    (partialBatchDeploy : Bool) (batchSize : Nat) (times : Nat → Uint256) :
    List Nat → ResolverState → Outcome
  | [], before => (before, none)
  | i :: rest, before =>
      let batchIds := (facetIdList.drop i).take batchSize
      let batchVersions := (facetVersionList.drop i).take batchSize
      let batch := createFacetConfigurations batchIds batchVersions
      let isLastBatch :=
        if partialBatchDeploy then false else decide (i + batchSize ≥ facetIdList.length)
      match BusinessLogicResolver.createBatchConfiguration facets configId batch isLastBatch
          { sender := signer, timestamp := times i } before with
      | .error failure => (before, some (.transactionFailed failure))
      | .ok (_, middle) =>
          sendBatches configId facetIdList facetVersionList partialBatchDeploy batchSize times rest
            middle

/-- `Math.ceil(length / 2)`. -/
def batchSizeOf (length : Nat) : Nat := (length + 1) / 2

def processFacetLists (configId : Bytes32) (facetIdList : List Bytes32)
    (facetVersionList : List Nat) (partialBatchDeploy : Bool) (times : Nat → Uint256)
    (before : ResolverState) : Outcome :=
  if facetIdList.length ≠ facetVersionList.length then (before, some .differentLengths)
  else
    let batchSize := batchSizeOf facetIdList.length
    sendBatches facets signer configId facetIdList facetVersionList partialBatchDeploy batchSize times
      (starts facetIdList.length batchSize 0) before

namespace CONFIG_ID

def stableCoinFactory : Bytes32 := 1

def stableCoin : Bytes32 := 2

def reserve : Bytes32 := 3

end CONFIG_ID

structure DeployedContracts where
  stableCoinFactoryAddressList : List Address
  stableCoinAddressList : List Address
  reserveAddressList : List Address

def andThen (outcome : Outcome) (rest : ResolverState → Outcome) : Outcome :=
  match outcome with
  | (after, none) => rest after
  | stopped => stopped

/-- Every facet takes part in its first version. -/
def createConfigurationsForDeployedContracts (getStaticResolverKey : Address → Option Bytes32)
    (partialBatchDeploy : Bool) (contracts : DeployedContracts) (times : Bytes32 → Nat → Uint256)
    (before : ResolverState) : Outcome :=
  match contracts.stableCoinFactoryAddressList.mapM getStaticResolverKey,
      contracts.stableCoinAddressList.mapM getStaticResolverKey,
      contracts.reserveAddressList.mapM getStaticResolverKey with
  | some factoryIds, some coinIds, some reserveIds =>
      let send := fun configId ids partly => processFacetLists facets signer configId ids
        (List.replicate ids.length 1) partly (times configId)
      andThen (send CONFIG_ID.stableCoinFactory factoryIds false before) fun later =>
        andThen (send CONFIG_ID.stableCoin coinIds partialBatchDeploy later)
          (send CONFIG_ID.reserve reserveIds partialBatchDeploy)
  | _, _, _ => (before, some .noResolverKey)

variable {facets signer} {configId : Bytes32} {ids : List Bytes32} {versions : List Nat}
  {size first : Nat} {times : Nat → Uint256} {before after : ResolverState}

/-! ## One configuration -/

def batchesOf (ids : List Bytes32) (versions : List Nat) (size : Nat) (times : Nat → Uint256)
    (rounds : List Nat) : List (Uint256 × List FacetConfiguration) :=
  rounds.map fun i =>
    (times i, createFacetConfigurations ((ids.drop i).take size) ((versions.drop i).take size))

theorem slice_of_configurations (ids : List Bytes32) (versions : List Nat) (size i : Nat) :
    createFacetConfigurations ((ids.drop i).take size) ((versions.drop i).take size) =
      ((createFacetConfigurations ids versions).drop i).take size := by
  simp only [createFacetConfigurations, List.drop_zipWith, List.take_zipWith]

/-- The rounds send the batches, the last one as the last. -/
theorem send_batches_ok (positive : 0 < size) :
    sendBatches facets signer configId ids versions false size times (starts ids.length size first)
        before = (after, none) ↔
      ∃ returned, createInBatches facets configId signer
        (batchesOf ids versions size times (starts ids.length size first)) before =
          .ok (returned, after) := by
  induction left : ids.length - first using Nat.strong_induction_on generalizing first before with
  | _ left ih =>
      by_cases more : first < ids.length
      · have last : starts ids.length size (first + size) = [] ↔ ids.length ≤ first + size :=
          starts_last positive
        rw [starts_of_before more positive]
        simp only [sendBatches, batchesOf, List.map_cons, createInBatches, Bool.false_eq_true,
          if_false, List.isEmpty_map]
        have flag : decide (first + size ≥ ids.length) =
            (starts ids.length size (first + size)).isEmpty := by
          rw [Bool.eq_iff_iff, decide_eq_true_iff, List.isEmpty_iff, last]
        rw [flag]
        cases outcome : BusinessLogicResolver.createBatchConfiguration facets configId _ _ _ before with
        | error failure => simp
        | ok pair =>
            obtain ⟨version, middle⟩ := pair
            simp only
            rw [ih (ids.length - (first + size)) (by omega) rfl]
            simp only [batchesOf]
            cases createInBatches facets configId signer _ middle with
            | error failure => simp
            | ok answer =>
                obtain ⟨returned, final⟩ := answer
                simp
      · rw [starts_of_past (Nat.le_of_not_lt more)]
        simp [sendBatches, batchesOf, createInBatches, eq_comm]

theorem batches_cover (lengths : ids.length = versions.length) (positive : 0 < size) :
    (batchesOf ids versions size times (starts ids.length size 0)).flatMap Prod.snd =
      createFacetConfigurations ids versions := by
  have length : (createFacetConfigurations ids versions).length = ids.length := by
    simp [createFacetConfigurations, lengths]
  have covered := slices_cover (createFacetConfigurations ids versions) positive 0
  rw [length, List.drop_zero] at covered
  simp only [batchesOf, List.flatMap_map, slice_of_configurations]
  exact covered

theorem batches_not_empty (lengths : ids.length = versions.length) (positive : 0 < size) :
    ∀ batch ∈ batchesOf ids versions size times (starts ids.length size 0), batch.2 ≠ [] := by
  have length : (createFacetConfigurations ids versions).length = ids.length := by
    simp [createFacetConfigurations, lengths]
  intro batch listed
  obtain ⟨start, round, rfl⟩ := List.mem_map.mp listed
  rw [slice_of_configurations]
  apply slice_not_empty positive
  rw [length]
  exact starts_below start round

theorem batch_size_pos (some_ : ids ≠ []) : 0 < batchSizeOf ids.length := by
  have positive := List.length_pos_iff.mpr some_
  unfold batchSizeOf
  omega

/-- Sent in halves or in one call, the facets make the same version, and either
both ways go through or neither does. -/
theorem process_facet_lists_ok (timestamp : Uint256) (some_ : ids ≠ [])
    (lengths : ids.length = versions.length) :
    processFacetLists facets signer configId ids versions false times before = (after, none) ↔
      ∃ version, BusinessLogicResolver.createConfiguration facets configId
        (createFacetConfigurations ids versions) { sender := signer, timestamp := timestamp } before = .ok (version, after) := by
  have positive := batch_size_pos some_
  have begun : batchesOf ids versions (batchSizeOf ids.length) times
      (starts ids.length (batchSizeOf ids.length) 0) ≠ [] := by
    rw [starts_of_before (List.length_pos_iff.mpr some_) positive]
    exact List.cons_ne_nil _ _
  have notEmpty : ∀ batch ∈ batchesOf ids versions (batchSizeOf ids.length) times
      (starts ids.length (batchSizeOf ids.length) 0), batch.2 ≠ [] :=
    batches_not_empty lengths positive
  have whole : (batchesOf ids versions (batchSizeOf ids.length) times
      (starts ids.length (batchSizeOf ids.length) 0)).flatMap Prod.snd =
        createFacetConfigurations ids versions := batches_cover lengths positive
  have listed : createFacetConfigurations ids versions ≠ [] := by
    intro empty
    rcases List.zipWith_eq_nil_iff.mp empty with none | none
    · exact some_ none
    · exact some_ (List.length_eq_zero_iff.mp (by rw [lengths, none, List.length_nil]))
  rw [processFacetLists, if_neg (not_not.mpr lengths)]
  simp only
  rw [send_batches_ok positive]
  simp only [create_in_batches_ok begun notEmpty, create_configuration_ok, whole]
  constructor
  · intro sent
    obtain ⟨_, _, configured, admin, table, extended, frame⟩ := sent
    exact ⟨_, rfl, table, configured, admin, listed, extended, frame⟩
  · intro created
    obtain ⟨_, rfl, table, done⟩ := created
    exact ⟨_, rfl, done.configured, done.admin, table, done.extended, done.frame⟩

/-! ## All configurations -/

def firstVersions (ids : List Bytes32) : List FacetConfiguration :=
  createFacetConfigurations ids (List.replicate ids.length 1)

def CreatesAll (facets : StaticFunctionSelectors) (msg : Msg)
    (factoryIds coinIds reserveIds : List Bytes32) (before after : ResolverState) : Prop :=
  ∃ factoryVersion coinVersion reserveVersion first second,
    BusinessLogicResolver.createConfiguration facets CONFIG_ID.stableCoinFactory
        (firstVersions factoryIds) msg before = .ok (factoryVersion, first) ∧
      BusinessLogicResolver.createConfiguration facets CONFIG_ID.stableCoin
        (firstVersions coinIds) msg first = .ok (coinVersion, second) ∧
      BusinessLogicResolver.createConfiguration facets CONFIG_ID.reserve
        (firstVersions reserveIds) msg second = .ok (reserveVersion, after)

theorem and_then_ok {outcome : Outcome} {rest : ResolverState → Outcome} :
    andThen outcome rest = (after, none) ↔
      ∃ middle, outcome = (middle, none) ∧ rest middle = (after, none) := by
  obtain ⟨reached, stopped⟩ := outcome
  cases stopped with
  | none => simp [andThen]
  | some failure => simp [andThen]

theorem map_option_ne_nil {given : List Address} {key : Address → Option Bytes32}
    {found : List Bytes32} (some_ : given ≠ []) (mapped : given.mapM key = some found) :
    found ≠ [] := by
  rintro rfl
  cases given with
  | nil => exact some_ rfl
  | cons head tail =>
      cases first : key head with
      | none => simp [List.mapM_cons, first] at mapped
      | some found =>
          cases rest : tail.mapM key with
          | none => simp [List.mapM_cons, first, rest] at mapped
          | some others => simp [List.mapM_cons, first, rest] at mapped

/-- The whole script ends where three calls end that each give all facets of
their configuration, and stops early exactly where one of them reverts. -/
theorem create_configurations_ok (facets : StaticFunctionSelectors) (signer : Address)
    (getStaticResolverKey : Address → Option Bytes32) (contracts : DeployedContracts)
    (times : Bytes32 → Nat → Uint256) (timestamp : Uint256) (before after : ResolverState)
    (factories : contracts.stableCoinFactoryAddressList ≠ [])
    (coins : contracts.stableCoinAddressList ≠ [])
    (reserves : contracts.reserveAddressList ≠ []) :
    createConfigurationsForDeployedContracts facets signer getStaticResolverKey false contracts times
        before = (after, none) ↔
      ∃ factoryIds coinIds reserveIds,
        contracts.stableCoinFactoryAddressList.mapM getStaticResolverKey = some factoryIds ∧
        contracts.stableCoinAddressList.mapM getStaticResolverKey = some coinIds ∧
        contracts.reserveAddressList.mapM getStaticResolverKey = some reserveIds ∧
        CreatesAll facets { sender := signer, timestamp := timestamp } factoryIds coinIds reserveIds
          before after := by
  have each : ∀ {configId : Bytes32} {given : List Address} {found : List Bytes32}
      {start final : ResolverState}, given ≠ [] → given.mapM getStaticResolverKey = some found →
      (processFacetLists facets signer configId found (List.replicate found.length 1) false
          (times configId) start = (final, none) ↔
        ∃ version, BusinessLogicResolver.createConfiguration facets configId (firstVersions found)
          { sender := signer, timestamp := timestamp } start = .ok (version, final)) :=
    fun some_ mapped => process_facet_lists_ok timestamp (map_option_ne_nil some_ mapped)
      List.length_replicate.symm
  unfold createConfigurationsForDeployedContracts
  cases factoryKeys : contracts.stableCoinFactoryAddressList.mapM getStaticResolverKey with
  | none => simp
  | some factoryIds =>
      cases coinKeys : contracts.stableCoinAddressList.mapM getStaticResolverKey with
      | none => simp
      | some coinIds =>
          cases reserveKeys : contracts.reserveAddressList.mapM getStaticResolverKey with
          | none => simp
          | some reserveIds =>
              simp only [and_then_ok, each factories factoryKeys, each coins coinKeys,
                each reserves reserveKeys, CreatesAll]
              constructor
              · intro sent
                obtain ⟨first, ⟨factoryVersion, factory⟩, second, ⟨coinVersion, coin⟩,
                  reserveVersion, reserve⟩ := sent
                exact ⟨factoryIds, coinIds, reserveIds, rfl, rfl, rfl, factoryVersion, coinVersion,
                  reserveVersion, first, second, factory, coin, reserve⟩
              · intro created
                obtain ⟨_, _, _, ⟨rfl⟩, ⟨rfl⟩, ⟨rfl⟩, factoryVersion, coinVersion, reserveVersion,
                  first, second, factory, coin, reserve⟩ := created
                exact ⟨first, ⟨factoryVersion, factory⟩, second, ⟨coinVersion, coin⟩,
                  reserveVersion, reserve⟩

/-! ## Scripts that stop -/

/-- Nothing but the version under way of the one configuration is touched. -/
structure OnlyUnderWay (configId : Bytes32) (before after : ResolverState) : Prop where
  tables : ∀ key, key ≠ (configId, targetVersion before.diamondCutManager configId) →
    tableAt after.diamondCutManager key = tableAt before.diamondCutManager key
  latestVersion : after.diamondCutManager.latestVersion = before.diamondCutManager.latestVersion
  active : after.diamondCutManager.activeConfigurations =
    before.diamondCutManager.activeConfigurations
  configurations : after.diamondCutManager.configurations = before.diamondCutManager.configurations
  others : after = { before with diamondCutManager := after.diamondCutManager }

/-- The batches so far are none, or they made a table of the version under way. -/
inductive Begun (configId : Bytes32) (before : ResolverState) : ResolverState → Prop where
  | nothing : Begun configId before before
  | batches (table : VersionTable) : Begun configId before
      { before with diamondCutManager := underWay before.diamondCutManager configId table }

theorem Begun.only_under_way (begun : Begun configId before after) :
    OnlyUnderWay configId before after := by
  cases begun with
  | nothing => exact ⟨fun _ _ => rfl, rfl, rfl, rfl, rfl⟩
  | batches table => exact ⟨fun _ => table_at_under_way_of_ne, rfl, rfl, rfl, rfl⟩

theorem Begun.batch {start : ResolverState} {batch : List FacetConfiguration} {msg : Msg}
    {version : Nat} (begun : Begun configId before start)
    (created : BusinessLogicResolver.createBatchConfiguration facets configId batch false msg start =
      .ok (version, after)) : Begun configId before after := by
  obtain ⟨_, table, done⟩ := create_batch_configuration_ok.mp created
  have frame : after =
      { start with diamondCutManager := underWay start.diamondCutManager configId table } :=
    done.frame
  rw [frame]
  cases begun with
  | nothing => exact .batches table
  | batches earlier =>
      rw [under_way_under_way]
      exact .batches table

theorem begun_of_stopped {partialBatchDeploy : Bool} {failure : Option ScriptError}
    {start : ResolverState} (positive : 0 < size) (begun : Begun configId before start)
    (sent : sendBatches facets signer configId ids versions partialBatchDeploy size times
      (starts ids.length size first) start = (after, failure))
    (stopped : partialBatchDeploy = true ∨ failure ≠ none) : Begun configId before after := by
  induction left : ids.length - first using Nat.strong_induction_on generalizing first start with
  | _ left ih =>
      by_cases more : first < ids.length
      · rw [starts_of_before more positive] at sent
        simp only [sendBatches] at sent
        split at sent
        · next failed reverted =>
            obtain ⟨rfl, _⟩ := Prod.mk.inj sent
            exact begun
        · next version middle created =>
            by_cases open_ : partialBatchDeploy = true ∨ first + size < ids.length
            · have unfinished : (if partialBatchDeploy = true then false
                  else decide (first + size ≥ ids.length)) = false := by
                rcases open_ with partly | short
                · rw [if_pos partly]
                · split
                  · rfl
                  · exact decide_eq_false (Nat.not_le_of_lt short)
              rw [unfinished] at created
              exact ih (ids.length - (first + size)) (by omega) (begun.batch created) sent rfl
            · -- the last round went through, and there is no other
              obtain ⟨whole, last⟩ := not_or.mp open_
              rw [starts_of_past (Nat.le_of_not_lt last), sendBatches] at sent
              obtain ⟨_, rfl⟩ := Prod.mk.inj sent
              exact (stopped.elim whole fun failed => failed rfl).elim
      · rw [starts_of_past (Nat.le_of_not_lt more), sendBatches] at sent
        obtain ⟨rfl, _⟩ := Prod.mk.inj sent
        exact begun

/-- A script that stops early, or that is told to leave the version open, leaves
what proxies are served with as it was: the facets of every other version, and
which versions there are. -/
theorem stopped_leaves_versions (facets : StaticFunctionSelectors) (signer : Address)
    (configId : Bytes32) (ids : List Bytes32) (versions : List Nat) (partialBatchDeploy : Bool)
    (times : Nat → Uint256) (before after : ResolverState) (failure : Option ScriptError)
    (sent : processFacetLists facets signer configId ids versions partialBatchDeploy times before =
      (after, failure)) (stopped : partialBatchDeploy = true ∨ failure ≠ none) :
    OnlyUnderWay configId before after := by
  unfold processFacetLists at sent
  split at sent
  · obtain ⟨rfl, _⟩ := Prod.mk.inj sent
    exact Begun.only_under_way .nothing
  · by_cases some_ : ids = []
    · subst some_
      simp only [List.length_nil, starts_of_past (Nat.le_refl 0), sendBatches] at sent
      obtain ⟨rfl, _⟩ := Prod.mk.inj sent
      exact Begun.only_under_way .nothing
    · exact (begun_of_stopped (batch_size_pos some_) .nothing sent stopped).only_under_way

/-! ## A script to evaluate -/

/-- Facets 1 and 3 share a selector, and the version stays open anyway. -/
theorem sample_stopped_leaves_versions :
    OnlyUnderWay CONFIG_ID.stableCoin sampleStart.resolver
      (processFacetLists sampleFacets 4 CONFIG_ID.stableCoin [1, 2, 3] [1, 1, 1] true
        (fun _ => units256 2) sampleStart.resolver).1 :=
  stopped_leaves_versions sampleFacets 4 CONFIG_ID.stableCoin [1, 2, 3] [1, 1, 1] true
    (fun _ => units256 2) sampleStart.resolver _ _ rfl (Or.inl rfl)

def sampleContracts : DeployedContracts := ⟨[11, 12], [13], [12]⟩

def sampleKeys (address : Address) : Option Bytes32 :=
  if address = 11 then some 1 else if address = 12 then some 2
  else if address = 13 then some 3 else none

theorem sample_create_configurations :
    createConfigurationsForDeployedContracts sampleFacets 4 sampleKeys false sampleContracts
        (fun _ _ => units256 2) sampleStart.resolver =
      ((createConfigurationsForDeployedContracts sampleFacets 4 sampleKeys false sampleContracts
        (fun _ _ => units256 2) sampleStart.resolver).1, none) ↔
      ∃ factoryIds coinIds reserveIds,
        sampleContracts.stableCoinFactoryAddressList.mapM sampleKeys = some factoryIds ∧
        sampleContracts.stableCoinAddressList.mapM sampleKeys = some coinIds ∧
        sampleContracts.reserveAddressList.mapM sampleKeys = some reserveIds ∧
        CreatesAll sampleFacets { sender := 4, timestamp := units256 2 } factoryIds coinIds
          reserveIds sampleStart.resolver
          (createConfigurationsForDeployedContracts sampleFacets 4 sampleKeys false
            sampleContracts (fun _ _ => units256 2) sampleStart.resolver).1 :=
  create_configurations_ok sampleFacets 4 sampleKeys sampleContracts (fun _ _ => units256 2)
    (units256 2) sampleStart.resolver _ (by decide) (by decide) (by decide)

end StablecoinStudio.Resolver.DeployScripts
