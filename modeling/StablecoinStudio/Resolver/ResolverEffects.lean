import StablecoinStudio.Resolver.ConfigurationTables

/-!
# What the calls of the resolver do

For every function that changes the storage of the resolver, what a committed
call of it did, its guards included.
-/

namespace StablecoinStudio.Resolver.ResolverEffects

open StablecoinStudio.Core.Common
open StablecoinStudio.Core.Constants
open StablecoinStudio.Core.EnumerableSetBytes4
open StablecoinStudio.Foundation.Transaction
open StablecoinStudio.Resolver.BusinessLogicResolver
open StablecoinStudio.Resolver.BusinessLogicResolverWrapper
open StablecoinStudio.Resolver.ConfigurationTables
open StablecoinStudio.Resolver.DiamondCutManagerWrapper
open StablecoinStudio.Resolver.VersionTables
open StablecoinStudio.Token.ProxyState
open StablecoinStudio.Token.Roles

set_option autoImplicit false

variable {environment : Msg}

/-! ## Registrations -/

structure ValidKeys (registry : BusinessLogicResolverDataStorage)
    (businessLogics : List BusinessLogicRegistryData) : Prop where
  keys : ∀ data ∈ businessLogics, data.businessLogicKey ≠ 0
  addresses : ∀ data ∈ businessLogics, data.businessLogicAddress ≠ 0
  distinct : (businessLogics.map BusinessLogicRegistryData.businessLogicKey).Nodup
  complete : businessLogics.countP (fun data => registry.businessLogicActive data.businessLogicKey) =
    registry.activeBusinessLogics.length

section Registry

variable {before after : BusinessLogicResolverDataStorage}

theorem check_keys_ok {businessLogics : List BusinessLogicRegistryData} {met result : Nat} :
    checkKeys businessLogics met environment before = .ok (result, after) ↔
      (∀ data ∈ businessLogics, data.businessLogicKey ≠ 0) ∧
        (∀ data ∈ businessLogics, data.businessLogicAddress ≠ 0) ∧
        (businessLogics.map BusinessLogicRegistryData.businessLogicKey).Nodup ∧
        met + businessLogics.countP (fun data => before.businessLogicActive data.businessLogicKey) =
          result ∧
        before = after := by
  induction businessLogics generalizing met with
  | nil => simp [checkKeys]
  | cons data rest ih =>
      have fresh : data.businessLogicKey ∉ rest.map BusinessLogicRegistryData.businessLogicKey ↔
          ∀ other ∈ rest, data.businessLogicKey ≠ other.businessLogicKey := by
        simp only [List.mem_map, not_exists, not_and, ne_eq, eq_comm]
      have count (activated : Bool) (more : Nat) :
          (if activated then met + 1 else met) + more =
            met + (more + if activated then 1 else 0) := by
        cases activated
        · simp
        · simp only [if_true]
          omega
      simp only [checkKeys, Tx.bind_ok, Tx.require_ok, Tx.get_ok, Tx.for_each_require_ok, and_assoc,
        exists_and_left, exists_eq_left', exists_const, ih, List.forall_mem_cons, List.map_cons,
        List.nodup_cons, List.countP_cons, fresh, count]
      constructor
      · intro committed
        obtain ⟨key, address, new, keys, addresses, distinct, counted, same⟩ := committed
        exact ⟨key, keys, address, addresses, new, distinct, counted, same⟩
      · intro described
        obtain ⟨key, keys, address, addresses, new, distinct, counted, same⟩ := described
        exact ⟨key, address, new, keys, addresses, distinct, counted, same⟩

theorem check_valid_keys_ok {businessLogics : List BusinessLogicRegistryData} {result : Unit} :
    checkValidKeys businessLogics environment before = .ok (result, after) ↔
      ValidKeys before businessLogics ∧ before = after := by
  simp only [checkValidKeys, Tx.bind_ok, check_keys_ok, Tx.get_ok, Tx.require_ok, and_assoc,
    exists_and_left, exists_eq_left', Nat.zero_add]
  constructor
  · intro committed
    obtain ⟨keys, addresses, distinct, complete, same⟩ := committed
    exact ⟨⟨keys, addresses, distinct, complete⟩, same⟩
  · intro described
    obtain ⟨valid, same⟩ := described
    exact ⟨valid.keys, valid.addresses, valid.distinct, valid.complete, same⟩

/-- Nothing but the blacklists differs. -/
def SameRegistrations (before after : BusinessLogicResolverDataStorage) : Prop :=
  after = { before with selectorBlacklist := after.selectorBlacklist }

instance : Std.Refl SameRegistrations := ⟨fun _ => rfl⟩

instance : IsTrans BusinessLogicResolverDataStorage SameRegistrations := by
  constructor
  intro first second third start rest
  rw [SameRegistrations] at start rest ⊢
  rw [rest, start]

theorem on_blacklist_keeps {value : Type} (configurationId : Bytes32) (call : SetTx value) :
    Tx.Respects SameRegistrations (do let _ ← onBlacklist configurationId call) := by
  intro environment before result after committed
  simp only [onBlacklist, Tx.bind_ok, Tx.focus_ok, Tx.pure_ok] at committed
  obtain ⟨_, _, ⟨changed, _, rfl⟩, _, rfl⟩ := committed
  rfl

theorem add_selectors_keeps (configurationId : Bytes32) (selectors : List Bytes4) :
    (BusinessLogicResolverWrapper.addSelectorsToBlacklist configurationId selectors).Respects
      SameRegistrations := by
  apply Tx.respects_for_each
  intro selector _
  exact on_blacklist_keeps configurationId (add selector)

theorem remove_selectors_keeps (configurationId : Bytes32) (selectors : List Bytes4) :
    (BusinessLogicResolverWrapper.removeSelectorsFromBlacklist configurationId selectors).Respects
      SameRegistrations := by
  apply Tx.respects_for_each
  intro selector _
  exact on_blacklist_keeps configurationId (remove selector)

end Registry

/-! ## Configurations -/

/-- The version that facets are added to: that of the batch under way, or the
next one. -/
def targetVersion (dcms : DiamondCutManagerStorage) (configurationId : Bytes32) : Nat :=
  if isOngoingConfiguration dcms configurationId then dcms.batchVersion configurationId
  else dcms.latestVersion configurationId + 1

def underWay (dcms : DiamondCutManagerStorage) (configurationId : Bytes32)
    (table : VersionTable) : DiamondCutManagerStorage :=
  { setTable (configurationId, targetVersion dcms configurationId) dcms table with
    batchVersion :=
      Function.update dcms.batchVersion configurationId (targetVersion dcms configurationId) }

def targetTable (dcms : DiamondCutManagerStorage) (configurationId : Bytes32) : VersionTable :=
  tableAt dcms (configurationId, targetVersion dcms configurationId)

/-- The entries of a creating call are accepted when they extend the table that
they are added to. -/
structure Creating (facets : StaticFunctionSelectors) (msg : Msg) (configurationId : Bytes32)
    (facetConfigurations : List FacetConfiguration) (isLastBatch : Bool)
    (before after : ResolverState) (table : VersionTable) : Prop where
  configured : configurationId ≠ 0
  admin : RolesStorage.hasRole before.roles adminRole msg.sender = true
  nonEmpty : facetConfigurations ≠ []
  extended :
    VersionTable.extend (bound facets before.businessLogicResolver configurationId)
      facetConfigurations (targetTable before.diamondCutManager configurationId) = some table
  frame : after =
    { before with
      diamondCutManager := activateConfiguration configurationId isLastBatch
        (underWay before.diamondCutManager configurationId table) }

/-- One clause for each kind of call. -/
inductive ResolverEffect (facets : StaticFunctionSelectors) (msg : Msg)
    (before after : ResolverState) : ResolverCall → Prop where
  | initialized (first : before.initialized businessLogicResolverKey = false)
      (frame : after =
        { before with
          roles := RolesStorage.grantRole before.roles adminRole msg.sender
          initialized := Function.update before.initialized businessLogicResolverKey true }) :
      ResolverEffect facets msg before after .initialize_BusinessLogicResolver
  | registered {businessLogics : List BusinessLogicRegistryData}
      (valid : ValidKeys before.businessLogicResolver businessLogics)
      (admin : RolesStorage.hasRole before.roles adminRole msg.sender = true)
      (nonEmpty : businessLogics ≠ [])
      (frame : after =
        { before with
          businessLogicResolver :=
            businessLogics.foldl registerBusinessLogic before.businessLogicResolver }) :
      ResolverEffect facets msg before after (.registerBusinessLogics businessLogics)
  | blacklisted {called : ResolverCall} (kind : called.onBlacklist = true)
      (admin : RolesStorage.hasRole before.roles adminRole msg.sender = true)
      (same : SameRegistrations before.businessLogicResolver after.businessLogicResolver)
      (frame : after = { before with businessLogicResolver := after.businessLogicResolver }) :
      ResolverEffect facets msg before after called
  | created {called : ResolverCall} {configurationId : Bytes32}
      {facetConfigurations : List FacetConfiguration} {isLastBatch : Bool} {table : VersionTable}
      (creation : called.creation = some (configurationId, facetConfigurations, isLastBatch))
      (done : Creating facets msg configurationId facetConfigurations isLastBatch before after
        table) :
      ResolverEffect facets msg before after called
  | cancelled {configurationId : Bytes32} (configured : configurationId ≠ 0)
      (admin : RolesStorage.hasRole before.roles adminRole msg.sender = true)
      (frame : after =
        { before with
          diamondCutManager :=
            DiamondCutManagerWrapper.cancelBatchConfiguration configurationId
              before.diamondCutManager }) :
      ResolverEffect facets msg before after (.cancelBatchConfiguration configurationId)

section Committed

variable {facets : StaticFunctionSelectors} {before after : ResolverState}

@[simp] theorem only_role_ok {role : Bytes32} {result : Unit} :
    onlyRole role environment before = .ok (result, after) ↔
      RolesStorage.hasRole before.roles role environment.sender = true ∧ before = after := by
  simp [onlyRole, and_comm]

@[simp] theorem ignore_ok {value : Type} {call : ResolverTx value} {result : Unit} :
    ignore call environment before = .ok (result, after) ↔
      ∃ answer, call environment before = .ok (answer, after) :=
  Tx.dropped_ok

theorem ongoing_version_ok {configurationId : Bytes32} {version : Nat} :
    ongoingVersion configurationId environment before = .ok (version, after) ↔
      version = targetVersion before.diamondCutManager configurationId ∧
        after =
          { before with
            diamondCutManager :=
              { before.diamondCutManager with
                batchVersion :=
                  Function.update before.diamondCutManager.batchVersion configurationId
                    (targetVersion before.diamondCutManager configurationId) } } := by
  simp only [ongoingVersion, Tx.bind_ok, Tx.get_ok, and_assoc, exists_and_left, exists_eq_left']
  by_cases ongoing : isOngoingConfiguration before.diamondCutManager configurationId = true
  · simp only [if_pos ongoing, targetVersion, Tx.pure_ok, Function.update_eq_self]
    exact ⟨fun committed => ⟨committed.1.symm, committed.2.symm⟩,
      fun described => ⟨described.1.symm, described.2.symm⟩⟩
  · simp only [if_neg ongoing, targetVersion, onManager, startBatchConfiguration, Tx.bind_ok,
      Tx.modify_ok, Tx.get_ok, Tx.pure_ok, Function.update_self, and_assoc, exists_and_left,
      exists_eq_left', exists_const]
    exact ⟨fun committed => ⟨committed.1.symm, committed.2.symm⟩,
      fun described => ⟨described.1.symm, described.2.symm⟩⟩

theorem create_batch_configuration_ok {configurationId : Bytes32}
    {facetConfigurations : List FacetConfiguration} {isLastBatch : Bool} {version : Nat} :
    BusinessLogicResolver.createBatchConfiguration facets configurationId facetConfigurations
        isLastBatch environment before = .ok (version, after) ↔
      version = targetVersion before.diamondCutManager configurationId ∧
        ∃ table, Creating facets environment configurationId facetConfigurations isLastBatch before
          after table := by
  simp only [BusinessLogicResolver.createBatchConfiguration, validateConfigurationId, noEmptyConfiguration,
    DiamondCutManagerWrapper.createBatchConfiguration, onManager, Tx.bind_ok, Tx.require_ok,
    only_role_ok, ongoing_version_ok, add_facets_ok, Tx.modify_ok, Tx.pure_ok, and_assoc,
    exists_and_left, exists_eq_left', exists_eq_left, exists_const]
  constructor
  · intro committed
    obtain ⟨configured, admin, nonEmpty, _, ⟨table, extended, rfl⟩, numbered, frame⟩ := committed
    exact ⟨numbered.symm, table, configured, admin, nonEmpty, extended, frame.symm⟩
  · intro described
    obtain ⟨numbered, table, configured, admin, nonEmpty, extended, frame⟩ := described
    exact ⟨configured, admin, nonEmpty, _, ⟨table, extended, rfl⟩, numbered.symm, frame.symm⟩

theorem creation_ok {called : ResolverCall} {configurationId : Bytes32}
    {facetConfigurations : List FacetConfiguration} {isLastBatch : Bool}
    (creation : called.creation = some (configurationId, facetConfigurations, isLastBatch)) :
    called.perform facets environment before = .ok ((), after) ↔
      ∃ table, Creating facets environment configurationId facetConfigurations isLastBatch before
        after table := by
  cases called with
  | createConfiguration _ _ =>
      cases creation
      -- the wrapper's two functions are the same once the flag is set
      have same :
          BusinessLogicResolver.createConfiguration facets configurationId facetConfigurations =
            BusinessLogicResolver.createBatchConfiguration facets configurationId
              facetConfigurations true := rfl
      simp only [ResolverCall.perform, ignore_ok, same, create_batch_configuration_ok,
        exists_eq_left]
  | createBatchConfiguration _ _ _ =>
      cases creation
      simp only [ResolverCall.perform, ignore_ok, create_batch_configuration_ok, exists_eq_left]
  | _ => cases creation

theorem cancellation_ok (facets : StaticFunctionSelectors) {configurationId : Bytes32} :
    (ResolverCall.cancelBatchConfiguration configurationId).perform facets environment before =
        .ok ((), after) ↔
      configurationId ≠ 0 ∧
        RolesStorage.hasRole before.roles adminRole environment.sender = true ∧
        after =
          { before with
            diamondCutManager :=
              DiamondCutManagerWrapper.cancelBatchConfiguration configurationId
                before.diamondCutManager } := by
  simp only [ResolverCall.perform, BusinessLogicResolver.cancelBatchConfiguration,
    validateConfigurationId, onManager, Tx.bind_ok, Tx.require_ok, only_role_ok, Tx.modify_ok,
    and_assoc, exists_and_left, exists_eq_left', exists_const]
  rw [eq_comm (a := after)]

theorem creation_of_blacklist {called : ResolverCall} (kind : called.onBlacklist = true) :
    called.creation = none := by
  cases called with
  | addSelectorsToBlacklist _ _ | removeSelectorsFromBlacklist _ _ => rfl
  | _ => cases kind

/-- What a committed call of the resolver did. -/
theorem resolver_effect {called : ResolverCall}
    (committed : called.perform facets environment before = .ok ((), after)) :
    ResolverEffect facets environment before after called := by
  cases called with
  | initialize_BusinessLogicResolver =>
      obtain ⟨_, done⟩ := ignore_ok.mp committed
      simp only [BusinessLogicResolver.initialize_BusinessLogicResolver, Tx.bind_ok, Tx.read_ok,
        Tx.get_ok, Tx.require_ok, Tx.modify_ok, Tx.pure_ok, and_assoc, exists_and_left,
        exists_eq_left', exists_const] at done
      obtain ⟨first, _, frame⟩ := done
      exact .initialized first frame.symm
  | registerBusinessLogics businessLogics =>
      simp only [ResolverCall.perform, BusinessLogicResolver.registerBusinessLogics, onRegistry,
        Tx.bind_ok, Tx.focus_ok, check_valid_keys_ok, only_role_ok, Tx.require_ok, Tx.modify_ok,
        BusinessLogicResolverWrapper.registerBusinessLogics, and_assoc, exists_and_left,
        exists_eq_left', exists_const] at committed
      obtain ⟨valid, admin, nonEmpty, frame⟩ := committed
      exact .registered valid admin nonEmpty frame.symm
  | addSelectorsToBlacklist configurationId selectors =>
      simp only [ResolverCall.perform, BusinessLogicResolver.addSelectorsToBlacklist, onRegistry,
        Tx.bind_ok, only_role_ok, Tx.focus_ok] at committed
      obtain ⟨_, _, ⟨admin, rfl⟩, registry, added, rfl⟩ := committed
      exact .blacklisted rfl admin (add_selectors_keeps _ _ _ _ _ _ added) rfl
  | removeSelectorsFromBlacklist configurationId selectors =>
      simp only [ResolverCall.perform, BusinessLogicResolver.removeSelectorsFromBlacklist,
        onRegistry, Tx.bind_ok, only_role_ok, Tx.focus_ok] at committed
      obtain ⟨_, _, ⟨admin, rfl⟩, registry, removed, rfl⟩ := committed
      exact .blacklisted rfl admin (remove_selectors_keeps _ _ _ _ _ _ removed) rfl
  | createConfiguration configurationId facetConfigurations =>
      obtain ⟨table, done⟩ := (creation_ok rfl).mp committed
      exact .created rfl done
  | createBatchConfiguration configurationId facetConfigurations isLastBatch =>
      obtain ⟨table, done⟩ := (creation_ok rfl).mp committed
      exact .created rfl done
  | cancelBatchConfiguration configurationId =>
      obtain ⟨configured, admin, frame⟩ := (cancellation_ok facets).mp committed
      exact .cancelled configured admin frame

end Committed

end StablecoinStudio.Resolver.ResolverEffects
