import StablecoinStudio.Resolver.FacetVersions

/-!
# The history of the registry

Every accepted list of registrations names all active facets, so it gives each
of them one more version. What a version resolves to is what the call that made
it gave, whatever is called afterwards.
-/

namespace StablecoinStudio.Resolver.Registrations

open StablecoinStudio.Core.Common
open StablecoinStudio.Foundation.Runs
open StablecoinStudio.Foundation.Transaction
open StablecoinStudio.Resolver.BusinessLogicResolver
open StablecoinStudio.Resolver.BusinessLogicResolverWrapper
open StablecoinStudio.Resolver.ConfigurationTables
open StablecoinStudio.Resolver.DiamondCutManagerWrapper
open StablecoinStudio.Resolver.FacetVersions
open StablecoinStudio.Resolver.ProxyNetworks
open StablecoinStudio.Resolver.ResolverEffects

set_option autoImplicit false

/-! ## The counting argument -/

/-- A list without duplicates has as many marked items as there are exactly when
it has all of them. -/
theorem count_eq_length_iff {item : Type} {marked : item → Bool} {members given : List item}
    (distinct : members.Nodup) (marks : ∀ entry, marked entry = true ↔ entry ∈ members)
    (givenDistinct : given.Nodup) :
    given.countP marked = members.length ↔ ∀ entry ∈ members, entry ∈ given := by
  have within : given.filter marked ⊆ members := by
    intro entry listed
    exact (marks entry).mp (List.mem_filter.mp listed).2
  have subperm := List.subperm_of_subset (givenDistinct.filter marked) within
  rw [List.countP_eq_length_filter]
  constructor
  · intro counted entry member
    have same := subperm.perm_of_length_le (Nat.le_of_eq counted.symm)
    exact (List.mem_filter.mp (same.mem_iff.mpr member)).1
  · intro complete
    have back : members ⊆ given.filter marked := by
      intro entry member
      exact List.mem_filter.mpr ⟨complete entry member, (marks entry).mpr member⟩
    exact (subperm.antisymm (List.subperm_of_subset distinct back)).length_eq

/-! ## The stored versions -/

/-- How the versions of a facet with these addresses are stored. -/
def recorded (given : List Address) : List BusinessLogicVersion :=
  given.mapIdx fun position address => ⟨⟨position + 1, .activated⟩, address⟩

/-- The other structures follow the addresses of the facets. -/
structure Recorded (registry : BusinessLogicResolverDataStorage) : Prop where
  indexed : RegistryInvariant registry
  stored : ∀ key, registry.businessLogics key = recorded (addresses registry key)
  status : ∀ key version, 1 ≤ version → version ≤ registry.latestVersionByFacetId key →
    registry.statusByFacetIdAndVersion (key, version) = .activated
  distinct : registry.activeBusinessLogics.Nodup
  listed : ∀ key, registry.businessLogicActive key = true ↔ key ∈ registry.activeBusinessLogics

theorem recorded_empty : Recorded BusinessLogicResolverDataStorage.empty where
  indexed := registry_invariant_empty
  stored _ := rfl
  status key version positive within := by
    have none_ : version ≤ 0 := within
    omega
  distinct := List.nodup_nil
  listed _ := by simp [BusinessLogicResolverDataStorage.empty]

variable {registry : BusinessLogicResolverDataStorage} {data : BusinessLogicRegistryData}
  {businessLogics : List BusinessLogicRegistryData} {key : Bytes32}

theorem addresses_length (recorded : Recorded registry) (key : Bytes32) :
    (addresses registry key).length = registry.latestVersionByFacetId key := by
  rw [recorded.indexed.counted, addresses, List.length_map]

theorem recorded_register (data : BusinessLogicRegistryData) (holds : Recorded registry) :
    Recorded (registerBusinessLogic registry data) where
  indexed := registry_invariant_register data holds.indexed
  stored := by
    intro key
    rw [addresses_register]
    by_cases own : key = data.businessLogicKey
    · subst own
      have version := addresses_length holds data.businessLogicKey
      simp only [registerBusinessLogic, Function.update_self, if_true]
      rw [holds.stored, recorded, recorded, List.mapIdx_append, ← version]
      simp
    · simp only [registerBusinessLogic, Function.update_of_ne own, if_neg (Ne.symm own),
        List.append_nil]
      exact holds.stored key
  status := by
    intro key version positive within
    by_cases new : (key, version) =
        (data.businessLogicKey, registry.latestVersionByFacetId data.businessLogicKey + 1)
    · simp only [registerBusinessLogic, new, Function.update_self]
    · simp only [registerBusinessLogic, Function.update_of_ne new]
      apply holds.status key version positive
      simp only [registerBusinessLogic] at within
      by_cases own : key = data.businessLogicKey
      · subst own
        rw [Function.update_self] at within
        have different : version ≠ registry.latestVersionByFacetId data.businessLogicKey + 1 :=
          fun same => new (by rw [same])
        omega
      · rw [Function.update_of_ne own] at within
        exact within
  distinct := by
    simp only [registerBusinessLogic]
    split
    · exact holds.distinct
    · next inactive =>
        have new : data.businessLogicKey ∉ registry.activeBusinessLogics :=
          fun member => inactive ((holds.listed _).mpr member)
        exact List.nodup_append_comm.mp (List.nodup_cons.mpr ⟨new, holds.distinct⟩)
  listed := by
    intro key
    simp only [registerBusinessLogic]
    by_cases own : key = data.businessLogicKey
    · subst own
      rw [Function.update_self]
      split
      · next active => simpa using (holds.listed _).mp active
      · simp
    · rw [Function.update_of_ne own, holds.listed]
      split
      · exact Iff.rfl
      · simp [own]

theorem recorded_registrations (businessLogics : List BusinessLogicRegistryData)
    (holds : Recorded registry) :
    Recorded (businessLogics.foldl registerBusinessLogic registry) := by
  induction businessLogics generalizing registry with
  | nil => exact holds
  | cons data rest ih => exact ih (recorded_register data holds)

theorem recorded_same {later : BusinessLogicResolverDataStorage}
    (same : SameRegistrations registry later) (holds : Recorded registry) : Recorded later := by
  rw [same]
  exact {
    indexed := ⟨holds.indexed.counted, holds.indexed.active, holds.indexed.placed⟩
    stored := holds.stored
    status := holds.status
    distinct := holds.distinct
    listed := holds.listed }

variable {outside : Type} {d : Deployment outside} {network : Network outside}

theorem recorded_step (label : NetworkLabel outside)
    (holds : Recorded network.resolver.businessLogicResolver) :
    Recorded (nextNetwork d network label).resolver.businessLogicResolver := by
  rcases resolver_after_step label with ⟨msg, called, rfl, effect⟩ | same
  · by_cases registering : ∃ businessLogics, called = .registerBusinessLogics businessLogics
    · obtain ⟨businessLogics, rfl⟩ := registering
      cases effect with
      | registered _ _ _ frame =>
          rw [frame]
          exact recorded_registrations businessLogics holds
      | blacklisted kind _ _ _ => cases kind
      | created creation _ => cases creation
    · have other : ∀ businessLogics, called ≠ .registerBusinessLogics businessLogics :=
        fun businessLogics same => registering ⟨businessLogics, same⟩
      exact recorded_same (same_registrations effect other) holds
  · rw [same]
    exact holds

theorem recorded_along_run (world : outside) (labels : List (NetworkLabel outside)) :
    Recorded (run (nextNetwork d) (freshNetwork world) labels).resolver.businessLogicResolver :=
  invariant_of_every_step (nextNetwork d)
    (fun network => Recorded network.resolver.businessLogicResolver)
    (fun _ taken holds => recorded_step taken holds) labels recorded_empty

/-! ## What is accepted -/

/-- Complete and well-formed: every facet once, with an address, and none of the
active ones missing. -/
structure CompleteList (registry : BusinessLogicResolverDataStorage)
    (businessLogics : List BusinessLogicRegistryData) : Prop where
  keys : ∀ data ∈ businessLogics, data.businessLogicKey ≠ 0
  addresses : ∀ data ∈ businessLogics, data.businessLogicAddress ≠ 0
  distinct : (businessLogics.map BusinessLogicRegistryData.businessLogicKey).Nodup
  complete : ∀ key ∈ registry.activeBusinessLogics,
    key ∈ businessLogics.map BusinessLogicRegistryData.businessLogicKey

theorem valid_keys_iff_complete (holds : Recorded registry) :
    ValidKeys registry businessLogics ↔ CompleteList registry businessLogics := by
  have count : businessLogics.countP (fun data => registry.businessLogicActive data.businessLogicKey) =
      (businessLogics.map BusinessLogicRegistryData.businessLogicKey).countP
        registry.businessLogicActive := by
    rw [List.countP_map]
    rfl
  constructor
  · intro valid
    refine ⟨valid.keys, valid.addresses, valid.distinct, ?_⟩
    apply (count_eq_length_iff holds.distinct holds.listed valid.distinct).mp
    rw [← count, valid.complete]
  · intro listed
    refine ⟨listed.keys, listed.addresses, listed.distinct, ?_⟩
    rw [count]
    exact (count_eq_length_iff holds.distinct holds.listed listed.distinct).mpr listed.complete

/-- In every reachable state `_checkValidKeys` accepts the complete lists. -/
theorem check_valid_keys_iff (d : Deployment outside) (world : outside)
    (labels : List (NetworkLabel outside)) (msg : Msg)
    (businessLogics : List BusinessLogicRegistryData) :
    checkValidKeys businessLogics msg
        (run (nextNetwork d) (freshNetwork world) labels).resolver.businessLogicResolver =
      .ok ((), (run (nextNetwork d) (freshNetwork world) labels).resolver.businessLogicResolver) ↔
    CompleteList (run (nextNetwork d) (freshNetwork world) labels).resolver.businessLogicResolver
      businessLogics := by
  rw [check_valid_keys_ok, ← valid_keys_iff_complete (recorded_along_run world labels)]
  constructor
  · intro accepted
    exact accepted.1
  · intro valid
    exact ⟨valid, rfl⟩

/-! ## The accepted calls -/

def acceptedBy (d : Deployment outside) (network : Network outside) :
    NetworkLabel outside → List (List BusinessLogicRegistryData)
  | .resolver msg (.registerBusinessLogics businessLogics) =>
      match (ResolverCall.registerBusinessLogics businessLogics).perform d.facets msg
          network.resolver with
      | .ok _ => [businessLogics]
      | .error _ => []
  | _ => []

def acceptedCalls (d : Deployment outside) (world : outside) (labels : List (NetworkLabel outside)) :
    List (List BusinessLogicRegistryData) :=
  collect (nextNetwork d) (acceptedBy d) (freshNetwork world) labels

def naming (key : Bytes32) (calls : List (List BusinessLogicRegistryData)) :
    List (List BusinessLogicRegistryData) :=
  calls.filter fun call => call.any fun data => data.businessLogicKey = key

theorem registered_by_accepted (key : Bytes32) (label : NetworkLabel outside) :
    registeredBy d key network label = (acceptedBy d network label).flatMap (addressesFor key) := by
  cases label with
  | resolver msg called =>
      cases called with
      | registerBusinessLogics businessLogics =>
          cases outcome : (ResolverCall.registerBusinessLogics businessLogics).perform d.facets msg
              network.resolver with
          | ok pair =>
              simp only [registeredBy, acceptedBy, outcome]
              exact (List.flatMap_singleton ..).symm
          | error failure =>
              simp only [registeredBy, acceptedBy, outcome]
              rfl
      | _ => rfl
  | _ => rfl

theorem registrations_eq (world : outside) (labels : List (NetworkLabel outside)) (key : Bytes32) :
    registrations d world labels key =
      (acceptedCalls d world labels).flatMap (addressesFor key) := by
  have same : registeredBy d key =
      fun network label => (acceptedBy d network label).flatMap (addressesFor key) := by
    funext network label
    exact registered_by_accepted key label
  rw [registrations, same, collect_flat_map, acceptedCalls]

theorem accepted_by_distinct (network : Network outside) (label : NetworkLabel outside) :
    ∀ call ∈ acceptedBy d network label,
      (call.map BusinessLogicRegistryData.businessLogicKey).Nodup := by
  intro call accepted
  cases label with
  | resolver msg called =>
      cases called with
      | registerBusinessLogics businessLogics =>
          cases outcome : (ResolverCall.registerBusinessLogics businessLogics).perform d.facets msg
              network.resolver with
          | error failure =>
              simp only [acceptedBy, outcome] at accepted
              exact absurd accepted List.not_mem_nil
          | ok pair =>
              obtain ⟨_, after⟩ := pair
              simp only [acceptedBy, outcome] at accepted
              rw [List.mem_singleton.mp accepted]
              cases resolver_effect outcome with
              | registered valid _ _ _ => exact valid.distinct
              | blacklisted kind _ _ _ => cases kind
              | created creation _ => cases creation
      | _ => exact absurd accepted List.not_mem_nil
  | _ => exact absurd accepted List.not_mem_nil

theorem accepted_calls_distinct (world : outside) (labels : List (NetworkLabel outside)) :
    ∀ call ∈ acceptedCalls d world labels,
      (call.map BusinessLogicRegistryData.businessLogicKey).Nodup :=
  forall_mem_collect _ accepted_by_distinct (freshNetwork world) labels

/-! ## One address for every call that names the facet -/

theorem addresses_for_missing (missing : ∀ data ∈ businessLogics, data.businessLogicKey ≠ key) :
    addressesFor key businessLogics = [] := by
  rw [addressesFor, List.map_eq_nil_iff, List.filter_eq_nil_iff]
  intro data listed
  simpa using missing data listed

theorem addresses_for_listed
    (distinct : (businessLogics.map BusinessLogicRegistryData.businessLogicKey).Nodup)
    (listed : data ∈ businessLogics) :
    addressesFor data.businessLogicKey businessLogics = [data.businessLogicAddress] := by
  induction businessLogics with
  | nil => exact absurd listed List.not_mem_nil
  | cons first rest ih =>
      rw [List.map_cons, List.nodup_cons] at distinct
      rcases List.mem_cons.mp listed with isFirst | later
      · subst isFirst
        have others : addressesFor data.businessLogicKey rest = [] := by
          apply addresses_for_missing
          intro other member same
          exact distinct.1 (List.mem_map.mpr ⟨other, member, same⟩)
        rw [addressesFor, List.filter_cons_of_pos (by simp), List.map_cons, ← addressesFor, others]
      · have different : first.businessLogicKey ≠ data.businessLogicKey := by
          intro same
          exact distinct.1 (List.mem_map.mpr ⟨data, later, same.symm⟩)
        rw [addressesFor, List.filter_cons_of_neg (by simpa using different), ← addressesFor,
          ih distinct.2 later]

variable {calls : List (List BusinessLogicRegistryData)} {call : List BusinessLogicRegistryData}

theorem given_length
    (distinct : ∀ call ∈ calls, (call.map BusinessLogicRegistryData.businessLogicKey).Nodup)
    (key : Bytes32) : (calls.flatMap (addressesFor key)).length = (naming key calls).length := by
  induction calls with
  | nil => rfl
  | cons first rest ih =>
      have later := ih fun call member => distinct call (List.mem_cons_of_mem _ member)
      rw [List.flatMap_cons, List.length_append, later]
      by_cases named : ∃ data ∈ first, data.businessLogicKey = key
      · obtain ⟨data, listed, rfl⟩ := named
        rw [addresses_for_listed (distinct first (List.mem_cons_self ..)) listed, naming, naming,
          List.filter_cons_of_pos (by simpa using ⟨data, listed, rfl⟩), List.length_singleton,
          List.length_cons, Nat.add_comm]
      · have missing : ∀ data ∈ first, data.businessLogicKey ≠ key :=
          fun data listed same => named ⟨data, listed, same⟩
        rw [addresses_for_missing missing, naming, naming,
          List.filter_cons_of_neg (by simpa using missing), List.length_nil, Nat.zero_add]

theorem given_at
    (distinct : ∀ call ∈ calls, (call.map BusinessLogicRegistryData.businessLogicKey).Nodup)
    {position : Nat} (at_ : (naming data.businessLogicKey calls)[position]? = some call)
    (listed : data ∈ call) :
    (calls.flatMap (addressesFor data.businessLogicKey))[position]? =
      some data.businessLogicAddress := by
  induction calls generalizing position with
  | nil => cases at_
  | cons first rest ih =>
      have later := fun call member => distinct call (List.mem_cons_of_mem first member)
      rw [List.flatMap_cons]
      by_cases named : ∃ other ∈ first, other.businessLogicKey = data.businessLogicKey
      · obtain ⟨other, otherListed, same⟩ := named
        rw [naming, List.filter_cons_of_pos (by simpa using ⟨other, otherListed, same⟩)] at at_
        have single := addresses_for_listed (distinct first (List.mem_cons_self ..)) otherListed
        rw [same] at single
        cases position with
        | zero =>
            cases at_
            rw [addresses_for_listed (distinct _ (List.mem_cons_self ..)) listed]
            rfl
        | succ position =>
            rw [single, List.singleton_append, List.getElem?_cons_succ]
            exact ih later at_
      · have missing : ∀ other ∈ first, other.businessLogicKey ≠ data.businessLogicKey :=
          fun other otherListed same => named ⟨other, otherListed, same⟩
        rw [naming, List.filter_cons_of_neg (by simpa using missing)] at at_
        rw [addresses_for_missing missing]
        exact ih later at_

/-! ## What the functions answer -/

variable {state : ResolverState} {version : Nat} {address : Address}

structure Resolves (state : ResolverState) (key : Bytes32) (version : Nat) (address : Address) :
    Prop where
  resolved : ∀ msg, BusinessLogicResolver.resolveBusinessLogicByVersion key version msg state =
    .ok (address, state)
  status : ∀ msg, BusinessLogicResolver.getVersionStatus key version msg state =
    .ok (.activated, state)
  stored : (state.businessLogicResolver.businessLogics key)[version - 1]? =
    some ⟨⟨version, .activated⟩, address⟩

theorem resolves_of_address (holds : Recorded state.businessLogicResolver) (positive : 1 ≤ version)
    (at_ : (addresses state.businessLogicResolver key)[version - 1]? = some address) :
    Resolves state key version address := by
  have within : version ≤ state.businessLogicResolver.latestVersionByFacetId key := by
    have inside := (List.getElem?_eq_some_iff.mp at_).1
    rw [addresses_length holds] at inside
    omega
  have valid : ¬ (version = 0 ∨
      version > state.businessLogicResolver.latestVersionByFacetId key) := by omega
  constructor
  · intro msg
    have found : resolvedAddress state.businessLogicResolver ⟨key, version⟩ = some address := by
      rw [resolved_of_exists holds.indexed ⟨positive, within⟩]
      exact at_
    have unchecked := (resolve_ok msg ⟨key, version⟩).mpr ⟨found, rfl⟩
    simp only [BusinessLogicResolver.resolveBusinessLogicByVersion, onRegistry, checkValidVersion,
      Tx.focus_ok, Tx.bind_ok, Tx.get_ok, Tx.require_ok]
    exact ⟨_, ⟨(), _, ⟨_, _, ⟨rfl, rfl⟩, valid, rfl⟩, unchecked⟩, rfl⟩
  · intro msg
    have activated := holds.status key version positive within
    simp only [BusinessLogicResolver.getVersionStatus, onRegistry, checkValidVersion,
      BusinessLogicResolverWrapper.getVersionStatus, Tx.focus_ok, Tx.bind_ok, Tx.get_ok,
      Tx.require_ok, Tx.pure_ok]
    exact ⟨_, ⟨(), _, ⟨_, _, ⟨rfl, rfl⟩, valid, rfl⟩, _, _, ⟨rfl, rfl⟩, activated, rfl⟩, rfl⟩
  · rw [holds.stored, recorded, List.getElem?_mapIdx, at_]
    have position : version - 1 + 1 = version := by omega
    rw [Option.map_some, position]

theorem latest_of_resolves (holds : Recorded state.businessLogicResolver) (msg : Msg)
    (positive : 1 ≤ state.businessLogicResolver.latestVersionByFacetId key)
    (at_ : (addresses state.businessLogicResolver key)[
      state.businessLogicResolver.latestVersionByFacetId key - 1]? = some address) :
    BusinessLogicResolver.resolveLatestBusinessLogic key msg state = .ok (address, state) := by
  have found : resolvedAddress state.businessLogicResolver
      ⟨key, state.businessLogicResolver.latestVersionByFacetId key⟩ = some address := by
    rw [resolved_of_exists holds.indexed ⟨positive, Nat.le_refl _⟩]
    exact at_
  have unchecked := (resolve_ok msg ⟨key, _⟩).mpr ⟨found, rfl⟩
  simp only [BusinessLogicResolver.resolveLatestBusinessLogic, onRegistry,
    BusinessLogicResolverWrapper.resolveLatestBusinessLogic, Tx.focus_ok, Tx.bind_ok, Tx.get_ok]
  exact ⟨_, ⟨_, _, ⟨rfl, rfl⟩, unchecked⟩, rfl⟩

theorem refused_of_missing (msg : Msg)
    (missing : version = 0 ∨ version > state.businessLogicResolver.latestVersionByFacetId key) :
    BusinessLogicResolver.resolveBusinessLogicByVersion key version msg state =
        .error (.businessLogicVersionDoesNotExist version) ∧
      BusinessLogicResolver.getVersionStatus key version msg state =
        .error (.businessLogicVersionDoesNotExist version) := by
  have refused : checkValidVersion key version msg state.businessLogicResolver =
      .error (.businessLogicVersionDoesNotExist version) := by
    simp only [checkValidVersion, Tx.bind_error, Tx.get_ok, Tx.require_error]
    exact Or.inr ⟨_, _, ⟨rfl, rfl⟩, not_not_intro missing, trivial⟩
  constructor
  · rw [BusinessLogicResolver.resolveBusinessLogicByVersion, onRegistry, Tx.focus_error,
      Tx.bind_error]
    exact Or.inl refused
  · rw [BusinessLogicResolver.getVersionStatus, onRegistry, Tx.focus_error, Tx.bind_error]
    exact Or.inl refused

/-! ## The history -/

abbrev resolverAfter (d : Deployment outside) (world : outside)
    (labels : List (NetworkLabel outside)) : ResolverState :=
  (run (nextNetwork d) (freshNetwork world) labels).resolver

/-- What the registry answers after a run; what it resolves, it resolves after
everything that follows. -/
structure History (d : Deployment outside) (world : outside) (labels : List (NetworkLabel outside))
    (registry : BusinessLogicResolverDataStorage) : Prop where
  counted : ∀ key, registry.latestVersionByFacetId key =
    (naming key (acceptedCalls d world labels)).length
  stored : ∀ key, (registry.businessLogics key).length =
    (naming key (acceptedCalls d world labels)).length
  resolved : ∀ rest version call, 1 ≤ version → ∀ data ∈ call,
    (naming data.businessLogicKey (acceptedCalls d world labels))[version - 1]? = some call →
    Resolves (resolverAfter d world (labels ++ rest)) data.businessLogicKey version
      data.businessLogicAddress
  latest : ∀ msg call, ∀ data ∈ call,
    (naming data.businessLogicKey (acceptedCalls d world labels)).getLast? = some call →
    BusinessLogicResolver.resolveLatestBusinessLogic data.businessLogicKey msg
        (resolverAfter d world labels) =
      .ok (data.businessLogicAddress, resolverAfter d world labels)
  refused : ∀ msg key version,
    (version = 0 ∨ version > (naming key (acceptedCalls d world labels)).length) →
    BusinessLogicResolver.resolveBusinessLogicByVersion key version msg
          (resolverAfter d world labels) =
        .error (.businessLogicVersionDoesNotExist version) ∧
      BusinessLogicResolver.getVersionStatus key version msg (resolverAfter d world labels) =
        .error (.businessLogicVersionDoesNotExist version)
  once : registry.activeBusinessLogics.Nodup
  active : ∀ key, key ∈ registry.activeBusinessLogics ↔
    ∃ call ∈ acceptedCalls d world labels, ∃ data ∈ call, data.businessLogicKey = key
  advanced : ∀ msg businessLogics after,
    (ResolverCall.registerBusinessLogics businessLogics).perform d.facets msg
        (resolverAfter d world labels) = .ok ((), after) →
    ∀ key ∈ registry.activeBusinessLogics,
      after.businessLogicResolver.latestVersionByFacetId key =
        registry.latestVersionByFacetId key + 1

theorem recorded_after (world : outside) (labels : List (NetworkLabel outside)) :
    Recorded (resolverAfter d world labels).businessLogicResolver :=
  recorded_along_run world labels

/-- The addresses of a facet are those the calls gave that name it. -/
theorem addresses_after (world : outside) (labels : List (NetworkLabel outside)) (key : Bytes32) :
    addresses (resolverAfter d world labels).businessLogicResolver key =
      (acceptedCalls d world labels).flatMap (addressesFor key) := by
  rw [← registrations_eq]
  exact addresses_along_run d world labels key

theorem latest_after (world : outside) (labels : List (NetworkLabel outside)) (key : Bytes32) :
    (resolverAfter d world labels).businessLogicResolver.latestVersionByFacetId key =
      (naming key (acceptedCalls d world labels)).length := by
  rw [← addresses_length (recorded_after world labels), addresses_after]
  exact given_length (accepted_calls_distinct world labels) key

theorem naming_later (world : outside) (labels rest : List (NetworkLabel outside))
    {position : Nat} (at_ : (naming key (acceptedCalls d world labels))[position]? = some call) :
    (naming key (acceptedCalls d world (labels ++ rest)))[position]? = some call := by
  have inside := (List.getElem?_eq_some_iff.mp at_).1
  rw [acceptedCalls, collect_append, ← acceptedCalls, naming, List.filter_append, ← naming,
    List.getElem?_append_left inside]
  exact at_

theorem resolves_after (world : outside) (labels : List (NetworkLabel outside))
    (positive : 1 ≤ version) (listed : data ∈ call)
    (at_ : (naming data.businessLogicKey (acceptedCalls d world labels))[version - 1]? =
      some call) :
    Resolves (resolverAfter d world labels) data.businessLogicKey version
      data.businessLogicAddress := by
  apply resolves_of_address (recorded_after world labels) positive
  rw [addresses_after]
  exact given_at (accepted_calls_distinct world labels) at_ listed

theorem active_iff_latest (holds : Recorded registry) :
    key ∈ registry.activeBusinessLogics ↔ 1 ≤ registry.latestVersionByFacetId key := by
  rw [← holds.listed, holds.indexed.active]

theorem active_after (world : outside) (labels : List (NetworkLabel outside)) :
    key ∈ (resolverAfter d world labels).businessLogicResolver.activeBusinessLogics ↔
      ∃ call ∈ acceptedCalls d world labels, ∃ data ∈ call, data.businessLogicKey = key := by
  rw [active_iff_latest (recorded_after world labels), latest_after]
  rw [Nat.one_le_iff_ne_zero, ← Nat.pos_iff_ne_zero, List.length_pos_iff_exists_mem]
  simp [naming, List.mem_filter]

/-- An accepted call names every active key once. -/
theorem advanced_by_registration {before after : ResolverState} {msg : Msg}
    {facets : StaticFunctionSelectors} (holds : Recorded before.businessLogicResolver)
    (committed : (ResolverCall.registerBusinessLogics businessLogics).perform facets msg before =
      .ok ((), after))
    (active : key ∈ before.businessLogicResolver.activeBusinessLogics) :
    after.businessLogicResolver.latestVersionByFacetId key =
      before.businessLogicResolver.latestVersionByFacetId key + 1 := by
  cases resolver_effect committed with
  | blacklisted kind _ _ _ => cases kind
  | created creation _ => cases creation
  | registered valid _ _ frame =>
      have complete := (valid_keys_iff_complete holds).mp valid
      obtain ⟨data, listed, rfl⟩ := List.mem_map.mp (complete.complete key active)
      rw [frame, ← addresses_length holds,
        ← addresses_length (recorded_registrations businessLogics holds),
        (registry_after_registrations businessLogics holds.indexed).2,
        addresses_for_listed complete.distinct listed, List.length_append, List.length_singleton]

/-- For every run of the network. -/
theorem registry_history (d : Deployment outside) (world : outside)
    (labels : List (NetworkLabel outside)) :
    History d world labels (resolverAfter d world labels).businessLogicResolver where
  counted := latest_after world labels
  stored key := by
    rw [← (recorded_after world labels).indexed.counted]
    exact latest_after world labels key
  resolved rest version call positive data listed at_ :=
    resolves_after world (labels ++ rest) positive listed (naming_later world labels rest at_)
  latest msg call data listed last := by
    rw [List.getLast?_eq_getElem?, ← latest_after] at last
    have inside := (List.getElem?_eq_some_iff.mp last).1
    rw [← latest_after] at inside
    apply latest_of_resolves (recorded_after world labels) msg (by omega)
    rw [addresses_after]
    exact given_at (accepted_calls_distinct world labels) last listed
  refused msg key version missing := by
    apply refused_of_missing
    rw [latest_after]
    exact missing
  once := (recorded_after world labels).distinct
  active _ := active_after world labels
  advanced msg businessLogics after committed _ active :=
    advanced_by_registration (recorded_after world labels) committed active

end StablecoinStudio.Resolver.Registrations
