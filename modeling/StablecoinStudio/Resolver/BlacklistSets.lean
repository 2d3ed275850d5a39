import Mathlib.Data.Finset.Basic
import StablecoinStudio.Resolver.Blacklist

/-!
# The blacklists as sets

Whatever is called on the resolver, the blacklist of a configuration is the set
that its additions and removals lead to, and its array and its indexes stay in
step. No call of an administrator on a blacklist fails.
-/

namespace StablecoinStudio.Resolver.BlacklistSets

open StablecoinStudio.Core.Common
open StablecoinStudio.Core.Constants
open StablecoinStudio.Core.EnumerableSetBytes4
open StablecoinStudio.Foundation.Runs
open StablecoinStudio.Foundation.Transaction
open StablecoinStudio.Resolver.Blacklist
open StablecoinStudio.Resolver.BusinessLogicResolver
open StablecoinStudio.Resolver.BusinessLogicResolverWrapper
open StablecoinStudio.Resolver.DiamondCutManagerWrapper
open StablecoinStudio.Resolver.ProxyNetworks
open StablecoinStudio.Resolver.ResolverEffects
open StablecoinStudio.Resolver.VersionTables
open StablecoinStudio.Token.Roles

set_option autoImplicit false

/-! ## Additions and removals -/

inductive Change where
  | added (selector : Bytes4)
  | removed (selector : Bytes4)

def Change.apply (selectors : Finset Bytes4) : Change → Finset Bytes4
  | .added selector => insert selector selectors
  | .removed selector => selectors.erase selector

def asked (configurationId : Bytes32) : ResolverCall → List Change
  | .addSelectorsToBlacklist other selectors =>
      if configurationId = other then selectors.map .added else []
  | .removeSelectorsFromBlacklist other selectors =>
      if configurationId = other then selectors.map .removed else []
  | _ => []

def granted (configurationId : Bytes32) (state : ResolverState) (label : Msg × ResolverCall) :
    List Change :=
  if RolesStorage.hasRole state.roles adminRole label.1.sender = true then
    asked configurationId label.2
  else []

def next (facets : StaticFunctionSelectors) (state : ResolverState) (label : Msg × ResolverCall) :
    ResolverState :=
  resolverNext facets state label.1 label.2

def blacklist (state : ResolverState) (configurationId : Bytes32) : Bytes4Set :=
  state.businessLogicResolver.selectorBlacklist configurationId

def members (set : Bytes4Set) : Finset Bytes4 := set.values.toFinset

/-! ## One selector -/

section Selector

variable {environment : Msg} {before after : Bytes4Set} {selector : Bytes4} {result : Bool}

theorem mem_members (indexed : Indexed before) :
    selector ∈ members before ↔ contains before selector = true := by
  rw [members, List.mem_toFinset, contains_iff_mem indexed]

theorem members_add (indexed : Indexed before)
    (committed : add selector environment before = .ok (result, after)) :
    members after = (Change.added selector).apply (members before) := by
  ext other
  rw [Change.apply, Finset.mem_insert, mem_members indexed,
    mem_members (indexed_add indexed committed), contains_add committed, Bool.or_eq_true,
    decide_eq_true_eq, or_comm]

theorem members_remove (indexed : Indexed before)
    (committed : remove selector environment before = .ok (result, after)) :
    members after = (Change.removed selector).apply (members before) := by
  obtain ⟨kept, contained⟩ := remove_effect indexed committed
  ext other
  rw [Change.apply, Finset.mem_erase, mem_members indexed, mem_members kept, contained,
    Bool.and_eq_true, decide_eq_true_eq, and_comm]

def Makes (change : Change) (call : SetTx Bool) : Prop :=
  ∀ environment set, Indexed set → ∃ result after,
    call environment set = .ok (result, after) ∧ Indexed after ∧
      members after = change.apply (members set)

theorem makes_added (selector : Bytes4) : Makes (.added selector) (add selector) := by
  intro environment set indexed
  obtain ⟨after, committed⟩ := add_commits environment set selector
  exact ⟨_, after, committed, indexed_add indexed committed, members_add indexed committed⟩

theorem makes_removed (selector : Bytes4) : Makes (.removed selector) (remove selector) := by
  intro environment set indexed
  obtain ⟨after, committed⟩ := remove_commits environment selector indexed
  exact ⟨_, after, committed, (remove_effect indexed committed).1,
    members_remove indexed committed⟩

end Selector

/-! ## A list of selectors -/

/-- The blacklists stay in order, and one of them is changed so. -/
structure ChangedBy (configurationId : Bytes32) (changes : List Change)
    (before after : BusinessLogicResolverDataStorage) : Prop where
  indexed : BlacklistsIndexed after
  members : ∀ other, members (after.selectorBlacklist other) =
    run Change.apply (members (before.selectorBlacklist other))
      (if other = configurationId then changes else [])

section Registry

variable {registry : BusinessLogicResolverDataStorage}

theorem round_makes (environment : Msg) (configurationId : Bytes32) {change : Change}
    {call : SetTx Bool} (makes : Makes change call) (indexed : BlacklistsIndexed registry) :
    ∃ after, (do let _ ← onBlacklist configurationId call : RegistryTx Unit) environment registry =
        .ok ((), after) ∧ ChangedBy configurationId [change] registry after := by
  obtain ⟨result, set, called, kept, changed⟩ := makes environment _ (indexed configurationId)
  refine ⟨_, Tx.dropped_ok.mpr ⟨result, Tx.focus_ok.mpr ⟨set, called, rfl⟩⟩, ?_, ?_⟩
  · intro other
    show Indexed (Function.update registry.selectorBlacklist configurationId set other)
    by_cases own : other = configurationId
    · rw [own, Function.update_self]
      exact kept
    · rw [Function.update_of_ne own]
      exact indexed other
  · intro other
    show members (Function.update registry.selectorBlacklist configurationId set other) = _
    by_cases own : other = configurationId
    · rw [own, if_pos rfl, Function.update_self, changed]
      rfl
    · rw [if_neg own, Function.update_of_ne own]
      rfl

theorem loop_makes (environment : Msg) (configurationId : Bytes32) {change : Bytes4 → Change}
    {call : Bytes4 → SetTx Bool}
    (makes : ∀ selector, Makes (change selector) (call selector)) (selectors : List Bytes4)
    (indexed : BlacklistsIndexed registry) :
    ∃ after,
      (selectors.forM fun selector => do let _ ← onBlacklist configurationId (call selector))
          environment registry = .ok ((), after) ∧
        ChangedBy configurationId (selectors.map change) registry after := by
  induction selectors generalizing registry with
  | nil =>
    refine ⟨registry, Tx.for_each_nil_ok.mpr rfl, indexed, ?_⟩
    intro other
    rw [List.map_nil, ite_self]
    rfl
  | cons selector rest ih =>
    obtain ⟨middle, first, start⟩ :=
      round_makes environment configurationId (makes selector) indexed
    obtain ⟨after, others, done⟩ := ih start.indexed
    refine ⟨after, Tx.for_each_cons_ok.mpr ⟨middle, first, others⟩, done.indexed, ?_⟩
    intro other
    rw [done.members, start.members, ← run_append]
    by_cases own : other = configurationId
    · rw [if_pos own, if_pos own, if_pos own]
      rfl
    · rw [if_neg own, if_neg own, if_neg own]
      rfl

end Registry

/-! ## One call -/

section Call

variable {facets : StaticFunctionSelectors} {msg : Msg} {before after : ResolverState}
  {called : ResolverCall} {configurationId : Bytes32}

theorem changes_of_blacklisting (facets : StaticFunctionSelectors) (kind : called.onBlacklist = true)
    (admin : RolesStorage.hasRole before.roles adminRole msg.sender = true)
    (indexed : BlacklistsIndexed before.businessLogicResolver) :
    ∃ after, called.perform facets msg before = .ok ((), after) ∧
      BlacklistsIndexed after.businessLogicResolver ∧
      ∀ configurationId, members (blacklist after configurationId) =
        run Change.apply (members (blacklist before configurationId))
          (asked configurationId called) := by
  cases called with
  | addSelectorsToBlacklist other selectors =>
      obtain ⟨registry, looped, done⟩ := loop_makes msg other makes_added selectors indexed
      refine ⟨{ before with businessLogicResolver := registry }, ?_, done.indexed, done.members⟩
      simp only [ResolverCall.perform, BusinessLogicResolver.addSelectorsToBlacklist, onRegistry,
        Tx.bind_ok, only_role_ok, Tx.focus_ok]
      exact ⟨(), _, ⟨admin, rfl⟩, registry, looped, rfl⟩
  | removeSelectorsFromBlacklist other selectors =>
      obtain ⟨registry, looped, done⟩ := loop_makes msg other makes_removed selectors indexed
      refine ⟨{ before with businessLogicResolver := registry }, ?_, done.indexed, done.members⟩
      simp only [ResolverCall.perform, BusinessLogicResolver.removeSelectorsFromBlacklist,
        onRegistry, Tx.bind_ok, only_role_ok, Tx.focus_ok]
      exact ⟨(), _, ⟨admin, rfl⟩, registry, looped, rfl⟩
  | _ => cases kind

theorem asked_nothing (kind : called.onBlacklist = false) : asked configurationId called = [] := by
  cases called with
  | addSelectorsToBlacklist _ _ | removeSelectorsFromBlacklist _ _ => cases kind
  | _ => rfl

theorem admin_of_blacklisting (kind : called.onBlacklist = true)
    (committed : called.perform facets msg before = .ok ((), after)) :
    RolesStorage.hasRole before.roles adminRole msg.sender = true := by
  cases resolver_effect committed with
  | blacklisted _ admin _ _ => exact admin
  | created creation _ =>
      rw [creation_of_blacklist kind] at creation
      cases creation
  | _ => cases kind

/-- A call makes the changes that it is granted, and no others. -/
theorem changes_of_step (label : Msg × ResolverCall)
    (indexed : BlacklistsIndexed before.businessLogicResolver) :
    BlacklistsIndexed (next facets before label).businessLogicResolver ∧
      ∀ configurationId, members (blacklist (next facets before label) configurationId) =
        run Change.apply (members (blacklist before configurationId))
          (granted configurationId before label) := by
  obtain ⟨msg, called⟩ := label
  cases kind : called.onBlacklist with
  | true =>
    by_cases admin : RolesStorage.hasRole before.roles adminRole msg.sender = true
    · obtain ⟨after, committed, kept, changed⟩ :=
        changes_of_blacklisting facets kind admin indexed
      have reached : next facets before (msg, called) = after :=
        resolver_next_of_committed committed
      rw [reached]
      refine ⟨kept, ?_⟩
      intro configurationId
      rw [changed, granted, if_pos admin]
    · have refused : next facets before (msg, called) = before := by
        cases outcome : called.perform facets msg before with
        | ok pair => exact absurd (admin_of_blacklisting kind outcome) admin
        | error failure => exact resolver_next_of_reverted outcome
      rw [refused]
      refine ⟨indexed, ?_⟩
      intro configurationId
      rw [granted, if_neg admin]
      rfl
  | false =>
    have same : (next facets before (msg, called)).businessLogicResolver.selectorBlacklist =
        before.businessLogicResolver.selectorBlacklist := by
      cases outcome : called.perform facets msg before with
      | ok pair =>
        have reached : next facets before (msg, called) = pair.2 :=
          resolver_next_of_committed outcome
        rw [reached]
        exact same_blacklists_of_committed kind outcome
      | error failure =>
        have reached : next facets before (msg, called) = before :=
          resolver_next_of_reverted outcome
        rw [reached]
    constructor
    · intro configurationId
      rw [same]
      exact indexed configurationId
    · intro configurationId
      rw [granted, asked_nothing kind, ite_self, blacklist, same]
      rfl

end Call

/-! ## Every run -/

/-- The blacklist is the set of the selectors, and it answers so. -/
structure IsSetOf (set : Bytes4Set) (selectors : Finset Bytes4) : Prop where
  consistent : Consistent set
  contains_iff : ∀ selector, contains set selector = true ↔ selector ∈ selectors
  add_answers : ∀ selector, AnswersChange (add selector) set
  remove_answers : ∀ selector, AnswersChange (remove selector) set

def grantedAlong (facets : StaticFunctionSelectors) (configurationId : Bytes32)
    (labels : List (Msg × ResolverCall)) : List Change :=
  collect (next facets) (granted configurationId) ResolverState.created labels

section Runs

variable (facets : StaticFunctionSelectors) (labels : List (Msg × ResolverCall))

theorem blacklists_indexed_along_run :
    BlacklistsIndexed (run (next facets) ResolverState.created labels).businessLogicResolver := by
  apply invariant_of_every_step (next facets)
    (fun state => BlacklistsIndexed state.businessLogicResolver)
  · intro state label indexed
    exact (changes_of_step label indexed).1
  · intro configurationId
    exact indexed_empty

theorem members_along_run (configurationId : Bytes32) :
    members (blacklist (run (next facets) ResolverState.created labels) configurationId) =
      run Change.apply ∅ (grantedAlong facets configurationId labels) := by
  have matched : Along (next facets)
      (Simulates (next facets) Change.apply (fun _ _ => True)
        (fun state => members (blacklist state configurationId)) (granted configurationId))
      ResolverState.created labels := by
    apply (along_iff_at_cuts (next facets)).mpr
    intro earlier label rest _
    have indexed := blacklists_indexed_along_run facets earlier
    exact ⟨along_of_forall_mem _ (fun _ _ _ => trivial) _,
      (changes_of_step label indexed).2 configurationId⟩
  exact (simulation_of_steps (next facets) Change.apply matched).2

theorem blacklists_are_sets (configurationId : Bytes32) :
    IsSetOf (blacklist (run (next facets) ResolverState.created labels) configurationId)
      (run Change.apply ∅ (grantedAlong facets configurationId labels)) := by
  have indexed := blacklists_indexed_along_run facets labels configurationId
  rw [← members_along_run]
  exact
    { consistent := consistent_of_indexed indexed
      contains_iff := fun selector => (mem_members indexed).symm
      add_answers := fun selector => answers_add _
      remove_answers := fun selector => answers_remove indexed }

end Runs

end StablecoinStudio.Resolver.BlacklistSets
