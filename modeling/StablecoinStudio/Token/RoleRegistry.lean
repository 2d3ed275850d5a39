import StablecoinStudio.Foundation.Positions
import StablecoinStudio.Resolver.ResolverProxy
import StablecoinStudio.Token.NestedCalls
import StablecoinStudio.Token.ReferenceLedger

/-!
# The role registry

For every role the mapping of its members and the list of its accounts stand
for the same set, whatever is granted and revoked and in whatever order. The
last administrator stays.
-/

namespace StablecoinStudio.Token.RoleRegistry

open StablecoinStudio.Core.Common
open StablecoinStudio.Core.Constants
open StablecoinStudio.Foundation.EnumerableSets
open StablecoinStudio.Foundation.Positions
open StablecoinStudio.Foundation.Runs
open StablecoinStudio.Foundation.Transaction
open StablecoinStudio.Resolver
open StablecoinStudio.Token.Administration
open StablecoinStudio.Token.NestedCalls
open StablecoinStudio.Token.PermissionRules
open StablecoinStudio.Token.ProxyState
open StablecoinStudio.Token.Roles
open StablecoinStudio.Token.Services
open StablecoinStudio.Token.SupplierAdmin
open StablecoinStudio.Token.System

set_option autoImplicit false

/-! ## One role -/

def position (data : RoleData) (account : Address) : Option Nat :=
  if (data.members account).active then some (data.members account).pos else none

def Registered (data : RoleData) : Prop := Positioned data.accounts (position data)

variable {data remaining : RoleData} {account other : Address} {place : Nat}

theorem position_some :
    position data account = some place ↔
      (data.members account).active = true ∧ (data.members account).pos = place := by
  unfold position
  by_cases active : (data.members account).active = true
  · simp [active]
  · simp [active]

theorem active_iff : (data.members account).active = true ↔ position data account ≠ none := by
  unfold position
  by_cases active : (data.members account).active = true
  · simp [active]
  · simp [active]

theorem position_update (members : Address → MemberData) (accounts : List Address)
    (changed : MemberData) (later : List Address) :
    position ⟨Function.update members account changed, later⟩ =
      Function.update (position ⟨members, accounts⟩) account
        (if changed.active then some changed.pos else none) := by
  funext other
  by_cases own : other = account
  · subst own
    simp [position]
  · simp [position, own]

theorem registered_push (registered : Registered data)
    (absent : (data.members account).active = false) :
    Registered
      { members := Function.update data.members account ⟨true, data.accounts.length⟩
        accounts := data.accounts ++ [account] } := by
  have free : position data account = none := by simp [position, absent]
  have pushed := registered.push free
  rw [Registered, position_update data.members data.accounts]
  exact pushed

/-- Swap and pop: what `removeAccount` commits to for a member. -/
theorem remove_account_ok (registered : Registered data)
    (member : position data account = some place) :
    ∃ last, data.accounts.getLast? = some last ∧ ∃ remaining,
      RolesStorage.removeAccount data account = .ok remaining ∧
        remaining.accounts = swapRemove data.accounts place ∧
        position remaining =
          Function.update (Function.update (position data) last (some place)) account none := by
  have held := (registered place account).mpr member
  have inside : place < data.accounts.length := (List.getElem?_eq_some_iff.mp held).1
  have nonEmpty : data.accounts.length ≠ 0 := by omega
  obtain ⟨last, final⟩ : ∃ last, data.accounts.getLast? = some last := by
    rw [← Option.isSome_iff_exists, List.getLast?_isSome]
    rintro none_
    simp [none_] at held
  have lastPlace := registered.last_place final
  have lastHeld := (registered _ _).mpr lastPlace
  obtain ⟨lastActive, lastPos⟩ := position_some.mp lastPlace
  obtain ⟨_, rfl⟩ := position_some.mp member
  have found : data.accounts.getD (data.accounts.length - 1) 0 = last := by
    rw [List.getD_eq_getElem?_getD, lastHeld, Option.getD_some]
  refine ⟨last, final, ?_⟩
  unfold RolesStorage.removeAccount
  rw [if_neg nonEmpty]
  simp only [found, swapRemove, final]
  by_cases earlier : (data.members account).pos < data.accounts.length - 1
  · simp only [if_pos earlier]
    refine ⟨_, rfl, rfl, ?_⟩
    rw [position_update _ data.accounts, position_update data.members data.accounts]
    simp [lastActive]
  · -- the account is the last one itself
    have atEnd : (data.members account).pos = data.accounts.length - 1 := by omega
    have same : last = account := by
      rw [atEnd] at held
      exact Option.some.inj (lastHeld.symm.trans held)
    subst same
    simp only [if_neg earlier]
    refine ⟨_, rfl, ?_, ?_⟩
    · rw [atEnd, set_last final]
    · rw [position_update data.members data.accounts]
      simp

/-! ## All roles -/

def RolesRegistered (roles : RolesStorage) : Prop := ∀ role, Registered (roles role)

def Staffed (roles : RolesStorage) (role : Bytes32) : Prop := (roles role).accounts ≠ []

variable {roles later : RolesStorage} {role otherRole : Bytes32}

theorem roles_registered_empty : RolesRegistered RolesStorage.empty := fun _ => Positioned.empty

theorem mem_accounts_iff (registered : RolesRegistered roles) :
    account ∈ (roles role).accounts ↔ RolesStorage.hasRole roles role account = true := by
  rw [(registered role).mem_iff, RolesStorage.hasRole, active_iff]

theorem staffed_iff (registered : RolesRegistered roles) :
    Staffed roles role ↔ ∃ account, RolesStorage.hasRole roles role account = true := by
  constructor
  · intro staffed
    obtain ⟨account, member⟩ := List.exists_mem_of_ne_nil _ staffed
    exact ⟨account, (mem_accounts_iff registered).mp member⟩
  · intro held
    obtain ⟨account, has⟩ := held
    exact List.ne_nil_of_mem ((mem_accounts_iff registered).mpr has)

theorem roles_registered_update (registered : RolesRegistered roles) (changed : Registered data) :
    RolesRegistered (Function.update roles role data) := by
  intro other
  by_cases own : other = role
  · subst own
    rw [Function.update_self]
    exact changed
  · rw [Function.update_of_ne own]
    exact registered other

theorem grant_registered (registered : RolesRegistered roles) :
    RolesRegistered (RolesStorage.grantRole roles role account) := by
  unfold RolesStorage.grantRole
  split
  · exact registered
  · next missing =>
      apply roles_registered_update registered
      apply registered_push (registered role)
      simpa [RolesStorage.hasRole] using missing

theorem grant_staffed (staffed : Staffed roles otherRole) :
    Staffed (RolesStorage.grantRole roles role account) otherRole := by
  unfold RolesStorage.grantRole
  split
  · exact staffed
  · by_cases own : otherRole = role
    · subst own
      simp [Staffed]
    · rw [Staffed, Function.update_of_ne own]
      exact staffed

theorem staffed_of_grant (registered : RolesRegistered roles) :
    Staffed (RolesStorage.grantRole roles role account) role := by
  apply (staffed_iff (grant_registered registered)).mpr
  refine ⟨account, ?_⟩
  simp [RolesStorage.has_role_grant]

theorem revoke_registered (registered : RolesRegistered roles)
    (revoked : RolesStorage.revokeRole roles role account = .ok later) :
    RolesRegistered later ∧ (Staffed roles adminRole → Staffed later adminRole) := by
  unfold RolesStorage.revokeRole at revoked
  split at revoked
  · next held =>
      obtain ⟨place, member⟩ := Option.ne_none_iff_exists'.mp (active_iff.mp held)
      obtain ⟨last, final, remaining, removed, accounts, positions⟩ :=
        remove_account_ok (registered role) member
      simp only [removed] at revoked
      split at revoked
      · cases revoked
      · next some_ =>
          cases revoked
          constructor
          · apply roles_registered_update registered
            rw [Registered, accounts, positions]
            exact (registered role).swap_remove member final
          · intro _
            rw [Staffed, ← List.length_pos_iff]
            exact Nat.pos_of_ne_zero some_
  · cases revoked
    exact ⟨registered, id⟩

theorem grant_held (held : RolesStorage.hasRole roles role account = true) :
    RolesStorage.grantRole roles role account = roles := by
  rw [RolesStorage.grantRole, if_pos held]

theorem revoke_not_held (missing : RolesStorage.hasRole roles role account = false) :
    RolesStorage.revokeRole roles role account = .ok roles := by
  rw [RolesStorage.revokeRole, if_neg (by simp [missing])]

/-! ## Every step -/

variable {world : Type} {p : Platform world} {msg : Msg} {before after : State world}

structure Sound (state : State world) : Prop where
  registered : RolesRegistered state.roles
  administered : state.initialized hederaTokenManagerResolverKey = true →
    Staffed state.roles adminRole

/-- A sound registry stays sound, and an administrator stays. -/
def Kept (before after : State world) : Prop :=
  Sound before → Sound after ∧ (Staffed before.roles adminRole → Staffed after.roles adminRole)

instance : Std.Refl (@Kept world) := ⟨fun _ sound => ⟨sound, id⟩⟩

instance : IsTrans (State world) Kept := by
  constructor
  intro first second third start rest sound
  obtain ⟨middle, staffed⟩ := start sound
  obtain ⟨final, stays⟩ := rest middle
  exact ⟨final, fun initial => stays (staffed initial)⟩

theorem kept_of_same (sameRoles : after.roles = before.roles)
    (sameFlags : after.initialized = before.initialized) : Kept before after := by
  intro sound
  refine ⟨⟨?_, ?_⟩, ?_⟩
  · rw [sameRoles]
    exact sound.registered
  · rw [sameRoles, sameFlags]
    exact sound.administered
  · rw [sameRoles]
    exact id

theorem kept_of_roles (changed : RolesRegistered before.roles → RolesRegistered later ∧
      (Staffed before.roles adminRole → Staffed later adminRole)) :
    Kept before { before with roles := later } := by
  intro sound
  obtain ⟨registered, staffed⟩ := changed sound.registered
  exact ⟨⟨registered, fun initialized => staffed (sound.administered initialized)⟩, staffed⟩

theorem kept_by_writes : KeptByWrites (fun _ => True) (@Kept world) where
  guarded _ _ := trivial
  grant role account _ := by
    intro environment before result after committed
    rw [← RolesStorageWrapper.grant_role_ok.mp committed]
    exact kept_of_roles fun registered => ⟨grant_registered registered, grant_staffed⟩
  revoke role account := by
    intro environment before result after committed
    obtain ⟨roles, revoked, rfl⟩ := RolesStorageWrapper.revoke_role_ok.mp committed
    exact kept_of_roles fun registered => revoke_registered registered revoked
  allowance supplier amount := by
    intro environment before result after committed
    rw [← SupplierAdminStorageWrapper.set_allowance_ok.mp committed]
    exact kept_of_same rfl rfl
  unlimited supplier flag := by
    intro environment before result after committed
    rw [← SupplierAdminStorageWrapper.set_unlimited_ok.mp committed]
    exact kept_of_same rfl rfl

/-- An administrator is appointed before the remaining HBAR is sent back. -/
theorem kept_by_initialization (sends : SendsKeep Kept p) {init : InitializeStruct}
    {token : Address}
    (committed : HederaTokenManagerFacet.initialize_ p init msg before = .ok (token, after)) :
    Kept before after := by
  obtain ⟨prepared, refunded, first, refunding, rfl⟩ := initialize_ok.mp committed
  obtain ⟨granted, granting, _, _, shape⟩ := first.created
  intro sound
  obtain ⟨middle, kept, last⟩ := initial_roles_ok kept_by_writes (fun _ _ => trivial) granting
  have started : Kept before
      { before with
        metadata := init.tokenMetadataURI
        reserve := ⟨init.reserveAddress, init.updatedAtThreshold⟩ } := kept_of_same rfl rfl
  obtain ⟨soundMiddle, _⟩ := trans_of Kept started kept sound
  have appointed := RolesStorageWrapper.grant_role_ok.mp last
  have staffed : Staffed prepared.roles adminRole := by
    rw [shape, ← appointed]
    exact staffed_of_grant soundMiddle.registered
  have soundPrepared : Sound prepared := by
    constructor
    · rw [shape, ← appointed]
      exact grant_registered soundMiddle.registered
    · intro _
      exact staffed
  obtain ⟨soundRefunded, stays⟩ := refund_keeps sends refunding soundPrepared
  exact ⟨⟨soundRefunded.registered, fun _ => stays staffed⟩, fun _ => stays staffed⟩

/-- Whatever is called, and whatever the receivers of HBAR call meanwhile. -/
theorem kept_along_run (p : Platform world) (receivers : Receivers world (Label world)) (depth : Nat)
    (start : State world) (labels : List (Label world)) :
    Kept start (run (next (withReceivers next p receivers depth)) start labels) := by
  have permitted : ReactsBy next (fun _ _ _ => True) p receivers :=
    fun _ _ _ state _ _ => along_of_forall_mem _ (fun _ _ _ => trivial) state
  apply run_keeps_at_depth Kept _ _ permitted depth start labels
    (along_of_forall_mem _ (fun _ _ _ => trivial) start)
  · intro _ _ state paid _
    exact kept_of_same rfl rfl
  · intro depth sends state taken _
    apply kept_by_next (fun _ _ same => kept_of_same same.roles same.initialized) kept_by_writes
    · intro init token msg after _ committed
      exact kept_by_initialization sends committed
    · exact sends

/-! ## Runs -/

/-- Mapping, list and views stand for one set of accounts in every role, and an
initialized proxy has an administrator. -/
structure RegistryAgrees (state : State world) : Prop where
  member : ∀ role account,
    ((state.roles role).members account).active = true ↔ account ∈ (state.roles role).accounts
  once : ∀ role, (state.roles role).accounts.Nodup
  placed : ∀ role account, account ∈ (state.roles role).accounts →
    (state.roles role).accounts[((state.roles role).members account).pos]? = some account
  views : ∀ msg role account,
    RolesFacet.hasRole role account msg state =
        .ok (decide (account ∈ (state.roles role).accounts), state) ∧
      RolesFacet.getAccountsWithRole role msg state = .ok ((state.roles role).accounts, state) ∧
      RolesFacet.getNumberOfAccountsWithRole role msg state =
        .ok ((state.roles role).accounts.length, state)
  administered : state.initialized hederaTokenManagerResolverKey = true →
    ∃ account, RolesStorage.hasRole state.roles adminRole account = true

theorem registry_agrees_of_sound {state : State world} (sound : Sound state) :
    RegistryAgrees state where
  member role account := (mem_accounts_iff sound.registered).symm
  once role := (sound.registered role).nodup
  placed role account listed := by
    have active := (mem_accounts_iff sound.registered).mp listed
    exact (sound.registered role _ _).mpr (position_some.mpr ⟨active, rfl⟩)
  views msg role account := by
    refine ⟨?_, rfl, rfl⟩
    have same : RolesStorage.hasRole state.roles role account =
        decide (account ∈ (state.roles role).accounts) := by
      rw [Bool.eq_iff_iff, decide_eq_true_eq]
      exact (mem_accounts_iff sound.registered).symm
    rw [← same]
    rfl
  administered initialized :=
    (staffed_iff sound.registered).mp (sound.administered initialized)

/-- Granting what is held and revoking what is not held change nothing. -/
structure NothingToDo (platform : Platform world) (state : State world) : Prop where
  grant : ∀ role account, RolesStorage.hasRole state.roles role account = true →
    RolesStorage.grantRole state.roles role account = state.roles ∧
      ∀ msg, next platform state (.call msg (.grantRole role account)) = state
  revoke : ∀ role account, RolesStorage.hasRole state.roles role account = false →
    RolesStorage.revokeRole state.roles role account = .ok state.roles ∧
      ∀ msg, next platform state (.call msg (.revokeRole role account)) = state
  supplierGrants : ∀ supplier,
    RolesStorage.hasRole state.roles cashinRole supplier = true →
    ∀ msg, (∀ amount, (next platform state (.call msg (.grantSupplierRole supplier amount))).roles =
        state.roles) ∧
      (next platform state (.call msg (.grantUnlimitedSupplierRole supplier))).roles = state.roles
  supplierRevocation : ∀ supplier,
    RolesStorage.hasRole state.roles cashinRole supplier = false →
    ∀ msg, (next platform state (.call msg (.revokeSupplierRole supplier))).roles = state.roles

theorem next_keeps {part : Type} (read : State world → part) {state : State world} {called : Call}
    (kept : ∀ later, called.perform p msg state = .ok ((), later) → read later = read state) :
    read (next p state (.call msg called)) = read state := by
  rcases next_cases p state msg called with committed | same
  · exact kept _ committed
  · rw [same]

theorem nothing_to_do (platform : Platform world) (state : State world) :
    NothingToDo platform state where
  grant role account held := by
    refine ⟨grant_held held, ?_⟩
    intro msg
    apply next_keeps id
    intro later committed
    obtain ⟨_, _, rfl⟩ := RolesFacet.grant_role_ok.mp committed
    rw [grant_held held]
  revoke role account missing := by
    refine ⟨revoke_not_held missing, ?_⟩
    intro msg
    apply next_keeps id
    intro later committed
    obtain ⟨_, roles, revoked, rfl⟩ := RolesFacet.revoke_role_ok.mp committed
    rw [revoke_not_held missing] at revoked
    cases revoked
    rfl
  supplierGrants supplier held msg := by
    constructor
    · intro amount
      apply next_keeps State.roles
      intro later committed
      simp only [Call.perform, SupplierAdminFacet.grantSupplierRole, Tx.bind_ok,
        RolesStorageWrapper.only_role_ok, Tx.require_ok,
        SupplierAdminStorageWrapper.grant_supplier_role_ok] at committed
      obtain ⟨_, _, ⟨_, rfl⟩, _, _, ⟨_, rfl⟩, _, _, ⟨_, rfl⟩, _, rfl⟩ := committed
      exact grant_held held
    · apply next_keeps State.roles
      intro later committed
      simp only [Call.perform, SupplierAdminFacet.grantUnlimitedSupplierRole, Tx.bind_ok,
        RolesStorageWrapper.only_role_ok, Tx.require_ok,
        SupplierAdminStorageWrapper.grant_unlimited_supplier_role_ok] at committed
      obtain ⟨_, _, ⟨_, rfl⟩, _, _, ⟨_, rfl⟩, rfl⟩ := committed
      exact grant_held held
  supplierRevocation supplier missing msg := by
    apply next_keeps State.roles
    intro later committed
    simp only [Call.perform, SupplierAdminFacet.revokeSupplierRole, Tx.bind_ok,
      RolesStorageWrapper.only_role_ok, Tx.require_ok,
      SupplierAdminStorageWrapper.revoke_supplier_role_ok] at committed
    obtain ⟨_, _, ⟨_, rfl⟩, _, _, ⟨_, rfl⟩, roles, revoked, rfl⟩ := committed
    rw [revoke_not_held missing] at revoked
    cases revoked
    rfl

theorem sound_created (world_ : world) : Sound (ResolverProxy.created world_) where
  registered := roles_registered_empty
  administered initialized := by cases initialized

theorem sound_constructed {resolver : Address} {configurationId : Bytes32} {version : Nat}
    {initialRoles : List RolesStruct} {world_ : world}
    (constructed : ResolverProxy.initialize_ p resolver configurationId version initialRoles msg
      (ResolverProxy.created world_) = .ok ((), after)) : Sound after := by
  obtain ⟨_, assigned⟩ := ResolverProxy.constructed_ok constructed
  have assigns : (ResolverProxy.assignRoles initialRoles).Respects (@Kept world) := by
    apply Tx.respects_for_each
    intro entry _
    exact kept_by_writes.grant entry.role entry.account trivial
  have stored := (sound_created world_)
  exact (assigns _ _ _ _ assigned ⟨stored.registered, stored.administered⟩).1

/-- For every proxy, every run of its calls and everything that the receivers
of HBAR call in between. -/
theorem registry_along_run (p : Platform world) (receivers : Receivers world (Label world)) (depth : Nat)
    (world_ : world) (resolver : Address) (configurationId : Bytes32) (version : Nat)
    (initialRoles : List RolesStruct) (creator : Msg) (start : State world)
    (constructed : ResolverProxy.initialize_ p resolver configurationId version initialRoles
      creator (ResolverProxy.created world_) = .ok ((), start))
    (labels : List (Label world)) :
    RegistryAgrees (run (next (withReceivers next p receivers depth)) start labels) ∧
      NothingToDo (withReceivers next p receivers depth)
        (run (next (withReceivers next p receivers depth)) start labels) := by
  have kept := kept_along_run p receivers depth start labels
  exact ⟨registry_agrees_of_sound (kept (sound_constructed constructed)).1,
    nothing_to_do _ _⟩

/-! ## A proxy to evaluate on -/

/-- A proxy that was constructed with account 4 as its administrator. -/
def sampleConstructed : State ReferenceLedger.Ledger :=
  { ResolverProxy.created (ReferenceLedger.holderLedger 0) with
    resolverProxy := ⟨5, 6, 1⟩
    roles := RolesStorage.grantRole RolesStorage.empty adminRole 4 }

/-- Account 7 burns and wipes for a while; nobody can revoke account 4. -/
def sampleRun : List (Label ReferenceLedger.Ledger) :=
  [.call (ReferenceLedger.sampleMsg 4 1) (.initialize_ ReferenceLedger.sampleInit),
    .call (ReferenceLedger.sampleMsg 4 2) (.grantRoles [burnRole, wipeRole, burnRole] [7, 8, 7] []),
    .call (ReferenceLedger.sampleMsg 4 3) (.revokeRoles [burnRole, wipeRole] [7, 7]),
    .call (ReferenceLedger.sampleMsg 4 4) (.revokeRoles [adminRole, burnRole] [4, 8])]

def sampleReceivers : Receivers ReferenceLedger.Ledger (Label ReferenceLedger.Ledger) where
  transfer _ _ ledger := some ledger
  reaction _ _ _ := some []

theorem registry_along_sample_run :
    RegistryAgrees (run (next (withReceivers next (ReferenceLedger.reference 1) sampleReceivers 1))
        sampleConstructed sampleRun) ∧
      NothingToDo (withReceivers next (ReferenceLedger.reference 1) sampleReceivers 1)
        (run (next (withReceivers next (ReferenceLedger.reference 1) sampleReceivers 1))
          sampleConstructed sampleRun) :=
  registry_along_run (ReferenceLedger.reference 1) sampleReceivers 1
    (ReferenceLedger.holderLedger 0) 5 6 1 [⟨adminRole, 4⟩] (ReferenceLedger.sampleMsg 4 0)
    sampleConstructed rfl sampleRun

/-- The revocations that would take the last administrator do nothing. -/
example :
    ((run (next (withReceivers next (ReferenceLedger.reference 1) sampleReceivers 1))
      sampleConstructed sampleRun).roles burnRole).accounts = [8] := by decide

end StablecoinStudio.Token.RoleRegistry
