import StablecoinStudio.Token.RoleRegistry

/-!
# The zero account and the roles

Every function that grants a role checks the account it is given. The loops of
the constructor and of the initializer do not: they grant whatever the initial
roles name.
-/

namespace StablecoinStudio.Token.ZeroAccount

open StablecoinStudio.Core.Common
open StablecoinStudio.Core.Constants
open StablecoinStudio.Foundation.Runs
open StablecoinStudio.Foundation.Transaction
open StablecoinStudio.Resolver
open StablecoinStudio.Token.Administration
open StablecoinStudio.Token.NestedCalls
open StablecoinStudio.Token.PermissionRules
open StablecoinStudio.Token.ProxyState
open StablecoinStudio.Token.ReferenceLedger
open StablecoinStudio.Token.RoleRegistry
open StablecoinStudio.Token.Roles
open StablecoinStudio.Token.Services
open StablecoinStudio.Token.SupplierAdmin
open StablecoinStudio.Token.System

set_option autoImplicit false

def ZeroFree (roles : RolesStorage) : Prop :=
  ∀ role, RolesStorage.hasRole roles role 0 = false

variable {roles later : RolesStorage} {role : Bytes32} {account : Address}

theorem zero_free_empty : ZeroFree RolesStorage.empty := fun _ => rfl

theorem zero_free_grant :
    ZeroFree (RolesStorage.grantRole roles role account) ↔ ZeroFree roles ∧ account ≠ 0 := by
  simp only [ZeroFree, RolesStorage.has_role_grant, Bool.or_eq_false_iff]
  constructor
  · intro free
    refine ⟨fun other => (free other).1, ?_⟩
    rintro rfl
    simpa using (free role).2
  · intro free other
    obtain ⟨without, isSet⟩ := free
    refine ⟨without other, ?_⟩
    rw [Bool.and_eq_false_iff, decide_eq_false_iff_not, decide_eq_false_iff_not]
    exact Or.inr (Ne.symm isSet)

theorem zero_free_revoke (free : ZeroFree roles)
    (revoked : RolesStorage.revokeRole roles role account = .ok later) : ZeroFree later := by
  intro other
  rw [RolesStorage.has_role_revoke revoked, free other]
  rfl

variable {world : Type} {p : Platform world} {msg : Msg} {before after : State world}

def NamesAccounts (initialRoles : List RolesStruct) : Prop :=
  ∀ entry ∈ initialRoles, entry.account ≠ 0

/-- A loop over initial roles lets the zero account in exactly when an entry
names it. -/
theorem zero_free_after_loop {initialRoles : List RolesStruct} {result : PUnit}
    (assigned : (initialRoles.forM fun entry =>
      (RolesStorageWrapper.grantRole entry.role entry.account : FacetTx world Unit)) msg before =
        .ok (result, after)) :
    ZeroFree after.roles ↔ ZeroFree before.roles ∧ NamesAccounts initialRoles := by
  induction initialRoles generalizing before with
  | nil =>
      obtain rfl := Tx.for_each_nil_ok.mp assigned
      simp [NamesAccounts]
  | cons entry rest ih =>
      obtain ⟨middle, first, later⟩ := Tx.for_each_cons_ok.mp assigned
      have granted := RolesStorageWrapper.grant_role_ok.mp first
      rw [ih later, ← granted, zero_free_grant]
      simp only [NamesAccounts, List.forall_mem_cons, and_assoc]

theorem roles_after_cashin {amount : Uint256} {result : Unit}
    (granted : RoleManagementFacet.grantCashin account amount msg before = .ok (result, after)) :
    after.roles = RolesStorage.grantRole before.roles cashinRole account := by
  unfold RoleManagementFacet.grantCashin at granted
  split at granted
  · exact (Tx.revert_ok.mp granted).elim
  · split at granted
    · rw [← SupplierAdminStorageWrapper.grant_unlimited_supplier_role_ok.mp granted]
    · obtain ⟨_, rfl⟩ := SupplierAdminStorageWrapper.grant_supplier_role_ok.mp granted
      rfl

/-- The cash-in role and the administrator are checked, the other roles are not. -/
theorem zero_free_prepared {init : InitializeStruct} {token : Address} {prepared : State world}
    (first : Prepared p msg init before token prepared) :
    ZeroFree prepared.roles ↔ ZeroFree before.roles ∧ NamesAccounts init.roles := by
  obtain ⟨granted, granting, _, _, rfl⟩ := first.created
  obtain ⟨_, looped, assigned, rest⟩ := Tx.bind_ok.mp granting
  have listed := zero_free_after_loop assigned
  have administrator {middle : State world}
      (last : RolesStorageWrapper.grantRole adminRole init.originalSender msg middle =
        .ok ((), granted)) : ZeroFree granted.roles ↔ ZeroFree middle.roles := by
    rw [← RolesStorageWrapper.grant_role_ok.mp last, zero_free_grant, and_iff_left first.sender]
  by_cases isSet : init.cashinRole.account ≠ 0
  · simp only [if_pos isSet] at rest
    obtain ⟨_, middle, cashed, last⟩ := Tx.bind_ok.mp rest
    rw [administrator last, roles_after_cashin cashed, zero_free_grant, and_iff_left isSet, listed]
  · simp only [if_neg isSet] at rest
    rw [administrator rest, listed]

/-! ## Runs -/

def StaysZeroFree (before after : State world) : Prop :=
  ZeroFree before.roles → ZeroFree after.roles

instance : Std.Refl (@StaysZeroFree world) := ⟨fun _ => id⟩

instance : IsTrans (State world) StaysZeroFree := ⟨fun _ _ _ start rest free => rest (start free)⟩

theorem stays_of_same (same : after.roles = before.roles) : StaysZeroFree before after := by
  intro free
  rw [same]
  exact free

theorem stays_by_writes : KeptByWrites (fun account => account ≠ 0) (@StaysZeroFree world) where
  guarded _ isSet := isSet
  grant role account isSet := by
    intro environment before result after committed
    rw [← RolesStorageWrapper.grant_role_ok.mp committed]
    intro free
    exact zero_free_grant.mpr ⟨free, isSet⟩
  revoke role account := by
    intro environment before result after committed
    obtain ⟨roles, revoked, rfl⟩ := RolesStorageWrapper.revoke_role_ok.mp committed
    intro free
    exact zero_free_revoke free revoked
  allowance supplier amount := by
    intro environment before result after committed
    rw [← SupplierAdminStorageWrapper.set_allowance_ok.mp committed]
    exact stays_of_same rfl
  unlimited supplier flag := by
    intro environment before result after committed
    rw [← SupplierAdminStorageWrapper.set_unlimited_ok.mp committed]
    exact stays_of_same rfl

/-- An initialize call that commits has initial roles that name accounts. -/
def Names (platform : Platform world) (state : State world) : Label world → Prop
  | .call msg (.initialize_ init) =>
      succeeds platform state msg (.initialize_ init) = true → NamesAccounts init.roles
  | _ => True

theorem stays_by_initialization (sends : SendsKeep StaysZeroFree p) {init : InitializeStruct}
    {token : Address} (names : NamesAccounts init.roles)
    (committed : HederaTokenManagerFacet.initialize_ p init msg before = .ok (token, after)) :
    StaysZeroFree before after := by
  obtain ⟨prepared, refunded, first, refunding, rfl⟩ := initialize_ok.mp committed
  obtain ⟨granted, granting, _, _, shape⟩ := first.created
  intro free
  have grants : StaysZeroFree _ granted :=
    grant_initial_roles_respects stays_by_writes names first.sender _ _ _ _ granting
  have freePrepared : ZeroFree prepared.roles := by
    rw [shape]
    exact grants free
  have freeRefunded : StaysZeroFree prepared refunded := refund_keeps sends refunding
  exact freeRefunded freePrepared

theorem succeeds_of_initialized {init : InitializeStruct} {token : Address}
    (committed : HederaTokenManagerFacet.initialize_ p init msg before = .ok (token, after)) :
    succeeds p before msg (.initialize_ init) = true := by
  have performed : (Call.initialize_ init).perform p msg before = .ok ((), after) :=
    discard_ok.mpr ⟨token, committed⟩
  rw [succeeds_iff, next_of_committed performed]
  exact performed

theorem stays_along_run (p : Platform world) (receivers : Receivers world (Label world)) (depth : Nat)
    (reacts : ReactsBy next Names p receivers) (start : State world) (labels : List (Label world))
    (names : Along (next (withReceivers next p receivers depth))
      (Names (withReceivers next p receivers depth)) start labels) :
    StaysZeroFree start (run (next (withReceivers next p receivers depth)) start labels) := by
  apply run_keeps_at_depth StaysZeroFree _ _ reacts depth start labels names
  · intro _ _ state paid _
    exact stays_of_same rfl
  · intro depth sends state taken named
    apply kept_by_next (fun _ _ same => stays_of_same same.roles) stays_by_writes
    · intro init token msg after isInitialize committed
      subst isInitialize
      exact stays_by_initialization sends (named (succeeds_of_initialized committed)) committed
    · exact sends

/-- The zero account holds no role, and an initialized proxy has an
administrator who is somebody. -/
structure ZeroHoldsNothing (state : State world) : Prop where
  free : ZeroFree state.roles
  administered : state.initialized hederaTokenManagerResolverKey = true →
    ∃ account, account ≠ 0 ∧ RolesStorage.hasRole state.roles adminRole account = true

theorem assign_roles_of_constructor {resolver : Address} {configurationId : Bytes32}
    {version : Nat} {initialRoles : List RolesStruct} {world_ : world}
    (constructed : ResolverProxy.initialize_ p resolver configurationId version initialRoles msg
      (ResolverProxy.created world_) = .ok ((), after)) :
    ZeroFree after.roles ↔ NamesAccounts initialRoles := by
  obtain ⟨_, assigned⟩ := ResolverProxy.constructed_ok constructed
  have exact_ := zero_free_after_loop assigned
  rw [exact_, and_iff_right]
  exact zero_free_empty

/-- The zero account stays out of the constructor's roles, and of the roles that
an initialize call grants, exactly when these name accounts; and it stays out
of every run in which they do. -/
structure KeptOutWhenNamed (p : Platform world) (receivers : Receivers world (Label world)) (depth : Nat)
    (initialRoles : List RolesStruct) (start : State world) : Prop where
  deployed : ZeroFree start.roles ↔ NamesAccounts initialRoles
  initialized : ∀ msg init before token prepared,
    Prepared (withReceivers next p receivers depth) msg init before token prepared →
    (ZeroFree prepared.roles ↔ ZeroFree before.roles ∧ NamesAccounts init.roles)
  reached : NamesAccounts initialRoles → ReactsBy next Names p receivers →
    ∀ labels, Along (next (withReceivers next p receivers depth))
        (Names (withReceivers next p receivers depth)) start labels →
      ZeroHoldsNothing (run (next (withReceivers next p receivers depth)) start labels)

theorem zero_kept_out (p : Platform world) (receivers : Receivers world (Label world)) (depth : Nat)
    (world_ : world) (resolver : Address) (configurationId : Bytes32) (version : Nat)
    (initialRoles : List RolesStruct) (creator : Msg) (start : State world)
    (constructed : ResolverProxy.initialize_ p resolver configurationId version initialRoles
      creator (ResolverProxy.created world_) = .ok ((), start)) :
    KeptOutWhenNamed p receivers depth initialRoles start := by
  have deployed := assign_roles_of_constructor constructed
  refine ⟨deployed, fun _ _ _ _ _ first => zero_free_prepared first, ?_⟩
  intro named reacts labels names
  have free := stays_along_run p receivers depth reacts start labels names (deployed.mpr named)
  have sound := (kept_along_run p receivers depth start labels (sound_constructed constructed)).1
  refine ⟨free, ?_⟩
  intro initialized
  obtain ⟨account, held⟩ := (staffed_iff sound.registered).mp (sound.administered initialized)
  refine ⟨account, ?_, held⟩
  rintro rfl
  rw [free adminRole] at held
  cases held

theorem zero_kept_out_of_sample :
    KeptOutWhenNamed (reference 1) sampleReceivers 1 [⟨adminRole, 4⟩] sampleConstructed :=
  zero_kept_out (reference 1) sampleReceivers 1 (holderLedger 0) 5 6 1 [⟨adminRole, 4⟩]
    (sampleMsg 4 0) sampleConstructed rfl

/-- A deployment whose only administrator is the zero account. -/
theorem zero_becomes_administrator :
    ¬ ∀ (initialRoles : List RolesStruct) (start : State Ledger),
      ResolverProxy.initialize_ (reference 1) 5 6 1 initialRoles (sampleMsg 4 0)
          (ResolverProxy.created (holderLedger 0)) = .ok ((), start) →
        ∀ labels, ZeroHoldsNothing
          (run (next (withReceivers next (reference 1) sampleReceivers 1)) start labels) := by
  intro law
  have broken := (law [⟨adminRole, 0⟩] _ rfl []).free adminRole
  exact absurd broken (by decide)

end StablecoinStudio.Token.ZeroAccount
