import StablecoinStudio.Foundation.GuardedLoops
import StablecoinStudio.Token.RoleRegistry

/-!
# Granting and revoking in bulk

`grantRoles` and `revokeRoles` run through every role and, within it, through
every account. Repeated roles and accounts included, they succeed under a plain
condition, and what they leave does not depend on the order of the loops.
-/

namespace StablecoinStudio.Token.BulkRoles

open StablecoinStudio.Core.Common
open StablecoinStudio.Core.Constants
open StablecoinStudio.Foundation.CheckedInt
open StablecoinStudio.Foundation.GuardedLoops
open StablecoinStudio.Foundation.Runs
open StablecoinStudio.Foundation.Transaction
open StablecoinStudio.Resolver
open StablecoinStudio.Token.Administration
open StablecoinStudio.Token.NestedCalls
open StablecoinStudio.Token.ProxyState
open StablecoinStudio.Token.RoleRegistry
open StablecoinStudio.Token.Roles
open StablecoinStudio.Token.Services
open StablecoinStudio.Token.SupplierAdmin
open StablecoinStudio.Token.System

set_option autoImplicit false

variable {world : Type} {msg : Msg} {before after : State world} {roles : List Bytes32}
  {accounts : List Address} {amounts : List Uint256} {role : Bytes32} {account : Address}

/-- What a supplier may mint: without limit, or up to an allowance. -/
def mintable (state : State world) (supplier : Address) : Bool × Uint256 :=
  (state.supplierAdmin.unlimitedSupplierAllowances supplier,
    state.supplierAdmin.supplierAllowances supplier)

/-! ## Revoking -/

structure Revocation where
  role : Bytes32
  account : Address
deriving DecidableEq

def Accepted (state : State world) (taken : Revocation) : Prop :=
  ∃ later, RolesStorage.revokeRole state.roles taken.role taken.account = .ok later

def remaining (roles : RolesStorage) (taken : Revocation) : RolesStorage :=
  match RolesStorage.revokeRole roles taken.role taken.account with
  | .ok later => later
  | .error _ => roles

def revoked (state : State world) (taken : Revocation) : State world :=
  { state with
    roles := remaining state.roles taken
    supplierAdmin :=
      if taken.role = cashinRole then
        SupplierAdminStorage.setUnlimited
          (SupplierAdminStorage.setAllowance state.supplierAdmin taken.account 0) taken.account false
      else state.supplierAdmin }

def revocations (roles : List Bytes32) (accounts : List Address) : List Revocation :=
  roles.flatMap fun role => accounts.map (Revocation.mk role)

theorem mem_revocations : ⟨role, account⟩ ∈ revocations roles accounts ↔
    role ∈ roles ∧ account ∈ accounts := by
  simp [revocations]

theorem revoke_one_performs :
    Performs msg (RoleManagementFacet.revokeOne role account : FacetTx world Unit)
      (fun before => Accepted before ⟨role, account⟩) (fun before => revoked before ⟨role, account⟩) := by
  intro before after
  unfold RoleManagementFacet.revokeOne Accepted revoked remaining
  by_cases isCashin : role = cashinRole
  · subst isCashin
    rw [if_pos rfl, SupplierAdminStorageWrapper.revoke_supplier_role_ok]
    constructor
    · intro committed
      obtain ⟨later, outcome, rfl⟩ := committed
      exact ⟨⟨later, outcome⟩, by simp [outcome]⟩
    · intro described
      obtain ⟨⟨later, outcome⟩, rfl⟩ := described
      exact ⟨later, outcome, by simp [outcome]⟩
  · rw [if_neg isCashin, RolesStorageWrapper.revoke_role_ok]
    constructor
    · intro committed
      obtain ⟨later, outcome, rfl⟩ := committed
      exact ⟨⟨later, outcome⟩, by simp [outcome, isCashin]⟩
    · intro described
      obtain ⟨⟨later, outcome⟩, rfl⟩ := described
      exact ⟨later, outcome, by simp [outcome, isCashin]⟩

theorem only_role_then {rest : Unit → FacetTx world Unit} {role : Bytes32} :
    (RolesStorageWrapper.onlyRole role >>= rest) msg before = .ok ((), after) ↔
      RolesStorage.hasRole before.roles role msg.sender = true ∧
        rest () msg before = .ok ((), after) := by
  simp only [Tx.bind_ok, RolesStorageWrapper.only_role_ok]
  constructor
  · intro committed
    obtain ⟨_, _, ⟨admin, rfl⟩, later⟩ := committed
    exact ⟨admin, later⟩
  · intro described
    exact ⟨(), before, ⟨described.1, rfl⟩, described.2⟩

theorem revoke_roles_ok :
    RoleManagementFacet.revokeRoles roles accounts msg before = .ok ((), after) ↔
      RolesStorage.hasRole before.roles adminRole msg.sender = true ∧
        Along revoked Accepted before (revocations roles accounts) ∧
        after = run revoked before (revocations roles accounts) := by
  have loops : Performs msg
      (roles.forM fun role => accounts.forM fun account =>
        (RoleManagementFacet.revokeOne role account : FacetTx world Unit))
      (fun before => (∀ role ∈ roles, True) ∧
        Along revoked Accepted before (revocations roles accounts))
      (fun before => run revoked before (revocations roles accounts)) := by
    apply performs_for_each
    intro role _
    have round : Performs msg
        (accounts.forM fun account => (RoleManagementFacet.revokeOne role account :
          FacetTx world Unit)) _ _ := performs_loop fun account _ => revoke_one_performs
    intro before after
    rw [round before after]
    simp only [true_and]
  rw [RoleManagementFacet.revokeRoles, only_role_then, loops before after]
  simp only [implies_true, true_and]

section Registered

/-- In a registry that agrees a revocation is refused for one reason only: it
would take the last administrator. -/
theorem accepted_iff (registered : RolesRegistered before.roles) {taken : Revocation} :
    Accepted before taken ↔
      RolesStorage.hasRole before.roles taken.role taken.account = false ∨
        ∃ admin, RolesStorage.hasRole before.roles adminRole admin = true ∧
          (⟨adminRole, admin⟩ : Revocation) ≠ taken := by
  obtain ⟨role, account⟩ := taken
  unfold Accepted
  simp only
  cases held : RolesStorage.hasRole before.roles role account with
  | false => simp [revoke_not_held held]
  | true =>
      obtain ⟨place, member⟩ := Option.ne_none_iff_exists'.mp (active_iff.mp held)
      obtain ⟨last, final, data, removed, listed, positions⟩ :=
        remove_account_ok (registered role) member
      have kept : Registered data := by
        rw [Registered, listed, positions]
        exact (registered role).swap_remove member final
      have later : RolesRegistered (Function.update before.roles role data) :=
        roles_registered_update registered kept
      have unfolded : RolesStorage.revokeRole before.roles role account =
          if RolesStorage.getNumberOfAccountsWithRole (Function.update before.roles role data)
              adminRole = 0 then .error .noAdminsLeft
          else .ok (Function.update before.roles role data) := by
        rw [RolesStorage.revokeRole, if_pos held, removed]
      have staffed : RolesStorage.getNumberOfAccountsWithRole
            (Function.update before.roles role data) adminRole ≠ 0 ↔
          Staffed (Function.update before.roles role data) adminRole := by
        rw [RolesStorage.getNumberOfAccountsWithRole, Staffed, Ne, List.length_eq_zero_iff]
      have others : ∀ admin, RolesStorage.hasRole (Function.update before.roles role data)
            adminRole admin = true ↔
          RolesStorage.hasRole before.roles adminRole admin = true ∧
            (⟨adminRole, admin⟩ : Revocation) ≠ ⟨role, account⟩ := by
        intro admin
        by_cases sameRole : adminRole = role
        · subst sameRole
          rw [RolesStorage.hasRole, Function.update_self, RolesStorage.active_remove_account removed]
          simp [RolesStorage.hasRole, and_comm]
        · rw [RolesStorage.hasRole, Function.update_of_ne sameRole]
          simp [RolesStorage.hasRole, sameRole]
      rw [unfolded]
      simp only [Bool.true_eq_false, false_or]
      rw [← exists_congr others, ← staffed_iff later, ← staffed]
      split
      · next none_ => simp [none_]
      · next some_ => simp [some_]

theorem registered_by_revocation (registered : RolesRegistered before.roles) (taken : Revocation) :
    RolesRegistered (revoked before taken).roles := by
  unfold revoked remaining
  simp only
  cases outcome : RolesStorage.revokeRole before.roles taken.role taken.account with
  | ok later => exact (revoke_registered registered outcome).1
  | error failure => exact registered

theorem has_role_after_revocation {taken : Revocation} (accepted : Accepted before taken)
    (role : Bytes32) (account : Address) :
    RolesStorage.hasRole (revoked before taken).roles role account = true ↔
      RolesStorage.hasRole before.roles role account = true ∧ ⟨role, account⟩ ≠ taken := by
  obtain ⟨later, outcome⟩ := accepted
  obtain ⟨takenRole, takenAccount⟩ := taken
  have same : (revoked before ⟨takenRole, takenAccount⟩).roles = later := by
    simp only [revoked, remaining, outcome]
  rw [same, RolesStorage.has_role_revoke outcome]
  simp only [Bool.and_eq_true, Bool.not_eq_true', Bool.and_eq_false_iff, decide_eq_false_iff_not,
    Ne, Revocation.mk.injEq, not_and_or]

/-- A list of revocations goes through when it leaves an administrator. -/
theorem accepted_along_iff {taken : List Revocation} (registered : RolesRegistered before.roles)
    (administered : ∃ admin, RolesStorage.hasRole before.roles adminRole admin = true) :
    Along revoked Accepted before taken ↔
      ∃ admin, RolesStorage.hasRole before.roles adminRole admin = true ∧
        ⟨adminRole, admin⟩ ∉ taken := by
  induction taken generalizing before with
  | nil => simpa [Along] using administered
  | cons first rest ih =>
      have later := registered_by_revocation registered first
      constructor
      · intro accepted
        have now := accepted.1
        have left : ∃ admin, RolesStorage.hasRole (revoked before first).roles adminRole admin =
            true := by
          rcases (accepted_iff registered).mp now with missing | ⟨admin, held, other⟩
          · obtain ⟨admin, held⟩ := administered
            refine ⟨admin, (has_role_after_revocation now _ _).mpr ⟨held, ?_⟩⟩
            intro same
            rw [← same, held] at missing
            cases missing
          · exact ⟨admin, (has_role_after_revocation now _ _).mpr ⟨held, other⟩⟩
        obtain ⟨admin, held, absent⟩ := (ih later left).mp accepted.2
        obtain ⟨heldBefore, other⟩ := (has_role_after_revocation now _ _).mp held
        exact ⟨admin, heldBefore, by simp [other, absent]⟩
      · intro remains
        obtain ⟨admin, held, absent⟩ := remains
        obtain ⟨other, absentLater⟩ := List.ne_and_not_mem_of_not_mem_cons absent
        have now : Accepted before first := (accepted_iff registered).mpr (Or.inr ⟨admin, held, other⟩)
        have still := (has_role_after_revocation now adminRole admin).mpr ⟨held, other⟩
        exact ⟨now, (ih later ⟨admin, still⟩).mpr ⟨admin, still, absentLater⟩⟩

theorem has_role_after_revocations {taken : List Revocation}
    (accepted : Along revoked Accepted before taken) (role : Bytes32) (account : Address) :
    RolesStorage.hasRole (run revoked before taken).roles role account = true ↔
      RolesStorage.hasRole before.roles role account = true ∧ ⟨role, account⟩ ∉ taken := by
  induction taken generalizing before with
  | nil => simp
  | cons first rest ih =>
      rw [run_cons, ih accepted.2, has_role_after_revocation accepted.1, List.mem_cons, not_or,
        and_assoc]

theorem mintable_after_revocations (before : State world) (taken : List Revocation)
    (supplier : Address) :
    mintable (run revoked before taken) supplier =
      if ⟨cashinRole, supplier⟩ ∈ taken then (false, 0) else mintable before supplier := by
  induction taken using List.reverseRecOn with
  | nil => simp
  | append_singleton taken last ih =>
      obtain ⟨role, account⟩ := last
      rw [run_snoc]
      by_cases own : role = cashinRole ∧ supplier = account
      · obtain ⟨rfl, rfl⟩ := own
        simp [mintable, revoked, SupplierAdminStorage.setUnlimited,
          SupplierAdminStorage.setAllowance]
      · have kept : mintable (revoked (run revoked before taken) ⟨role, account⟩) supplier =
            mintable (run revoked before taken) supplier := by
          unfold mintable revoked
          split
          · next isCashin =>
              have other : supplier ≠ account := fun same => own ⟨isCashin, same⟩
              simp [SupplierAdminStorage.setUnlimited, SupplierAdminStorage.setAllowance, other]
          · rfl
        have absent : (⟨cashinRole, supplier⟩ : Revocation) ≠ ⟨role, account⟩ := by
          intro same
          simp only [Revocation.mk.injEq] at same
          exact own ⟨same.1.symm, same.2⟩
        rw [kept, ih]
        simp [absent]

theorem others_after_revocations (before : State world) (taken : List Revocation) :
    run revoked before taken =
      { before with
        roles := (run revoked before taken).roles
        supplierAdmin := (run revoked before taken).supplierAdmin } := by
  induction taken using List.reverseRecOn with
  | nil => rfl
  | append_singleton taken last ih =>
      rw [run_snoc]
      unfold revoked at ih ⊢
      rw [ih]

end Registered

structure BulkRevoked (roles : List Bytes32) (accounts : List Address) (before after : State world) :
    Prop where
  holders : ∀ role account, RolesStorage.hasRole after.roles role account = true ↔
    RolesStorage.hasRole before.roles role account = true ∧ ¬ (role ∈ roles ∧ account ∈ accounts)
  suppliers : ∀ supplier, mintable after supplier =
    if cashinRole ∈ roles ∧ supplier ∈ accounts then (false, 0) else mintable before supplier
  others : after =
    { before with roles := after.roles, supplierAdmin := after.supplierAdmin }

theorem revoke_roles_spec (registered : RolesRegistered before.roles) :
    ((∃ after, RoleManagementFacet.revokeRoles roles accounts msg before = .ok ((), after)) ↔
      RolesStorage.hasRole before.roles adminRole msg.sender = true ∧
        ∃ admin, RolesStorage.hasRole before.roles adminRole admin = true ∧
          ¬ (adminRole ∈ roles ∧ admin ∈ accounts)) ∧
      ∀ after, RoleManagementFacet.revokeRoles roles accounts msg before = .ok ((), after) →
        BulkRevoked roles accounts before after := by
  constructor
  · simp only [revoke_roles_ok, exists_and_left, and_true, exists_eq]
    refine and_congr_right fun admin => ?_
    rw [accepted_along_iff registered ⟨msg.sender, admin⟩]
    simp only [mem_revocations]
  · intro after committed
    obtain ⟨_, accepted, rfl⟩ := revoke_roles_ok.mp committed
    constructor
    · intro role account
      rw [has_role_after_revocations accepted, mem_revocations]
    · intro supplier
      rw [mintable_after_revocations]
      simp only [mem_revocations]
    · exact others_after_revocations before _

theorem registered_along_run (p : Platform world) (receivers : Receivers world (Label world))
    (depth : Nat) {world_ : world} {resolver : Address} {configurationId : Bytes32} {version : Nat}
    {initialRoles : List RolesStruct} {creator : Msg} {start : State world}
    (constructed : ResolverProxy.initialize_ p resolver configurationId version initialRoles
      creator (ResolverProxy.created world_) = .ok ((), start)) (labels : List (Label world)) :
    RolesRegistered (run (next (withReceivers next p receivers depth)) start labels).roles :=
  (kept_along_run p receivers depth start labels (sound_constructed constructed)).1.registered

/-- In every state a proxy reaches: revoking in bulk succeeds exactly when an
administrator asks and an administrator is left, and takes exactly the listed
roles from the listed accounts. -/
theorem revoke_roles_along_runs (p : Platform world) (receivers : Receivers world (Label world))
    (depth : Nat) (world_ : world) (resolver : Address) (configurationId : Bytes32) (version : Nat)
    (initialRoles : List RolesStruct) (creator : Msg) (start : State world)
    (constructed : ResolverProxy.initialize_ p resolver configurationId version initialRoles
      creator (ResolverProxy.created world_) = .ok ((), start))
    (labels : List (Label world)) (msg : Msg) (roles : List Bytes32) (accounts : List Address) :
    let state := run (next (withReceivers next p receivers depth)) start labels
    ((∃ after, RoleManagementFacet.revokeRoles roles accounts msg state = .ok ((), after)) ↔
      RolesStorage.hasRole state.roles adminRole msg.sender = true ∧
        ∃ admin, RolesStorage.hasRole state.roles adminRole admin = true ∧
          ¬ (adminRole ∈ roles ∧ admin ∈ accounts)) ∧
      ∀ after, RoleManagementFacet.revokeRoles roles accounts msg state = .ok ((), after) →
        BulkRevoked roles accounts state after :=
  revoke_roles_spec (registered_along_run p receivers depth constructed labels)

theorem sample_revoke_roles :
    let state := run (next (withReceivers next (ReferenceLedger.reference 1) sampleReceivers 1))
      sampleConstructed sampleRun
    ((∃ after, RoleManagementFacet.revokeRoles [adminRole, burnRole] [8, 8]
        (ReferenceLedger.sampleMsg 4 5) state = .ok ((), after)) ↔
      RolesStorage.hasRole state.roles adminRole 4 = true ∧
        ∃ admin, RolesStorage.hasRole state.roles adminRole admin = true ∧
          ¬ (adminRole ∈ [adminRole, burnRole] ∧ admin ∈ [8, 8])) ∧
      ∀ after, RoleManagementFacet.revokeRoles [adminRole, burnRole] [8, 8]
          (ReferenceLedger.sampleMsg 4 5) state = .ok ((), after) →
        BulkRevoked [adminRole, burnRole] [8, 8] state after :=
  revoke_roles_along_runs (ReferenceLedger.reference 1) sampleReceivers 1
    (ReferenceLedger.holderLedger 0) 5 6 1 [⟨adminRole, 4⟩] (ReferenceLedger.sampleMsg 4 0)
    sampleConstructed rfl sampleRun _ _ _

/-! ## Granting -/

inductive Grant where
  | plain (role : Bytes32) (account : Address)
  | cashin (account : Address) (amount : Uint256)

def Grant.pair : Grant → Bytes32 × Address
  | plain role account => (role, account)
  | cashin account _ => (cashinRole, account)

/-- An amount of zero is refused, and so is a limit for whoever has none. -/
def Grantable (state : State world) : Grant → Prop
  | .plain _ _ => True
  | .cashin account amount =>
      amount.toNat ≠ 0 ∧ (amount.toNat ≠ RoleManagementFacet.maxUint256 →
        state.supplierAdmin.unlimitedSupplierAllowances account = false)

/-- What an amount stands for: the largest one for no limit. -/
def allowanceOf (amount : Uint256) : Bool × Uint256 :=
  if amount.toNat = RoleManagementFacet.maxUint256 then (true, 0) else (false, amount)

def granted (state : State world) : Grant → State world
  | .plain role account =>
      { state with roles := RolesStorage.grantRole state.roles role account }
  | .cashin account amount =>
      { state with
        roles := RolesStorage.grantRole state.roles cashinRole account
        supplierAdmin :=
          if amount.toNat = RoleManagementFacet.maxUint256 then
            SupplierAdminStorage.setAllowance
              (SupplierAdminStorage.setUnlimited state.supplierAdmin account true) account 0
          else SupplierAdminStorage.setAllowance state.supplierAdmin account amount }

def grantsOf (accounts : List Address) (amounts : List Uint256) (role : Bytes32) : List Grant :=
  if role = cashinRole then (accounts.zip amounts).map fun entry => .cashin entry.1 entry.2
  else accounts.map (.plain role)

def grants (roles : List Bytes32) (accounts : List Address) (amounts : List Uint256) : List Grant :=
  roles.flatMap (grantsOf accounts amounts)

theorem grant_cashin_performs {amount : Uint256} :
    Performs msg (RoleManagementFacet.grantCashin account amount : FacetTx world Unit)
      (fun before => Grantable before (.cashin account amount))
      (fun before => granted before (.cashin account amount)) := by
  intro before after
  unfold RoleManagementFacet.grantCashin Grantable granted
  by_cases none_ : amount.toNat = 0
  · simp [none_]
  · rw [if_neg none_]
    by_cases all : amount.toNat = RoleManagementFacet.maxUint256
    · rw [if_pos all, SupplierAdminStorageWrapper.grant_unlimited_supplier_role_ok]
      simp only [all, ne_eq, not_true_eq_false, false_implies, and_true, if_true]
      constructor
      · intro same
        exact ⟨by decide, same.symm⟩
      · intro described
        exact described.2.symm
    · rw [if_neg all, SupplierAdminStorageWrapper.grant_supplier_role_ok]
      simp only [none_, all, ne_eq, not_false_eq_true, true_implies, true_and, if_false]
      constructor
      · intro committed
        exact ⟨committed.1, committed.2.symm⟩
      · intro described
        exact ⟨described.1, described.2.symm⟩

theorem grant_role_to_all_performs :
    Performs msg
      (RoleManagementFacet.grantRoleToAll role accounts amounts : FacetTx world Unit)
      (fun before => (role = cashinRole → accounts.length = amounts.length) ∧
        Along granted Grantable before (grantsOf accounts amounts role))
      (fun before => run granted before (grantsOf accounts amounts role)) := by
  unfold RoleManagementFacet.grantRoleToAll grantsOf
  by_cases isCashin : role = cashinRole
  · simp only [isCashin, if_true, true_implies]
    apply performs_after_require
    exact performs_loop fun entry _ => grant_cashin_performs
  · simp only [isCashin, if_false, false_implies, true_and]
    apply performs_loop
    intro account _ before after
    rw [RolesStorageWrapper.grant_role_ok]
    simp only [Grantable, granted, true_and, eq_comm]

theorem grant_roles_ok :
    RoleManagementFacet.grantRoles roles accounts amounts msg before = .ok ((), after) ↔
      RolesStorage.hasRole before.roles adminRole msg.sender = true ∧
        (∀ account ∈ accounts, account ≠ 0) ∧
        (cashinRole ∈ roles → accounts.length = amounts.length) ∧
        Along granted Grantable before (grants roles accounts amounts) ∧
        after = run granted before (grants roles accounts amounts) := by
  have each (role : Bytes32) (_ : role ∈ roles) :
      Performs msg (RoleManagementFacet.grantRoleToAll role accounts amounts : FacetTx world Unit)
        _ _ := grant_role_to_all_performs
  have loops := performs_for_each each
  have asked : (∀ role ∈ roles, role = cashinRole → accounts.length = amounts.length) ↔
      (cashinRole ∈ roles → accounts.length = amounts.length) := by
    constructor
    · intro each listed
      exact each _ listed rfl
    · intro whole role listed same
      exact whole (same ▸ listed)
  rw [RoleManagementFacet.grantRoles, only_role_then, Tx.bind_ok]
  simp only [addressesAreNotZero, Tx.for_each_require_ok]
  constructor
  · intro committed
    obtain ⟨admin, _, _, ⟨nonzero, rfl⟩, granting⟩ := committed
    obtain ⟨⟨lengths, along⟩, same⟩ := (loops before after).mp granting
    exact ⟨admin, nonzero, asked.mp lengths, along, same⟩
  · intro described
    obtain ⟨admin, nonzero, lengths, along, same⟩ := described
    exact ⟨admin, (), before, ⟨nonzero, rfl⟩,
      (loops before after).mpr ⟨⟨asked.mpr lengths, along⟩, same⟩⟩

theorem has_role_after_grants (before : State world) (taken : List Grant) (role : Bytes32)
    (account : Address) :
    RolesStorage.hasRole (run granted before taken).roles role account = true ↔
      RolesStorage.hasRole before.roles role account = true ∨
        (role, account) ∈ taken.map Grant.pair := by
  induction taken generalizing before with
  | nil => simp
  | cons first rest ih =>
      have now : RolesStorage.hasRole (granted before first).roles role account = true ↔
          RolesStorage.hasRole before.roles role account = true ∨ (role, account) = first.pair := by
        cases first with
        | plain grantedRole grantedAccount =>
            simp [granted, Grant.pair, RolesStorage.has_role_grant]
        | cashin grantedAccount amount =>
            simp [granted, Grant.pair, RolesStorage.has_role_grant]
      rw [run_cons, ih, now, List.map_cons, List.mem_cons, or_assoc]

theorem mem_grants (lengths : cashinRole ∈ roles → accounts.length = amounts.length) :
    (role, account) ∈ (grants roles accounts amounts).map Grant.pair ↔
      role ∈ roles ∧ account ∈ accounts := by
  have each : ∀ listed ∈ roles, (role, account) ∈ (grantsOf accounts amounts listed).map Grant.pair ↔
      role = listed ∧ account ∈ accounts := by
    intro listed member
    unfold grantsOf
    by_cases isCashin : listed = cashinRole
    · subst isCashin
      have firsts : (accounts.zip amounts).map Prod.fst = accounts :=
        List.map_fst_zip (Nat.le_of_eq (lengths member))
      have pairs : ((accounts.zip amounts).map fun entry => Grant.cashin entry.1 entry.2).map
          Grant.pair = accounts.map (Prod.mk cashinRole) := by
        conv_rhs => rw [← firsts]
        simp [Grant.pair, Function.comp_def]
      rw [if_pos rfl, pairs]
      simp [and_comm, eq_comm]
    · rw [if_neg isCashin]
      simp [Grant.pair, and_comm, eq_comm]
  rw [grants, List.map_flatMap, List.mem_flatMap]
  constructor
  · intro found
    obtain ⟨listed, member, pair⟩ := found
    obtain ⟨rfl, granted⟩ := (each listed member).mp pair
    exact ⟨member, granted⟩
  · intro found
    exact ⟨role, found.1, (each role found.1).mpr ⟨rfl, found.2⟩⟩

def Grant.amountFor (supplier : Address) : Grant → Option Uint256
  | plain _ _ => none
  | cashin account amount => if account = supplier then some amount else none

def lastAmount (supplier : Address) (taken : List Grant) : Option Uint256 :=
  (taken.filterMap (Grant.amountFor supplier)).getLast?

theorem last_amount_snoc {supplier : Address} {taken : List Grant} {last : Grant} :
    lastAmount supplier (taken ++ [last]) =
      (last.amountFor supplier).or (lastAmount supplier taken) := by
  rw [lastAmount, List.filterMap_append, List.getLast?_append]
  cases found : last.amountFor supplier with
  | none => simp [found, lastAmount]
  | some amount => simp [found]

/-- Repeated rounds of the cash-in role end like the last one. -/
theorem last_amount_grants {supplier : Address} :
    lastAmount supplier (grants roles accounts amounts) =
      if cashinRole ∈ roles then lastAmount supplier (grantsOf accounts amounts cashinRole)
      else none := by
  have other : ∀ role, role ≠ cashinRole →
      (grantsOf accounts amounts role).filterMap (Grant.amountFor supplier) = [] := by
    intro role different
    rw [grantsOf, if_neg different, List.filterMap_map, List.filterMap_eq_nil_iff]
    intro account _
    rfl
  unfold grants lastAmount
  induction roles with
  | nil => rfl
  | cons first rest ih =>
      rw [List.flatMap_cons, List.filterMap_append, List.getLast?_append, ih]
      by_cases isCashin : first = cashinRole
      · subst isCashin
        by_cases again : cashinRole ∈ rest
        · simp [again]
        · simp [again]
      · rw [other first isCashin]
        simp [Ne.symm isCashin]

theorem mintable_granted {taken : Grant} (accepted : Grantable before taken) (supplier : Address) :
    mintable (granted before taken) supplier =
      match taken.amountFor supplier with
      | none => mintable before supplier
      | some amount => allowanceOf amount := by
  cases taken with
  | plain role account => rfl
  | cashin account amount =>
      unfold mintable granted allowanceOf Grant.amountFor
      by_cases own : account = supplier
      · subst own
        by_cases all : amount.toNat = RoleManagementFacet.maxUint256
        · simp [all, SupplierAdminStorage.setUnlimited, SupplierAdminStorage.setAllowance]
        · have limited := accepted.2 all
          simp [all, limited, SupplierAdminStorage.setAllowance]
      · by_cases all : amount.toNat = RoleManagementFacet.maxUint256
        · simp [own, all, SupplierAdminStorage.setUnlimited, SupplierAdminStorage.setAllowance,
            Ne.symm own]
        · simp [own, all, SupplierAdminStorage.setAllowance, Ne.symm own]

theorem mintable_after_grants {taken : List Grant} (accepted : Along granted Grantable before taken)
    (supplier : Address) :
    mintable (run granted before taken) supplier =
      match lastAmount supplier taken with
      | none => mintable before supplier
      | some amount => allowanceOf amount := by
  induction taken using List.reverseRecOn with
  | nil => rfl
  | append_singleton taken last ih =>
      obtain ⟨earlier, now, _⟩ := (along_append granted).mp accepted
      rw [run_snoc, last_amount_snoc, mintable_granted now]
      cases last.amountFor supplier with
      | none =>
          rw [Option.none_or]
          exact ih earlier
      | some amount => rfl

theorem others_after_grants (before : State world) (taken : List Grant) :
    run granted before taken =
      { before with
        roles := (run granted before taken).roles
        supplierAdmin := (run granted before taken).supplierAdmin } := by
  induction taken using List.reverseRecOn with
  | nil => rfl
  | append_singleton taken last ih =>
      rw [run_snoc]
      cases last with
      | plain role account =>
          unfold granted at ih ⊢
          rw [ih]
      | cashin account amount =>
          unfold granted at ih ⊢
          rw [ih]

/-! ### Different roles and accounts -/

def Grant.supplier : Grant → Option Address
  | plain _ _ => none
  | cashin account _ => some account

def Grant.Apart (first later : Grant) : Prop :=
  ∀ supplier, first.supplier = some supplier →
    ∀ other, later.supplier = some other → supplier ≠ other

theorem grantable_granted (before : State world) (first later : Grant)
    (apart : Grant.Apart first later) :
    Grantable (granted before first) later ↔ Grantable before later := by
  cases later with
  | plain role account => exact Iff.rfl
  | cashin account amount =>
      cases first with
      | plain role other => exact Iff.rfl
      | cashin other given =>
          have different : account ≠ other := Ne.symm (apart other rfl account rfl)
          have kept : (granted before (.cashin other given)).supplierAdmin.unlimitedSupplierAllowances
              account = before.supplierAdmin.unlimitedSupplierAllowances account := by
            by_cases all : given.toNat = RoleManagementFacet.maxUint256
            · simp [granted, all, different, SupplierAdminStorage.setUnlimited,
                SupplierAdminStorage.setAllowance]
            · simp [granted, all, SupplierAdminStorage.setAllowance]
          rw [Grantable, Grantable, kept]

theorem suppliers_of_grants (distinct : roles.Nodup) :
    (grants roles accounts amounts).filterMap Grant.supplier =
      if cashinRole ∈ roles then (accounts.zip amounts).map Prod.fst else [] := by
  have ofRole : ∀ listed ∈ roles, (grantsOf accounts amounts listed).filterMap Grant.supplier =
      if listed = cashinRole then (accounts.zip amounts).map Prod.fst else [] := by
    intro listed _
    unfold grantsOf
    by_cases isCashin : listed = cashinRole
    · rw [if_pos isCashin, if_pos isCashin, List.filterMap_map]
      exact congrFun (List.filterMap_eq_map (f := Prod.fst)) _
    · rw [if_neg isCashin, if_neg isCashin, List.filterMap_map, List.filterMap_eq_nil_iff]
      intro account _
      rfl
  rw [grants, List.filterMap_flatMap, ← made_once distinct]
  exact List.flatMap_congr ofRole

/-- Where roles and accounts are listed once each, a grant depends on the state
before all of them. -/
theorem grants_accepted_iff (distinctRoles : roles.Nodup) (distinct : accounts.Nodup)
    (lengths : cashinRole ∈ roles → accounts.length = amounts.length) :
    Along granted Grantable before (grants roles accounts amounts) ↔
      (cashinRole ∈ roles → ∀ entry ∈ accounts.zip amounts,
        Grantable before (.cashin entry.1 entry.2)) := by
  have suppliers : ((grants roles accounts amounts).filterMap Grant.supplier).Nodup := by
    rw [suppliers_of_grants distinctRoles]
    split
    · next cashin =>
        rw [List.map_fst_zip (Nat.le_of_eq (lengths cashin))]
        exact distinct
    · exact List.nodup_nil
  have apart : (grants roles accounts amounts).Pairwise Grant.Apart :=
    List.pairwise_filterMap.mp suppliers
  rw [along_iff_of_apart grantable_granted apart]
  constructor
  · intro each cashin entry listed
    apply each
    refine List.mem_flatMap.mpr ⟨cashinRole, cashin, ?_⟩
    rw [grantsOf, if_pos rfl]
    exact List.mem_map_of_mem listed
  · intro listed grant member
    obtain ⟨role, inRoles, made⟩ := List.mem_flatMap.mp member
    unfold grantsOf at made
    split at made
    · next isCashin =>
        obtain ⟨entry, entered, rfl⟩ := List.mem_map.mp made
        exact listed (isCashin ▸ inRoles) entry entered
    · obtain ⟨account, _, rfl⟩ := List.mem_map.mp made
      trivial

/-! ### A grant in bulk -/

structure BulkGranted (roles : List Bytes32) (accounts : List Address) (amounts : List Uint256)
    (before after : State world) : Prop where
  holders : ∀ role account, RolesStorage.hasRole after.roles role account = true ↔
    RolesStorage.hasRole before.roles role account = true ∨ (role ∈ roles ∧ account ∈ accounts)
  /-- The last amount listed for a supplier counts. -/
  suppliers : ∀ supplier, mintable after supplier =
    match if cashinRole ∈ roles then lastAmount supplier (grantsOf accounts amounts cashinRole)
      else none with
    | none => mintable before supplier
    | some amount => allowanceOf amount
  others : after =
    { before with roles := after.roles, supplierAdmin := after.supplierAdmin }

/-- Granting in bulk succeeds exactly when an administrator asks, no account is
zero, the amounts are as many as the accounts, and no write is refused in its
turn; each account then has every listed role and what its last amount says. -/
theorem grant_roles_spec (msg : Msg) (before : State world) (roles : List Bytes32)
    (accounts : List Address) (amounts : List Uint256) :
    ((∃ after, RoleManagementFacet.grantRoles roles accounts amounts msg before = .ok ((), after)) ↔
      RolesStorage.hasRole before.roles adminRole msg.sender = true ∧
        (∀ account ∈ accounts, account ≠ 0) ∧
        (cashinRole ∈ roles → accounts.length = amounts.length) ∧
        Along granted Grantable before (grants roles accounts amounts)) ∧
      ∀ after, RoleManagementFacet.grantRoles roles accounts amounts msg before = .ok ((), after) →
        BulkGranted roles accounts amounts before after := by
  constructor
  · simp only [grant_roles_ok, exists_and_left, and_true, exists_eq]
  · intro after committed
    obtain ⟨_, _, lengths, accepted, rfl⟩ := grant_roles_ok.mp committed
    constructor
    · intro role account
      rw [has_role_after_grants, mem_grants lengths]
    · intro supplier
      rw [mintable_after_grants accepted, last_amount_grants]
    · exact others_after_grants before _

end StablecoinStudio.Token.BulkRoles
