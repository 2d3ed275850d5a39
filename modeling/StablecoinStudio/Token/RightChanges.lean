import StablecoinStudio.Token.SupplierRights
import StablecoinStudio.Token.System

/-!
# What the calls change in the minting rights

For every account, a committed call makes a list of changes to its minting
right: the facets simulate the rights of `SupplierRights`.
-/

namespace StablecoinStudio.Token.RightChanges

open StablecoinStudio.Core.Common
open StablecoinStudio.Core.Constants
open StablecoinStudio.Foundation.CheckedInt
open StablecoinStudio.Foundation.Runs
open StablecoinStudio.Foundation.Transaction
open StablecoinStudio.Token.Administration
open StablecoinStudio.Token.ProxyState
open StablecoinStudio.Token.Reserve
open StablecoinStudio.Token.Roles
open StablecoinStudio.Token.Services
open StablecoinStudio.Token.SupplierAdmin
open StablecoinStudio.Token.SupplierRights
open StablecoinStudio.Token.System
open StablecoinStudio.Token.Treasury

set_option autoImplicit false

variable {world : Type} {p : Platform world}

def rightOf (supplier : Address) (state : State world) : Right where
  supplier := RolesStorage.hasRole state.roles cashinRole supplier
  allowance := (state.supplierAdmin.supplierAllowances supplier).toNat
  unlimited := state.supplierAdmin.unlimitedSupplierAllowances supplier

/-- A change of `account`, as far as it is one of `supplier`. -/
def only (supplier account : Address) (taken : Change) : List Change :=
  if account = supplier then [taken] else []

/-- One account of the cash-in loop of `grantRoles`. -/
def cashinChanges (supplier account : Address) (amount : Uint256) : List Change :=
  only supplier account
    (if amount.toNat = RoleManagementFacet.maxUint256 then .grantUnlimited
      else .grant amount.toNat)

def roleChanges (supplier account : Address) (role : Bytes32) (taken : Change) : List Change :=
  if role = cashinRole then only supplier account taken else []

def grantRolesChanges (supplier : Address) (roles : List Bytes32) (accounts : List Address)
    (amounts : List Uint256) : List Change :=
  roles.flatMap fun role =>
    if role = cashinRole then
      (accounts.zip amounts).flatMap fun entry => cashinChanges supplier entry.1 entry.2
    else []

def revokeRolesChanges (supplier : Address) (roles : List Bytes32) (accounts : List Address) :
    List Change :=
  roles.flatMap fun role => accounts.flatMap fun account => roleChanges supplier account role .clear

def initialChanges (supplier : Address) (roles : List RolesStruct) (cashin : CashinRoleStruct) :
    List Change :=
  (roles.flatMap fun entry => roleChanges supplier entry.account entry.role .gainRole) ++
    if cashin.account ≠ 0 then cashinChanges supplier cashin.account cashin.allowance else []

/-- What a call of `sender` changes in the right of `supplier` when it commits. -/
def changesOf (supplier sender : Address) : Call → List Change
  | .initialize_ init => initialChanges supplier init.roles init.cashinRole
  | .mint _ amount => only supplier sender (.mint amount.toInt.toNat)
  | .grantRole role account => roleChanges supplier account role .gainRole
  | .revokeRole role account => roleChanges supplier account role .loseRole
  | .grantRoles roles accounts amounts => grantRolesChanges supplier roles accounts amounts
  | .revokeRoles roles accounts => revokeRolesChanges supplier roles accounts
  | .grantSupplierRole account amount => only supplier account (.grant amount.toNat)
  | .grantUnlimitedSupplierRole account => only supplier account .grantUnlimited
  | .revokeSupplierRole account => only supplier account .clear
  | .resetSupplierAllowance account => only supplier account .reset
  | .increaseSupplierAllowance account amount => only supplier account (.increase amount.toNat)
  | .decreaseSupplierAllowance account amount => only supplier account (.decrease amount.toNat)
  | _ => []

/-! ## Following a call -/

/-- Every committed run of the call makes these changes, and may make them. -/
def Follows {value : Type} (supplier : Address) (call : FacetTx world value)
    (changes : List Change) : Prop :=
  ∀ msg before result after, call msg before = .ok (result, after) →
    Along change Allowed (rightOf supplier before) changes ∧
      rightOf supplier after = run change (rightOf supplier before) changes

section Rules

variable {supplier : Address} {value other : Type}

theorem right_kept {before after : State world} (roles : after.roles = before.roles)
    (supplierAdmin : after.supplierAdmin = before.supplierAdmin) :
    rightOf supplier after = rightOf supplier before := by
  rw [rightOf, roles, supplierAdmin, rightOf]

theorem follows_of_same {call : FacetTx world value}
    (same : ∀ msg before result after, call msg before = .ok (result, after) →
      after.roles = before.roles ∧ after.supplierAdmin = before.supplierAdmin) :
    Follows supplier call [] := by
  intro msg before result after committed
  obtain ⟨roles, supplierAdmin⟩ := same msg before result after committed
  exact ⟨trivial, right_kept roles supplierAdmin⟩

theorem follows_bind {first : FacetTx world value} {rest : value → FacetTx world other}
    {earlier later : List Change} (start : Follows supplier first earlier)
    (end_ : ∀ produced, Follows supplier (rest produced) later) :
    Follows supplier (first >>= rest) (earlier ++ later) := by
  intro msg before result after committed
  obtain ⟨produced, middle, firstStep, lastStep⟩ := Tx.bind_ok.mp committed
  obtain ⟨allowedStart, reachedMiddle⟩ := start _ _ _ _ firstStep
  obtain ⟨allowedEnd, reachedEnd⟩ := end_ produced _ _ _ _ lastStep
  rw [reachedMiddle] at allowedEnd reachedEnd
  rw [run_append, along_append]
  exact ⟨⟨allowedStart, allowedEnd⟩, reachedEnd⟩

theorem follows_after {first : FacetTx world value} {rest : value → FacetTx world other}
    {changes : List Change} (start : Follows supplier first [])
    (end_ : ∀ produced, Follows supplier (rest produced) changes) :
    Follows supplier (first >>= rest) changes :=
  follows_bind start end_

theorem follows_before {first : FacetTx world value} {rest : value → FacetTx world other}
    {changes : List Change} (start : Follows supplier first changes)
    (end_ : ∀ produced, Follows supplier (rest produced) []) :
    Follows supplier (first >>= rest) changes := by
  have joined := follows_bind start end_
  rw [List.append_nil] at joined
  exact joined

theorem follows_for_each (items : List value) (body : value → FacetTx world PUnit)
    (changes : value → List Change)
    (round : ∀ item, Follows supplier (body item) (changes item)) :
    Follows supplier (items.forM body) (items.flatMap changes) := by
  induction items with
  | nil =>
      apply follows_of_same
      intro msg before result after committed
      obtain ⟨_, rfl⟩ := Tx.pure_ok.mp committed
      exact ⟨rfl, rfl⟩
  | cons item items ih =>
      rw [List.flatMap_cons]
      exact follows_bind (round item) fun _ => ih

theorem pure_follows (given : value) :
    Follows supplier (pure given : FacetTx world value) [] := by
  apply follows_of_same
  intro msg before result after committed
  obtain ⟨_, rfl⟩ := Tx.pure_ok.mp committed
  exact ⟨rfl, rfl⟩

theorem get_follows : Follows supplier (Tx.get : FacetTx world (State world)) [] := by
  apply follows_of_same
  intro msg before result after committed
  obtain ⟨_, rfl⟩ := Tx.get_ok.mp committed
  exact ⟨rfl, rfl⟩

theorem require_follows {condition : Prop} [Decidable condition] {failure : Revert} :
    Follows supplier (Tx.require condition failure : FacetTx world Unit) [] := by
  apply follows_of_same
  intro msg before result after committed
  obtain ⟨_, rfl⟩ := Tx.require_ok.mp committed
  exact ⟨rfl, rfl⟩

theorem only_role_follows {role : Bytes32} :
    Follows supplier (RolesStorageWrapper.onlyRole role : FacetTx world Unit) [] := by
  apply follows_of_same
  intro msg before result after committed
  obtain ⟨_, rfl⟩ := RolesStorageWrapper.only_role_ok.mp committed
  exact ⟨rfl, rfl⟩

theorem modify_follows {update : State world → State world}
    (roles : ∀ state, (update state).roles = state.roles)
    (supplierAdmin : ∀ state, (update state).supplierAdmin = state.supplierAdmin) :
    Follows supplier (Tx.modify update : FacetTx world Unit) [] := by
  apply follows_of_same
  intro msg before result after committed
  rw [← Tx.modify_ok.mp committed]
  exact ⟨roles before, supplierAdmin before⟩

end Rules

/-! ## The operations -/

section Operations

variable {supplier account : Address} {role : Bytes32} {amount : Uint256}

theorem grant_role_follows :
    Follows supplier (RolesStorageWrapper.grantRole role account : FacetTx world Unit)
      (roleChanges supplier account role .gainRole) := by
  intro msg before result after committed
  rw [← RolesStorageWrapper.grant_role_ok.mp committed]
  unfold roleChanges only
  by_cases isCashin : role = cashinRole
  · by_cases own : account = supplier
    · simp [isCashin, own, Along, Allowed, rightOf, change, RolesStorage.has_role_grant]
    · simp [isCashin, own, Ne.symm own, Along, rightOf, RolesStorage.has_role_grant]
  · simp [isCashin, Ne.symm isCashin, Along, rightOf, RolesStorage.has_role_grant]

theorem revoke_role_follows :
    Follows supplier (RolesStorageWrapper.revokeRole role account : FacetTx world Unit)
      (roleChanges supplier account role .loseRole) := by
  intro msg before result after committed
  obtain ⟨roles, revoked, rfl⟩ := RolesStorageWrapper.revoke_role_ok.mp committed
  unfold roleChanges only
  by_cases isCashin : role = cashinRole
  · by_cases own : account = supplier
    · simp [isCashin, own, Along, Allowed, rightOf, change, RolesStorage.has_role_revoke revoked]
    · simp [isCashin, own, Ne.symm own, Along, rightOf, RolesStorage.has_role_revoke revoked]
  · simp [isCashin, Ne.symm isCashin, Along, rightOf, RolesStorage.has_role_revoke revoked]

theorem grant_supplier_role_follows :
    Follows supplier
      (SupplierAdminStorageWrapper.grantSupplierRole account amount : FacetTx world Unit)
      (only supplier account (.grant amount.toNat)) := by
  intro msg before result after committed
  obtain ⟨limited, rfl⟩ := SupplierAdminStorageWrapper.grant_supplier_role_ok.mp committed
  unfold only
  by_cases own : account = supplier
  · subst own
    simp [Along, Allowed, rightOf, change, limited, SupplierAdminStorage.setAllowance,
      RolesStorage.has_role_grant]
  · simp [own, Ne.symm own, Along, rightOf, SupplierAdminStorage.setAllowance,
      RolesStorage.has_role_grant]

theorem grant_unlimited_supplier_role_follows :
    Follows supplier
      (SupplierAdminStorageWrapper.grantUnlimitedSupplierRole account : FacetTx world Unit)
      (only supplier account .grantUnlimited) := by
  intro msg before result after committed
  rw [← SupplierAdminStorageWrapper.grant_unlimited_supplier_role_ok.mp committed]
  unfold only
  by_cases own : account = supplier
  · subst own
    simp [Along, Allowed, rightOf, change, SupplierAdminStorage.setAllowance,
      SupplierAdminStorage.setUnlimited, RolesStorage.has_role_grant]
  · simp [own, Ne.symm own, Along, rightOf, SupplierAdminStorage.setAllowance,
      SupplierAdminStorage.setUnlimited, RolesStorage.has_role_grant]

theorem revoke_supplier_role_follows :
    Follows supplier
      (SupplierAdminStorageWrapper.revokeSupplierRole account : FacetTx world Unit)
      (only supplier account .clear) := by
  intro msg before result after committed
  obtain ⟨roles, revoked, rfl⟩ := SupplierAdminStorageWrapper.revoke_supplier_role_ok.mp committed
  unfold only
  by_cases own : account = supplier
  · subst own
    simp [Along, Allowed, rightOf, change, Right.nothing, SupplierAdminStorage.setAllowance,
      SupplierAdminStorage.setUnlimited, RolesStorage.has_role_revoke revoked]
  · simp [own, Ne.symm own, Along, rightOf, SupplierAdminStorage.setAllowance,
      SupplierAdminStorage.setUnlimited, RolesStorage.has_role_revoke revoked]

theorem reset_allowance_follows :
    Follows supplier
      (SupplierAdminStorageWrapper.setAllowance account 0 : FacetTx world Unit)
      (only supplier account .reset) := by
  intro msg before result after committed
  rw [← SupplierAdminStorageWrapper.set_allowance_ok.mp committed]
  unfold only
  by_cases own : account = supplier
  · subst own
    simp [Along, Allowed, rightOf, change, SupplierAdminStorage.setAllowance]
  · simp [own, Ne.symm own, Along, rightOf, SupplierAdminStorage.setAllowance]

theorem increase_supplier_allowance_follows :
    Follows supplier
      (SupplierAdminFacet.increaseSupplierAllowance account amount : FacetTx world Unit)
      (only supplier account (.increase amount.toNat)) := by
  intro msg before result after committed
  simp only [SupplierAdminFacet.increaseSupplierAllowance, Tx.bind_ok,
    RolesStorageWrapper.only_role_ok, Tx.require_ok, Tx.get_ok, Tx.of_option_ok,
    Uint.checked_eq_some, SupplierAdminStorageWrapper.set_allowance_ok, and_assoc,
    exists_and_left, exists_eq_left', exists_const] at committed
  obtain ⟨_, _, _, limited, larger, sum, rfl⟩ := committed
  unfold only
  by_cases own : account = supplier
  · subst own
    have added : larger.toNat =
        (before.supplierAdmin.supplierAllowances account).toNat + amount.toNat := by omega
    simp [Along, Allowed, rightOf, change, limited, added, SupplierAdminStorage.setAllowance]
  · simp [own, Ne.symm own, Along, rightOf, SupplierAdminStorage.setAllowance]

theorem decrease_supplier_allowance_follows :
    Follows supplier
      (SupplierAdminFacet.decreaseSupplierAllowance account amount : FacetTx world Unit)
      (only supplier account (.decrease amount.toNat)) := by
  intro msg before result after committed
  simp only [SupplierAdminFacet.decreaseSupplierAllowance, Tx.bind_ok,
    RolesStorageWrapper.only_role_ok, Tx.require_ok, Tx.get_ok,
    SupplierAdminStorageWrapper.decrease_supplier_allowance_ok, and_assoc,
    exists_and_left, exists_eq_left', exists_const] at committed
  obtain ⟨_, _, _, limited, smaller, rest, rfl⟩ := committed
  unfold only
  by_cases own : account = supplier
  · subst own
    have within : amount.toNat ≤ (before.supplierAdmin.supplierAllowances account).toNat := by omega
    have taken : smaller.toNat =
        (before.supplierAdmin.supplierAllowances account).toNat - amount.toNat := by omega
    simp [Along, Allowed, rightOf, change, limited, taken, within,
      SupplierAdminStorage.setAllowance]
  · simp [own, Ne.symm own, Along, rightOf, SupplierAdminStorage.setAllowance]

theorem grant_cashin_follows :
    Follows supplier (RoleManagementFacet.grantCashin account amount : FacetTx world Unit)
      (cashinChanges supplier account amount) := by
  unfold RoleManagementFacet.grantCashin cashinChanges
  split
  · intro msg before result after committed
    exact (Tx.revert_ok.mp committed).elim
  · split
    · exact grant_unlimited_supplier_role_follows
    · exact grant_supplier_role_follows

theorem role_changes_of_other {taken : Change} (other : role ≠ cashinRole) :
    roleChanges supplier account role taken = [] := by
  simp [roleChanges, other]

theorem grant_other_role_follows {accounts : List Address} (other : role ≠ cashinRole) :
    Follows supplier
      (accounts.forM fun account => RolesStorageWrapper.grantRole role account :
        FacetTx world PUnit) [] := by
  have rounds := follows_for_each accounts
    (fun account => (RolesStorageWrapper.grantRole role account : FacetTx world PUnit))
    (fun account => roleChanges supplier account role .gainRole) (fun _ => grant_role_follows)
  simp only [role_changes_of_other other] at rounds
  rw [List.flatMap_eq_nil_iff.mpr (fun _ _ => rfl)] at rounds
  exact rounds

theorem grant_roles_follows {roles : List Bytes32} {accounts : List Address}
    {amounts : List Uint256} :
    Follows supplier
      (RoleManagementFacet.grantRoles roles accounts amounts : FacetTx world Unit)
      (grantRolesChanges supplier roles accounts amounts) := by
  apply follows_after only_role_follows
  intro _
  apply follows_after
  · have each (account : Address) :
        Follows supplier (addressIsNotZero account : FacetTx world PUnit) [] := require_follows
    have rounds := follows_for_each accounts addressIsNotZero (fun _ => []) each
    rw [List.flatMap_eq_nil_iff.mpr (fun _ _ => rfl)] at rounds
    exact rounds
  · intro _
    apply follows_for_each
    intro role
    unfold RoleManagementFacet.grantRoleToAll
    by_cases isCashin : role = cashinRole
    · simp only [isCashin, if_true]
      apply follows_after require_follows
      intro _
      exact follows_for_each _ _ _ fun entry => grant_cashin_follows
    · simp only [isCashin, if_false]
      exact grant_other_role_follows isCashin

theorem revoke_roles_follows {roles : List Bytes32} {accounts : List Address} :
    Follows supplier (RoleManagementFacet.revokeRoles roles accounts : FacetTx world Unit)
      (revokeRolesChanges supplier roles accounts) := by
  apply follows_after only_role_follows
  intro _
  apply follows_for_each
  intro role
  apply follows_for_each
  intro account
  unfold RoleManagementFacet.revokeOne roleChanges
  by_cases isCashin : role = cashinRole
  · simp only [isCashin, if_true]
    exact revoke_supplier_role_follows
  · simp only [isCashin, if_false]
    have revoked : Follows supplier (RolesStorageWrapper.revokeRole role account :
        FacetTx world Unit) (roleChanges supplier account role .loseRole) := revoke_role_follows
    rw [role_changes_of_other isCashin] at revoked
    exact revoked

theorem grant_initial_roles_follows {originalSender : Address} {roles : List RolesStruct}
    {cashin : CashinRoleStruct} :
    Follows supplier
      (HederaTokenManagerFacet.grantInitialRoles originalSender roles cashin :
        FacetTx world Unit)
      (initialChanges supplier roles cashin) := by
  have admin : Follows supplier (RolesStorageWrapper.grantRole adminRole originalSender :
      FacetTx world Unit) (roleChanges supplier originalSender adminRole .gainRole) :=
    grant_role_follows
  rw [role_changes_of_other (by decide)] at admin
  apply follows_bind
  · exact follows_for_each _ _ _ fun entry => grant_role_follows
  · intro _
    by_cases isSet : cashin.account ≠ 0
    · simp only [if_pos isSet]
      exact follows_before grant_cashin_follows fun _ => admin
    · simp only [if_neg isSet]
      exact admin

theorem transfer_funds_follows {originalSender : Address} (quiet : QuietReceiver p originalSender) :
    Follows supplier
      (HederaTokenManagerFacet.transferFundsBackToOriginalSender p originalSender) [] := by
  apply follows_of_same
  intro msg before result after committed
  rcases transfer_funds_back_ok.mp committed with ⟨_, rfl⟩ | ⟨_, sent⟩
  · exact ⟨rfl, rfl⟩
  · rw [quiet.frame sent]
    exact ⟨rfl, rfl⟩

theorem create_token_follows {init : InitializeStruct} :
    Follows supplier (HederaTokenManagerFacet.createFungibleToken p init) [] := by
  apply follows_of_same
  intro msg before result after committed
  simp only [HederaTokenManagerFacet.createFungibleToken, Tx.bind_ok, Tx.read_ok, Tx.request_ok,
    and_assoc, exists_and_left, exists_eq_left', Prod.mk.injEq] at committed
  rw [← committed.2]
  exact ⟨rfl, rfl⟩

theorem check_response_follows {code : Sint64} :
    Follows supplier (checkResponse code : FacetTx world Bool) [] := by
  apply follows_of_same
  intro msg before result after committed
  obtain ⟨_, _, rfl⟩ := check_response_ok.mp committed
  exact ⟨rfl, rfl⟩

theorem initialize_follows {init : InitializeStruct}
    (quiet : QuietReceiver p init.originalSender) :
    Follows supplier (HederaTokenManagerFacet.initialize_ p init)
      (initialChanges supplier init.roles init.cashinRole) := by
  have metadata : Follows supplier (HederaTokenManagerFacet.setMetadata init.tokenMetadataURI :
      FacetTx world Unit) [] := modify_follows (fun _ => rfl) fun _ => rfl
  have reserve : Follows supplier (ReserveStorageWrapper.reserveInit init.reserveAddress
      init.updatedAtThreshold : FacetTx world Unit) [] :=
    modify_follows (fun _ => rfl) fun _ => rfl
  apply follows_after get_follows fun _ => ?_
  apply follows_after require_follows fun _ => ?_
  apply follows_after require_follows fun _ => ?_
  apply follows_after require_follows fun _ => ?_
  apply follows_after metadata fun _ => ?_
  apply follows_after reserve fun _ => ?_
  apply follows_before grant_initial_roles_follows fun _ => ?_
  apply follows_after create_token_follows fun _ => ?_
  apply follows_after check_response_follows fun _ => ?_
  refine follows_after ?_ fun _ => ?_
  · exact modify_follows (fun _ => rfl) fun _ => rfl
  apply follows_after (transfer_funds_follows quiet) fun _ => ?_
  refine follows_after ?_ fun _ => ?_
  · exact modify_follows (fun _ => rfl) fun _ => rfl
  exact pure_follows _

end Operations

/-! ## Following a run -/

section Run

variable {supplier : Address} {msg : Msg} {before after : State world} {called : Call}

theorem changes_of_discard {value : Type} {call : FacetTx world value} {changes : List Change}
    (follows : Follows supplier call changes) : Follows supplier (System.discard call) changes :=
  follows_before follows fun _ => pure_follows ()

theorem permission_changes (kind : called.kind = .permission) :
    Follows supplier (called.perform p) (changesOf supplier msg.sender called) := by
  cases called with
  | grantRole role account =>
      apply follows_after only_role_follows fun _ => ?_
      exact follows_after require_follows fun _ => grant_role_follows
  | revokeRole role account => exact follows_after only_role_follows fun _ => revoke_role_follows
  | grantRoles roles accounts amounts => exact grant_roles_follows
  | revokeRoles roles accounts => exact revoke_roles_follows
  | grantSupplierRole account amount =>
      apply follows_after only_role_follows fun _ => ?_
      apply follows_after require_follows fun _ => ?_
      exact follows_after require_follows fun _ => grant_supplier_role_follows
  | grantUnlimitedSupplierRole account =>
      apply follows_after only_role_follows fun _ => ?_
      exact follows_after require_follows fun _ => grant_unlimited_supplier_role_follows
  | revokeSupplierRole account =>
      apply follows_after only_role_follows fun _ => ?_
      exact follows_after require_follows fun _ => revoke_supplier_role_follows
  | resetSupplierAllowance account =>
      apply follows_after only_role_follows fun _ => ?_
      exact follows_after require_follows fun _ => reset_allowance_follows
  | increaseSupplierAllowance account amount => exact increase_supplier_allowance_follows
  | decreaseSupplierAllowance account amount => exact decrease_supplier_allowance_follows
  | _ => cases kind

theorem mint_changes {account : Address} {amount : Sint64}
    (done : Minting p msg account amount before after) :
    Along change Allowed (rightOf supplier before)
        (only supplier msg.sender (.mint amount.toInt.toNat)) ∧
      rightOf supplier after = run change (rightOf supplier before)
        (only supplier msg.sender (.mint amount.toInt.toNat)) := by
  have sameRoles : after.roles = before.roles := by rw [done.frame]
  have role := done.role
  unfold only
  by_cases own : msg.sender = supplier
  · rw [if_pos own]
    rw [own] at role
    have spending := done.spending
    rw [own] at spending
    obtain ⟨unlimited, same⟩ | ⟨limited, left, sum, same⟩ := spending
    · have kept : rightOf supplier after = rightOf supplier before := right_kept sameRoles same
      rw [kept]
      simp [Along, Allowed, rightOf, change, role, unlimited]
    · have within : amount.toInt.toNat ≤
          (before.supplierAdmin.supplierAllowances supplier).toNat := by omega
      have rest : left.toNat =
          (before.supplierAdmin.supplierAllowances supplier).toNat - amount.toInt.toNat := by omega
      simp only [rightOf, sameRoles, same, SupplierAdminStorage.setAllowance,
        Function.update_self, rest]
      simp [Along, Allowed, change, role, limited, within]
  · rw [if_neg own]
    have kept : rightOf supplier after = rightOf supplier before := by
      obtain ⟨_, same⟩ | ⟨_, left, _, same⟩ := done.spending
      · exact right_kept sameRoles same
      · simp [rightOf, sameRoles, same, SupplierAdminStorage.setAllowance, Ne.symm own]
    exact ⟨trivial, kept⟩

theorem changes_of_other_call (permission : called.kind ≠ .permission)
    (initialization : called.kind ≠ .initialization)
    (mint : ∀ account amount, called ≠ .mint account amount) :
    changesOf supplier msg.sender called = [] := by
  cases called with
  | mint account amount => exact (mint account amount rfl).elim
  | initialize_ init => exact (initialization rfl).elim
  | grantRole _ _ | revokeRole _ _ | grantRoles _ _ _ | revokeRoles _ _ | grantSupplierRole _ _
  | grantUnlimitedSupplierRole _ | revokeSupplierRole _ | resetSupplierAllowance _
  | increaseSupplierAllowance _ _ | decreaseSupplierAllowance _ _ => exact (permission rfl).elim
  | _ => rfl

theorem changes_of_frame (permission : called.kind ≠ .permission)
    (initialization : called.kind ≠ .initialization)
    (mint : ∀ account amount, called ≠ .mint account amount)
    (roles : after.roles = before.roles) (supplierAdmin : after.supplierAdmin = before.supplierAdmin) :
    Along change Allowed (rightOf supplier before) (changesOf supplier msg.sender called) ∧
      rightOf supplier after =
        run change (rightOf supplier before) (changesOf supplier msg.sender called) := by
  rw [changes_of_other_call permission initialization mint]
  exact ⟨trivial, right_kept roles supplierAdmin⟩

theorem right_after_permission (supplier : Address) (kind : called.kind = .permission)
    (committed : called.perform p msg before = .ok ((), after)) :
    rightOf supplier after =
      run change (rightOf supplier before) (changesOf supplier msg.sender called) :=
  (permission_changes kind _ _ _ _ committed).2

/-- Every committed call makes its changes, and may make them. -/
theorem changes_of_committed (supplier : Address)
    (undisturbed : Undisturbed p before (.call msg called))
    (committed : called.perform p msg before = .ok ((), after)) :
    Along change Allowed (rightOf supplier before) (changesOf supplier msg.sender called) ∧
      rightOf supplier after =
        run change (rightOf supplier before) (changesOf supplier msg.sender called) := by
  cases effect_of_committed committed with
  | permission kind _ _ => exact permission_changes kind _ _ _ _ committed
  | mint done => exact mint_changes done
  | initialization _ =>
      exact changes_of_discard (initialize_follows (undisturbed.2 _ rfl)) _ _ _ _ committed
  | view kind same =>
      apply changes_of_frame (by rw [kind]; nofun) (by rw [kind]; nofun)
        (by rintro _ _ rfl; cases kind) (by rw [same]) (by rw [same])
  | administration kind _ _ _ frame =>
      apply changes_of_frame (by rw [kind]; nofun) (by rw [kind]; nofun)
        (by rintro _ _ rfl; cases kind) (by rw [frame]) (by rw [frame])
  | reserve kind _ frame =>
      apply changes_of_frame (by rw [kind]; nofun) (by rw [kind]; nofun)
        (by rintro _ _ rfl; cases kind) (by rw [frame]) (by rw [frame])
  | configuration kind _ frame =>
      apply changes_of_frame (by rw [kind]; nofun) (by rw [kind]; nofun)
        (by rintro _ _ rfl; cases kind) (by rw [frame]) (by rw [frame])
  | rescueHBAR done =>
      have frame := done.frame (undisturbed.1 rfl)
      exact changes_of_frame nofun nofun (by intro _ _ same; cases same) (by rw [frame])
        (by rw [frame])
  | burn done | wipe done | rescue done | createHold done | createHoldByController _ done
  | executeHold _ _ _ _ done | releaseHold _ _ done | reclaimHold _ done =>
      exact changes_of_frame nofun nofun (by intro _ _ same; cases same) (by rw [done.frame])
        (by rw [done.frame])

def changesBy (p : Platform world) (supplier : Address) (state : State world) :
    Label world → List Change
  | .call msg called =>
      if succeeds p state msg called then changesOf supplier msg.sender called else []
  | .outside _ => []

theorem simulates_step (supplier : Address) (state : State world) (label : Label world)
    (undisturbed : Undisturbed p state label) :
    Simulates (next p) change Allowed (rightOf supplier) (changesBy p supplier) state label := by
  cases label with
  | outside later => exact ⟨trivial, rfl⟩
  | call msg called =>
      cases outcome : succeeds p state msg called with
      | true =>
          obtain ⟨along, reached⟩ :=
            changes_of_committed supplier undisturbed (succeeds_iff.mp outcome)
          refine ⟨?_, ?_⟩
          · rw [changesBy, if_pos outcome]
            exact along
          · rw [changesBy, if_pos outcome]
            exact reached
      | false =>
          refine ⟨?_, ?_⟩
          · simp [changesBy, outcome, Along]
          · simp [changesBy, outcome, next_of_not_succeeds outcome]

def history (p : Platform world) (supplier : Address) (start : State world)
    (labels : List (Label world)) : List Change :=
  collect (next p) (changesBy p supplier) start labels

theorem right_along_run (supplier : Address) {start : State world} {labels : List (Label world)}
    (undisturbed : Along (next p) (Undisturbed p) start labels) :
    Along change Allowed (rightOf supplier start) (history p supplier start labels) ∧
      rightOf supplier (run (next p) start labels) =
        run change (rightOf supplier start) (history p supplier start labels) :=
  simulation_of_steps (next p) change (along_mono (next p) (simulates_step supplier) undisturbed)

end Run

end StablecoinStudio.Token.RightChanges
