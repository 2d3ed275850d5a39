import StablecoinStudio.Token.Administration

/-!
# What permission calls are made of

Roles and allowances are written by four small operations. What these respect
is respected by every grant and revocation, one by one or in bulk, and by the
grants of the initializer.
-/

namespace StablecoinStudio.Token.PermissionRules

open StablecoinStudio.Core.Common
open StablecoinStudio.Core.Constants
open StablecoinStudio.Foundation.CheckedInt
open StablecoinStudio.Foundation.Transaction
open StablecoinStudio.Token.Administration
open StablecoinStudio.Token.ProxyState
open StablecoinStudio.Token.Roles
open StablecoinStudio.Token.SupplierAdmin

set_option autoImplicit false

variable {world : Type}

/-- The writes keep the relation, where grants are to accounts that may hold
roles; an account that passes the zero check may. -/
structure KeptByWrites (mayHold : Address → Prop) (relation : State world → State world → Prop) :
    Prop where
  guarded : ∀ account, account ≠ 0 → mayHold account
  grant : ∀ role account, mayHold account →
    (RolesStorageWrapper.grantRole role account).Respects relation
  revoke : ∀ role account, (RolesStorageWrapper.revokeRole role account).Respects relation
  allowance : ∀ supplier amount,
    (SupplierAdminStorageWrapper.setAllowance supplier amount).Respects relation
  unlimited : ∀ supplier flag,
    (SupplierAdminStorageWrapper.setUnlimited supplier flag).Respects relation

theorem KeptByWrites.mono {mayHold : Address → Prop}
    {stronger weaker : State world → State world → Prop} (kept : KeptByWrites mayHold stronger)
    (implies : ∀ before after, stronger before after → weaker before after) :
    KeptByWrites mayHold weaker where
  guarded := kept.guarded
  grant role account permitted := (kept.grant role account permitted).mono implies
  revoke role account := (kept.revoke role account).mono implies
  allowance supplier amount := (kept.allowance supplier amount).mono implies
  unlimited supplier flag := (kept.unlimited supplier flag).mono implies

variable {mayHold : Address → Prop} {relation : State world → State world → Prop}
  [IsTrans (State world) relation] {role : Bytes32} {account : Address} {amount : Uint256}

theorem grant_unlimited_supplier_role_respects (kept : KeptByWrites mayHold relation)
    (permitted : mayHold account) :
    (SupplierAdminStorageWrapper.grantUnlimitedSupplierRole account).Respects relation := by
  apply Tx.respects_bind (kept.unlimited account true) fun _ => ?_
  apply Tx.respects_bind (kept.allowance account 0) fun _ => ?_
  exact kept.grant cashinRole account permitted

theorem revoke_supplier_role_respects (kept : KeptByWrites mayHold relation) :
    (SupplierAdminStorageWrapper.revokeSupplierRole account).Respects relation := by
  apply Tx.respects_bind (kept.allowance account 0) fun _ => ?_
  apply Tx.respects_bind (kept.unlimited account false) fun _ => ?_
  exact kept.revoke cashinRole account

theorem revoke_one_respects (kept : KeptByWrites mayHold relation) :
    (RoleManagementFacet.revokeOne role account).Respects relation := by
  unfold RoleManagementFacet.revokeOne
  split
  · exact revoke_supplier_role_respects kept
  · exact kept.revoke role account

variable [Std.Refl relation]

theorem grant_supplier_role_respects (kept : KeptByWrites mayHold relation)
    (permitted : mayHold account) :
    (SupplierAdminStorageWrapper.grantSupplierRole account amount).Respects relation := by
  refine Tx.respects_bind Tx.respects_get fun state => ?_
  refine Tx.respects_bind Tx.respects_require fun _ => ?_
  apply Tx.respects_bind (kept.allowance account amount) fun _ => ?_
  exact kept.grant cashinRole account permitted

theorem decrease_supplier_allowance_respects (kept : KeptByWrites mayHold relation) :
    (SupplierAdminStorageWrapper.decreaseSupplierAllowance account amount).Respects relation := by
  refine Tx.respects_bind Tx.respects_get fun state => ?_
  refine Tx.respects_bind Tx.respects_require fun _ => ?_
  refine Tx.respects_bind Tx.respects_of_option fun newAllowance => ?_
  exact kept.allowance account newAllowance

theorem grant_cashin_respects (kept : KeptByWrites mayHold relation)
    (permitted : mayHold account) :
    (RoleManagementFacet.grantCashin account amount).Respects relation := by
  unfold RoleManagementFacet.grantCashin
  split
  · intro environment before result after committed
    exact (Tx.revert_ok.mp committed).elim
  · split
    · exact grant_unlimited_supplier_role_respects kept permitted
    · exact grant_supplier_role_respects kept permitted

theorem grant_role_to_all_respects (kept : KeptByWrites mayHold relation) {accounts : List Address}
    (permitted : ∀ account ∈ accounts, mayHold account) {amounts : List Uint256} :
    (RoleManagementFacet.grantRoleToAll role accounts amounts).Respects relation := by
  unfold RoleManagementFacet.grantRoleToAll
  split
  · refine Tx.respects_bind Tx.respects_require fun _ => ?_
    apply Tx.respects_for_each
    intro entry member
    exact grant_cashin_respects kept (permitted _ (List.of_mem_zip member).1)
  · apply Tx.respects_for_each
    intro account member
    exact kept.grant role account (permitted account member)

/-- The bulk grant checks all accounts before it starts. -/
theorem grant_to_accounts_respects (kept : KeptByWrites mayHold relation) {roles : List Bytes32}
    {accounts : List Address} {amounts : List Uint256} :
    (do
      addressesAreNotZero accounts
      roles.forM fun role =>
        RoleManagementFacet.grantRoleToAll role accounts amounts : FacetTx world Unit).Respects
      relation := by
  intro environment before result after committed
  obtain ⟨_, middle, checked, granted⟩ := Tx.bind_ok.mp committed
  obtain ⟨nonZero, rfl⟩ := Tx.for_each_require_ok.mp checked
  have rounds : (roles.forM fun role =>
      (RoleManagementFacet.grantRoleToAll role accounts amounts : FacetTx world Unit)).Respects
        relation := by
    apply Tx.respects_for_each
    intro role _
    apply grant_role_to_all_respects kept
    intro account member
    exact kept.guarded account (nonZero account member)
  exact rounds _ _ _ _ granted

section Initial

variable {originalSender : Address} {roles : List RolesStruct} {cashin : CashinRoleStruct}
  {msg : Msg} {before after : State world}

/-- The grants of the initializer end with the administrator. -/
theorem initial_roles_ok {result : Unit} (kept : KeptByWrites mayHold relation)
    (permitted : ∀ entry ∈ roles, mayHold entry.account)
    (committed : HederaTokenManagerFacet.grantInitialRoles originalSender roles cashin msg before =
      .ok (result, after)) :
    ∃ middle, relation before middle ∧
      RolesStorageWrapper.grantRole adminRole originalSender msg middle = .ok ((), after) := by
  have listed : (roles.forM fun entry => (RolesStorageWrapper.grantRole entry.role entry.account :
      FacetTx world Unit)).Respects relation := by
    apply Tx.respects_for_each
    intro entry member
    exact kept.grant _ _ (permitted entry member)
  obtain ⟨_, first, looped, rest⟩ := Tx.bind_ok.mp committed
  have start := listed _ _ _ _ looped
  by_cases isSet : cashin.account ≠ 0
  · simp only [if_pos isSet] at rest
    obtain ⟨_, middle, cashed, last⟩ := Tx.bind_ok.mp rest
    have supplied := grant_cashin_respects kept (kept.guarded _ isSet) _ _ _ _ cashed
    exact ⟨middle, trans_of relation start supplied, last⟩
  · simp only [if_neg isSet] at rest
    exact ⟨first, start, rest⟩

theorem grant_initial_roles_respects (kept : KeptByWrites mayHold relation)
    (permitted : ∀ entry ∈ roles, mayHold entry.account) (sender : originalSender ≠ 0) :
    (HederaTokenManagerFacet.grantInitialRoles originalSender roles cashin).Respects relation := by
  intro environment before result after committed
  obtain ⟨middle, start, last⟩ := initial_roles_ok kept permitted committed
  have admin := kept.grant adminRole originalSender (kept.guarded _ sender)
  exact trans_of relation start (admin _ _ _ _ last)

end Initial

end StablecoinStudio.Token.PermissionRules
