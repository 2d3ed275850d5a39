import StablecoinStudio.Foundation.Runs
import StablecoinStudio.Token.PermissionRules

/-!
# The stablecoin proxy as a system

Every entry point of the facets as a value, the step a call makes on the state,
and runs of such steps. A call that reverts leaves the state as it was. Between
calls the world outside may change in any way.
-/

namespace StablecoinStudio.Token.System

open StablecoinStudio.Core.Common
open StablecoinStudio.Core.Constants
open StablecoinStudio.Foundation.CheckedInt
open StablecoinStudio.Foundation.Transaction
open StablecoinStudio.Token.Administration
open StablecoinStudio.Token.HoldManagement
open StablecoinStudio.Token.PermissionRules
open StablecoinStudio.Token.ProxyState
open StablecoinStudio.Token.Reserve
open StablecoinStudio.Token.Roles
open StablecoinStudio.Token.Services
open StablecoinStudio.Token.SupplierAdmin
open StablecoinStudio.Token.Treasury

set_option autoImplicit false

inductive Call where
  | initialize_ (init : InitializeStruct)
  | updateToken (updatedToken : UpdateTokenStruct)
  | mint (account : Address) (amount : Sint64)
  | burn (amount : Sint64)
  | wipe (account : Address) (amount : Sint64)
  | rescue (amount : Sint64)
  | rescueHBAR (amount : Uint256)
  | pause
  | unpause
  | freeze (account : Address)
  | unfreeze (account : Address)
  | grantKyc (account : Address)
  | revokeKyc (account : Address)
  | deleteToken
  | updateTokenCustomFees (fixedFees : List FixedFee) (fractionalFees : List FractionalFee)
  | grantRole (role : Bytes32) (account : Address)
  | revokeRole (role : Bytes32) (account : Address)
  | grantRoles (roles : List Bytes32) (accounts : List Address) (amounts : List Uint256)
  | revokeRoles (roles : List Bytes32) (accounts : List Address)
  | grantSupplierRole (supplier : Address) (amount : Uint256)
  | grantUnlimitedSupplierRole (supplier : Address)
  | revokeSupplierRole (supplier : Address)
  | resetSupplierAllowance (supplier : Address)
  | increaseSupplierAllowance (supplier : Address) (amount : Uint256)
  | decreaseSupplierAllowance (supplier : Address) (amount : Uint256)
  | updateReserveAddress (newAddress : Address)
  | updateUpdatedAtThreshold (newThreshold : Uint256)
  | createHold (hold : Hold)
  | createHoldByController (holder : Address) (hold : Hold) (operatorData : Bytes)
  | executeHold (identifier : HoldIdentifier) (recipient : Address) (amount : Sint64)
  | releaseHold (identifier : HoldIdentifier) (amount : Sint64)
  | reclaimHold (identifier : HoldIdentifier)
  | updateConfigVersion (newVersion : Nat)
  | updateConfig (newConfigurationId : Bytes32) (newVersion : Nat)
  | updateResolver (newResolver : Address) (newConfigurationId : Bytes32) (newVersion : Nat)
  | name
  | symbol
  | decimals
  | totalSupply
  | balanceOf (account : Address)
  | getMetadata
  | getTokenAddress
  | getBurnableAmount
  | getRolesList
  | hasRole (role : Bytes32) (account : Address)
  | getAccountsWithRole (role : Bytes32)
  | getNumberOfAccountsWithRole (role : Bytes32)
  | getRoles (account : Address)
  | getSupplierAllowance (supplier : Address)
  | isUnlimitedSupplierAllowance (supplier : Address)
  | getReserveAmount
  | getReserveAddress
  | getUpdatedAtThreshold
  | getHeldAmount
  | getHeldAmountFor (tokenHolder : Address)
  | getHoldCountFor (tokenHolder : Address)
  | getHoldsIdFor (tokenHolder : Address) (pageIndex pageLength : Uint256)
  | getHoldFor (identifier : HoldIdentifier)
  | getConfigInfo

inductive Kind where
  | initialization
  | treasury
  | hbar
  | administration (role : Bytes32)
  | permission
  | reserve
  | hold
  | configuration
  | view
deriving DecidableEq

def Call.kind : Call → Kind
  | initialize_ _ => .initialization
  | mint .. | burn _ | wipe .. | rescue _ => .treasury
  | rescueHBAR _ => .hbar
  | updateToken _ => .administration adminRole
  | pause | unpause => .administration pauseRole
  | freeze _ | unfreeze _ => .administration freezeRole
  | grantKyc _ | revokeKyc _ => .administration kycRole
  | deleteToken => .administration deleteRole
  | updateTokenCustomFees .. => .administration customFeesRole
  | grantRole .. | revokeRole .. | grantRoles .. | revokeRoles .. | grantSupplierRole ..
  | grantUnlimitedSupplierRole _ | revokeSupplierRole _ | resetSupplierAllowance _
  | increaseSupplierAllowance .. | decreaseSupplierAllowance .. => .permission
  | updateReserveAddress _ | updateUpdatedAtThreshold _ => .reserve
  | createHold _ | createHoldByController .. | executeHold .. | releaseHold .. | reclaimHold _ =>
      .hold
  | updateConfigVersion _ | updateConfig .. | updateResolver .. => .configuration
  | _ => .view

variable {world : Type} (p : Platform world)

def discard {value : Type} (call : FacetTx world value) : FacetTx world Unit := do
  let _ ← call
  return ()

def Call.perform : Call → FacetTx world Unit
  | initialize_ init => discard (HederaTokenManagerFacet.initialize_ p init)
  | updateToken updatedToken => HederaTokenManagerFacet.updateToken p updatedToken
  | mint account amount => discard (CashInFacet.mint p account amount)
  | burn amount => discard (BurnableFacet.burn p amount)
  | wipe account amount => discard (WipeableFacet.wipe p account amount)
  | rescue amount => discard (RescuableFacet.rescue p amount)
  | rescueHBAR amount => discard (RescuableFacet.rescueHBAR p amount)
  | pause => discard (Administration.pause p)
  | unpause => discard (Administration.unpause p)
  | freeze account => discard (Administration.freeze p account)
  | unfreeze account => discard (Administration.unfreeze p account)
  | grantKyc account => discard (Administration.grantKyc p account)
  | revokeKyc account => discard (Administration.revokeKyc p account)
  | deleteToken => discard (Administration.deleteToken p)
  | updateTokenCustomFees fixedFees fractionalFees =>
      discard (Administration.updateTokenCustomFees p fixedFees fractionalFees)
  | grantRole role account => RolesFacet.grantRole role account
  | revokeRole role account => RolesFacet.revokeRole role account
  | grantRoles roles accounts amounts => RoleManagementFacet.grantRoles roles accounts amounts
  | revokeRoles roles accounts => RoleManagementFacet.revokeRoles roles accounts
  | grantSupplierRole supplier amount => SupplierAdminFacet.grantSupplierRole supplier amount
  | grantUnlimitedSupplierRole supplier => SupplierAdminFacet.grantUnlimitedSupplierRole supplier
  | revokeSupplierRole supplier => SupplierAdminFacet.revokeSupplierRole supplier
  | resetSupplierAllowance supplier => SupplierAdminFacet.resetSupplierAllowance supplier
  | increaseSupplierAllowance supplier amount =>
      SupplierAdminFacet.increaseSupplierAllowance supplier amount
  | decreaseSupplierAllowance supplier amount =>
      SupplierAdminFacet.decreaseSupplierAllowance supplier amount
  | updateReserveAddress newAddress => ReserveFacet.updateReserveAddress newAddress
  | updateUpdatedAtThreshold newThreshold => ReserveFacet.updateUpdatedAtThreshold newThreshold
  | createHold hold => discard (HoldManagement.createHold p hold)
  | createHoldByController holder hold operatorData =>
      discard (HoldManagement.createHoldByController p holder hold operatorData)
  | executeHold identifier recipient amount =>
      discard (HoldManagement.executeHold p identifier recipient amount)
  | releaseHold identifier amount => discard (HoldManagement.releaseHold p identifier amount)
  | reclaimHold identifier => discard (HoldManagement.reclaimHold p identifier)
  | updateConfigVersion newVersion => DiamondCutFacet.updateConfigVersion p newVersion
  | updateConfig newConfigurationId newVersion =>
      DiamondCutFacet.updateConfig p newConfigurationId newVersion
  | updateResolver newResolver newConfigurationId newVersion =>
      DiamondCutFacet.updateResolver p newResolver newConfigurationId newVersion
  | name => discard (HederaTokenManagerFacet.name p)
  | symbol => discard (HederaTokenManagerFacet.symbol p)
  | decimals => discard (TokenOwnerStorageWrapper.decimals p)
  | totalSupply => discard (TokenOwnerStorageWrapper.totalSupply p)
  | balanceOf account => discard (TokenOwnerStorageWrapper.balanceOf p account)
  | getMetadata => discard HederaTokenManagerFacet.getMetadata
  | getTokenAddress => discard TokenOwnerStorageWrapper.getTokenAddress
  | getBurnableAmount => discard (BurnableFacet.getBurnableAmount p)
  | getRolesList => discard RolesFacet.getRolesList
  | hasRole role account => discard (RolesFacet.hasRole role account)
  | getAccountsWithRole role => discard (RolesFacet.getAccountsWithRole role)
  | getNumberOfAccountsWithRole role => discard (RolesFacet.getNumberOfAccountsWithRole role)
  | getRoles account => discard (RolesFacet.getRoles account)
  | getSupplierAllowance supplier => discard (SupplierAdminFacet.getSupplierAllowance supplier)
  | isUnlimitedSupplierAllowance supplier =>
      discard (SupplierAdminFacet.isUnlimitedSupplierAllowance supplier)
  | getReserveAmount => discard (ReserveFacet.getReserveAmount p)
  | getReserveAddress => discard ReserveFacet.getReserveAddress
  | getUpdatedAtThreshold => discard ReserveFacet.getUpdatedAtThreshold
  | getHeldAmount => discard HoldManagement.getHeldAmount
  | getHeldAmountFor tokenHolder => discard (HoldManagement.getHeldAmountFor tokenHolder)
  | getHoldCountFor tokenHolder => discard (HoldManagement.getHoldCountFor tokenHolder)
  | getHoldsIdFor tokenHolder pageIndex pageLength =>
      discard (HoldManagement.getHoldsIdFor tokenHolder pageIndex pageLength)
  | getHoldFor identifier => discard (HoldManagement.getHoldFor identifier)
  | getConfigInfo => discard DiamondCutFacet.getConfigInfo

inductive Label (world : Type) where
  | call (msg : Msg) (called : Call)
  | outside (later : world)

def next (state : State world) : Label world → State world
  | .call msg called =>
      match called.perform p msg state with
      | .ok (_, later) => later
      | .error _ => state
  | .outside later => { state with world := later }

/-- A call of the running proxy. Whoever is sent HBAR does not call back: its
own calls are steps of their own. -/
def Call.keepsControl (p : Platform world) (msg : Msg) (called : Call) : Prop :=
  called.kind ≠ .initialization ∧ (called.kind = .hbar → QuietReceiver p msg.sender)

def KeepsControl (p : Platform world) (_ : State world) : Label world → Prop
  | .call msg called => called.keepsControl p msg
  | .outside _ => True

/-- Nobody who is sent HBAR calls back, the initializer's caller included. -/
def Call.undisturbed (p : Platform world) (msg : Msg) (called : Call) : Prop :=
  (called.kind = .hbar → QuietReceiver p msg.sender) ∧
    ∀ init, called = .initialize_ init → QuietReceiver p init.originalSender

def Undisturbed (p : Platform world) (_ : State world) : Label world → Prop
  | .call msg called => called.undisturbed p msg
  | .outside _ => True

variable {p} {msg : Msg} {before after : State world}

@[simp] theorem discard_error {value : Type} {call : FacetTx world value} {failure : Revert} :
    discard call msg before = .error failure ↔ call msg before = .error failure := by
  simp [discard]

@[simp] theorem discard_ok {value : Type} {call : FacetTx world value} {result : Unit} :
    discard call msg before = .ok (result, after) ↔
      ∃ answer, call msg before = .ok (answer, after) :=
  Tx.dropped_ok

theorem next_of_committed {called : Call} {later : State world}
    (committed : called.perform p msg before = .ok ((), later)) :
    next p before (.call msg called) = later := by
  simp only [next, committed]

theorem next_of_reverted {called : Call} {failure : Revert}
    (reverted : called.perform p msg before = .error failure) :
    next p before (.call msg called) = before := by
  simp only [next, reverted]

theorem next_cases (p : Platform world) (state : State world) (msg : Msg) (called : Call) :
    called.perform p msg state = .ok ((), next p state (.call msg called)) ∨
      next p state (.call msg called) = state := by
  cases outcome : called.perform p msg state with
  | ok pair =>
      obtain ⟨_, later⟩ := pair
      rw [next_of_committed outcome]
      exact Or.inl rfl
  | error failure => exact Or.inr (next_of_reverted outcome)

def succeeds (p : Platform world) (state : State world) (msg : Msg) (called : Call) : Bool :=
  match called.perform p msg state with
  | .ok _ => true
  | .error _ => false

theorem succeeds_iff {called : Call} :
    succeeds p before msg called = true ↔
      called.perform p msg before = .ok ((), next p before (.call msg called)) := by
  unfold succeeds
  cases outcome : called.perform p msg before with
  | ok pair =>
      obtain ⟨_, later⟩ := pair
      rw [next_of_committed outcome]
      simp
  | error failure => simp

theorem next_of_not_succeeds {called : Call} (failed : succeeds p before msg called = false) :
    next p before (.call msg called) = before := by
  rcases next_cases p before msg called with committed | same
  · rw [succeeds_iff.mpr committed] at failed
    cases failed
  · exact same

/-- The hold a call pays out of, with the amount it asks for. -/
def Call.payment (called : Call) (storage : HoldDataStorage) : Option (HoldIdentifier × Sint64) :=
  match called with
  | executeHold identifier _ amount => some (identifier, amount)
  | releaseHold identifier amount => some (identifier, amount)
  | reclaimHold identifier =>
      some (identifier, (HoldDataStorage.hold storage identifier).amount)
  | _ => none

theorem payment_of_other_kind {called : Call} (storage : HoldDataStorage)
    (other : called.kind ≠ .hold) : called.payment storage = none := by
  cases called with
  | executeHold _ _ _ | releaseHold _ _ | reclaimHold _ => exact (other rfl).elim
  | _ => rfl

/-! ## What a committed call does -/

/-- One clause for each kind of call. -/
inductive Effect (p : Platform world) (msg : Msg) (before after : State world) : Call → Prop where
  | view {called : Call} (kind : called.kind = .view) (same : after = before) :
      Effect p msg before after called
  | mint {account : Address} {amount : Sint64} (done : Minting p msg account amount before after) :
      Effect p msg before after (.mint account amount)
  | burn {amount : Sint64} (done : Burning p msg amount before after) :
      Effect p msg before after (.burn amount)
  | wipe {account : Address} {amount : Sint64} (done : Wiping p msg account amount before after) :
      Effect p msg before after (.wipe account amount)
  | rescue {amount : Sint64} (done : Rescuing p msg amount before after) :
      Effect p msg before after (.rescue amount)
  | rescueHBAR {amount : Uint256}
      (done : RescuingHBAR p msg amount before after) :
      Effect p msg before after (.rescueHBAR amount)
  | administration {called : Call} {role : Bytes32} (kind : called.kind = .administration role)
      (held : RolesStorage.hasRole before.roles role msg.sender = true)
      (request : AdministrativeRequest)
      (answered : p.administer request before.world = (success, after.world))
      (frame : after = { before with metadata := after.metadata, world := after.world }) :
      Effect p msg before after called
  | permission {called : Call} (kind : called.kind = .permission)
      (admin : RolesStorage.hasRole before.roles adminRole msg.sender = true)
      (frame : after =
        { before with roles := after.roles, supplierAdmin := after.supplierAdmin }) :
      Effect p msg before after called
  | reserve {called : Call} (kind : called.kind = .reserve)
      (admin : RolesStorage.hasRole before.roles adminRole msg.sender = true)
      (frame : after = { before with reserve := after.reserve }) :
      Effect p msg before after called
  | createHold {hold : Hold} {holdId : Uint256}
      (done : Creation p msg msg.sender hold [] holdId before after) :
      Effect p msg before after (.createHold hold)
  | createHoldByController {holder : Address} {hold : Hold} {operatorData : Bytes}
      {holdId : Uint256}
      (controller : RolesStorage.hasRole before.roles holdCreatorRole msg.sender = true)
      (done : Creation p msg holder hold operatorData holdId before after) :
      Effect p msg before after (.createHoldByController holder hold operatorData)
  | executeHold {identifier : HoldIdentifier} {recipient : Address} {amount : Sint64}
      (positive : 0 < amount.toInt)
      (inTime : msg.timestamp.toNat <
        (HoldDataStorage.hold before.holds identifier).expirationTimestamp.toNat)
      (escrow : (HoldDataStorage.hold before.holds identifier).escrow = msg.sender)
      (destination : (HoldDataStorage.hold before.holds identifier).to_ = 0 ∨
        (HoldDataStorage.hold before.holds identifier).to_ = recipient)
      (done : Payment p msg identifier recipient amount before after) :
      Effect p msg before after (.executeHold identifier recipient amount)
  | releaseHold {identifier : HoldIdentifier} {amount : Sint64}
      (inTime : msg.timestamp.toNat <
        (HoldDataStorage.hold before.holds identifier).expirationTimestamp.toNat)
      (escrow : (HoldDataStorage.hold before.holds identifier).escrow = msg.sender)
      (done : Payment p msg identifier identifier.tokenHolder amount before after) :
      Effect p msg before after (.releaseHold identifier amount)
  | reclaimHold {identifier : HoldIdentifier}
      (late : (HoldDataStorage.hold before.holds identifier).expirationTimestamp.toNat ≤
        msg.timestamp.toNat)
      (done : Payment p msg identifier identifier.tokenHolder
        (HoldDataStorage.hold before.holds identifier).amount before after) :
      Effect p msg before after (.reclaimHold identifier)
  | configuration {called : Call} (kind : called.kind = .configuration)
      (admin : RolesStorage.hasRole before.roles adminRole msg.sender = true)
      (frame : after = { before with resolverProxy := after.resolverProxy }) :
      Effect p msg before after called
  | initialization {init : InitializeStruct}
      (first : before.initialized hederaTokenManagerResolverKey = false) :
      Effect p msg before after (.initialize_ init)

/-- The permission operations write roles and allowances only. -/
def KeepsOthers (before after : State world) : Prop :=
  after = { before with roles := after.roles, supplierAdmin := after.supplierAdmin }

instance : IsTrans (State world) KeepsOthers where
  trans first second third start rest := by
    unfold KeepsOthers at *
    rw [rest, start]

instance : Std.Refl (@KeepsOthers world) where
  refl _ := rfl

theorem keeps_others_writes : KeptByWrites (fun _ => True) (@KeepsOthers world) where
  guarded _ _ := trivial
  grant role account _ := by
    intro environment before result after committed
    rw [← RolesStorageWrapper.grant_role_ok.mp committed]
    rfl
  revoke role account := by
    intro environment before result after committed
    obtain ⟨roles, _, rfl⟩ := RolesStorageWrapper.revoke_role_ok.mp committed
    rfl
  allowance supplier amount := by
    intro environment before result after committed
    rw [← SupplierAdminStorageWrapper.set_allowance_ok.mp committed]
    rfl
  unlimited supplier flag := by
    intro environment before result after committed
    rw [← SupplierAdminStorageWrapper.set_unlimited_ok.mp committed]
    rfl

section Permissions

variable {mayHold : Address → Prop} {relation : State world → State world → Prop}
  [Std.Refl relation] [IsTrans (State world) relation]

/-- Every permission call asks for the admin first and then makes its writes. -/
theorem permission_shape (kept : KeptByWrites mayHold relation) {called : Call}
    (kind : called.kind = .permission) :
    ∃ rest : Unit → FacetTx world Unit,
      called.perform p = RolesStorageWrapper.onlyRole adminRole >>= rest ∧
        ∀ checked, (rest checked).Respects relation := by
  cases called with
  | grantRole role account =>
      refine ⟨_, rfl, fun _ => ?_⟩
      exact Tx.respects_guarded fun isSet _ => kept.grant role account (kept.guarded _ isSet)
  | revokeRole role account => exact ⟨_, rfl, fun _ => kept.revoke role account⟩
  | grantRoles roles accounts amounts =>
      exact ⟨_, rfl, fun _ => grant_to_accounts_respects kept⟩
  | revokeRoles roles accounts =>
      refine ⟨_, rfl, fun _ => ?_⟩
      apply Tx.respects_for_each
      intro role _
      exact Tx.respects_for_each _ _ fun _ _ => revoke_one_respects kept
  | grantSupplierRole supplier amount =>
      refine ⟨_, rfl, fun _ => ?_⟩
      refine Tx.respects_guarded fun isSet _ => ?_
      refine Tx.respects_bind Tx.respects_require fun _ => ?_
      exact grant_supplier_role_respects kept (kept.guarded _ isSet)
  | grantUnlimitedSupplierRole supplier =>
      refine ⟨_, rfl, fun _ => ?_⟩
      refine Tx.respects_guarded fun isSet _ => ?_
      exact grant_unlimited_supplier_role_respects kept (kept.guarded _ isSet)
  | revokeSupplierRole supplier =>
      refine ⟨_, rfl, fun _ => ?_⟩
      exact Tx.respects_bind Tx.respects_require fun _ => revoke_supplier_role_respects kept
  | resetSupplierAllowance supplier =>
      refine ⟨_, rfl, fun _ => ?_⟩
      exact Tx.respects_bind Tx.respects_require fun _ => kept.allowance supplier 0
  | increaseSupplierAllowance supplier amount =>
      refine ⟨_, rfl, fun _ => ?_⟩
      refine Tx.respects_bind Tx.respects_require fun _ => ?_
      refine Tx.respects_bind Tx.respects_require fun _ => ?_
      refine Tx.respects_bind Tx.respects_get fun state => ?_
      refine Tx.respects_bind Tx.respects_require fun _ => ?_
      refine Tx.respects_bind Tx.respects_of_option fun newAllowance => ?_
      exact kept.allowance supplier newAllowance
  | decreaseSupplierAllowance supplier amount =>
      refine ⟨_, rfl, fun _ => ?_⟩
      refine Tx.respects_bind Tx.respects_require fun _ => ?_
      refine Tx.respects_bind Tx.respects_require fun _ => ?_
      refine Tx.respects_bind Tx.respects_get fun state => ?_
      refine Tx.respects_bind Tx.respects_require fun _ => ?_
      exact decrease_supplier_allowance_respects kept
  | _ => cases kind

theorem permission_respects (kept : KeptByWrites mayHold relation) {called : Call}
    (kind : called.kind = .permission)
    (committed : called.perform p msg before = .ok ((), after)) : relation before after := by
  obtain ⟨rest, shape, respects⟩ := permission_shape kept kind
  rw [shape, Tx.bind_ok] at committed
  obtain ⟨_, _, checked, performed⟩ := committed
  obtain ⟨_, rfl⟩ := RolesStorageWrapper.only_role_ok.mp checked
  exact respects _ _ _ _ _ performed

end Permissions

theorem permission_effect {called : Call} (kind : called.kind = .permission)
    (committed : called.perform p msg before = .ok ((), after)) :
    RolesStorage.hasRole before.roles adminRole msg.sender = true ∧ KeepsOthers before after := by
  obtain ⟨rest, shape, respects⟩ := permission_shape keeps_others_writes kind
  rw [shape, Tx.bind_ok] at committed
  obtain ⟨_, _, checked, performed⟩ := committed
  obtain ⟨admin, rfl⟩ := RolesStorageWrapper.only_role_ok.mp checked
  exact ⟨admin, respects _ _ _ _ _ performed⟩

theorem view_effect {called : Call} (kind : called.kind = .view)
    (committed : called.perform p msg before = .ok ((), after)) : after = before := by
  cases called with
  | getRolesList =>
      simp only [Call.perform, discard_ok, RolesFacet.getRolesList, Tx.pure_ok] at committed
      obtain ⟨_, _, rfl⟩ := committed
      rfl
  | getBurnableAmount =>
      simp only [Call.perform, discard_ok, BurnableFacet.getBurnableAmount, Tx.bind_ok, Tx.get_ok,
        Tx.of_option_ok, TokenOwnerStorageWrapper.balance_of_ok] at committed
      obtain ⟨_, _, _, ⟨_, rfl⟩, _, _, ⟨_, rfl⟩, _, _, ⟨_, rfl⟩, _, _, ⟨_, rfl⟩, _, rfl⟩ := committed
      rfl
  | getReserveAmount =>
      simp only [Call.perform, discard_ok, ReserveFacet.getReserveAmount,
        ReserveStorageWrapper.getReserveAmount, Tx.bind_ok, Tx.get_ok] at committed
      obtain ⟨_, _, _, ⟨rfl, rfl⟩, answered⟩ := committed
      split at answered
      · obtain ⟨_, rfl⟩ := Tx.of_option_ok.mp answered
        rfl
      · obtain ⟨_, rfl⟩ := Tx.pure_ok.mp answered
        rfl
  | getHoldsIdFor tokenHolder pageIndex pageLength =>
      simp only [Call.perform, discard_ok, HoldManagement.getHoldsIdFor, Tx.bind_ok, Tx.get_ok,
        Tx.of_option_ok, Tx.pure_ok] at committed
      obtain ⟨_, _, _, ⟨_, rfl⟩, _, _, ⟨_, rfl⟩, _, _, ⟨_, rfl⟩, _, _, ⟨_, rfl⟩, _, rfl⟩ := committed
      rfl
  | getHoldFor identifier =>
      simp only [Call.perform, discard_ok, HoldManagement.getHoldFor, Tx.bind_ok, Tx.get_ok,
        valid_hold_ok, Tx.pure_ok] at committed
      obtain ⟨_, _, _, ⟨_, rfl⟩, _, _, ⟨_, rfl⟩, _, rfl⟩ := committed
      rfl
  | name | symbol | decimals | totalSupply | balanceOf _ | getMetadata | getTokenAddress
  | hasRole _ _ | getAccountsWithRole _ | getNumberOfAccountsWithRole _ | getRoles _
  | getSupplierAllowance _ | isUnlimitedSupplierAllowance _ | getReserveAddress
  | getUpdatedAtThreshold | getHeldAmount | getHeldAmountFor _ | getHoldCountFor _
  | getConfigInfo =>
      obtain ⟨_, read⟩ := discard_ok.mp committed
      obtain ⟨_, _, got, answered⟩ := Tx.bind_ok.mp read
      obtain ⟨_, rfl⟩ := Tx.get_ok.mp got
      exact (Tx.pure_ok.mp answered).2.symm
  | _ => cases kind

theorem administration_effect {called : Call} {role : Bytes32}
    (kind : called.kind = .administration role)
    (committed : called.perform p msg before = .ok ((), after)) :
    RolesStorage.hasRole before.roles role msg.sender = true ∧
      (∃ request, p.administer request before.world = (success, after.world)) ∧
      after = { before with metadata := after.metadata, world := after.world } := by
  cases called with
  | updateToken updatedToken =>
      cases kind
      obtain ⟨admin, ⟨token, answered⟩, frame⟩ := update_token_ok committed
      refine ⟨admin, ⟨_, answered⟩, ?_⟩
      have metadata : after.metadata = updatedToken.tokenMetadataURI := by rw [frame]
      rw [metadata]
      exact frame
  | pause | unpause | deleteToken | updateTokenCustomFees _ _ =>
      cases kind
      obtain ⟨_, answered⟩ := discard_ok.mp committed
      obtain ⟨held, requested, frame⟩ := administer_ok answered
      refine ⟨held, ⟨_, requested⟩, ?_⟩
      rw [frame]
  | freeze _ | unfreeze _ | grantKyc _ | revokeKyc _ =>
      cases kind
      obtain ⟨_, answered⟩ := discard_ok.mp committed
      obtain ⟨held, _, requested, frame⟩ := administer_account_ok answered
      refine ⟨held, ⟨_, requested⟩, ?_⟩
      rw [frame]
  | _ => cases kind

theorem reserve_effect {called : Call} (kind : called.kind = .reserve)
    (committed : called.perform p msg before = .ok ((), after)) :
    RolesStorage.hasRole before.roles adminRole msg.sender = true ∧
      after = { before with reserve := after.reserve } := by
  cases called with
  | updateReserveAddress _ | updateUpdatedAtThreshold _ =>
      obtain ⟨_, _, checked, updated⟩ := Tx.bind_ok.mp committed
      obtain ⟨admin, rfl⟩ := RolesStorageWrapper.only_role_ok.mp checked
      have same := Tx.modify_ok.mp updated
      rw [← same]
      exact ⟨admin, rfl⟩
  | _ => cases kind

theorem configuration_effect {called : Call} (kind : called.kind = .configuration)
    (committed : called.perform p msg before = .ok ((), after)) :
    RolesStorage.hasRole before.roles adminRole msg.sender = true ∧
      after = { before with resolverProxy := after.resolverProxy } := by
  cases called with
  | updateConfigVersion newVersion =>
      obtain ⟨admin, _, rfl⟩ := update_config_version_ok committed
      exact ⟨admin, rfl⟩
  | updateConfig newConfigurationId newVersion =>
      obtain ⟨admin, _, rfl⟩ := update_config_ok committed
      exact ⟨admin, rfl⟩
  | updateResolver newResolver newConfigurationId newVersion =>
      obtain ⟨admin, _, rfl⟩ := update_resolver_ok committed
      exact ⟨admin, rfl⟩
  | _ => cases kind

/-- The one inversion lemma: what a committed call did, guards included. -/
theorem effect_of_committed {called : Call}
    (committed : called.perform p msg before = .ok ((), after)) :
    Effect p msg before after called := by
  cases kind : called.kind with
  | view => exact .view kind (view_effect kind committed)
  | administration role =>
      obtain ⟨held, ⟨request, answered⟩, frame⟩ := administration_effect kind committed
      exact .administration kind held request answered frame
  | permission =>
      obtain ⟨admin, frame⟩ := permission_effect kind committed
      exact .permission kind admin frame
  | reserve =>
      obtain ⟨admin, frame⟩ := reserve_effect kind committed
      exact .reserve kind admin frame
  | configuration =>
      obtain ⟨admin, frame⟩ := configuration_effect kind committed
      exact .configuration kind admin frame
  | initialization =>
      cases called with
      | initialize_ init =>
          obtain ⟨_, answered⟩ := discard_ok.mp committed
          obtain ⟨_, _, got, rest⟩ := Tx.bind_ok.mp answered
          obtain ⟨rfl, rfl⟩ := Tx.get_ok.mp got
          obtain ⟨_, _, checked, _⟩ := Tx.bind_ok.mp rest
          exact .initialization (Tx.require_ok.mp checked).1
      | _ => cases kind
  | hbar =>
      cases called with
      | rescueHBAR amount =>
          obtain ⟨_, answered⟩ := discard_ok.mp committed
          exact .rescueHBAR (rescue_hbar_ok answered)
      | _ => cases kind
  | treasury =>
      cases called with
      | mint account amount =>
          obtain ⟨_, answered⟩ := discard_ok.mp committed
          exact .mint (mint_ok answered).2
      | burn amount =>
          obtain ⟨_, answered⟩ := discard_ok.mp committed
          exact .burn (burn_ok answered).2
      | wipe account amount =>
          obtain ⟨_, answered⟩ := discard_ok.mp committed
          exact .wipe (wipe_ok answered).2
      | rescue amount =>
          obtain ⟨_, answered⟩ := discard_ok.mp committed
          exact .rescue (rescue_ok answered).2
      | _ => cases kind
  | hold =>
      cases called with
      | createHold hold =>
          obtain ⟨_, answered⟩ := discard_ok.mp committed
          exact .createHold (create_hold_ok answered).2
      | createHoldByController holder hold operatorData =>
          obtain ⟨_, answered⟩ := discard_ok.mp committed
          obtain ⟨_, _, controller, done⟩ := create_hold_by_controller_ok answered
          exact .createHoldByController controller done
      | executeHold identifier recipient amount =>
          obtain ⟨_, answered⟩ := discard_ok.mp committed
          obtain ⟨_, positive, inTime, escrow, destination, done⟩ := execute_hold_ok.mp answered
          exact .executeHold positive inTime escrow destination done
      | releaseHold identifier amount =>
          obtain ⟨_, answered⟩ := discard_ok.mp committed
          obtain ⟨_, inTime, escrow, done⟩ := release_hold_ok.mp answered
          exact .releaseHold inTime escrow done
      | reclaimHold identifier =>
          obtain ⟨_, answered⟩ := discard_ok.mp committed
          obtain ⟨_, late, done⟩ := reclaim_hold_ok.mp answered
          exact .reclaimHold late done
      | _ => cases kind

end StablecoinStudio.Token.System
