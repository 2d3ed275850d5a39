import StablecoinStudio.Token.System

/-!
# What a proxy stores about its configuration

The constructor of `ResolverProxy.sol`, and the one way any function of the
proxy changes its resolver, configuration and version: it asks the resolver
first.
-/

namespace StablecoinStudio.Resolver.ResolverProxy

open StablecoinStudio.Core.Common
open StablecoinStudio.Core.Constants
open StablecoinStudio.Foundation.Transaction
open StablecoinStudio.Token.Administration
open StablecoinStudio.Token.PermissionRules
open StablecoinStudio.Token.ProxyState
open StablecoinStudio.Token.Reserve
open StablecoinStudio.Token.Roles
open StablecoinStudio.Token.Services
open StablecoinStudio.Token.System
open StablecoinStudio.Token.Treasury

set_option autoImplicit false

variable {world : Type} (p : Platform world)

def assignRoles (roles : List RolesStruct) : FacetTx world Unit :=
  roles.forM fun entry => RolesStorageWrapper.grantRole entry.role entry.account

/-- `_initialize` of the constructor. -/
def initialize_ (resolver : Address) (resolverProxyConfigurationId : Bytes32) (version : Nat)
    (roles : List RolesStruct) : FacetTx world Unit := do
  Tx.require (resolver ≠ 0) .resolverAddressIsZero
  Tx.require (resolverProxyConfigurationId ≠ 0) .configurationIdIsZero
  DiamondCutFacet.checkRegistered p resolver resolverProxyConfigurationId version
  Tx.modify fun state =>
    { state with resolverProxy := ⟨resolver, resolverProxyConfigurationId, version⟩ }
  assignRoles roles

def created (world_ : world) : State world where
  initialized _ := false
  tokenAddress := 0
  metadata := ""
  roles := RolesStorage.empty
  supplierAdmin := SupplierAdminStorage.empty
  reserve := ⟨0, 0⟩
  holds := HoldDataStorage.empty
  resolverProxy := ⟨0, 0, 0⟩
  reentrancyGuardEntered := false
  world := world_

variable {p} {msg : Msg} {before after : State world}

def Confirmed (p : Platform world) (before after : State world) : Prop :=
  p.configurationRegistered after.resolverProxy.resolver
    after.resolverProxy.resolverProxyConfigurationId after.resolverProxy.version before.world = true

theorem kept_by_others (keeps : KeepsOthers before after) :
    after.resolverProxy = before.resolverProxy := by
  rw [keeps]

theorem assign_roles_keeps {roles : List RolesStruct} :
    (assignRoles roles).Respects (@KeepsOthers world) := by
  apply Tx.respects_for_each
  intro entry _
  exact keeps_others_writes.grant entry.role entry.account trivial

/-- A committed construction: a registered configuration, then the first roles. -/
theorem constructed_ok {resolver : Address} {resolverProxyConfigurationId : Bytes32}
    {version : Nat} {roles : List RolesStruct} {result : Unit}
    (committed : initialize_ p resolver resolverProxyConfigurationId version roles msg before =
      .ok (result, after)) :
    p.configurationRegistered resolver resolverProxyConfigurationId version before.world = true ∧
      assignRoles roles msg
        { before with resolverProxy := ⟨resolver, resolverProxyConfigurationId, version⟩ } =
          .ok (result, after) := by
  simp only [initialize_, DiamondCutFacet.checkRegistered, Tx.bind_ok, Tx.require_ok, Tx.get_ok,
    Tx.modify_ok, and_assoc, exists_and_left, exists_eq_left', exists_const] at committed
  obtain ⟨_, _, registered, assigned⟩ := committed
  exact ⟨registered, assigned⟩

theorem initialize_confirmed {resolver : Address} {resolverProxyConfigurationId : Bytes32}
    {version : Nat} {roles : List RolesStruct} {result : Unit}
    (committed : initialize_ p resolver resolverProxyConfigurationId version roles msg before =
      .ok (result, after)) : Confirmed p before after := by
  obtain ⟨registered, assigned⟩ := constructed_ok committed
  rw [Confirmed, kept_by_others (assign_roles_keeps _ _ _ _ assigned)]
  exact registered

/-! ## The functions of the facets -/

theorem transfer_funds_back_keeps {originalSender : Address} {result : Unit}
    (quiet : QuietReceiver p originalSender)
    (committed : HederaTokenManagerFacet.transferFundsBackToOriginalSender p originalSender msg
      before = .ok (result, after)) : after.resolverProxy = before.resolverProxy := by
  rcases transfer_funds_back_ok.mp committed with ⟨_, rfl⟩ | ⟨_, sent⟩
  · rfl
  · rw [quiet.frame sent]

theorem token_manager_initialize_keeps {init : InitializeStruct} {result : Address}
    (quiet : QuietReceiver p init.originalSender)
    (committed : HederaTokenManagerFacet.initialize_ p init msg before = .ok (result, after)) :
    after.resolverProxy = before.resolverProxy := by
  obtain ⟨prepared, refunded, first, refunding, rfl⟩ := initialize_ok.mp committed
  obtain ⟨granted, granting, _, _, rfl⟩ := first.created
  have grants := kept_by_others (grant_initial_roles_respects keeps_others_writes
    (fun _ _ => trivial) first.sender _ _ _ _ granting)
  have refund := transfer_funds_back_keeps quiet refunding
  exact refund.trans grants

/-- Whatever a function of the proxy does, what the proxy stores is as before or
was confirmed by the resolver just now. -/
theorem stored_kept_or_confirmed {called : Call} (undisturbed : called.undisturbed p msg)
    (committed : called.perform p msg before = .ok ((), after)) :
    after.resolverProxy = before.resolverProxy ∨ Confirmed p before after := by
  cases effect_of_committed committed with
  | view _ same =>
      left
      rw [same]
  | mint done | burn done | wipe done | rescue done =>
      left
      rw [done.frame]
  | rescueHBAR done =>
      left
      rw [done.frame (undisturbed.1 rfl)]
  | administration _ _ _ _ frame | permission _ _ frame | reserve _ _ frame =>
      left
      rw [frame]
  | createHold done | createHoldByController _ done =>
      left
      rw [done.frame]
  | executeHold _ _ _ _ done | releaseHold _ _ done | reclaimHold _ done =>
      left
      rw [done.frame]
  | initialization _ =>
      left
      obtain ⟨_, initialized⟩ := discard_ok.mp committed
      exact token_manager_initialize_keeps (undisturbed.2 _ rfl) initialized
  | configuration kind _ _ =>
      right
      cases called with
      | updateConfigVersion newVersion =>
          obtain ⟨_, registered, rfl⟩ := update_config_version_ok committed
          exact registered
      | updateConfig newConfigurationId newVersion =>
          obtain ⟨_, registered, rfl⟩ := update_config_ok committed
          exact registered
      | updateResolver newResolver newConfigurationId newVersion =>
          obtain ⟨_, registered, rfl⟩ := update_resolver_ok committed
          exact registered
      | _ => cases kind

end StablecoinStudio.Resolver.ResolverProxy
