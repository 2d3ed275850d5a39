import StablecoinStudio.Resolver.DiamondCutManagerWrapper

/-!
# The functions of the resolver

`BusinessLogicResolver.sol` and `DiamondCutManager.sol`: the external functions
with their guards, and a call of one as a value.
-/

namespace StablecoinStudio.Resolver.BusinessLogicResolver

open StablecoinStudio.Core.Common
open StablecoinStudio.Core.Constants
open StablecoinStudio.Foundation.Transaction
open StablecoinStudio.Resolver.BusinessLogicResolverWrapper
open StablecoinStudio.Resolver.DiamondCutManagerWrapper
open StablecoinStudio.Resolver.VersionTables
open StablecoinStudio.Token.ProxyState
open StablecoinStudio.Token.Roles

set_option autoImplicit false

def onlyRole (role : Bytes32) : ResolverTx Unit := do
  let msg ← Tx.read
  let state ← Tx.get
  Tx.require (RolesStorage.hasRole state.roles role msg.sender = true)
    (.accountHasNoRole msg.sender role)

/-! ## The registry -/

def initialize_BusinessLogicResolver : ResolverTx Bool := do
  let msg ← Tx.read
  let state ← Tx.get
  Tx.require (state.initialized businessLogicResolverKey = false)
    (.contractIsAlreadyInitialized businessLogicResolverKey)
  Tx.modify fun state =>
    { state with
      roles := RolesStorage.grantRole state.roles adminRole msg.sender
      initialized := Function.update state.initialized businessLogicResolverKey true }
  return true

def registerBusinessLogics (businessLogics : List BusinessLogicRegistryData) :
    ResolverTx Unit := do
  onRegistry (checkValidKeys businessLogics)
  onlyRole adminRole
  Tx.require (businessLogics ≠ []) .emptyBusinessLogicList
  onRegistry (BusinessLogicResolverWrapper.registerBusinessLogics businessLogics)

def addSelectorsToBlacklist (configurationId : Bytes32) (selectors : List Bytes4) :
    ResolverTx Unit := do
  onlyRole adminRole
  onRegistry (BusinessLogicResolverWrapper.addSelectorsToBlacklist configurationId selectors)

def removeSelectorsFromBlacklist (configurationId : Bytes32) (selectors : List Bytes4) :
    ResolverTx Unit := do
  onlyRole adminRole
  onRegistry (BusinessLogicResolverWrapper.removeSelectorsFromBlacklist configurationId selectors)

def getVersionStatus (businessLogicKey : Bytes32) (version : Nat) : ResolverTx VersionStatus :=
  onRegistry do
    checkValidVersion businessLogicKey version
    BusinessLogicResolverWrapper.getVersionStatus businessLogicKey version

def resolveLatestBusinessLogic (businessLogicKey : Bytes32) : ResolverTx Address :=
  onRegistry (BusinessLogicResolverWrapper.resolveLatestBusinessLogic businessLogicKey)

/-- Unlike the internal function, this one checks that the version exists. -/
def resolveBusinessLogicByVersion (businessLogicKey : Bytes32) (version : Nat) :
    ResolverTx Address :=
  onRegistry do
    checkValidVersion businessLogicKey version
    BusinessLogicResolverWrapper.resolveBusinessLogicByVersion businessLogicKey version

/-! ## The configurations -/

def validateConfigurationId (configurationId : Bytes32) : ResolverTx Unit :=
  Tx.require (configurationId ≠ 0) .defaultValueForConfigurationIdNotPermitted

def noEmptyConfiguration (facetConfigurations : List FacetConfiguration) : ResolverTx Unit :=
  Tx.require (facetConfigurations ≠ []) .emptyConfiguration

variable (facets : StaticFunctionSelectors)

def createConfiguration (configurationId : Bytes32)
    (facetConfigurations : List FacetConfiguration) : ResolverTx Nat := do
  validateConfigurationId configurationId
  onlyRole adminRole
  noEmptyConfiguration facetConfigurations
  DiamondCutManagerWrapper.createConfiguration facets configurationId facetConfigurations

def createBatchConfiguration (configurationId : Bytes32)
    (facetConfigurations : List FacetConfiguration) (isLastBatch : Bool) : ResolverTx Nat := do
  validateConfigurationId configurationId
  onlyRole adminRole
  noEmptyConfiguration facetConfigurations
  DiamondCutManagerWrapper.createBatchConfiguration facets configurationId facetConfigurations
    isLastBatch

def cancelBatchConfiguration (configurationId : Bytes32) : ResolverTx Unit := do
  validateConfigurationId configurationId
  onlyRole adminRole
  onManager (DiamondCutManagerWrapper.cancelBatchConfiguration configurationId)

/-! ## Calls -/

inductive ResolverCall where
  | initialize_BusinessLogicResolver
  | registerBusinessLogics (businessLogics : List BusinessLogicRegistryData)
  | addSelectorsToBlacklist (configurationId : Bytes32) (selectors : List Bytes4)
  | removeSelectorsFromBlacklist (configurationId : Bytes32) (selectors : List Bytes4)
  | createConfiguration (configurationId : Bytes32)
      (facetConfigurations : List FacetConfiguration)
  | createBatchConfiguration (configurationId : Bytes32)
      (facetConfigurations : List FacetConfiguration) (isLastBatch : Bool)
  | cancelBatchConfiguration (configurationId : Bytes32)

namespace ResolverCall

/-- The creating calls, as the configuration, its entries and whether they
finish the version. -/
def creation : ResolverCall → Option (Bytes32 × List FacetConfiguration × Bool)
  | createConfiguration configurationId facetConfigurations =>
      some (configurationId, facetConfigurations, true)
  | createBatchConfiguration configurationId facetConfigurations isLastBatch =>
      some (configurationId, facetConfigurations, isLastBatch)
  | _ => none

def onBlacklist : ResolverCall → Bool
  | addSelectorsToBlacklist .. | removeSelectorsFromBlacklist .. => true
  | _ => false

end ResolverCall

def ignore {value : Type} (call : ResolverTx value) : ResolverTx Unit := do
  let _ ← call
  return ()

def ResolverCall.perform : ResolverCall → ResolverTx Unit
  | initialize_BusinessLogicResolver =>
      ignore BusinessLogicResolver.initialize_BusinessLogicResolver
  | registerBusinessLogics businessLogics =>
      BusinessLogicResolver.registerBusinessLogics businessLogics
  | addSelectorsToBlacklist configurationId selectors =>
      BusinessLogicResolver.addSelectorsToBlacklist configurationId selectors
  | removeSelectorsFromBlacklist configurationId selectors =>
      BusinessLogicResolver.removeSelectorsFromBlacklist configurationId selectors
  | createConfiguration configurationId facetConfigurations =>
      ignore (BusinessLogicResolver.createConfiguration facets configurationId facetConfigurations)
  | createBatchConfiguration configurationId facetConfigurations isLastBatch =>
      ignore (BusinessLogicResolver.createBatchConfiguration facets configurationId
        facetConfigurations isLastBatch)
  | cancelBatchConfiguration configurationId =>
      BusinessLogicResolver.cancelBatchConfiguration configurationId

end StablecoinStudio.Resolver.BusinessLogicResolver
