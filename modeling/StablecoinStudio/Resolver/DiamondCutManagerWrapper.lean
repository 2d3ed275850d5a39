import StablecoinStudio.Foundation.KeyedTables
import StablecoinStudio.Resolver.BusinessLogicResolverWrapper
import StablecoinStudio.Resolver.VersionTables

/-!
# Configurations of the resolver

`DiamondCutManagerWrapper.sol`: the versions of a configuration, the batch that
is being put together, and what the proxies ask. The mappings of the source
have the hash of a packed key; here the key itself, which starts with the
configuration and its version.
-/

namespace StablecoinStudio.Resolver.DiamondCutManagerWrapper

open StablecoinStudio.Core.Common
open StablecoinStudio.Core.EnumerableSetBytes4
open StablecoinStudio.Foundation.KeyedTables
open StablecoinStudio.Foundation.Transaction
open StablecoinStudio.Resolver.BusinessLogicResolverWrapper
open StablecoinStudio.Resolver.VersionTables
open StablecoinStudio.Token.ProxyState

set_option autoImplicit false

/-- What `_buildHash(configurationId, version)` stands for. -/
abbrev ConfigVersion := Bytes32 × Nat

@[ext] structure DiamondCutManagerStorage where
  configurations : List Bytes32
  activeConfigurations : Bytes32 → Bool
  latestVersion : Bytes32 → Nat
  batchVersion : Bytes32 → Nat
  facetIds : ConfigVersion → List Bytes32
  facetVersions : ConfigVersion → List Nat
  facetAddress : ConfigVersion × Bytes4 → Address
  addr : ConfigVersion × Bytes32 → Address
  selectors : ConfigVersion × Bytes32 → List Bytes4
  selectorToFacetId : ConfigVersion × Bytes4 → Bytes32
  interfaceIds : ConfigVersion × Bytes32 → List Bytes4
  supportsInterface : ConfigVersion × Bytes4 → Bool

def DiamondCutManagerStorage.empty : DiamondCutManagerStorage where
  configurations := []
  activeConfigurations _ := false
  latestVersion _ := 0
  batchVersion _ := 0
  facetIds _ := []
  facetVersions _ := []
  facetAddress _ := 0
  addr _ := 0
  selectors _ := []
  selectorToFacetId _ := 0
  interfaceIds _ := []
  supportsInterface _ := false

/-- What the code at an address declares; nothing when the call of it fails. -/
structure StaticFunctionSelectors where
  getStaticFunctionSelectors : Address → Option (List Bytes4)
  getStaticInterfaceIds : Address → Option (List Bytes4)

structure ResolverState where
  initialized : Bytes32 → Bool
  roles : RolesStorage
  businessLogicResolver : BusinessLogicResolverDataStorage
  diamondCutManager : DiamondCutManagerStorage

def ResolverState.created : ResolverState where
  initialized _ := false
  roles := RolesStorage.empty
  businessLogicResolver := BusinessLogicResolverDataStorage.empty
  diamondCutManager := DiamondCutManagerStorage.empty

abbrev ResolverTx := ContractTx ResolverState

def onRegistry {value : Type} (call : RegistryTx value) : ResolverTx value :=
  Tx.focus ResolverState.businessLogicResolver
    (fun state registry => { state with businessLogicResolver := registry }) call

def onManager (update : DiamondCutManagerStorage → DiamondCutManagerStorage) : ResolverTx Unit :=
  Tx.modify fun state => { state with diamondCutManager := update state.diamondCutManager }

/-! ## Versions of a configuration -/

def isOngoingConfiguration (dcms : DiamondCutManagerStorage) (configurationId : Bytes32) : Bool :=
  dcms.batchVersion configurationId ≠ 0

def startBatchConfiguration (configurationId : Bytes32) (dcms : DiamondCutManagerStorage) :
    DiamondCutManagerStorage :=
  { dcms with
    batchVersion :=
      Function.update dcms.batchVersion configurationId (dcms.latestVersion configurationId + 1) }

def activateConfiguration (configurationId : Bytes32) (isLastBatch : Bool)
    (dcms : DiamondCutManagerStorage) : DiamondCutManagerStorage :=
  if isLastBatch then
    { dcms with
      configurations :=
        if dcms.activeConfigurations configurationId then dcms.configurations
        else dcms.configurations ++ [configurationId]
      activeConfigurations := Function.update dcms.activeConfigurations configurationId true
      latestVersion :=
        Function.update dcms.latestVersion configurationId (dcms.batchVersion configurationId)
      batchVersion := Function.update dcms.batchVersion configurationId 0 }
  else dcms

def resolveVersion (dcms : DiamondCutManagerStorage) (configurationId : Bytes32) (version : Nat) :
    Nat :=
  if version > 0 then version else dcms.latestVersion configurationId

def isResolverProxyConfigurationRegistered (dcms : DiamondCutManagerStorage)
    (configurationId : Bytes32) (version : Nat) : Bool :=
  dcms.activeConfigurations configurationId &&
    decide (version ≤ dcms.latestVersion configurationId)

/-! ## Adding facets -/

def pushFacet (key : ConfigVersion) (facet : FacetConfiguration)
    (dcms : DiamondCutManagerStorage) : DiamondCutManagerStorage :=
  { dcms with
    facetIds := Function.update dcms.facetIds key (dcms.facetIds key ++ [facet.id])
    facetVersions :=
      Function.update dcms.facetVersions key (dcms.facetVersions key ++ [facet.version]) }

def setAddr (key : ConfigVersion) (facetId : Bytes32) (address : Address)
    (dcms : DiamondCutManagerStorage) : DiamondCutManagerStorage :=
  { dcms with addr := Function.update dcms.addr (key, facetId) address }

def setSelectors (key : ConfigVersion) (facetId : Bytes32) (selectors : List Bytes4)
    (dcms : DiamondCutManagerStorage) : DiamondCutManagerStorage :=
  { dcms with selectors := Function.update dcms.selectors (key, facetId) selectors }

def setInterfaceIds (key : ConfigVersion) (facetId : Bytes32) (interfaceIds : List Bytes4)
    (dcms : DiamondCutManagerStorage) : DiamondCutManagerStorage :=
  { dcms with interfaceIds := Function.update dcms.interfaceIds (key, facetId) interfaceIds }

/-- One round of `_registerSelectors`, and of `_cleanSelectors` with zeros. -/
def setRoute (key : ConfigVersion) (facetId : Bytes32) (address : Address)
    (dcms : DiamondCutManagerStorage) (selector : Bytes4) : DiamondCutManagerStorage :=
  { dcms with
    facetAddress := Function.update dcms.facetAddress (key, selector) address
    selectorToFacetId := Function.update dcms.selectorToFacetId (key, selector) facetId }

/-- One round of `_registerInterfaceIds` or of `_cleanInterfacesIds`. -/
def setSupport (key : ConfigVersion) (isSupported : Bool)
    (dcms : DiamondCutManagerStorage) (interfaceId : Bytes4) : DiamondCutManagerStorage :=
  { dcms with
    supportsInterface := Function.update dcms.supportsInterface (key, interfaceId) isSupported }

def checkSelectorsBlacklist (configurationId : Bytes32) (selectors : List Bytes4) :
    ResolverTx Unit := do
  let state ← Tx.get
  selectors.forM fun selector =>
    Tx.require
      (contains (state.businessLogicResolver.selectorBlacklist configurationId) selector = false)
      (.selectorBlacklisted selector)

variable (facets : StaticFunctionSelectors)

def registerSelectors (key : ConfigVersion) (facetId : Bytes32) (static : Address) :
    ResolverTx Unit := do
  let selectors ← Tx.ofOption .externalCallFailed (facets.getStaticFunctionSelectors static)
  checkSelectorsBlacklist key.1 selectors
  onManager (setSelectors key facetId selectors)
  onManager fun dcms => selectors.foldl (setRoute key facetId static) dcms

def registerInterfaceIds (key : ConfigVersion) (facetId : Bytes32) (static : Address) :
    ResolverTx Unit := do
  let interfaceIds ← Tx.ofOption .externalCallFailed (facets.getStaticInterfaceIds static)
  onManager (setInterfaceIds key facetId interfaceIds)
  onManager fun dcms => interfaceIds.foldl (setSupport key true) dcms

/-- One round of `_addFacetsToBatchConfiguration`. The version is resolved by
the internal function, which does not check that it exists. -/
def addFacetToBatchConfiguration (key : ConfigVersion) (facet : FacetConfiguration) :
    ResolverTx Unit := do
  onManager (pushFacet key facet)
  let address ← onRegistry (resolveBusinessLogicByVersion facet.id facet.version)
  Tx.require (address ≠ 0) (.facetIdNotRegistered key.1 facet.id)
  let state ← Tx.get
  Tx.require (state.diamondCutManager.addr (key, facet.id) = 0)
    (.duplicatedFacetInConfiguration facet.id)
  onManager (setAddr key facet.id address)
  registerSelectors facets key facet.id address
  registerInterfaceIds facets key facet.id address

def addFacetsToBatchConfiguration (key : ConfigVersion)
    (facetConfigurations : List FacetConfiguration) : ResolverTx Unit :=
  facetConfigurations.forM fun facet => addFacetToBatchConfiguration facets key facet

/-- The version of the batch under way, or of one that starts here. -/
def ongoingVersion (configurationId : Bytes32) : ResolverTx Nat := do
  let state ← Tx.get
  if isOngoingConfiguration state.diamondCutManager configurationId then
    return state.diamondCutManager.batchVersion configurationId
  else
    onManager (startBatchConfiguration configurationId)
    let started ← Tx.get
    return started.diamondCutManager.batchVersion configurationId

def createConfiguration (configurationId : Bytes32)
    (facetConfigurations : List FacetConfiguration) : ResolverTx Nat := do
  let latestVersion ← ongoingVersion configurationId
  addFacetsToBatchConfiguration facets (configurationId, latestVersion) facetConfigurations
  onManager (activateConfiguration configurationId true)
  return latestVersion

def createBatchConfiguration (configurationId : Bytes32)
    (facetConfigurations : List FacetConfiguration) (isLastBatch : Bool) : ResolverTx Nat := do
  let latestVersion ← ongoingVersion configurationId
  addFacetsToBatchConfiguration facets (configurationId, latestVersion) facetConfigurations
  onManager (activateConfiguration configurationId isLastBatch)
  return latestVersion

/-! ## Cancelling a batch -/

def cleanSelectors (key : ConfigVersion) (facetId : Bytes32) (dcms : DiamondCutManagerStorage) :
    DiamondCutManagerStorage :=
  setSelectors key facetId [] ((dcms.selectors (key, facetId)).foldl (setRoute key 0 0) dcms)

def cleanInterfacesIds (key : ConfigVersion) (facetId : Bytes32)
    (dcms : DiamondCutManagerStorage) : DiamondCutManagerStorage :=
  setInterfaceIds key facetId []
    ((dcms.interfaceIds (key, facetId)).foldl (setSupport key false) dcms)

def cleanFacet (key : ConfigVersion) (dcms : DiamondCutManagerStorage) (facetId : Bytes32) :
    DiamondCutManagerStorage :=
  cleanInterfacesIds key facetId (cleanSelectors key facetId (setAddr key facetId 0 dcms))

def cancelBatchConfiguration (configurationId : Bytes32) (dcms : DiamondCutManagerStorage) :
    DiamondCutManagerStorage :=
  let key := (configurationId, dcms.batchVersion configurationId)
  let cleaned := (dcms.facetIds key).foldl (cleanFacet key) dcms
  { cleaned with
    facetVersions := Function.update cleaned.facetVersions key []
    facetIds := Function.update cleaned.facetIds key []
    batchVersion := Function.update cleaned.batchVersion configurationId 0 }

/-! ## Views -/

structure Facet where
  id : Bytes32
  addr : Address
  selectors : List Bytes4
  interfaceIds : List Bytes4

section Views

variable (dcms : DiamondCutManagerStorage) (configurationId : Bytes32) (version : Nat)

def resolveResolverProxyCall (selector : Bytes4) : Address :=
  dcms.facetAddress ((configurationId, resolveVersion dcms configurationId version), selector)

def resolveSupportsInterface (interfaceId : Bytes4) : Bool :=
  dcms.supportsInterface
    ((configurationId, resolveVersion dcms configurationId version), interfaceId)

/-- All pages of the list at once. -/
def getFacetIdsByConfigurationIdAndVersion : List Bytes32 :=
  dcms.facetIds (configurationId, resolveVersion dcms configurationId version)

def getFacetIdByConfigurationIdVersionAndSelector (selector : Bytes4) : Bytes32 :=
  dcms.selectorToFacetId ((configurationId, resolveVersion dcms configurationId version), selector)

def getFacetByConfigurationIdVersionAndFacetId (facetId : Bytes32) : Facet :=
  let key := ((configurationId, resolveVersion dcms configurationId version), facetId)
  { id := facetId
    addr := dcms.addr key
    selectors := dcms.selectors key
    interfaceIds := dcms.interfaceIds key }

end Views

end StablecoinStudio.Resolver.DiamondCutManagerWrapper
