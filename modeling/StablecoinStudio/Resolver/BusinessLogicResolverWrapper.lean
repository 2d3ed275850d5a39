import StablecoinStudio.Core.EnumerableSetBytes4
import StablecoinStudio.Token.Roles

/-!
# The registry of business logics

`BusinessLogicResolverWrapper.sol`: for every facet id the addresses given at
its registrations, and for every configuration the selectors it may not route.
The hash of a packed key is modelled by the key itself, and versions are
counters that do not overflow.
-/

namespace StablecoinStudio.Resolver.BusinessLogicResolverWrapper

open StablecoinStudio.Core.Common
open StablecoinStudio.Core.EnumerableSetBytes4
open StablecoinStudio.Foundation.Transaction

set_option autoImplicit false

inductive VersionStatus where
  | none
  | activated
  | deactivated
deriving DecidableEq

structure VersionData where
  version : Nat
  status : VersionStatus
deriving DecidableEq

structure BusinessLogicVersion where
  versionData : VersionData
  businessLogicAddress : Address
deriving DecidableEq

structure BusinessLogicRegistryData where
  businessLogicKey : Bytes32
  businessLogicAddress : Address

structure BusinessLogicResolverDataStorage where
  activeBusinessLogics : List Bytes32
  businessLogicActive : Bytes32 → Bool
  businessLogics : Bytes32 → List BusinessLogicVersion
  businessLogicVersionIndex : Bytes32 × Nat → Nat
  selectorBlacklist : Bytes32 → Bytes4Set
  latestVersionByFacetId : Bytes32 → Nat
  statusByFacetIdAndVersion : Bytes32 × Nat → VersionStatus

def BusinessLogicResolverDataStorage.empty : BusinessLogicResolverDataStorage where
  activeBusinessLogics := []
  businessLogicActive _ := false
  businessLogics _ := []
  businessLogicVersionIndex _ := 0
  selectorBlacklist _ := Bytes4Set.empty
  latestVersionByFacetId _ := 0
  statusByFacetIdAndVersion _ := .none

abbrev RegistryTx := ContractTx BusinessLogicResolverDataStorage

/-! ## Registering -/

/-- The loop of `_checkValidKeys`, with the active keys met so far. -/
def checkKeys : List BusinessLogicRegistryData → Nat → RegistryTx Nat
  | [], activesBusinessLogicsKeys => pure activesBusinessLogicsKeys
  | data :: rest, activesBusinessLogicsKeys => do
      Tx.require (data.businessLogicKey ≠ 0) .zeroKeyNotValidForBusinessLogic
      Tx.require (data.businessLogicAddress ≠ 0) .zeroAddressNotValidForBusinessLogic
      let storage ← Tx.get
      rest.forM fun other =>
        Tx.require (data.businessLogicKey ≠ other.businessLogicKey)
          (.businessLogicKeyDuplicated data.businessLogicKey)
      checkKeys rest
        (if storage.businessLogicActive data.businessLogicKey then activesBusinessLogicsKeys + 1
          else activesBusinessLogicsKeys)

def checkValidKeys (businessLogics : List BusinessLogicRegistryData) : RegistryTx Unit := do
  let activesBusinessLogicsKeys ← checkKeys businessLogics 0
  let storage ← Tx.get
  Tx.require (activesBusinessLogicsKeys = storage.activeBusinessLogics.length)
    .allBusinessLogicKeysMustBeenInformed

/-- One round of `_registerBusinessLogics`. -/
def registerBusinessLogic (storage : BusinessLogicResolverDataStorage)
    (data : BusinessLogicRegistryData) : BusinessLogicResolverDataStorage :=
  let key := data.businessLogicKey
  let version := storage.latestVersionByFacetId key + 1
  let versions := storage.businessLogics key ++
    [⟨⟨version, .activated⟩, data.businessLogicAddress⟩]
  { storage with
    latestVersionByFacetId := Function.update storage.latestVersionByFacetId key version
    businessLogicActive := Function.update storage.businessLogicActive key true
    activeBusinessLogics :=
      if storage.businessLogicActive key then storage.activeBusinessLogics
      else storage.activeBusinessLogics ++ [key]
    businessLogics := Function.update storage.businessLogics key versions
    businessLogicVersionIndex :=
      Function.update storage.businessLogicVersionIndex (key, version) (versions.length - 1)
    statusByFacetIdAndVersion :=
      Function.update storage.statusByFacetIdAndVersion (key, version) .activated }

def registerBusinessLogics (businessLogics : List BusinessLogicRegistryData) : RegistryTx Unit :=
  Tx.modify fun storage => businessLogics.foldl registerBusinessLogic storage

/-! ## The blacklist -/

def onBlacklist {value : Type} (configurationId : Bytes32) (call : SetTx value) :
    RegistryTx value :=
  Tx.focus (fun storage => storage.selectorBlacklist configurationId)
    (fun storage set =>
      { storage with
        selectorBlacklist := Function.update storage.selectorBlacklist configurationId set })
    call

def addSelectorsToBlacklist (configurationId : Bytes32) (selectors : List Bytes4) :
    RegistryTx Unit :=
  selectors.forM fun selector => do
    let _ ← onBlacklist configurationId (add selector)

def removeSelectorsFromBlacklist (configurationId : Bytes32) (selectors : List Bytes4) :
    RegistryTx Unit :=
  selectors.forM fun selector => do
    let _ ← onBlacklist configurationId (remove selector)

/-! ## Resolving -/

/-- The modifier `validVersion`. -/
def checkValidVersion (businessLogicKey : Bytes32) (version : Nat) : RegistryTx Unit := do
  let storage ← Tx.get
  Tx.require (¬ (version = 0 ∨ version > storage.latestVersionByFacetId businessLogicKey))
    (.businessLogicVersionDoesNotExist version)

/-- Reads the position of the version, which is zero for a version that was
never registered. -/
def resolveBusinessLogicByVersion (businessLogicKey : Bytes32) (version : Nat) :
    RegistryTx Address := do
  let storage ← Tx.get
  if storage.businessLogicActive businessLogicKey then
    let position := storage.businessLogicVersionIndex (businessLogicKey, version)
    let businessLogicVersion ← Tx.ofOption (.panic .arrayOutOfBounds)
      (storage.businessLogics businessLogicKey)[position]?
    return businessLogicVersion.businessLogicAddress
  else return 0

def resolveLatestBusinessLogic (businessLogicKey : Bytes32) : RegistryTx Address := do
  let storage ← Tx.get
  resolveBusinessLogicByVersion businessLogicKey (storage.latestVersionByFacetId businessLogicKey)

def getVersionStatus (key : Bytes32) (version : Nat) : RegistryTx VersionStatus := do
  let storage ← Tx.get
  return storage.statusByFacetIdAndVersion (key, version)

end StablecoinStudio.Resolver.BusinessLogicResolverWrapper
