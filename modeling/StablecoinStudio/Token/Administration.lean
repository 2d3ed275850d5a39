import StablecoinStudio.Token.Treasury

/-!
# Administration of the token and of the proxy

`HederaTokenManagerFacet.sol` with the initializer, the facets that pause,
freeze, grant KYC, delete and set custom fees, `TokenOwnerFacet.sol`, and
`DiamondCutFacet.sol`, which points the proxy at its configuration.
-/

namespace StablecoinStudio.Token.Administration

open StablecoinStudio.Core.Common
open StablecoinStudio.Core.Constants
open StablecoinStudio.Foundation.CheckedInt
open StablecoinStudio.Foundation.Transaction
open StablecoinStudio.Token.ProxyState
open StablecoinStudio.Token.Reserve
open StablecoinStudio.Token.Roles
open StablecoinStudio.Token.Services
open StablecoinStudio.Token.SupplierAdmin
open StablecoinStudio.Token.Treasury

set_option autoImplicit false

variable {world : Type} (p : Platform world)

/-! ## Requests that a role guards -/

/-- The common shape of the administrative facets: a role, an account that is
not zero where there is one, and one request. -/
def administer (role : Bytes32) (request : (token : Address) → AdministrativeRequest) :
    FacetTx world Bool := do
  RolesStorageWrapper.onlyRole role
  TokenOwnerStorageWrapper.checkedService fun token => p.administer (request token)

def administerAccount (role : Bytes32) (account : Address)
    (request : (token account : Address) → AdministrativeRequest) : FacetTx world Bool := do
  RolesStorageWrapper.onlyRole role
  addressIsNotZero account
  TokenOwnerStorageWrapper.checkedService fun token => p.administer (request token account)

def pause : FacetTx world Bool := administer p pauseRole .pauseToken

def unpause : FacetTx world Bool := administer p pauseRole .unpauseToken

def freeze (account : Address) : FacetTx world Bool :=
  administerAccount p freezeRole account .freezeToken

def unfreeze (account : Address) : FacetTx world Bool :=
  administerAccount p freezeRole account .unfreezeToken

def grantKyc (account : Address) : FacetTx world Bool :=
  administerAccount p kycRole account .grantTokenKyc

def revokeKyc (account : Address) : FacetTx world Bool :=
  administerAccount p kycRole account .revokeTokenKyc

def deleteToken : FacetTx world Bool := administer p deleteRole .deleteToken

def updateTokenCustomFees (fixedFees : List FixedFee) (fractionalFees : List FractionalFee) :
    FacetTx world Bool :=
  administer p customFeesRole fun token =>
    .updateFungibleTokenCustomFees token fixedFees fractionalFees

/-! ## The token manager -/

structure RolesStruct where
  role : Bytes32
  account : Address

structure CashinRoleStruct where
  account : Address
  allowance : Uint256

structure InitializeStruct where
  token : HederaToken
  initialTotalSupply : Sint64
  tokenDecimals : Sint32
  originalSender : Address
  reserveAddress : Address
  updatedAtThreshold : Uint256
  roles : List RolesStruct
  cashinRole : CashinRoleStruct
  tokenMetadataURI : String

structure KeysStruct where
  keyType : Uint256
  publicKey : Bytes
  isEd25519 : Bool

structure UpdateTokenStruct where
  tokenName : String
  tokenSymbol : String
  keys : List KeysStruct
  second : Sint64
  autoRenewPeriod : Sint64
  tokenMetadataURI : String

namespace KeysLib

def generateKey (publicKey : Bytes) (stableCoinProxyAddress : Address) (isEd25519 : Bool) :
    KeyValue :=
  if publicKey.length = 0 then { delegatableContractId := stableCoinProxyAddress }
  else if isEd25519 then { ed25519 := publicKey }
  else { ecdsaSecp256k1 := publicKey }

def containsKey (keyBitIndex : Nat) (keyType : Uint256) : Bool := keyType.toNat.testBit keyBitIndex

end KeysLib

def adminKeyBit : Nat := 0

def supplyKeyBit : Nat := 4

namespace HederaTokenManagerFacet

def lessThan100 (text : String) : FacetTx world Unit :=
  Tx.require (text.utf8ByteSize ≤ 100) (.moreThan100Error text)

def setMetadata (metadata : String) : FacetTx world Unit :=
  Tx.modify fun state => { state with metadata := metadata }

/-- `_grantInitialRoles`: the cash-in branch is that of `grantRoles`. -/
def grantInitialRoles (originalSender : Address) (roles : List RolesStruct)
    (cashin : CashinRoleStruct) : FacetTx world Unit := do
  roles.forM fun entry => RolesStorageWrapper.grantRole entry.role entry.account
  if cashin.account ≠ 0 then RoleManagementFacet.grantCashin cashin.account cashin.allowance
  else pure ()
  RolesStorageWrapper.grantRole adminRole originalSender

def transferFundsBackToOriginalSender (originalSender : Address) : FacetTx world Unit := do
  let state ← Tx.get
  let currentBalance := p.hbarBalance state.world
  if currentBalance = 0 then pure ()
  else sendHbar p originalSender currentBalance (.refundingError currentBalance)

def createFungibleToken (init : InitializeStruct) : FacetTx world (Sint64 × Address) := do
  let msg ← Tx.read
  Tx.request fun state =>
    let answer := p.createFungibleToken init.token init.initialTotalSupply init.tokenDecimals
      msg.value state.world
    (answer.1, { state with world := answer.2 })

def initialize_ (init : InitializeStruct) : FacetTx world Address := do
  let state ← Tx.get
  Tx.require (state.initialized hederaTokenManagerResolverKey = false)
    (.contractIsAlreadyInitialized hederaTokenManagerResolverKey)
  addressIsNotZero init.originalSender
  lessThan100 init.tokenMetadataURI
  setMetadata init.tokenMetadataURI
  ReserveStorageWrapper.reserveInit init.reserveAddress init.updatedAtThreshold
  grantInitialRoles init.originalSender init.roles init.cashinRole
  let created ← createFungibleToken p init
  let _ ← checkResponse created.1
  Tx.modify fun state => { state with tokenAddress := created.2 }
  transferFundsBackToOriginalSender p init.originalSender
  Tx.modify fun state =>
    { state with
      initialized := Function.update state.initialized hederaTokenManagerResolverKey true }
  return created.2

/-- One key of `updateToken`; the admin and the supply key stay as they are. -/
def hederaKey (key : KeysStruct) : Except Revert TokenKey :=
  if KeysLib.containsKey adminKeyBit key.keyType ∧ key.publicKey.length ≠ 0 then
    .error .adminKeyUpdateError
  else if KeysLib.containsKey supplyKeyBit key.keyType ∧ key.publicKey.length ≠ 0 then
    .error .supplyKeyUpdateError
  else
    .ok { keyType := key.keyType
          key := KeysLib.generateKey key.publicKey p.proxy key.isEd25519 }

/-- Unset names stay empty and negative times stay zero; the memo is kept. -/
def updateHederaTokenInfo (updatedToken : UpdateTokenStruct) (hederaKeys : List TokenKey) :
    FacetTx world HederaToken := do
  let state ← Tx.get
  let info := p.getTokenInfo state.tokenAddress state.world
  let _ ← checkResponse info.1
  return {
    name := updatedToken.tokenName
    symbol := updatedToken.tokenSymbol
    tokenKeys := hederaKeys
    memo := info.2.memo
    expiry := {
      second := if 0 ≤ updatedToken.second.toInt then updatedToken.second else 0
      autoRenewPeriod :=
        if 0 ≤ updatedToken.autoRenewPeriod.toInt then updatedToken.autoRenewPeriod else 0
    }
  }

def updateToken (updatedToken : UpdateTokenStruct) : FacetTx world Unit := do
  lessThan100 updatedToken.tokenMetadataURI
  RolesStorageWrapper.onlyRole adminRole
  setMetadata updatedToken.tokenMetadataURI
  let hederaKeys ← Tx.lift (updatedToken.keys.mapM (hederaKey p))
  let hederaToken ← updateHederaTokenInfo p updatedToken hederaKeys
  let _ ← TokenOwnerStorageWrapper.checkedService fun token =>
    p.administer (.updateTokenInfo token hederaToken)

def name : FacetTx world String := do
  let state ← Tx.get
  return p.tokenName state.tokenAddress state.world

def symbol : FacetTx world String := do
  let state ← Tx.get
  return p.tokenSymbol state.tokenAddress state.world

def getMetadata : FacetTx world String := do
  let state ← Tx.get
  return state.metadata

end HederaTokenManagerFacet

/-! ## The configuration of the proxy -/

namespace DiamondCutFacet

def checkRegistered (resolver : Address) (configurationId : Bytes32) (version : Nat) :
    FacetTx world Unit := do
  let state ← Tx.get
  Tx.require (p.configurationRegistered resolver configurationId version state.world = true)
    (.resolverProxyConfigurationNoRegistered configurationId version)

def updateConfigVersion (newVersion : Nat) : FacetTx world Unit := do
  RolesStorageWrapper.onlyRole adminRole
  let state ← Tx.get
  checkRegistered p state.resolverProxy.resolver state.resolverProxy.resolverProxyConfigurationId
    newVersion
  Tx.modify fun state =>
    { state with resolverProxy := { state.resolverProxy with version := newVersion } }

def updateConfig (newConfigurationId : Bytes32) (newVersion : Nat) : FacetTx world Unit := do
  RolesStorageWrapper.onlyRole adminRole
  let state ← Tx.get
  checkRegistered p state.resolverProxy.resolver newConfigurationId newVersion
  Tx.modify fun state =>
    { state with
      resolverProxy := ⟨state.resolverProxy.resolver, newConfigurationId, newVersion⟩ }

def updateResolver (newResolver : Address) (newConfigurationId : Bytes32) (newVersion : Nat) :
    FacetTx world Unit := do
  RolesStorageWrapper.onlyRole adminRole
  checkRegistered p newResolver newConfigurationId newVersion
  Tx.modify fun state =>
    { state with resolverProxy := ⟨newResolver, newConfigurationId, newVersion⟩ }

def getConfigInfo : FacetTx world ResolverProxyStorage := do
  let state ← Tx.get
  return state.resolverProxy

end DiamondCutFacet

/-! ## What committed calls do -/

section Committed

variable {p} {environment : Msg} {before after : State world}

theorem administer_ok {role : Bytes32} {request : (token : Address) → AdministrativeRequest}
    {result : Bool} (committed : administer p role request environment before = .ok (result, after)) :
    RolesStorage.hasRole before.roles role environment.sender = true ∧
      p.administer (request before.tokenAddress) before.world = (success, after.world) ∧
      after = { before with world := after.world } := by
  simp only [administer, Tx.bind_ok, RolesStorageWrapper.only_role_ok,
    TokenOwnerStorageWrapper.checked_service_ok] at committed
  obtain ⟨_, _, ⟨role, rfl⟩, answered, frame, _⟩ := committed
  exact ⟨role, answered, frame⟩

theorem administer_account_ok {role : Bytes32} {account : Address}
    {request : (token account : Address) → AdministrativeRequest} {result : Bool}
    (committed : administerAccount p role account request environment before =
      .ok (result, after)) :
    RolesStorage.hasRole before.roles role environment.sender = true ∧ account ≠ 0 ∧
      p.administer (request before.tokenAddress account) before.world = (success, after.world) ∧
      after = { before with world := after.world } := by
  simp only [administerAccount, Tx.bind_ok, RolesStorageWrapper.only_role_ok, Tx.require_ok,
    TokenOwnerStorageWrapper.checked_service_ok] at committed
  obtain ⟨_, _, ⟨role, rfl⟩, _, _, ⟨isSet, rfl⟩, answered, frame, _⟩ := committed
  exact ⟨role, isSet, answered, frame⟩

theorem update_info_reads {updatedToken : UpdateTokenStruct} {hederaKeys : List TokenKey}
    {result : HederaToken}
    (committed : HederaTokenManagerFacet.updateHederaTokenInfo p updatedToken hederaKeys
      environment before = .ok (result, after)) : before = after := by
  simp only [HederaTokenManagerFacet.updateHederaTokenInfo, Tx.bind_ok, Tx.get_ok,
    check_response_ok, Tx.pure_ok] at committed
  obtain ⟨_, _, ⟨rfl, rfl⟩, _, _, ⟨_, _, rfl⟩, _, rfl⟩ := committed
  rfl

theorem update_token_ok {updatedToken : UpdateTokenStruct} {result : Unit}
    (committed : HederaTokenManagerFacet.updateToken p updatedToken environment before =
      .ok (result, after)) :
    RolesStorage.hasRole before.roles adminRole environment.sender = true ∧
      (∃ hederaToken, p.administer (.updateTokenInfo before.tokenAddress hederaToken)
        before.world = (success, after.world)) ∧
      after =
        { before with metadata := updatedToken.tokenMetadataURI, world := after.world } := by
  simp only [HederaTokenManagerFacet.updateToken, HederaTokenManagerFacet.lessThan100,
    HederaTokenManagerFacet.setMetadata, Tx.bind_ok, Tx.require_ok,
    RolesStorageWrapper.only_role_ok, Tx.modify_ok, Tx.lift_ok, Tx.pure_ok,
    TokenOwnerStorageWrapper.checked_service_ok] at committed
  obtain ⟨_, _, ⟨_, rfl⟩, _, _, ⟨role, rfl⟩, _, _, rfl, hederaKeys, _, ⟨_, rfl⟩, hederaToken, _,
    informed, _, settled, ⟨answered, frame, _⟩, _, rfl⟩ := committed
  have kept := update_info_reads informed
  subst kept
  exact ⟨role, ⟨hederaToken, answered⟩, frame⟩

/-- The update and the registration check of `DiamondCutFacet`, in one form. -/
theorem update_config_version_ok {newVersion : Nat} {result : Unit}
    (committed : DiamondCutFacet.updateConfigVersion p newVersion environment before =
      .ok (result, after)) :
    RolesStorage.hasRole before.roles adminRole environment.sender = true ∧
      p.configurationRegistered before.resolverProxy.resolver
        before.resolverProxy.resolverProxyConfigurationId newVersion before.world = true ∧
      after = { before with resolverProxy := { before.resolverProxy with version := newVersion } } := by
  simp only [DiamondCutFacet.updateConfigVersion, DiamondCutFacet.checkRegistered, Tx.bind_ok,
    RolesStorageWrapper.only_role_ok, Tx.get_ok, Tx.require_ok, Tx.modify_ok] at committed
  obtain ⟨_, _, ⟨role, rfl⟩, _, _, ⟨rfl, rfl⟩, _, _, ⟨_, _, ⟨rfl, rfl⟩, registered, rfl⟩, rfl⟩ :=
    committed
  exact ⟨role, registered, rfl⟩

theorem update_config_ok {newConfigurationId : Bytes32} {newVersion : Nat} {result : Unit}
    (committed : DiamondCutFacet.updateConfig p newConfigurationId newVersion environment before =
      .ok (result, after)) :
    RolesStorage.hasRole before.roles adminRole environment.sender = true ∧
      p.configurationRegistered before.resolverProxy.resolver newConfigurationId newVersion
        before.world = true ∧
      after =
        { before with
          resolverProxy := ⟨before.resolverProxy.resolver, newConfigurationId, newVersion⟩ } := by
  simp only [DiamondCutFacet.updateConfig, DiamondCutFacet.checkRegistered, Tx.bind_ok,
    RolesStorageWrapper.only_role_ok, Tx.get_ok, Tx.require_ok, Tx.modify_ok] at committed
  obtain ⟨_, _, ⟨role, rfl⟩, _, _, ⟨rfl, rfl⟩, _, _, ⟨_, _, ⟨rfl, rfl⟩, registered, rfl⟩, rfl⟩ :=
    committed
  exact ⟨role, registered, rfl⟩

theorem update_resolver_ok {newResolver : Address} {newConfigurationId : Bytes32}
    {newVersion : Nat} {result : Unit}
    (committed : DiamondCutFacet.updateResolver p newResolver newConfigurationId newVersion
      environment before = .ok (result, after)) :
    RolesStorage.hasRole before.roles adminRole environment.sender = true ∧
      p.configurationRegistered newResolver newConfigurationId newVersion before.world = true ∧
      after =
        { before with resolverProxy := ⟨newResolver, newConfigurationId, newVersion⟩ } := by
  simp only [DiamondCutFacet.updateResolver, DiamondCutFacet.checkRegistered, Tx.bind_ok,
    RolesStorageWrapper.only_role_ok, Tx.get_ok, Tx.require_ok, Tx.modify_ok] at committed
  obtain ⟨_, _, ⟨role, rfl⟩, _, _, ⟨_, _, ⟨rfl, rfl⟩, registered, rfl⟩, rfl⟩ := committed
  exact ⟨role, registered, rfl⟩

/-! ## The initializer -/

/-- The state that the remaining HBAR is refunded in, and the new token: the
first part of the initializer. -/
structure Prepared (p : Platform world) (environment : Msg) (init : InitializeStruct)
    (before : State world) (token : Address) (prepared : State world) : Prop where
  first : before.initialized hederaTokenManagerResolverKey = false
  sender : init.originalSender ≠ 0
  short : init.tokenMetadataURI.utf8ByteSize ≤ 100
  created : ∃ granted : State world,
    HederaTokenManagerFacet.grantInitialRoles init.originalSender init.roles init.cashinRole
        environment
        { before with
          metadata := init.tokenMetadataURI
          reserve := ⟨init.reserveAddress, init.updatedAtThreshold⟩ } = .ok ((), granted) ∧
      ∃ later, p.createFungibleToken init.token init.initialTotalSupply init.tokenDecimals
          environment.value granted.world = ((success, token), later) ∧
        prepared = { granted with tokenAddress := token, world := later }

theorem transfer_funds_back_ok {originalSender : Address} {result : Unit} :
    HederaTokenManagerFacet.transferFundsBackToOriginalSender p originalSender environment before =
        .ok (result, after) ↔
      (p.hbarBalance before.world = 0 ∧ before = after) ∨
        (p.hbarBalance before.world ≠ 0 ∧
          p.sendValue originalSender (p.hbarBalance before.world) before = some after) := by
  simp only [HederaTokenManagerFacet.transferFundsBackToOriginalSender, Tx.bind_ok, Tx.get_ok,
    and_assoc, exists_and_left, exists_eq_left']
  by_cases empty : p.hbarBalance before.world = 0
  · simp [empty]
  · simp [empty, sendHbar]

/-- What a committed initialization did: its first part, the refund, the flag. -/
theorem initialize_ok {init : InitializeStruct} {token : Address} :
    HederaTokenManagerFacet.initialize_ p init environment before = .ok (token, after) ↔
      ∃ prepared refunded, Prepared p environment init before token prepared ∧
        HederaTokenManagerFacet.transferFundsBackToOriginalSender p init.originalSender environment
          prepared = .ok ((), refunded) ∧
        after =
          { refunded with
            initialized :=
              Function.update refunded.initialized hederaTokenManagerResolverKey true } := by
  simp only [HederaTokenManagerFacet.initialize_, HederaTokenManagerFacet.lessThan100,
    HederaTokenManagerFacet.setMetadata, HederaTokenManagerFacet.createFungibleToken,
    ReserveStorageWrapper.reserveInit, Tx.bind_ok, Tx.get_ok, Tx.require_ok, Tx.modify_ok,
    Tx.read_ok, Tx.request_ok, check_response_ok, Tx.pure_ok, and_assoc, exists_and_left,
    exists_eq_left', exists_const, Prod.mk.injEq]
  constructor
  · intro committed
    obtain ⟨first, sender, short, _, granted, granting, code, _, _, _, refunded, refunding, named,
      final⟩ := committed
    have answered : p.createFungibleToken init.token init.initialTotalSupply init.tokenDecimals
        environment.value granted.world = ((success, token),
          (p.createFungibleToken init.token init.initialTotalSupply init.tokenDecimals
            environment.value granted.world).2) := by
      rw [← code, ← named]
    rw [named] at refunding
    exact ⟨_, ⟨first, sender, short, granted, granting, _, answered, rfl⟩, refunded, refunding,
      final.symm⟩
  · intro described
    obtain ⟨_, ⟨first, sender, short, granted, granting, later, answered, rfl⟩, refunded, refunding,
      rfl⟩ := described
    refine ⟨first, sender, short, (), granted, granting, ?_⟩
    rw [answered]
    exact ⟨rfl, true, rfl, (), refunded, refunding, rfl, rfl⟩

end Committed

end StablecoinStudio.Token.Administration
