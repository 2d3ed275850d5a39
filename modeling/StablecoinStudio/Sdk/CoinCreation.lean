import StablecoinStudio.Foundation.Exceptions
import StablecoinStudio.Sdk.CashIn
import StablecoinStudio.Sdk.Validation
import StablecoinStudio.Token.Deployment

/-!
# Creating a coin with the SDK

A `CreateRequest` on its way to the factory: its validation, `create` of the
port, `CreateCommandHandler`, the `StableCoin` it makes and `TokenOperations`.
-/

namespace StablecoinStudio.Sdk.CoinCreation

open StablecoinStudio.Core.Common
open StablecoinStudio.Core.Constants
open StablecoinStudio.Foundation.CheckedInt
open StablecoinStudio.Foundation.DecimalTexts
open StablecoinStudio.Foundation.Exceptions
open StablecoinStudio.Sdk.BigDecimal
open StablecoinStudio.Sdk.CashIn
open StablecoinStudio.Sdk.FixedNumber
open StablecoinStudio.Sdk.StableCoins
open StablecoinStudio.Sdk.TokenKeys
open StablecoinStudio.Sdk.Validation
open StablecoinStudio.Token.Administration
open StablecoinStudio.Token.Deployment
open StablecoinStudio.Token.Services

set_option autoImplicit false

/-! ## Requests -/

/-- The fields that reach the factory. The ids of the configurations and the
threshold are given as the words that the encoder reads in them. -/
structure CreateRequest where
  name : String
  symbol : String
  decimals : Nat
  initialSupply : Option Text
  maxSupply : Option Text
  freezeDefault : Option Bool
  freezeKey : Option PublicKey
  kycKey : Option PublicKey
  wipeKey : Option PublicKey
  pauseKey : Option PublicKey
  feeScheduleKey : Option PublicKey
  supplyType : Option TokenSupplyType
  burnRoleAccount : Option Text
  wipeRoleAccount : Option Text
  rescueRoleAccount : Option Text
  pauseRoleAccount : Option Text
  freezeRoleAccount : Option Text
  deleteRoleAccount : Option Text
  kycRoleAccount : Option Text
  feeRoleAccount : Option Text
  holdCreatorRoleAccount : Option Text
  cashInRoleAccount : Option Text
  cashInRoleAllowance : Option Text
  metadata : Option String
  proxyOwnerAccount : Option Text
  createReserve : Bool
  reserveAddress : Option Text
  reserveInitialAmount : Option Text
  updatedAtThreshold : Option Uint256
  configId : Option Bytes32
  configVersion : Option Nat
  reserveConfigId : Option Bytes32
  reserveConfigVersion : Option Nat

inductive CreateFailure where
  | validationError (responses : List ValidationResponse)
  | invalidRequest (message : String)
  | operationNotAllowed (message : String)
  /-- What the package throws for a number. -/
  | invalidNumber
  | invalidId
  | invalidKey
  /-- What the mirror node's adapter or a query throws. -/
  | noAnswer
  /-- What `TokenOperations` makes of whatever is thrown in it. -/
  | signingError
deriving DecidableEq

abbrev Created (result : Type) := Except CreateFailure result

/-! ## Validation -/

section Validation

variable {fixed : Type} (ethers : FixedNumbers fixed) (request : CreateRequest)

/-- `CheckNums.isWithinRange`. -/
def isWithinRange (value min max : fixed) : Bool :=
  isLowerOrEqualThan ethers value max && isGreaterOrEqualThan ethers value min

def ZERO : Option fixed := BigDecimal.fromString ethers ['0'] (some 0)

def otherAmount (val : Option Text) (ownDecimals decimals : Nat) : Option (Option fixed) :=
  match truthy val with
  | none => some none
  | some text =>
      if isBigDecimal ethers text = false then some none
      else do
        if ← hasMoreDecimals ethers text ownDecimals then return none
        let number ← BigDecimal.fromString ethers text (some decimals)
        return some number

/-- `maxSupply ?? BigDecimal.fromValue(MAX_SUPPLY, decimals, decimals)`. -/
def supplyLimit (maxSupply : Option fixed) (decimals : Nat) : Option fixed :=
  match maxSupply with
  | some maxSupply => some maxSupply
  | none => ethers.fromValue MAX_SUPPLY decimals decimals

def checkInitialSupply (initialSupply : fixed) (decimals : Nat) (maxSupply : Option fixed) :
    Check := do
  let min ← ZERO ethers
  let max ← supplyLimit ethers maxSupply decimals
  if isWithinRange ethers initialSupply min max then return []
  return [.initSupplyInvalid (BigDecimal.toString ethers initialSupply) (match maxSupply with
    | some _ => "max supply"
    | none => shown ethers max ++ ". You could check the limits here: " ++
        "https://docs.hedera.com/guides/docs/hedera-api/token-service/tokencreate")]

def checkSupplyType (maxSupply zero : fixed) (supplyType : Option TokenSupplyType) :
    List BaseError :=
  if supplyType = some .infinite ∧ isGreaterThan ethers maxSupply zero = true then
    [.invalidMaxSupplySupplyType (BigDecimal.toString ethers maxSupply)]
  else []

def checkMaxSupply (maxSupply : fixed) (decimals : Nat) (initialSupply : Option fixed)
    (supplyType : Option TokenSupplyType) : Check := do
  let zero ← ZERO ethers
  let min := initialSupply.getD zero
  let max ← ethers.fromValue MAX_SUPPLY decimals decimals
  let belowMin :=
    if isLowerThan ethers maxSupply min then
      if ethers.value min = 0 then
        [.invalidAmount (BigDecimal.toString ethers maxSupply) (BigDecimal.toString ethers min)]
      else
        [.initSupplyLargerThanMaxSupply (BigDecimal.toString ethers min)
          (BigDecimal.toString ethers maxSupply)]
    else []
  let aboveMax :=
    if isGreaterThan ethers maxSupply max then
      [.maxSupplyOverLimit (BigDecimal.toString ethers maxSupply) (BigDecimal.toString ethers max)]
    else []
  return belowMin ++ aboveMax ++ checkSupplyType ethers maxSupply zero supplyType

def checkCashInAllowance (cashInAllowance : fixed) (decimals : Nat) :
    Check := do
  let max ← ethers.fromValue MAX_SUPPLY decimals decimals
  let min ← ZERO ethers
  if isWithinRange ethers cashInAllowance min max then return []
  return [.cashInAllowanceInvalid (BigDecimal.toString ethers cashInAllowance)]

def checkReserveInitialAmount (reserveInitialAmount : fixed) (decimals : Nat)
    (initialSupply : Option fixed) : Check := do
  let zero ← ZERO ethers
  let min := initialSupply.getD zero
  let max ← ethers.fromValue MAX_SUPPLY decimals decimals
  if isWithinRange ethers reserveInitialAmount min max then return []
  return [.initSupplyLargerThanReserveAmount (BigDecimal.toString ethers min)
    (BigDecimal.toString ethers reserveInitialAmount)]

def validateInitialSupply (val : Text) : Check :=
  if val = [] then some []
  else checkedAmount ethers val (some request.decimals) do
    let initialSupply ← BigDecimal.fromString ethers val (some request.decimals)
    let maxSupply ← otherAmount ethers request.maxSupply request.decimals request.decimals
    checkInitialSupply ethers initialSupply request.decimals maxSupply

/-- An empty text is looked at as well. -/
def validateMaxSupply (val : Text) : Check :=
  checkedAmount ethers val (some request.decimals) do
    let maxSupply ← BigDecimal.fromString ethers val (some request.decimals)
    let initialSupply ← otherAmount ethers request.initialSupply request.decimals request.decimals
    checkMaxSupply ethers maxSupply request.decimals initialSupply request.supplyType

def validateCashInRoleAllowance (val : Text) : Check :=
  if val = [] then some []
  else checkedAmount ethers val (some request.decimals) do
    let allowance ← BigDecimal.fromString ethers val (some request.decimals)
    checkCashInAllowance ethers allowance request.decimals

def commonDecimals (decimals : Nat) : Nat :=
  if RESERVE_DECIMALS > decimals then RESERVE_DECIMALS else decimals

def validateReserveInitialAmount (val : Text) : Check :=
  if val = [] ∨ request.createReserve = false then some []
  else checkedAmount ethers val (some RESERVE_DECIMALS) do
    let reserveInitialAmount ←
      BigDecimal.fromString ethers val (some (commonDecimals request.decimals))
    let initialSupply ← otherAmount ethers request.initialSupply request.decimals
      (commonDecimals request.decimals)
    checkReserveInitialAmount ethers reserveInitialAmount (commonDecimals request.decimals)
      initialSupply

/-- The amounts of the request. -/
def CreateRequest.schema : List Property :=
  [⟨"initialSupply", true, request.initialSupply.map (validateInitialSupply ethers request)⟩,
    ⟨"maxSupply", true, request.maxSupply.map (validateMaxSupply ethers request)⟩,
    ⟨"reserveInitialAmount", true,
      request.reserveInitialAmount.map (validateReserveInitialAmount ethers request)⟩,
    ⟨"cashInRoleAllowance", true,
      request.cashInRoleAllowance.map (validateCashInRoleAllowance ethers request)⟩]

def handleValidation : Created Unit :=
  throwWhen (validate (request.schema ethers) ≠ [])
    (.validationError (validate (request.schema ethers)))

end Validation

/-! ## `create` of the port -/

/-- `PublicKey.NULL`, for the contract of the coin. -/
def PublicKey.NULL : PublicKey := ⟨"null".toList, "null".toList⟩

structure StableCoinProps (fixed : Type) where
  name : String
  symbol : String
  decimals : Nat
  adminKey : PublicKey
  initialSupply : fixed
  maxSupply : Option fixed
  freezeKey : Option PublicKey
  freezeDefault : Option Bool
  wipeKey : Option PublicKey
  kycKey : Option PublicKey
  pauseKey : Option PublicKey
  supplyKey : PublicKey
  feeScheduleKey : Option PublicKey
  supplyType : Option TokenSupplyType
  burnRoleAccount : HederaId
  wipeRoleAccount : HederaId
  rescueRoleAccount : HederaId
  pauseRoleAccount : HederaId
  freezeRoleAccount : HederaId
  deleteRoleAccount : HederaId
  kycRoleAccount : HederaId
  cashInRoleAccount : HederaId
  feeRoleAccount : HederaId
  holdCreatorRoleAccount : HederaId
  cashInRoleAllowance : fixed
  metadata : Option String

structure CreateCommand (fixed : Type) where
  coin : StableCoinProps fixed
  createReserve : Bool
  factory : Option HederaId
  reserveAddress : Option HederaId
  updatedAtThreshold : Option Uint256
  reserveInitialAmount : Option fixed
  proxyOwnerAccount : Option HederaId
  resolver : Option HederaId
  configId : Option Bytes32
  configVersion : Option Nat
  reserveConfigVersion : Option Nat
  reserveConfigId : Option Bytes32

structure ContractInfo where
  id : Option Text
  evmAddress : Address

/-- What the mirror node answers for an id, what the contract at an address
answers for its last round, and the bytes that the package reads in a key. -/
structure Answers where
  getContractInfo : Text → Option ContractInfo
  accountToEvmAddress : Text → Option Address
  getReserveLatestRoundData : Address → Option Int
  toBytesRaw : Text → Option Bytes

/-- `networkService.configuration`. -/
structure Configuration where
  factoryAddress : Text
  resolverAddress : Option Text

section Creation

variable {fixed : Type} (ethers : FixedNumbers fixed) (answers : Answers)

def keyOf : Option PublicKey → Created (Option PublicKey)
  | none => return none
  | some key => do
      let made ← orThrow .invalidKey (PublicKey.new key.key key.type)
      return some made

def accountOf (account : Option Text) : Created HederaId :=
  orThrow .invalidId (HederaId.new (account.getD noAccount))

/-- `value ? make(value) : undefined`. -/
def whenGiven {result : Type} (value : Option Text) (make : Text → Created result) :
    Created (Option result) :=
  match truthy value with
  | none => return none
  | some text => do
      let made ← make text
      return some made

def stableCoinProps (req : CreateRequest) : Created (StableCoinProps fixed) := do
  let initialSupply ← orThrow .invalidNumber
    (BigDecimal.fromString ethers (req.initialSupply.getD ['0']) (some req.decimals))
  let maxSupply ← whenGiven req.maxSupply fun text =>
    orThrow .invalidNumber (BigDecimal.fromString ethers text (some req.decimals))
  let freezeKey ← keyOf req.freezeKey
  let wipeKey ← keyOf req.wipeKey
  let kycKey ← keyOf req.kycKey
  let pauseKey ← keyOf req.pauseKey
  let feeScheduleKey ← keyOf req.feeScheduleKey
  let burnRoleAccount ← accountOf req.burnRoleAccount
  let wipeRoleAccount ← accountOf req.wipeRoleAccount
  let rescueRoleAccount ← accountOf req.rescueRoleAccount
  let pauseRoleAccount ← accountOf req.pauseRoleAccount
  let freezeRoleAccount ← accountOf req.freezeRoleAccount
  let deleteRoleAccount ← accountOf req.deleteRoleAccount
  let kycRoleAccount ← accountOf req.kycRoleAccount
  let cashInRoleAccount ← accountOf req.cashInRoleAccount
  let feeRoleAccount ← accountOf req.feeRoleAccount
  let holdCreatorRoleAccount ← accountOf req.holdCreatorRoleAccount
  let cashInRoleAllowance ← orThrow .invalidNumber
    (BigDecimal.fromString ethers (req.cashInRoleAllowance.getD ['0']) (some req.decimals))
  return {
    name := req.name
    symbol := req.symbol
    decimals := req.decimals
    adminKey := PublicKey.NULL
    initialSupply := initialSupply
    maxSupply := maxSupply
    freezeKey := freezeKey
    freezeDefault := req.freezeDefault
    wipeKey := wipeKey
    kycKey := kycKey
    pauseKey := pauseKey
    supplyKey := PublicKey.NULL
    feeScheduleKey := feeScheduleKey
    supplyType := req.supplyType
    burnRoleAccount := burnRoleAccount
    wipeRoleAccount := wipeRoleAccount
    rescueRoleAccount := rescueRoleAccount
    pauseRoleAccount := pauseRoleAccount
    freezeRoleAccount := freezeRoleAccount
    deleteRoleAccount := deleteRoleAccount
    kycRoleAccount := kycRoleAccount
    cashInRoleAccount := cashInRoleAccount
    feeRoleAccount := feeRoleAccount
    holdCreatorRoleAccount := holdCreatorRoleAccount
    cashInRoleAllowance := cashInRoleAllowance
    metadata := req.metadata
  }

def contractId (value : Text) : Created HederaId := orThrow .invalidId (ContractId.new value)

def createCommand (configuration : Configuration) (req : CreateRequest) :
    Created (CreateCommand fixed) := do
  handleValidation ethers req
  let coin ← stableCoinProps ethers req
  let stableCoinFactoryId ←
    orThrow .noAnswer (answers.getContractInfo configuration.factoryAddress)
  let reserveAddressId ← whenGiven req.reserveAddress fun reserveAddress =>
    orThrow .noAnswer (answers.getContractInfo reserveAddress)
  let factory ← whenGiven stableCoinFactoryId.id contractId
  let reserveAddress ← whenGiven (reserveAddressId.bind ContractInfo.id) contractId
  let reserveInitialAmount ← whenGiven req.reserveInitialAmount fun text =>
    orThrow .invalidNumber (BigDecimal.fromString ethers text (some RESERVE_DECIMALS))
  let proxyOwnerAccount ← whenGiven req.proxyOwnerAccount fun account =>
    orThrow .invalidId (HederaId.new account)
  let resolver ← whenGiven configuration.resolverAddress contractId
  return {
    coin := coin
    createReserve := req.createReserve
    factory := factory
    reserveAddress := reserveAddress
    updatedAtThreshold := req.updatedAtThreshold
    reserveInitialAmount := reserveInitialAmount
    proxyOwnerAccount := proxyOwnerAccount
    resolver := resolver
    configId := req.configId
    configVersion := req.configVersion
    reserveConfigVersion := req.reserveConfigVersion
    reserveConfigId := req.reserveConfigId
  }

/-! ## `TokenOperations` -/

/-- `EvmAddressResolver.resolve`, for an account. -/
def resolve (account : HederaId) : Option Address :=
  if account.value = noAccount then some 0 else answers.accountToEvmAddress account.value

def resolveContract (contract : HederaId) : Option Address :=
  (answers.getContractInfo contract.value).map ContractInfo.evmAddress

def resolveReserve : Option HederaId → Option Address
  | none => some 0
  | some reserveAddress =>
      if reserveAddress.value = noAccount then some 0 else resolveContract answers reserveAddress

def KEY_TYPE_BITS : List Nat := [1, 2, 4, 8, 16, 32, 64]

def publicKeyBytes (providedKey : PublicKey) : Option Bytes :=
  if providedKey.key = PublicKey.NULL.key then some [] else answers.toBytesRaw providedKey.key

def keyStruct (keyType : Nat) (providedKey : PublicKey) : Option KeysStruct := do
  let keyType ← Uint.checked keyType
  let publicKey ← publicKeyBytes answers providedKey
  return ⟨keyType, publicKey, providedKey.type = "ED25519".toList⟩

def buildKeysForSmartContract (providedKeys : List (Option PublicKey)) :
    Option (List KeysStruct) :=
  ((KEY_TYPE_BITS.zip providedKeys).filterMap fun bit => bit.2.map (Prod.mk bit.1)).mapM
    fun bit => keyStruct answers bit.1 bit.2

def baseRoles (coin : StableCoinProps fixed) (proxyOwnerAccount : HederaId) :
    List (HederaId × Bytes32) :=
  [(proxyOwnerAccount, adminRole), (coin.burnRoleAccount, burnRole),
    (coin.wipeRoleAccount, wipeRole), (coin.rescueRoleAccount, rescueRole),
    (coin.pauseRoleAccount, pauseRole), (coin.freezeRoleAccount, freezeRole),
    (coin.deleteRoleAccount, deleteRole), (coin.kycRoleAccount, kycRole),
    (coin.feeRoleAccount, customFeesRole), (coin.holdCreatorRoleAccount, holdCreatorRole)]

def factoryRole (entry : HederaId × Bytes32) : Option RolesStruct := do
  let account ← resolve answers entry.1
  return ⟨entry.2, account⟩

def factoryRoles (coin : StableCoinProps fixed) (proxyOwnerAccount : HederaId) :
    Option (List RolesStruct) :=
  ((baseRoles coin proxyOwnerAccount).filter fun entry => entry.1.value ≠ noAccount).mapM
    (factoryRole answers)

def UINT256_MAX : Int := 2 ^ 256 - 1

/-- An allowance of zero stands for none. -/
def factoryCashinRole (coin : StableCoinProps fixed) : Option CashinRoleStruct := do
  let account ← resolve answers coin.cashInRoleAccount
  let allowance ← Uint.checked
    (if BigDecimal.toString ethers coin.cashInRoleAllowance = ['0'] then UINT256_MAX
    else toBigInt ethers coin.cashInRoleAllowance)
  return ⟨account, allowance⟩

/-- `new StableCoin(coin)`: a type that is not given follows from the maximum. -/
def supplyTypeOf (coin : StableCoinProps fixed) : Option TokenSupplyType := do
  match coin.supplyType with
  | some supplyType => return supplyType
  | none =>
      let zero ← ZERO ethers
      if coin.maxSupply.any fun maxSupply => isGreaterThan ethers maxSupply zero then
        return .finite
      return .infinite

/-- `create` of `TokenOperations` up to the call of `deployStableCoin`, whose
arguments have to fit their types. -/
def stableCoinToCreate (command : CreateCommand fixed) (resolver proxyOwnerAccount : HederaId)
    (configId : Bytes32) (configVersion : Nat) : Option CoinRequest := do
  let coin := command.coin
  let supplyType ← supplyTypeOf ethers coin
  let cashinRole ← factoryCashinRole ethers answers coin
  let keys ← buildKeysForSmartContract answers [some coin.adminKey, coin.kycKey, coin.freezeKey,
    coin.wipeKey, some coin.supplyKey, coin.feeScheduleKey, coin.pauseKey]
  let roles ← factoryRoles answers coin proxyOwnerAccount
  let resolverEvm ← resolveContract answers resolver
  let reserveEvm ← resolveReserve answers command.reserveAddress
  let maxSupply ← Sint.checked ((coin.maxSupply.map (toBigInt ethers)).getD 0)
  let initialSupply ← Sint.checked (toBigInt ethers coin.initialSupply)
  let decimals ← Sint.checked coin.decimals
  let reserveInitialAmount ←
    Sint.checked ((command.reserveInitialAmount.map (toBigInt ethers)).getD 0)
  return {
    tokenName := coin.name
    tokenSymbol := coin.symbol
    freeze := coin.freezeDefault.getD false
    supplyType := supplyType = .finite
    tokenMaxSupply := maxSupply
    tokenInitialSupply := initialSupply
    tokenDecimals := decimals
    updatedAtThreshold := command.updatedAtThreshold.getD 0
    keys := keys
    roles := roles
    cashinRole := cashinRole
    metadata := coin.metadata.getD ""
    createReserve := command.createReserve
    reserveAddress := reserveEvm
    reserveInitialAmount := reserveInitialAmount
    businessLogicResolverAddress := resolverEvm
    stableCoinConfigurationId := ⟨configId, configVersion⟩
    reserveConfigurationId :=
      if command.createReserve then
        ⟨command.reserveConfigId.getD 0, command.reserveConfigVersion.getD 0⟩
      else ⟨0, 0⟩
  }

/-! ## `CreateCommandHandler` -/

/-- The whole parts of both are compared. -/
def supplyAbove (coin : StableCoinProps fixed) (reserveAmount : fixed) : Created Bool := do
  let supply ← orThrow .invalidNumber
    (setDecimals ethers coin.initialSupply (commonDecimals coin.decimals))
  let reserve ← orThrow .invalidNumber
    (setDecimals ethers reserveAmount (commonDecimals coin.decimals))
  return isGreaterThan ethers supply reserve

def reserveTooSmall : CreateFailure :=
  .operationNotAllowed "Initial supply cannot be more than the reserve initial amount"

def checkReserveAddress (command : CreateCommand fixed) : Created Unit :=
  match command.reserveAddress with
  | none => return ()
  | some reserveAddress => do
      let info ← orThrow .noAnswer (answers.getContractInfo reserveAddress.value)
      let answer ← orThrow .noAnswer (answers.getReserveLatestRoundData info.evmAddress)
      let reserveAmount ← orThrow .invalidNumber
        (fromStringFixed ethers (integerDigits answer) RESERVE_DECIMALS)
      let above ← supplyAbove ethers command.coin reserveAmount
      throwWhen (above = true) reserveTooSmall

def checkFirstReserve (command : CreateCommand fixed) : Created Unit := do
  match command.createReserve, command.reserveInitialAmount with
  | true, some reserveInitialAmount => do
      let above ← supplyAbove ethers command.coin reserveInitialAmount
      throwWhen (above = true) reserveTooSmall
  | _, _ => return ()
  checkReserveAddress ethers answers command

/-- `execute`, up to the request that the factory is called with. -/
def execute (command : CreateCommand fixed) : Created CoinRequest := do
  let _ ← orThrow (.invalidRequest "Factory not found in request") command.factory
  let resolver ← orThrow (.invalidRequest "Resolver not found in request") command.resolver
  let configId ← orThrow (.invalidRequest "Config Id not found in request") command.configId
  let proxyOwnerAccount ←
    orThrow (.invalidRequest "Proxy Owner Account not found in request") command.proxyOwnerAccount
  let configVersion ←
    orThrow (.invalidRequest "Config Version not found in request") command.configVersion
  throwWhen
    (command.createReserve = true ∧
      (command.reserveConfigId = none ∨ command.reserveConfigVersion = none))
    (.invalidRequest "Cannot create reserve without reserve config id and version")
  throwWhen
    (command.coin.maxSupply.any (fun maxSupply =>
      isGreaterThan ethers command.coin.initialSupply maxSupply) = true)
    (.operationNotAllowed "Initial supply cannot be more than the max supply")
  checkFirstReserve ethers answers command
  orThrow .signingError
    (stableCoinToCreate ethers answers command resolver proxyOwnerAccount configId configVersion)

def create (configuration : Configuration) (req : CreateRequest) : Created CoinRequest := do
  let command ← createCommand ethers answers configuration req
  execute ethers answers command

end Creation

/-! ## What is built -/

def CreateRequest.named (request : CreateRequest) : List (Option Text × Bytes32) :=
  [(request.proxyOwnerAccount, adminRole), (request.burnRoleAccount, burnRole),
    (request.wipeRoleAccount, wipeRole), (request.rescueRoleAccount, rescueRole),
    (request.pauseRoleAccount, pauseRole), (request.freezeRoleAccount, freezeRole),
    (request.deleteRoleAccount, deleteRole), (request.kycRoleAccount, kycRole),
    (request.feeRoleAccount, customFeesRole), (request.holdCreatorRoleAccount, holdCreatorRole)]

def Names (answers : Answers) (name : Option Text) (account : Address) : Prop :=
  ∃ value, name = some value ∧ value ≠ noAccount ∧ answers.accountToEvmAddress value = some account

/-- The keys that a request names, each with its type. The contract is the
administrator and has the supply key whatever is requested. -/
def CreateRequest.keyed (request : CreateRequest) : List (Nat × Option PublicKey) :=
  [(1, some PublicKey.NULL), (2, request.kycKey), (4, request.freezeKey), (8, request.wipeKey),
    (16, some PublicKey.NULL), (32, request.feeScheduleKey), (64, request.pauseKey)]

/-- The holder of a key that a request names: the contract where the text of the
key says so, and else the key itself. -/
def HeldBy (answers : Answers) (contract : Address) (key : PublicKey) (held : KeyValue) : Prop :=
  if formatKey key.key = PublicKey.NULL.key then held = { delegatableContractId := contract }
  else ∃ bytes, answers.toBytesRaw (formatKey key.key) = some bytes ∧
    held = KeysLib.generateKey bytes contract (decide (key.type = "ED25519".toList))

def UnitsOf (text : Text) (decimals : Nat) (units : Int) : Prop :=
  ∃ decimal : DecimalText, text = decimal.text ∧ decimal.places ≤ decimals ∧
    decimal.unitsAt decimals = units

section Built

variable {fixed : Type} {ethers : FixedNumbers fixed} {answers : Answers}
  {configuration : Configuration} {req : CreateRequest} {requestedToken : CoinRequest}
  {coin : StableCoinProps fixed}

structure PropsOf (ethers : FixedNumbers fixed) (req : CreateRequest)
    (coin : StableCoinProps fixed) : Prop where
  decimals : coin.decimals = req.decimals
  initialSupply : BigDecimal.fromString ethers (req.initialSupply.getD ['0']) (some req.decimals) =
    some coin.initialSupply
  cashInRoleAllowance :
    BigDecimal.fromString ethers (req.cashInRoleAllowance.getD ['0']) (some req.decimals) =
      some coin.cashInRoleAllowance
  cashInRoleAccount : coin.cashInRoleAccount.value = req.cashInRoleAccount.getD noAccount
  keys : [some coin.adminKey, coin.kycKey, coin.freezeKey, coin.wipeKey, some coin.supplyKey,
      coin.feeScheduleKey, coin.pauseKey] =
    req.keyed.map fun entry => entry.2.map fun key => ⟨formatKey key.key, key.type⟩
  roles : ∀ owner, req.proxyOwnerAccount = some owner.value →
    (baseRoles coin owner).map (fun entry => (entry.1.value, entry.2)) =
      req.named.map fun name => (name.1.getD noAccount, name.2)

theorem account_of_ok {account : Option Text} {id : HederaId} (given : accountOf account = .ok id) :
    id.value = account.getD noAccount :=
  value_of_new (or_throw_ok.mp given)

theorem key_of_ok {key made : Option PublicKey} (given : keyOf key = .ok made) :
    made = key.map fun key => ⟨formatKey key.key, key.type⟩ := by
  unfold keyOf at given
  split at given
  · exact (Except.ok.inj given).symm
  · next key =>
      obtain ⟨id, isMade, same⟩ := except_bind_ok.mp given
      have read := or_throw_ok.mp isMade
      unfold PublicKey.new at read
      split at read
      · cases read
      · rw [← Except.ok.inj same, ← Option.some.inj read]
        rfl

theorem props_of_ok (made : stableCoinProps ethers req = .ok coin) : PropsOf ethers req coin := by
  simp only [stableCoinProps, except_bind_ok] at made
  obtain ⟨initialSupply, supplyRead, _, _, freezeKey, freezeKeyIs, wipeKey, wipeKeyIs, kycKey,
    kycKeyIs, pauseKey, pauseKeyIs, feeKey, feeKeyIs, burn, burnIs, wipe, wipeIs, rescue, rescueIs,
    pause, pauseIs, freeze, freezeIs, delete, deleteIs, kyc, kycIs, cashIn, cashInIs, fee, feeIs,
    holdCreator, holdCreatorIs, allowance, allowanceRead, same⟩ := made
  obtain rfl := Except.ok.inj same
  refine ⟨rfl, or_throw_ok.mp supplyRead, or_throw_ok.mp allowanceRead, account_of_ok cashInIs, ?_,
    ?_⟩
  · rw [key_of_ok freezeKeyIs, key_of_ok wipeKeyIs, key_of_ok kycKeyIs, key_of_ok pauseKeyIs,
      key_of_ok feeKeyIs]
    rfl
  intro owner isOwner
  simp only [baseRoles, CreateRequest.named, List.map_cons, List.map_nil, isOwner,
    Option.getD_some, account_of_ok burnIs, account_of_ok wipeIs, account_of_ok rescueIs,
    account_of_ok pauseIs, account_of_ok freezeIs, account_of_ok deleteIs, account_of_ok kycIs,
    account_of_ok feeIs, account_of_ok holdCreatorIs]

theorem when_given_ok {result : Type} {value : Option Text} {make : Text → Created result}
    {made : Option result} (given : whenGiven value make = .ok made) :
    (truthy value = none ∧ made = none) ∨
      ∃ text result, truthy value = some text ∧ make text = .ok result ∧ made = some result := by
  unfold whenGiven at given
  split at given
  · next none_ => exact Or.inl ⟨none_, (Except.ok.inj given).symm⟩
  · next text some_ =>
      obtain ⟨result, isMade, same⟩ := except_bind_ok.mp given
      exact Or.inr ⟨text, result, some_, isMade, (Except.ok.inj same).symm⟩

/-- What a request goes through to become the one of the factory. -/
structure Builds (ethers : FixedNumbers fixed) (answers : Answers) (req : CreateRequest)
    (requestedToken : CoinRequest) : Prop where
  validated : validate (req.schema ethers) = []
  steps : ∃ (command : CreateCommand fixed) (resolver owner : HederaId) (configId : Bytes32)
    (configVersion : Nat),
    PropsOf ethers req command.coin ∧ req.proxyOwnerAccount = some owner.value ∧
      command.createReserve = req.createReserve ∧
      (truthy req.reserveInitialAmount).map
          (fun text => BigDecimal.fromString ethers text (some RESERVE_DECIMALS)) =
        command.reserveInitialAmount.map some ∧
      stableCoinToCreate ethers answers command resolver owner configId configVersion =
        some requestedToken

theorem builds_of_ok (built : create ethers answers configuration req = .ok requestedToken) :
    Builds ethers answers req requestedToken := by
  simp only [create, createCommand, except_bind_ok] at built
  obtain ⟨command, ⟨_, valid, coin, made, _, _, _, _, factory, _, reserveAddress, _, amount,
    amountIs, owner, ownerIs, resolver, _, same⟩, executed⟩ := built
  obtain rfl := Except.ok.inj same
  simp only [execute, except_bind_ok, or_throw_ok, throw_when_ok] at executed
  obtain ⟨_, _, resolverId, _, configId, _, ownerId, ownerGiven, configVersion, _, _, _, _, _, _, _,
    called⟩ := executed
  refine ⟨?_, _, resolverId, ownerId, configId, configVersion, props_of_ok made, ?_, rfl, ?_,
    called⟩
  · exact not_not.mp (throw_when_ok.mp valid)
  · rcases when_given_ok ownerIs with ⟨_, none_⟩ | ⟨text, id, given, read, some_⟩
    · rw [none_] at ownerGiven
      cases ownerGiven
    · rw [some_] at ownerGiven
      obtain rfl := Option.some.inj ownerGiven
      rw [value_of_new (or_throw_ok.mp read)]
      exact (truthy_eq_some.mp given).1
  · rcases when_given_ok amountIs with ⟨none_, same⟩ | ⟨text, number, given, read, same⟩
    · rw [none_, same]
      rfl
    · rw [given, same, Option.map_some, or_throw_ok.mp read]
      rfl

end Built

end StablecoinStudio.Sdk.CoinCreation
