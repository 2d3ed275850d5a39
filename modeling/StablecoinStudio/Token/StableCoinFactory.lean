import StablecoinStudio.Token.Administration

/-!
# The factory

From `StableCoinFactoryFacet.sol`: the check of the first reserve, the token a
request asks for and the `initialize` call on the new proxy. The address this
call returns is the one in the `Deployed` event and in the factory's answer.
-/

namespace StablecoinStudio.Token.StableCoinFactory

open StablecoinStudio.Core.Common
open StablecoinStudio.Foundation.CheckedInt
open StablecoinStudio.Foundation.Transaction
open StablecoinStudio.Token.Administration
open StablecoinStudio.Token.ProxyState
open StablecoinStudio.Token.Services

set_option autoImplicit false

/-- The fields of a request that shape the token and its initialization. -/
structure TokenStruct where
  tokenName : String
  tokenSymbol : String
  freeze : Bool
  supplyType : Bool
  tokenMaxSupply : Sint64
  tokenInitialSupply : Sint64
  tokenDecimals : Sint32
  updatedAtThreshold : Uint256
  keys : List KeysStruct
  roles : List RolesStruct
  cashinRole : CashinRoleStruct
  metadata : String

structure DeployedStableCoin where
  stableCoinProxy : Address
  tokenAddress : Address
  reserveProxy : Address

def memo1 : String := "\x7b\"p\":\""

def memo2 : String := "\"\x7d"

/-- `90 days`. -/
def defaultAutoRenewPeriod : Sint64 := ⟨7776000, by decide, by decide⟩

/-- `Strings.toHexString` of an address. -/
def toHexString (account : Address) : String := "0x" ++ account.toHex

def createToken (requestedToken : TokenStruct) (stableCoinProxyAddress : Address) :
    HederaToken where
  name := requestedToken.tokenName
  symbol := requestedToken.tokenSymbol
  treasury := stableCoinProxyAddress
  memo := memo1 ++ toHexString stableCoinProxyAddress ++ memo2
  tokenSupplyType := requestedToken.supplyType
  maxSupply := requestedToken.tokenMaxSupply
  freezeDefault := requestedToken.freeze
  tokenKeys := requestedToken.keys.map fun key =>
    { keyType := key.keyType
      key := KeysLib.generateKey key.publicKey stableCoinProxyAddress key.isEd25519 }
  expiry := {
    autoRenewAccount := stableCoinProxyAddress
    autoRenewPeriod := defaultAutoRenewPeriod
  }

/-- `initInfo`: the HBAR left over goes to whoever called the factory. -/
def initInfo (requestedToken : TokenStruct) (caller stableCoinProxy reserveAddress : Address) :
    InitializeStruct where
  token := createToken requestedToken stableCoinProxy
  initialTotalSupply := requestedToken.tokenInitialSupply
  tokenDecimals := requestedToken.tokenDecimals
  originalSender := caller
  reserveAddress := reserveAddress
  updatedAtThreshold := requestedToken.updatedAtThreshold
  roles := requestedToken.roles
  cashinRole := requestedToken.cashinRole
  tokenMetadataURI := requestedToken.metadata

/-- `if (value < ref) revert LessThan(value, ref)`. -/
def notLess {state : Type} (value ref : Uint256) : ContractTx state Unit :=
  Tx.require (¬ value.toNat < ref.toNat) (.lessThan value.toNat ref.toNat)

/-- `10 ** (larger - smaller)` in `uint256`, for `uint32` decimals. -/
def powerOfTen {state : Type} (larger smaller : Nat) : ContractTx state Uint256 := do
  let digits : Uint32 ← arithmetic (Uint.checked (larger - smaller))
  arithmetic (Uint.checked ((10 : Int) ^ digits.toNat))

def validationReserveInitialAmount {state : Type} (reserveDecimals : Uint8)
    (reserveInitialAmount : Sint256) (tokenDecimals : Sint32) (tokenInitialSupply : Sint64) :
    ContractTx state Unit := do
  let initialReserve ← toUint256 reserveInitialAmount.toInt
  let castDecimals ← toUint256 tokenDecimals.toInt
  let tokenDecimals ← toUint32 castDecimals
  let tokenInitialSupply ← toUint256 tokenInitialSupply.toInt
  if tokenDecimals.toNat > reserveDecimals.toNat then do
    let factor ← powerOfTen tokenDecimals.toNat reserveDecimals.toNat
    let scaledReserve : Uint256 ← arithmetic (Uint.checked (initialReserve.toNat * factor.toNat))
    notLess scaledReserve tokenInitialSupply
  else do
    let factor ← powerOfTen reserveDecimals.toNat tokenDecimals.toNat
    let scaledSupply : Uint256 ←
      arithmetic (Uint.checked (tokenInitialSupply.toNat * factor.toNat))
    notLess initialReserve scaledSupply

variable {world : Type} (p : Platform world)

/-- `_initializeToken`, on the storage of the new proxy and under the factory's
message to it. -/
def initializeToken (requestedToken : TokenStruct) (caller reserveAddress : Address) :
    FacetTx world Address :=
  HederaTokenManagerFacet.initialize_ p (initInfo requestedToken caller p.proxy reserveAddress)

/-- The end of `deployStableCoin`: what it emits and returns. -/
def deployedStableCoin (requestedToken : TokenStruct) (caller reserveAddress : Address) :
    FacetTx world DeployedStableCoin := do
  let tokenAddress ← initializeToken p requestedToken caller reserveAddress
  return ⟨p.proxy, tokenAddress, reserveAddress⟩

end StablecoinStudio.Token.StableCoinFactory
