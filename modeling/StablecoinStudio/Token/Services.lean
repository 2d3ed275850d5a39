import StablecoinStudio.Token.ProxyState

/-!
# What the facets call

The token service precompile, the token's ERC-20 face, price feeds, the
configuration resolver and plain HBAR transfers are outside the sources. They
are a parameter: any type of outside worlds and any answers on it. A request
that changes the token returns its response code and the world after it; the
laws a result relies on are stated where it is stated.
-/

namespace StablecoinStudio.Token.Services

open StablecoinStudio.Core.Common
open StablecoinStudio.Foundation.CheckedInt
open StablecoinStudio.Foundation.Transaction
open StablecoinStudio.Token.ProxyState

set_option autoImplicit false

structure Expiry where
  second : Sint64 := 0
  autoRenewAccount : Address := 0
  autoRenewPeriod : Sint64 := 0

structure KeyValue where
  inheritAccountKey : Bool := false
  contractId : Address := 0
  ed25519 : Bytes := []
  ecdsaSecp256k1 : Bytes := []
  delegatableContractId : Address := 0

structure TokenKey where
  keyType : Uint256
  key : KeyValue

/-- The fields a facet does not set keep their zero values. -/
structure HederaToken where
  name : String := ""
  symbol : String := ""
  treasury : Address := 0
  memo : String := ""
  tokenSupplyType : Bool := false
  maxSupply : Sint64 := 0
  freezeDefault : Bool := false
  tokenKeys : List TokenKey := []
  expiry : Expiry := {}

structure FixedFee where
  amount : Sint64
  tokenId : Address
  useHbarsForPayment : Bool
  useCurrentTokenForPayment : Bool
  feeCollector : Address

structure FractionalFee where
  numerator : Sint64
  denominator : Sint64
  minimumAmount : Sint64
  maximumAmount : Sint64
  netOfTransfers : Bool
  feeCollector : Address

inductive AdministrativeRequest where
  | pauseToken (token : Address)
  | unpauseToken (token : Address)
  | freezeToken (token account : Address)
  | unfreezeToken (token account : Address)
  | grantTokenKyc (token account : Address)
  | revokeTokenKyc (token account : Address)
  | deleteToken (token : Address)
  | updateFungibleTokenCustomFees (token : Address) (fixedFees : List FixedFee)
      (fractionalFees : List FractionalFee)
  | updateTokenInfo (token : Address) (tokenInfo : HederaToken)

structure Platform (world : Type) where
  /-- `address(this)` of the proxy. -/
  proxy : Address
  mintToken : (token : Address) → (amount : Sint64) → world → Sint64 × world
  burnToken : (token : Address) → (amount : Sint64) → world → Sint64 × world
  wipeTokenAccount : (token account : Address) → (amount : Sint64) → world → Sint64 × world
  transferToken :
    (token sender recipient : Address) → (amount : Sint64) → world → Sint64 × world
  getTokenKey : (token : Address) → (keyType : Nat) → world → Sint64
  getTokenInfo : (token : Address) → world → Sint64 × HederaToken
  administer : AdministrativeRequest → world → Sint64 × world
  createFungibleToken :
    HederaToken → (initialTotalSupply : Sint64) → (decimals : Sint32) → (value : Uint256) →
      world → (Sint64 × Address) × world
  balanceOf : (token account : Address) → world → Uint256
  totalSupply : (token : Address) → world → Uint256
  decimals : (token : Address) → world → Uint8
  tokenName : (token : Address) → world → String
  tokenSymbol : (token : Address) → world → String
  /-- `answer` and `updatedAt` of `latestRoundData`, when the feed answers. -/
  latestRoundData : (feed : Address) → world → Option (Sint256 × Uint256)
  feedDecimals : (feed : Address) → world → Option Uint8
  /-- Whether the resolver's `checkResolverProxyConfigurationRegistered` passes. -/
  configurationRegistered :
    (resolver : Address) → (configurationId : Bytes32) → (version : Nat) → world → Bool
  /-- `address(this).balance`. -/
  hbarBalance : world → Uint256
  /-- A plain HBAR transfer: nothing when it fails. The receiver's code runs
  meanwhile and may call the proxy again, so any state may come back. -/
  sendValue : (recipient : Address) → (amount : Uint256) → State world → Option (State world)

variable {world : Type}

/-- A request to the token service that returns a response code. -/
def tokenService (service : world → Sint64 × world) : FacetTx world Sint64 :=
  Tx.request fun current =>
    ((service current.world).1, { current with world := (service current.world).2 })

/-- The committed outcome of a request that is then checked for `SUCCESS`. -/
@[simp] theorem token_service_ok {service : world → Sint64 × world} {environment : Msg}
    {before after : State world} {code : Sint64} :
    tokenService service environment before = .ok (code, after) ↔
      (service before.world).1 = code ∧
        after = { before with world := (service before.world).2 } := by
  simp only [tokenService, Tx.request_ok, Prod.mk.injEq]
  constructor
  · rintro ⟨rfl, rfl⟩
    exact ⟨rfl, rfl⟩
  · rintro ⟨rfl, rfl⟩
    exact ⟨rfl, rfl⟩

@[simp] theorem token_service_error {service : world → Sint64 × world} {environment : Msg}
    {before : State world} {failure : Revert} :
    tokenService service environment before = .error failure ↔ False := by
  simp [tokenService]

end StablecoinStudio.Token.Services
