import StablecoinStudio.Backend.Utils
import StablecoinStudio.Sdk.BigDecimal

/-!
# The keys of a token

The mirror node answers each key of a token as a text with a type. The adapter
reads it as a public key or, where it is encoded, as the id of a contract.
-/

namespace StablecoinStudio.Sdk.TokenKeys

open StablecoinStudio.Backend.Utils
open StablecoinStudio.Foundation.DecimalTexts
open StablecoinStudio.Sdk.BigDecimal

set_option autoImplicit false

/-! ## Ids -/

/-- `0|[1-9]\d*` at the start of a text: what follows it. -/
def dropNumber : Text → Option Text
  | [] => none
  | first :: rest =>
      if first = '0' then some rest
      else if first.isDigit then some (rest.dropWhile Char.isDigit)
      else none

def dropPoint : Text → Option Text
  | '.' :: rest => some rest
  | _ => none

/-- `(?:-([a-z]{5}))?$`. -/
def isChecksum (rest : Text) : Bool :=
  rest = [] ||
    (rest.head? = some '-' && rest.length = 6 && rest.tail.all fun letter => letter.isLower)

/-- `HEDERA_FORMAT_ID_REGEX`. -/
def isHederaId (value : Text) : Bool :=
  ((dropNumber value).bind dropPoint |>.bind dropNumber |>.bind dropPoint |>.bind dropNumber).any
    isChecksum

structure HederaId where
  value : Text
  valid : isHederaId value = true
deriving DecidableEq

def HederaId.new (value : Text) : Option HederaId :=
  if valid : isHederaId value = true then some ⟨value, valid⟩ else none

/-- `HederaId.from`: no text is an empty one. -/
def HederaId.from_ (value : Option Text) : Option HederaId := HederaId.new (value.getD [])

/-- A `ContractId`, which is an id like the others. -/
def ContractId.new (value : Text) : Option HederaId :=
  if value.length = 42 ∧ value.take 2 = ['0', 'x'] then none else HederaId.new value

/-! ## Public keys -/

structure PublicKey where
  key : Text
  type : Text
deriving DecidableEq

/-- A leading `0x` is dropped. -/
def formatKey (key : Text) : Text :=
  if key.take 2 = ['0', 'x'] then key.drop 2 else key

def PublicKey.new (key type : Text) : Option PublicKey :=
  if key = [] then none else some ⟨formatKey key, type⟩

def hexCharacter (digit : Nat) : Char := (Nat.toDigits 16 digit).getD 0 '0'

/-- The characters 34 and 92 are the quotation mark and the backslash. -/
def escaped (character : Char) : Text :=
  let code := character.toNat
  if code = 34 ∨ code = 92 then [Char.ofNat 92, character]
  else if code = 8 then [Char.ofNat 92, 'b']
  else if code = 9 then [Char.ofNat 92, 't']
  else if code = 10 then [Char.ofNat 92, 'n']
  else if code = 12 then [Char.ofNat 92, 'f']
  else if code = 13 then [Char.ofNat 92, 'r']
  else if code < 32 then
    [Char.ofNat 92, 'u', '0', '0', hexCharacter (code / 16), hexCharacter (code % 16)]
  else [character]

def quoted (text : Text) : Text := Char.ofNat 34 :: (text.flatMap escaped ++ [Char.ofNat 34])

/-- The JSON text of the key and its type. -/
def PublicKey.toString (key : PublicKey) : Text :=
  Char.ofNat 123 :: (quoted "key".toList ++ [':'] ++ quoted key.key ++ [','] ++
    quoted "_type".toList ++ [':'] ++ quoted key.type ++ [Char.ofNat 125])

/-! ## Encoded keys -/

structure ContractID where
  shardNum : Nat
  realmNum : Nat
  contractNum : Option Nat
deriving DecidableEq

def ContractID.text (id : ContractID) : Option Text :=
  id.contractNum.map fun contractNum =>
    Nat.toDigits 10 id.shardNum ++ '.' :: Nat.toDigits 10 id.realmNum ++
      '.' :: Nat.toDigits 10 contractNum

/-- The field of a `proto.Key` that is set, if any; those without a contract are
not looked into. -/
inductive ProtoKey
  | contractID (id : ContractID)
  | delegatableContractId (id : ContractID)
  | thresholdKey
  | keyList
  | other
deriving DecidableEq

/-- `out?.contractID?.contractNum || out?.delegatableContractId?.contractNum`. -/
def ProtoKey.contractNum : ProtoKey → Option Nat
  | .contractID id => id.contractNum
  | .delegatableContractId id => id.contractNum
  | _ => none

/-- `replace(/0x/g, '')`. -/
def withoutHexMarks : Text → Text
  | '0' :: 'x' :: rest => withoutHexMarks rest
  | character :: rest => character :: withoutHexMarks rest
  | [] => []

/-- `Buffer.from(text, 'hex')` stops at the first pair that is none. -/
def bufferFromHex (text : Text) : Bytes :=
  ((hexPairs text).takeWhile fun pair => isHexDigit pair.1 && isHexDigit pair.2).map parseHexPair

def keyBytes (key : Text) : Bytes :=
  bufferFromHex ((withoutHexMarks (key.filter fun character => !isWhiteSpace character)).map
    Char.toLower)

/-- `'0.0.' + id.toString()`: the shard and the realm are not looked at, and a
key without a number has the number zero. -/
def contractText (out : ProtoKey) : Text :=
  ['0', '.', '0', '.'] ++ Nat.toDigits 10 (out.contractNum.getD 0)

section Decoding

variable (decode : Bytes → Option ProtoKey)

def fromProtoBufKey (key : Text) : Option HederaId := do
  let out ← decode (keyBytes key)
  ContractId.new (contractText out)

/-! ## What the mirror node answers -/

structure IPublicKey where
  type : String
  key : Text
deriving DecidableEq

inductive Key
  | publicKey (key : PublicKey)
  | contractId (id : HederaId)
deriving DecidableEq

def Key.toString : Key → Text
  | .publicKey key => key.toString
  | .contractId id => id.value

def PROTOBUF_ENCODED : String := "ProtobufEncoded"

def getKeyOrDefault : Option IPublicKey → Option (Option Key)
  | none => some none
  | some val =>
      if val.type = PROTOBUF_ENCODED then
        (fromProtoBufKey decode val.key).map fun id => some (.contractId id)
      else (PublicKey.new val.key val.type.toList).map fun key => some (.publicKey key)

inductive TokenKey
  | admin
  | kyc
  | freeze
  | wipe
  | supply
  | pause
  | feeSchedule
deriving DecidableEq

/-- The answer for a token, and the id that it answers for the proxy in the
memo. The custom fees are counted. -/
structure TokenDetail where
  adminKey : Option IPublicKey
  kycKey : Option IPublicKey
  freezeKey : Option IPublicKey
  wipeKey : Option IPublicKey
  supplyKey : Option IPublicKey
  pauseKey : Option IPublicKey
  feeScheduleKey : Option IPublicKey
  treasuryAccountId : Option Text
  proxyId : Text
  pauseStatus : String
  deleted : Bool
  customFees : Option Nat

def TokenDetail.key (data : TokenDetail) : TokenKey → Option IPublicKey
  | .admin => data.adminKey
  | .kyc => data.kycKey
  | .freeze => data.freezeKey
  | .wipe => data.wipeKey
  | .supply => data.supplyKey
  | .pause => data.pauseKey
  | .feeSchedule => data.feeScheduleKey

/-- What the capabilities are decided on. -/
structure StableCoinDetail where
  adminKey : Option Key
  kycKey : Option Key
  freezeKey : Option Key
  wipeKey : Option Key
  supplyKey : Option Key
  pauseKey : Option Key
  feeScheduleKey : Option Key
  treasury : Option HederaId
  proxyAddress : HederaId
  paused : Bool
  deleted : Bool
  customFees : Option Nat
deriving DecidableEq

def StableCoinDetail.key (coin : StableCoinDetail) : TokenKey → Option Key
  | .admin => coin.adminKey
  | .kyc => coin.kycKey
  | .freeze => coin.freezeKey
  | .wipe => coin.wipeKey
  | .supply => coin.supplyKey
  | .pause => coin.pauseKey
  | .feeSchedule => coin.feeScheduleKey

/-- `MirrorNodeAdapter.getStableCoin`; what throws there is nothing here. -/
def getStableCoin (data : TokenDetail) : Option StableCoinDetail := do
  let proxyAddress ← ContractId.new data.proxyId
  let treasury ← HederaId.from_ data.treasuryAccountId
  let adminKey ← getKeyOrDefault decode data.adminKey
  let kycKey ← getKeyOrDefault decode data.kycKey
  let freezeKey ← getKeyOrDefault decode data.freezeKey
  let wipeKey ← getKeyOrDefault decode data.wipeKey
  let supplyKey ← getKeyOrDefault decode data.supplyKey
  let pauseKey ← getKeyOrDefault decode data.pauseKey
  let feeScheduleKey ← getKeyOrDefault decode data.feeScheduleKey
  return {
    adminKey := adminKey
    kycKey := kycKey
    freezeKey := freezeKey
    wipeKey := wipeKey
    supplyKey := supplyKey
    pauseKey := pauseKey
    feeScheduleKey := feeScheduleKey
    treasury := some treasury
    proxyAddress := proxyAddress
    paused := data.pauseStatus = "PAUSED"
    deleted := data.deleted
    customFees := data.customFees
  }

end Decoding

/-! ## What is read -/

section Reading

variable {decode : Bytes → Option ProtoKey} {data : TokenDetail} {coin : StableCoinDetail}

/-- A text that is no id: it does not start with a digit. -/
theorem json_not_id (key : PublicKey) : isHederaId key.toString = false := rfl

theorem public_key_ne_id (key : PublicKey) (id : HederaId) : key.toString ≠ id.value := by
  intro same
  have valid := id.valid
  rw [← same, json_not_id] at valid
  cases valid

theorem value_of_new {value : Text} {id : HederaId} (given : HederaId.new value = some id) :
    id.value = value := by
  unfold HederaId.new at given
  split at given
  · rw [← Option.some.inj given]
  · cases given

theorem value_of_contract {value : Text} {id : HederaId} (given : ContractId.new value = some id) :
    id.value = value := by
  unfold ContractId.new at given
  split at given
  · cases given
  · exact value_of_new given

structure Read (decode : Bytes → Option ProtoKey) (data : TokenDetail) (coin : StableCoinDetail) :
    Prop where
  key : ∀ key, getKeyOrDefault decode (data.key key) = some (coin.key key)
  proxy : coin.proxyAddress.value = data.proxyId
  treasury : ∃ treasury, coin.treasury = some treasury ∧
    treasury.value = data.treasuryAccountId.getD []
  customFees : coin.customFees = data.customFees
  paused : coin.paused = decide (data.pauseStatus = "PAUSED")
  deleted : coin.deleted = data.deleted

theorem read_of_some (read : getStableCoin decode data = some coin) : Read decode data coin := by
  simp only [getStableCoin, Option.bind_eq_bind, Option.bind_eq_some_iff, Option.pure_def,
    Option.some.injEq] at read
  obtain ⟨proxyAddress, proxy, treasury, held, _, admin, _, kyc, _, freeze, _, wipe, _, supply, _,
    pause, _, feeSchedule, rfl⟩ := read
  refine ⟨?_, value_of_contract proxy, ⟨treasury, rfl, value_of_new held⟩, rfl, rfl, rfl⟩
  intro key
  cases key with
  | admin => exact admin
  | kyc => exact kyc
  | freeze => exact freeze
  | wipe => exact wipe
  | supply => exact supply
  | pause => exact pause
  | feeSchedule => exact feeSchedule

theorem public_key_of_read {val : IPublicKey} {key : PublicKey}
    (read : getKeyOrDefault decode (some val) = some (some (.publicKey key))) :
    val.type ≠ PROTOBUF_ENCODED ∧ key.key = formatKey val.key := by
  unfold getKeyOrDefault at read
  dsimp only at read
  split at read
  · obtain ⟨_, _, impossible⟩ := Option.map_eq_some_iff.mp read
    cases impossible
  · next plain =>
      obtain ⟨made, given, same⟩ := Option.map_eq_some_iff.mp read
      obtain rfl := Key.publicKey.inj (Option.some.inj same)
      unfold PublicKey.new at given
      split at given
      · cases given
      · rw [← Option.some.inj given]
        exact ⟨plain, rfl⟩

theorem contract_of_read {val : IPublicKey} {key : Key}
    (read : getKeyOrDefault decode (some val) = some (some key)) :
    (∃ id, key = .contractId id) ↔ val.type = PROTOBUF_ENCODED := by
  unfold getKeyOrDefault at read
  dsimp only at read
  split at read
  · next encoded =>
      obtain ⟨id, _, same⟩ := Option.map_eq_some_iff.mp read
      exact ⟨fun _ => encoded, fun _ => ⟨id, (Option.some.inj same).symm⟩⟩
  · next plain =>
      obtain ⟨made, _, same⟩ := Option.map_eq_some_iff.mp read
      constructor
      · intro isContract
        obtain ⟨id, rfl⟩ := isContract
        cases same
      · intro encoded
        exact absurd encoded plain

theorem id_of_read {val : IPublicKey} {id : HederaId}
    (read : getKeyOrDefault decode (some val) = some (some (.contractId id))) :
    ∃ out, decode (keyBytes val.key) = some out ∧ id.value = contractText out := by
  have encoded := (contract_of_read read).mp ⟨id, rfl⟩
  rw [getKeyOrDefault, if_pos encoded] at read
  obtain ⟨made, given, same⟩ := Option.map_eq_some_iff.mp read
  obtain rfl := Key.contractId.inj (Option.some.inj same)
  obtain ⟨out, decoded, named⟩ := Option.bind_eq_some_iff.mp given
  exact ⟨out, decoded, value_of_contract named⟩

end Reading

end StablecoinStudio.Sdk.TokenKeys
