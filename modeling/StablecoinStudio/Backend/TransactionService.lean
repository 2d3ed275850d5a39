import StablecoinStudio.Backend.Utils
import StablecoinStudio.Foundation.KeyedTables
import StablecoinStudio.Foundation.Transaction

/-!
# The transaction service

`transaction.entity.ts`, the requests and their validation, and
`transaction.service.ts` on a table of transactions. Times are milliseconds; a
path parameter that is no uuid is nothing. The database gives a new row its id,
unless the body of the request carries one.
-/

namespace StablecoinStudio.Backend.TransactionService

open StablecoinStudio.Backend.Utils
open StablecoinStudio.Foundation.KeyedTables
open StablecoinStudio.Foundation.Transaction

set_option autoImplicit false

abbrev Uuid := BitVec 128

inductive TransactionStatus where
  | signed
  | pending
  | expired
  | error
  | executed
deriving DecidableEq

structure Transaction where
  id : Uuid
  transactionMessage : String
  description : String
  hederaAccountId : String
  signatures : List String
  keyList : List String
  signedKeys : List String
  status : TransactionStatus
  threshold : Nat
  network : Network
  startDate : Int
deriving DecidableEq

abbrev Repository := KeyedTable Transaction.id

/-! ## Requests -/

/-- The validation lets a body carry an `id` beside its fields. -/
inductive BodyId where
  | uuid (id : Uuid)
  /-- Not in the spelling of the database, so that `save` finds no row for it. -/
  | respelled (id : Uuid)
  | malformed
deriving DecidableEq

structure CreateTransactionRequestDto where
  id : Option BodyId
  transactionMessage : String
  description : String
  hederaAccountId : String
  keyList : List String
  threshold : Nat
  network : Network
  startDate : Int

structure SignTransactionRequestDto where
  signature : String
  publicKey : String
deriving DecidableEq

/-- `hederaIdRegex`: three numbers with dots between them. -/
def hederaIdRegex (account : String) : Bool :=
  match account.toList.splitOn '.' with
  | [shard, realm, number] =>
      [shard, realm, number].all fun part => !part.isEmpty && part.all Char.isDigit
  | _ => false

def CreateTransactionRequestDto.transformed (dto : CreateTransactionRequestDto) :
    CreateTransactionRequestDto :=
  { dto with keyList := dto.keyList.map removeHexPrefix }

/-- The decorators that validate it; the types of the fields say the rest. -/
structure CreateTransactionRequestDto.Valid (dto : CreateTransactionRequestDto) : Prop where
  transactionMessage : dto.transactionMessage ≠ ""
  description : dto.description ≠ ""
  hederaAccountId : hederaIdRegex dto.hederaAccountId = true
  arrayNotEmpty : dto.keyList ≠ []
  keys : ∀ key ∈ dto.keyList, hexRegex key = true

def SignTransactionRequestDto.transformed (dto : SignTransactionRequestDto) :
    SignTransactionRequestDto where
  signature := removeHexPrefix dto.signature
  publicKey := removeHexPrefix dto.publicKey

structure SignTransactionRequestDto.Valid (dto : SignTransactionRequestDto) : Prop where
  signature : dto.signature ≠ ""
  publicKey : dto.publicKey ≠ ""
  key : hexRegex dto.publicKey = true

/-! ## The service -/

abbrev ServiceTx (value : Type) := Tx Packages Repository Failure value

variable (packages : Packages)

def created (createTransactionDto : CreateTransactionRequestDto) (id : Uuid) : Transaction :=
  let keyList := removeDuplicates createTransactionDto.keyList
  { id := id
    transactionMessage := createTransactionDto.transactionMessage
    description := createTransactionDto.description
    hederaAccountId := createTransactionDto.hederaAccountId
    signatures := []
    keyList := keyList
    signedKeys := []
    status := .pending
    threshold :=
      if createTransactionDto.threshold = 0 ∨ keyList.length < createTransactionDto.threshold then
        keyList.length
      else createTransactionDto.threshold
    network := createTransactionDto.network
    startDate := createTransactionDto.startDate }

/-- The id of the saved row: the body's own, which the spread keeps, or the one
that the database generates. -/
def CreateTransactionRequestDto.rowId (dto : CreateTransactionRequestDto) (generated : Uuid) :
    Option Uuid :=
  match dto.id with
  | none => some generated
  | some (.uuid id) | some (.respelled id) => some id
  | some .malformed => none

/-- `save` looks for a row with the id and writes over it. -/
def CreateTransactionRequestDto.Overwrites (dto : CreateTransactionRequestDto) (id : Uuid) : Prop :=
  dto.id = some (.uuid id)

instance (dto : CreateTransactionRequestDto) (id : Uuid) : Decidable (dto.Overwrites id) :=
  inferInstanceAs (Decidable (dto.id = some (.uuid id)))

/-- An id that is in use and not looked for is refused by the primary key. -/
def create (createTransactionDto : CreateTransactionRequestDto) (generated : Uuid) :
    ServiceTx Transaction := do
  let id ← Tx.ofOption (.error "invalid input syntax for type uuid")
    (createTransactionDto.rowId generated)
  let repository ← Tx.get
  Tx.require (createTransactionDto.Overwrites id ∨ repository.find id = none)
    (.error "duplicate key value violates unique constraint")
  Tx.modify fun repository => repository.put (created createTransactionDto id)
  return created createTransactionDto id

def invalidUuid : Failure := .httpException "Invalid Transaction uuid format" 400

def notFound : Failure := .transactionNotFoundException "Transaction not found"

def findOne (failure : Failure) (transactionId : Option Uuid) : ServiceTx Transaction := do
  let id ← Tx.ofOption failure transactionId
  let repository ← Tx.get
  Tx.ofOption notFound (repository.find id)

def bytesToSign (transaction : Transaction) : Except Failure Bytes := do
  let message ← hexToUint8Array transaction.transactionMessage
  match packages.bodyBytes message transaction.network with
  | some bodyBytes => .ok bodyBytes
  | none => .error .sdkError

def withSignature (transaction : Transaction) (dto : SignTransactionRequestDto) : Transaction :=
  { transaction with
    signedKeys := transaction.signedKeys ++ [dto.publicKey]
    signatures := transaction.signatures ++ [dto.signature]
    status :=
      if transaction.threshold ≤ (transaction.signedKeys ++ [dto.publicKey]).length then .signed
      else transaction.status }

/-- `sign` between its `findOne` and its `save`. -/
def addSignature (transaction : Transaction) (dto : SignTransactionRequestDto) :
    Except Failure Transaction :=
  if dto.publicKey ∈ transaction.signedKeys then
    .error (.messageAlreadySignedException "Message already signed")
  else if dto.publicKey ∉ transaction.keyList then
    .error (.unauthorizedKeyException "Unauthorized Key")
  else match bytesToSign packages transaction with
    | .error failure => .error failure
    | .ok message =>
        if verifySignature packages dto.publicKey message dto.signature = true then
          .ok (withSignature transaction dto)
        else .error (.invalidSignatureException "Invalid signature")

def sign (signTransactionDto : SignTransactionRequestDto) (transactionId : Option Uuid) :
    ServiceTx Transaction := do
  let transaction ← findOne invalidUuid transactionId
  let packages ← Tx.read
  let signed ← Tx.lift (addSignature packages transaction signTransactionDto)
  Tx.modify fun repository => repository.put signed
  return signed

def updateStatus (newState : TransactionStatus) (transactionId : Option Uuid) : ServiceTx Unit := do
  let transaction ← findOne invalidUuid transactionId
  Tx.modify fun repository => repository.put { transaction with status := newState }

/-! ## Listings -/

/-- The transaction as the listings show it. -/
structure GetTransactionsResponseDto where
  id : Uuid
  transactionMessage : String
  description : String
  status : TransactionStatus
  threshold : Nat
  keyList : List String
  signedKeys : List String
  signatures : List String
  network : Network
  hederaAccountId : String
  /-- The text of `toUTCString`, which shows whole seconds. -/
  startDate : Int

def toUTCString (date : Int) : Int := date / 1000

def transformToDto (transaction : Transaction) : GetTransactionsResponseDto where
  id := transaction.id
  transactionMessage := transaction.transactionMessage
  description := transaction.description
  status := transaction.status
  threshold := transaction.threshold
  keyList := transaction.keyList
  signedKeys := transaction.signedKeys
  signatures := transaction.signatures
  network := transaction.network
  hederaAccountId := transaction.hederaAccountId
  startDate := toUTCString transaction.startDate

structure Pagination where
  items : List GetTransactionsResponseDto
  /-- Nothing stands for a quotient by zero, which is no number of pages. -/
  totalPages : Option Nat

/-- The filters of a listing, those that are set. -/
structure Filters where
  publicKey : Option String := none
  status : Option TransactionStatus := none
  network : Option Network := none
  hederaAccountId : Option String := none

def Filters.accept (filters : Filters) (transaction : Transaction) : Bool :=
  filters.publicKey.all (fun publicKey => decide (publicKey ∈ transaction.keyList)) &&
    filters.status.all (fun status => decide (transaction.status = status)) &&
    filters.network.all (fun network => decide (transaction.network = network)) &&
    filters.hederaAccountId.all fun account => decide (transaction.hederaAccountId = account)

/-- `paginate` on the accepted rows: pages count from 1, and a limit of 0 is not
put into the query. -/
def Filters.listed (filters : Filters) (page limit : Nat) (repository : Repository) : Pagination :=
  let accepted := repository.rows.filter filters.accept
  if limit = 0 then { items := accepted.map transformToDto, totalPages := none }
  else
    { items := ((accepted.drop ((page - 1) * limit)).take limit).map transformToDto
      totalPages := some ((accepted.length + limit - 1) / limit) }

/-- The limit that `paginate` takes: 10 for one below 0. -/
def resolvedLimit (limit : Int) : Nat := if limit < 0 then 10 else limit.toNat

def Network.all : List (String × Network) :=
  [("mainnet", .mainnet), ("testnet", .testnet), ("previewnet", .previewnet)]

def TransactionStatus.all : List (String × TransactionStatus) :=
  [("SIGNED", .signed), ("PENDING", .pending), ("EXPIRED", .expired), ("ERROR", .error),
    ("EXECUTED", .executed)]

/-- A filter that is missing or empty is not set. -/
def chosen (text : Option String) : Option String := text.filter fun given => decide (given ≠ "")

/-- A filter by one of the values of an enumeration. -/
def chosenValue {value : Type} (values : List (String × value)) (normalize : String → String)
    (what : String) (text : Option String) : Except Failure (Option value) :=
  match chosen text with
  | none => .ok none
  | some given =>
      match values.lookup (normalize given) with
      | some found => .ok (some found)
      | none => .error (.error ("Invalid " ++ what ++ ": " ++ given ++ ". Valid values are: " ++
          ", ".intercalate (values.map Prod.fst)))

def getAll (publicKey status network hederaAccountId : Option String) (page : Nat) (limit : Int)
    (repository : Repository) : Except Failure Pagination := do
  let network ← chosenValue Network.all String.toLower "network" network
  let status ← chosenValue TransactionStatus.all String.toUpper "status" status
  let filters : Filters := {
    publicKey := chosen publicKey
    status := status
    network := network
    hederaAccountId := chosen hederaAccountId
  }
  return filters.listed page (resolvedLimit limit) repository

theorem accepted_without_filters (repository : Repository) :
    repository.rows.filter (Filters.accept {}) = repository.rows :=
  List.filter_eq_self.mpr fun _ _ => rfl

/-! ## What a committed request did -/

section Committed

variable {packages} {before after : Repository}

theorem find_one_ok {failure : Failure} {transactionId : Option Uuid} {transaction : Transaction} :
    findOne failure transactionId packages before = .ok (transaction, after) ↔
      ∃ id, transactionId = some id ∧ before.find id = some transaction ∧ before = after := by
  simp only [findOne, Tx.bind_ok, Tx.of_option_ok, Tx.get_ok, and_assoc, exists_and_left,
    exists_eq_left']

theorem create_ok {dto : CreateTransactionRequestDto} {generated : Uuid}
    {transaction : Transaction} :
    create dto generated packages before = .ok (transaction, after) ↔
      ∃ id, dto.rowId generated = some id ∧ (dto.Overwrites id ∨ before.find id = none) ∧
        transaction = created dto id ∧ after = before.put (created dto id) := by
  simp only [create, Tx.bind_ok, Tx.of_option_ok, Tx.get_ok, Tx.require_ok, Tx.modify_ok,
    Tx.pure_ok]
  constructor
  · intro committed
    obtain ⟨id, _, ⟨named, rfl⟩, _, _, ⟨rfl, rfl⟩, _, _, ⟨allowed, rfl⟩, _, _, rfl, rfl, rfl⟩ :=
      committed
    exact ⟨id, named, allowed, rfl, rfl⟩
  · intro described
    obtain ⟨id, named, allowed, rfl, rfl⟩ := described
    exact ⟨id, before, ⟨named, rfl⟩, before, before, ⟨rfl, rfl⟩, (), before, ⟨allowed, rfl⟩, (), _,
      rfl, rfl, rfl⟩

theorem row_id_of_overwrites {dto : CreateTransactionRequestDto} {id generated : Uuid}
    (overwrites : dto.Overwrites id) : dto.rowId generated = some id := by
  rw [CreateTransactionRequestDto.rowId, show dto.id = some (.uuid id) from overwrites]

theorem sign_ok {dto : SignTransactionRequestDto} {transactionId : Option Uuid}
    {transaction : Transaction} :
    sign dto transactionId packages before = .ok (transaction, after) ↔
      ∃ id found, transactionId = some id ∧ before.find id = some found ∧
        addSignature packages found dto = .ok transaction ∧ after = before.put transaction := by
  simp only [sign, Tx.bind_ok, find_one_ok, Tx.read_ok, Tx.lift_ok, Tx.modify_ok, Tx.pure_ok]
  constructor
  · intro committed
    obtain ⟨found, _, ⟨id, named, present, rfl⟩, _, _, ⟨rfl, rfl⟩, signed, _, ⟨checked, rfl⟩, _, _,
      rfl, rfl, rfl⟩ := committed
    exact ⟨id, found, named, present, checked, rfl⟩
  · intro described
    obtain ⟨id, found, named, present, checked, rfl⟩ := described
    exact ⟨found, before, ⟨id, named, present, rfl⟩, packages, before, ⟨rfl, rfl⟩, transaction,
      before, ⟨checked, rfl⟩, (), _, rfl, rfl, rfl⟩

theorem update_status_ok {newState : TransactionStatus} {transactionId : Option Uuid} :
    updateStatus newState transactionId packages before = .ok ((), after) ↔
      ∃ id found, transactionId = some id ∧ before.find id = some found ∧
        after = before.put { found with status := newState } := by
  simp only [updateStatus, Tx.bind_ok, find_one_ok, Tx.modify_ok]
  constructor
  · intro committed
    obtain ⟨found, _, ⟨id, named, present, rfl⟩, rfl⟩ := committed
    exact ⟨id, found, named, present, rfl⟩
  · intro described
    obtain ⟨id, found, named, present, rfl⟩ := described
    exact ⟨found, before, ⟨id, named, present, rfl⟩, rfl⟩

theorem add_signature_ok {transaction signed : Transaction} {dto : SignTransactionRequestDto} :
    addSignature packages transaction dto = .ok signed ↔
      dto.publicKey ∉ transaction.signedKeys ∧ dto.publicKey ∈ transaction.keyList ∧
        (∃ message, bytesToSign packages transaction = .ok message ∧
          verifySignature packages dto.publicKey message dto.signature = true) ∧
        signed = withSignature transaction dto := by
  unfold addSignature
  by_cases already : dto.publicKey ∈ transaction.signedKeys
  · simp [already]
  by_cases authorized : dto.publicKey ∈ transaction.keyList
  · cases message : bytesToSign packages transaction with
    | error failure => simp [already, authorized]
    | ok bytes =>
        by_cases verified : verifySignature packages dto.publicKey bytes dto.signature = true
        · simp [already, authorized, verified]
          exact eq_comm
        · simp [already, authorized, verified]
  · simp [already, authorized]

end Committed

/-! ## Keys and signatures to evaluate on

Those of the backend's tests, and packages that accept these signatures for
their keys. An ed25519 key has 32 bytes and its signature 64; `nacl` throws on
other lengths. The text of a key is hexadecimal in either case of letters.
-/

section Sample

def firstKey : String := "cf8c984270cd7cd25e1bd6df1a3a22ee2d1cd53a0f7bbfdf917a8bd881b11b5e"

def firstKeyInCapitals : String :=
  "CF8C984270CD7CD25E1BD6DF1A3A22EE2D1CD53A0F7BBFDF917A8BD881B11B5E"

def secondKey : String := "c539f0f94cd937b721f9bd4c0b965164622798cf8ddea6169d2cb734f70baf8e"

def firstSignature : String :=
  "e120be5fa7fa085c989e69b60b6f80218d8a49751abc84456bc8bd88ba3766101b658d45ebd7e0b742382e9bd8ad98a8" ++
    "8f03a9d6118cad42da275531e068a50b"

def secondSignature : String :=
  "6cf580daa232d279badbd1bc1227531d4c98ab444a2a7ec1851af17400e01c805bf96223ad2cd7a4469f3709c0fb35b7" ++
    "7cb217543e4741d8db92175de583cc00"

/-- Which of the two keys made a signature is told from their first bytes. -/
def sampleNaclVerify (_message signature publicKey : Bytes) : Option Bool :=
  if publicKey.length = 32 ∧ signature.length = 64 then
    some (decide ((publicKey.take 2, signature.take 2) ∈
      [([0xcf, 0x8c], [0xe1, 0x20]), (([0xc5, 0x39], [0x6c, 0xf5]) : Bytes × Bytes)]))
  else none

def samplePackages : Packages where
  bodyBytes message _ := some message
  naclVerify := sampleNaclVerify
  keccak256 _ := []
  ecdsaVerify _ _ _ _ := none

def sampleRequest (keyList : List String) (threshold : Nat) : CreateTransactionRequestDto where
  id := none
  transactionMessage := "0a1a0a0c0892d5c0af0610efaedd9503"
  description := "This transaction is for the creation of a new StableCoin"
  hederaAccountId := "0.0.123456"
  keyList := keyList
  threshold := threshold
  network := .testnet
  startDate := 0

def sampleTransaction (keyList : List String) (threshold : Nat) : Transaction :=
  created (sampleRequest keyList threshold) 1

/-- What the packages look at: how many bytes a text has, and the first two. -/
def mark (text : String) : Option (Nat × Bytes) :=
  (bytesOf text).map fun bytes => (bytes.length, bytes.take 2)

theorem first_key_mark : mark firstKey = some (32, [0xcf, 0x8c]) := by decide +kernel

theorem second_key_mark : mark secondKey = some (32, [0xc5, 0x39]) := by decide +kernel

theorem first_signature_mark : mark firstSignature = some (64, [0xe1, 0x20]) := by decide +kernel

theorem second_signature_mark : mark secondSignature = some (64, [0x6c, 0xf5]) := by
  decide +kernel

theorem same_bytes_in_capitals : bytesOf firstKeyInCapitals = bytesOf firstKey := by
  decide +kernel

theorem verifies_of_marks {publicKey signature : String} {keyMark signatureMark : Bytes}
    (message : Bytes) (keyMarked : mark publicKey = some (32, keyMark))
    (signatureMarked : mark signature = some (64, signatureMark))
    (accepted : (keyMark, signatureMark) ∈
      [([0xcf, 0x8c], [0xe1, 0x20]), (([0xc5, 0x39], [0x6c, 0xf5]) : Bytes × Bytes)]) :
    verifySignature samplePackages publicKey message signature = true := by
  obtain ⟨keyBytes, key, keyIs⟩ := Option.map_eq_some_iff.mp keyMarked
  obtain ⟨signatureBytes, signed, signatureIs⟩ := Option.map_eq_some_iff.mp signatureMarked
  rw [Prod.mk.injEq] at keyIs signatureIs
  have verified : verifyEd25519 samplePackages publicKey message signature = some true := by
    simp only [verifyEd25519, key, signed, samplePackages, sampleNaclVerify, Option.bind_eq_bind,
      Option.bind_some, keyIs, signatureIs, and_self, if_true, accepted, decide_true]
  rw [verifySignature, if_pos verified]

theorem first_verifies (message : Bytes) :
    verifySignature samplePackages firstKey message firstSignature = true :=
  verifies_of_marks message first_key_mark first_signature_mark (by decide)

theorem second_verifies (message : Bytes) :
    verifySignature samplePackages secondKey message secondSignature = true :=
  verifies_of_marks message second_key_mark second_signature_mark (by decide)

/-- The first key in capitals verifies the first signature as well. -/
theorem capitals_verify (message : Bytes) :
    verifySignature samplePackages firstKeyInCapitals message firstSignature = true := by
  have capitalsMark : mark firstKeyInCapitals = some (32, [0xcf, 0x8c]) := by
    rw [mark, same_bytes_in_capitals]
    exact first_key_mark
  exact verifies_of_marks message capitalsMark first_signature_mark (by decide)

theorem message_deserialized : ∃ message,
    hexToUint8Array "0a1a0a0c0892d5c0af0610efaedd9503" = .ok message := ⟨_, rfl⟩

/-- A key of the list that has not signed, with a signature that verifies. -/
theorem sample_signature_accepted {transaction : Transaction} {dto : SignTransactionRequestDto}
    (text : transaction.transactionMessage = "0a1a0a0c0892d5c0af0610efaedd9503")
    (unsigned : dto.publicKey ∉ transaction.signedKeys)
    (authorized : dto.publicKey ∈ transaction.keyList)
    (verifies : ∀ message,
      verifySignature samplePackages dto.publicKey message dto.signature = true) :
    addSignature samplePackages transaction dto = .ok (withSignature transaction dto) := by
  obtain ⟨message, deserialized⟩ := message_deserialized
  have signed : bytesToSign samplePackages transaction = .ok message := by
    rw [bytesToSign, text, deserialized]
    rfl
  exact add_signature_ok.mpr ⟨unsigned, authorized, ⟨message, signed, verifies message⟩, rfl⟩

end Sample

end StablecoinStudio.Backend.TransactionService
