import Mathlib.Data.List.Perm.Subperm
import StablecoinStudio.Backend.HexDecoding
import StablecoinStudio.Backend.OverlappingRequests
import StablecoinStudio.Foundation.Exceptions

/-!
# Transactions that many keys sign

`MultiSigTransactionAdapter` hands a transaction to the backend, `SignCommand`
signs what the backend has stored, and the job of the backend or `SubmitCommand`
adds the signatures and sends it. Only requested transactions with verified
signatures are sent, whatever overlaps; once enough wallets have signed, no
other signing keeps a transaction from being sent, and no creation but one that
takes its id.
-/

namespace StablecoinStudio.Sdk.MultiSignatures

open StablecoinStudio.Backend.AutoSubmit
open StablecoinStudio.Backend.HexDecoding
open StablecoinStudio.Backend.Operation
open StablecoinStudio.Backend.OverlappingRequests
open StablecoinStudio.Backend.Requests
open StablecoinStudio.Backend.SignedKeys
open StablecoinStudio.Backend.TransactionService
open StablecoinStudio.Backend.Utils
open StablecoinStudio.Foundation.Exceptions
open StablecoinStudio.Foundation.KeyedTables
open StablecoinStudio.Foundation.Runs
open StablecoinStudio.Sdk.Hex

set_option autoImplicit false

def hexText (bytes : Bytes) : String := String.ofList (fromUint8Array bytes)

/-! ## The keys of an account -/

/-- A decoded `proto.Key`, or the name of its kind. -/
inductive ProtoKey where
  | ed25519 (bytes : Bytes)
  | ecdsaSecp256k1 (bytes : Bytes)
  | keyList (keys : List ProtoKey)
  | thresholdKey (threshold : Nat) (keys : Option (List ProtoKey))
  | other (kind : String)

structure MultiKey where
  keys : List String
  threshold : Nat

namespace MultiKey

def unsupportedKeyType (val : String) : Failure :=
  .error ("the retrieved key type is not supported: " ++ val)

def publicKeyOf : ProtoKey → Except Failure String
  | .ed25519 bytes | .ecdsaSecp256k1 bytes => .ok (hexText bytes)
  | _ => .error (unsupportedKeyType "Only ECDSASecp256k1 and ed25519 are supported")

def getPublicKeys (listOfKeys : List ProtoKey) : Except Failure (List String) :=
  listOfKeys.mapM publicKeyOf

def fromProtobuf : ProtoKey → Except Failure MultiKey
  | .keyList keys => do
      let keys ← getPublicKeys keys
      return ⟨keys, keys.length⟩
  | .thresholdKey threshold keys => do
      if threshold = 0 then throw (unsupportedKeyType "Threshold undefined in threshold key")
      let keys ← orThrow (unsupportedKeyType "No Keys found in threshold key") keys
      let keys ← getPublicKeys keys
      return ⟨keys, threshold⟩
  | .ed25519 _ => .error (unsupportedKeyType "ed25519")
  | .ecdsaSecp256k1 _ => .error (unsupportedKeyType "ECDSASecp256k1")
  | .other kind => .error (unsupportedKeyType kind)

end MultiKey

/-! ## The programs -/

structure ConsensusNode where
  url : String
  nodeId : String

/-- The package that both programs use for transactions; what throws returns
nothing. -/
structure HieroSdk (transaction publicKey : Type) where
  fromBytes : Bytes → Option transaction
  toBytes : transaction → Bytes
  /-- Valid for 180 seconds from a start, and frozen with the id of an account. -/
  identified : transaction → (accountId : String) → (validStart : Int) → Option transaction
  /-- `freezeWith` a client that knows one node of the network. -/
  freezeFor : transaction → Network → ConsensusNode → Option transaction
  /-- `freezeWith` the client for the network. -/
  freezeWith : transaction → Network → Option transaction
  /-- `_signedTransactions.get(0).bodyBytes`. -/
  bodyBytes : transaction → Option Bytes
  fromString : String → Option publicKey
  addSignature : transaction → publicKey → Bytes → Option transaction

/-- `sign` of the adapter of a wallet. Two of the adapters take the transaction,
the others the text of its body bytes. -/
inductive Handler (transaction : Type) where
  | ofTransaction (sign : transaction → Option String)
  | ofText (sign : String → Option String)

variable {transaction publicKey : Type}

def Handler.sign (deserializedTransaction : transaction) (bodyBytes : Bytes) :
    Handler transaction → Option String
  | ofTransaction sign => sign deserializedTransaction
  | ofText sign => sign (hexText bodyBytes)

namespace HieroSdk

variable (sdk : HieroSdk transaction publicKey)

def packages (others : Packages) : Packages :=
  { others with
    bodyBytes := fun message network =>
      ((sdk.fromBytes message).bind fun read => sdk.freezeWith read network).bind sdk.bodyBytes }

/-- What `MultiSigTransactionAdapter` posts to the backend. -/
def processTransaction (accountId : String) (multiKey : Option MultiKey) (environment : Network)
    (consensusNodes : List ConsensusNode) (transactionDescription : String) (t : transaction)
    (startDate : Int) : Except Failure CreateTransactionRequestDto := do
  let identified ← orThrow .sdkError (sdk.identified t accountId startDate)
  let node ← orThrow (.error ("In order to create multisignature transactions you must set " ++
    "consensus nodes for the environment")) consensusNodes.head?
  let multiKey ← orThrow (.error "MultiKey not found in the account") multiKey
  let frozen ← orThrow .sdkError (sdk.freezeFor identified environment node)
  return {
    id := none
    transactionMessage := hexText (sdk.toBytes frozen)
    description := transactionDescription
    hederaAccountId := accountId
    keyList := multiKey.keys
    threshold := multiKey.threshold
    network := environment
    startDate := startDate
  }

/-- What `SignCommandHandler` puts to the backend for the transaction it has
fetched, if there are bytes to sign. -/
def signCommand (accountKey : Option String) (handler : Handler transaction)
    (fetched : Except Failure GetTransactionsResponseDto) :
    Except Failure (Option SignTransactionRequestDto) := do
  let key ← orThrow (.error "❌ 🔎 No public key found in the account") accountKey
  let stored ← fetched
  let read ← orThrow .sdkError
    (sdk.fromBytes (toUint8Array stored.transactionMessage.toList))
  let deserializedTransaction ← orThrow .sdkError (sdk.freezeWith read stored.network)
  match sdk.bodyBytes deserializedTransaction with
  | none => return none
  | some bytesToSign =>
      let signature ← orThrow .sdkError (handler.sign deserializedTransaction bytesToSign)
      return some ⟨signature, key⟩

/-- One round of the loop over the signatures; a key that is missing throws. -/
def addStored (decode : String → Option Bytes) (deserializedTransaction : transaction)
    (signedKey signature : Option String) : Option transaction := do
  let publicKey ← signedKey.bind sdk.fromString
  let bytes ← signature.bind decode
  sdk.addSignature deserializedTransaction publicKey bytes

def addSignatures (decode : String → Option Bytes) (stored : GetTransactionsResponseDto)
    (deserializedTransaction : transaction) : Option transaction :=
  (List.range stored.signatures.length).foldlM
    (fun later i => sdk.addStored decode later stored.signedKeys[i]? stored.signatures[i]?)
    deserializedTransaction

def transactionToSubmit (stored : GetTransactionsResponseDto) : Option transaction := do
  let message ← bytesOf stored.transactionMessage
  let read ← sdk.fromBytes message
  let deserializedTransaction ← sdk.freezeWith read stored.network
  sdk.addSignatures bytesOf stored deserializedTransaction

/-- `submit` of the job: whether the network has executed it. -/
def submit (execute : transaction → Bool) (stored : GetTransactionsResponseDto) : Bool :=
  (sdk.transactionToSubmit stored).any execute

/-- What `SubmitCommandHandler` hands to the adapter of the wallet. -/
def submitCommand (stored : GetTransactionsResponseDto) : Except Failure transaction := do
  if stored.signatures.length ≠ stored.signedKeys.length then
    throw (.error ("Unexpected error when submiting transaction : number of signatures should " ++
      "equal number of signed keys"))
  let read ← orThrow .sdkError
    (sdk.fromBytes (toUint8Array stored.transactionMessage.toList))
  orThrow .sdkError
    (sdk.addSignatures (fun text => some (toUint8Array text.toList)) stored read)

end HieroSdk

/-! ## What is sent -/

/-- A requested transaction with verified signatures of different keys of its
list. -/
structure Endorsed (packages : Packages) (requested : Transaction) where
  signatures : List (String × String)
  distinct : (signatures.map Prod.fst).Nodup
  authorized : ∀ pair ∈ signatures, pair.1 ∈ requested.keyList
  verified : ∀ pair ∈ signatures, Accepted packages requested pair.1 pair.2

variable (sdk : HieroSdk transaction publicKey) {packages : Packages} {requested row : Transaction}

/-- Signature after signature, each with its key. -/
def Endorsed.attach (decode : String → Option Bytes) (endorsed : Endorsed packages requested)
    (deserializedTransaction : transaction) : Option transaction :=
  endorsed.signatures.foldlM
    (fun later pair => sdk.addStored decode later (some pair.1) (some pair.2))
    deserializedTransaction

/-- Both programs send the requested transaction with these signatures. -/
structure Sends (endorsed : Endorsed packages requested) (stored : GetTransactionsResponseDto) :
    Prop where
  job : ∀ execute, sdk.submit execute stored =
    ((((bytesOf requested.transactionMessage).bind sdk.fromBytes).bind fun read =>
      sdk.freezeWith read requested.network).bind (endorsed.attach sdk bytesOf)).any execute
  command : sdk.submitCommand stored =
    orThrow .sdkError ((sdk.fromBytes (toUint8Array requested.transactionMessage.toList)).bind
      (endorsed.attach sdk fun text => some (toUint8Array text.toList)))

theorem fold_by_index {state first second : Type}
    (step : state → Option first → Option second → Option state) {firsts : List first}
    {seconds : List second} (same : firsts.length = seconds.length) (start : state) :
    (List.range seconds.length).foldlM
        (fun later i => step later firsts[i]? seconds[i]?) start =
      (firsts.zip seconds).foldlM (fun later pair => step later (some pair.1) (some pair.2))
        start := by
  induction seconds generalizing firsts start with
  | nil => simp
  | cons second seconds ih =>
      cases firsts with
      | nil => cases same
      | cons first firsts =>
          have shorter : firsts.length = seconds.length := Nat.succ.inj same
          rw [List.length_cons, List.range_succ_eq_map, List.foldlM_cons, List.zip_cons_cons,
            List.foldlM_cons]
          apply congrArg
          funext later
          rw [List.foldlM_map]
          exact ih shorter later

def endorsedBy (inStep : InStep packages row) : Endorsed packages (withoutSignatures row) where
  signatures := row.signedKeys.zip row.signatures
  distinct := by
    rw [List.map_fst_zip (Nat.le_of_eq inStep.lengths)]
    exact inStep.distinct
  authorized pair listed := inStep.authorized (List.of_mem_zip listed).1
  verified pair listed := inStep.accepted pair.1 pair.2 listed

theorem add_signatures_eq (inStep : InStep packages row) (decode : String → Option Bytes)
    (deserializedTransaction : transaction) :
    sdk.addSignatures decode (transformToDto row) deserializedTransaction =
      (endorsedBy inStep).attach sdk decode deserializedTransaction :=
  fold_by_index (sdk.addStored decode) inStep.lengths deserializedTransaction

theorem sends_endorsed (inStep : InStep packages row)
    (same : withoutSignatures row = requested) :
    ∃ endorsed : Endorsed packages requested,
      endorsed.signatures = row.signedKeys.zip row.signatures ∧
        Sends sdk endorsed (transformToDto row) := by
  subst same
  refine ⟨endorsedBy inStep, rfl, ?_, ?_⟩
  · intro execute
    simp only [HieroSdk.submit, HieroSdk.transactionToSubmit, add_signatures_eq sdk inStep,
      Option.bind_eq_bind, Option.bind_assoc]
    rfl
  · have equal : (transformToDto row).signatures.length = (transformToDto row).signedKeys.length :=
      inStep.lengths.symm
    simp only [HieroSdk.submitCommand, equal, add_signatures_eq sdk inStep, ne_eq,
      not_true_eq_false, if_false, or_throw_bind]
    rfl

/-- Whatever requests overlap: what the job or a wallet would send for a stored
transaction is one that some request asked for, with signatures that were verified
for different keys of its list. What the job may pick has as many as its threshold asks
for, or a request has set its status. -/
theorem only_endorsed_sent (others : Packages) (log : List Access)
    (valid : ∀ dto generated, .create dto generated ∈ log → dto.Valid) :
    ∀ row ∈ (run (Backend.OverlappingRequests.next (sdk.packages others)) idle log).repository.rows,
      ∃ dto generated, .create dto generated ∈ log ∧ dto.rowId generated = some row.id ∧
        ∃ endorsed : Endorsed (sdk.packages others) (created dto row.id),
          Sends sdk endorsed (transformToDto row) ∧
          (row.status = .signed →
            (created dto row.id).threshold ≤ endorsed.signatures.length ∨
              Asked log row.id (.updateStatus .signed)) := by
  intro row listed
  have genuine := (all_genuine_along (sdk.packages others) log valid).stored row listed
  obtain ⟨dto, generated, asked, named, same⟩ := genuine.requested
  obtain ⟨endorsed, pairs, sends⟩ := sends_endorsed sdk genuine.inStep same
  refine ⟨dto, generated, asked, named, endorsed, sends, ?_⟩
  intro signed
  have threshold : (created dto row.id).threshold = row.threshold := by
    rw [← same]
    rfl
  have count : endorsed.signatures.length = row.signedKeys.length := by
    rw [pairs, List.length_zip, ← genuine.inStep.lengths, Nat.min_self]
  rw [threshold, count]
  exact genuine.counted signed

/-! ## Enough wallets sign -/

inductive Act (transaction : Type) where
  | create (dto : CreateTransactionRequestDto) (generated : Uuid)
  | sign (request : Request)
  | signCommand (accountKey : Option String) (handler : Handler transaction)
      (transactionId : Option Uuid)

instance (dto : CreateTransactionRequestDto) : Decidable dto.Valid :=
  decidable_of_iff
    (dto.transactionMessage ≠ "" ∧ dto.description ≠ "" ∧
      hederaIdRegex dto.hederaAccountId = true ∧ dto.keyList ≠ [] ∧
      ∀ key ∈ dto.keyList, hexRegex key = true)
    ⟨fun ⟨message, description, account, keys, hexadecimal⟩ =>
      ⟨message, description, account, keys, hexadecimal⟩,
    fun valid => ⟨valid.transactionMessage, valid.description, valid.hederaAccountId,
      valid.arrayNotEmpty, valid.keys⟩⟩

instance (request : Request) : Decidable request.Valid :=
  decidable_of_iff
    (request.dto.transformed.signature ≠ "" ∧ request.dto.transformed.publicKey ≠ "" ∧
      hexRegex request.dto.transformed.publicKey = true)
    ⟨fun ⟨signature, publicKey, key⟩ => ⟨signature, publicKey, key⟩,
    fun valid => ⟨valid.signature, valid.publicKey, valid.key⟩⟩

def received (packages : Packages) (state : State) (request : Request) : State :=
  if request.Valid then Backend.Operation.next packages state (signing request) else state

def act (others : Packages) (state : State) : Act transaction → State
  | .create dto generated =>
      if dto.transformed.Valid then
        Backend.Operation.next (sdk.packages others) state (.create dto.transformed generated)
      else state
  | .sign request => received (sdk.packages others) state request
  | .signCommand accountKey handler transactionId =>
      match sdk.signCommand accountKey handler
          ((getById transactionId (sdk.packages others) state.repository).map Prod.fst) with
      | .ok (some dto) => received (sdk.packages others) state ⟨dto, transactionId⟩
      | _ => state

def Spares (id : Uuid) : Act transaction → Prop
  | .create dto _ => ¬ dto.Overwrites id
  | _ => True

def Stored (packages : Packages) (requested : Transaction) (state : State) : Prop :=
  ∃ row, state.repository.find requested.id = some row ∧ Consistent packages row ∧
    withoutSignatures row = requested

def SignedBy (requested : Transaction) (key : String) (state : State) : Prop :=
  ∃ row, state.repository.find requested.id = some row ∧ key ∈ row.signedKeys

section Kept

variable {others : Packages} {state : State} {id : Uuid} {key : String}

theorem row_after_received (found : state.repository.find id = some row) (request : Request) :
    ∃ later, (received packages state request).repository.find id = some later ∧
      (later = row ∨ request.Valid ∧ later = signedRow packages id row request) := by
  by_cases valid : request.Valid
  · rw [received, if_pos valid]
    exact ⟨_, find_after_sign found, Or.inr ⟨valid, rfl⟩⟩
  · rw [received, if_neg valid]
    exact ⟨row, found, Or.inl rfl⟩

theorem row_after_act (found : state.repository.find id = some row) {taken : Act transaction}
    (spares : Spares id taken) :
    ∃ later, (act sdk others state taken).repository.find id = some later ∧
      (later = row ∨
        ∃ request : Request, request.Valid ∧
          later = signedRow (sdk.packages others) id row request) := by
  have byRequest (request : Request) :
      ∃ later, (received (sdk.packages others) state request).repository.find id = some later ∧
        (later = row ∨
          ∃ request : Request, request.Valid ∧
            later = signedRow (sdk.packages others) id row request) := by
    obtain ⟨later, present, same | signed⟩ := row_after_received found request
    · exact ⟨later, present, Or.inl same⟩
    · exact ⟨later, present, Or.inr ⟨request, signed⟩⟩
  cases taken with
  | create dto generated =>
      rw [act]
      split
      · have other : ¬ dto.transformed.Overwrites id := spares
        exact ⟨_, find_after_create found, Or.inl (if_neg other)⟩
      · exact ⟨row, found, Or.inl rfl⟩
  | sign request => exact byRequest request
  | signCommand accountKey handler transactionId =>
      rw [act]
      split
      · exact byRequest _
      · exact ⟨row, found, Or.inl rfl⟩

theorem without_signatures_signed (row : Transaction) (request : Request) :
    withoutSignatures (signedRow packages id row request) = withoutSignatures row := by
  unfold signedRow
  split
  · rcases after_signature_cases packages row request.dto.transformed with same | added
    · rw [same]
    · rw [added.2.2.2]
      rfl
  · rfl

theorem signed_keys_grow (row : Transaction) (request : Request) :
    row.signedKeys ⊆ (signedRow packages id row request).signedKeys := by
  unfold signedRow
  split
  · rcases after_signature_cases packages row request.dto.transformed with same | added
    · rw [same]
      exact List.Subset.refl _
    · rw [added.2.2.2]
      exact List.subset_append_left _ _
  · exact List.Subset.refl _

theorem stored_kept {state : State} {taken : Act transaction}
    (stored : Stored (sdk.packages others) requested state) (spares : Spares requested.id taken) :
    Stored (sdk.packages others) requested (act sdk others state taken) := by
  obtain ⟨row, found, consistent, same⟩ := stored
  obtain ⟨later, present, rfl | ⟨request, valid, rfl⟩⟩ := row_after_act sdk found spares
  · exact ⟨_, present, consistent, same⟩
  · refine ⟨_, present, consistent_step valid consistent, ?_⟩
    rw [without_signatures_signed, same]

theorem signed_by_kept {state : State} {taken : Act transaction}
    (spares : Spares requested.id taken) (signed : SignedBy requested key state) :
    SignedBy requested key (act sdk others state taken) := by
  obtain ⟨row, found, listed⟩ := signed
  obtain ⟨later, present, rfl | ⟨request, _, rfl⟩⟩ := row_after_act sdk found spares
  · exact ⟨_, present, listed⟩
  · exact ⟨_, present, signed_keys_grow row request listed⟩

end Kept

section HexTexts

variable {bytes : Bytes}

theorem remove_hex_prefix_hex_text (bytes : Bytes) :
    removeHexPrefix (hexText bytes) = hexText bytes := by
  rw [hexText, removeHexPrefix, String.toList_ofList,
    withoutHexPrefix_digits (fromUint8Array_digits bytes).1]

theorem hex_text_nonempty (some_ : bytes ≠ []) : hexText bytes ≠ "" := by
  intro empty
  have decoded := hexToUint8Array_fromUint8Array some_
  rw [← hexText, empty] at decoded
  cases decoded

theorem read_hex_text (bytes : Bytes) : toUint8Array (hexText bytes).toList = bytes := by
  rw [hexText, String.toList_ofList, toUint8Array_fromUint8Array]

theorem public_key_hex {key : ProtoKey} {text : String}
    (read : MultiKey.publicKeyOf key = .ok text) : ∃ bytes, text = hexText bytes := by
  cases key with
  | ed25519 bytes | ecdsaSecp256k1 bytes =>
      cases read
      exact ⟨bytes, rfl⟩
  | _ => cases read

theorem public_keys_hex {listOfKeys : List ProtoKey} {keys : List String}
    (read : MultiKey.getPublicKeys listOfKeys = .ok keys) :
    ∀ key ∈ keys, ∃ bytes, key = hexText bytes := by
  induction listOfKeys generalizing keys with
  | nil =>
      cases read
      simp
  | cons first rest ih =>
      rw [MultiKey.getPublicKeys, List.mapM_cons] at read
      obtain ⟨text, firstRead, others⟩ := except_bind_ok.mp read
      obtain ⟨texts, restRead, same⟩ := except_bind_ok.mp others
      cases same
      intro key listed
      rcases List.mem_cons.mp listed with rfl | later
      · exact public_key_hex firstRead
      · exact ih restRead key later

theorem multi_key_hex {key : ProtoKey} {multiKey : MultiKey}
    (read : MultiKey.fromProtobuf key = .ok multiKey) :
    ∀ text ∈ multiKey.keys, ∃ bytes, text = hexText bytes := by
  cases key with
  | keyList keys =>
      obtain ⟨texts, keysRead, same⟩ := except_bind_ok.mp read
      cases same
      exact public_keys_hex keysRead
  | thresholdKey threshold keys =>
      rw [MultiKey.fromProtobuf] at read
      split at read
      · cases read
      · obtain ⟨listed, _, later⟩ := except_bind_ok.mp read
        obtain ⟨texts, keysRead, same⟩ := except_bind_ok.mp later
        cases same
        exact public_keys_hex keysRead
  | _ => cases read

end HexTexts

/-- A frozen transaction is read from these bytes, and has bytes to sign. -/
structure Readable (message : Bytes) (network : Network) (bodyBytes : Bytes) : Prop where
  nonempty : message ≠ []
  read : ∃ read frozen, sdk.fromBytes message = some read ∧
    sdk.freezeWith read network = some frozen ∧ sdk.bodyBytes frozen = some bodyBytes

def Signs (others : Packages) (key : String) (handler : Handler transaction) : Prop :=
  ∀ frozen bodyBytes, sdk.bodyBytes frozen = some bodyBytes →
    ∃ signature, signature ≠ [] ∧ handler.sign frozen bodyBytes = some (hexText signature) ∧
      verifySignature (sdk.packages others) key bodyBytes (hexText signature) = true

section Completion

variable {others : Packages} {state : State} {key : String} {handler : Handler transaction}
  {bytes body : Bytes}

/-- The backend verifies the bytes that the wallet has signed. -/
theorem bytes_to_sign_readable (message : row.transactionMessage = hexText bytes)
    (readable : Readable sdk bytes row.network body) :
    bytesToSign (sdk.packages others) row = .ok body := by
  obtain ⟨read, frozen, isRead, isFrozen, hasBody⟩ := readable.read
  have decoded : hexToUint8Array row.transactionMessage = .ok bytes := by
    rw [message, hexText, hexToUint8Array_fromUint8Array readable.nonempty]
  have known : (sdk.packages others).bodyBytes bytes row.network = some body := by
    simp only [HieroSdk.packages, isRead, isFrozen, hasBody, Option.bind_some]
  rw [bytesToSign, decoded]
  simp only [bind, Except.bind, known]

theorem sign_command_ok (stored : GetTransactionsResponseDto)
    (message : stored.transactionMessage = hexText bytes)
    (readable : Readable sdk bytes stored.network body) (signs : Signs sdk others key handler) :
    ∃ signature, signature ≠ [] ∧
      verifySignature (sdk.packages others) key body (hexText signature) = true ∧
      sdk.signCommand (some key) handler (.ok stored) = .ok (some ⟨hexText signature, key⟩) := by
  obtain ⟨read, frozen, isRead, isFrozen, hasBody⟩ := readable.read
  obtain ⟨signature, nonempty, isSigned, verified⟩ := signs frozen body hasBody
  have fetched : sdk.fromBytes (toUint8Array stored.transactionMessage.toList) = some read := by
    rw [message, read_hex_text, isRead]
  refine ⟨signature, nonempty, verified, ?_⟩
  refine except_bind_ok.mpr ⟨key, rfl, except_bind_ok.mpr ⟨stored, rfl, ?_⟩⟩
  refine except_bind_ok.mpr ⟨read, or_throw_ok.mpr fetched, ?_⟩
  refine except_bind_ok.mpr ⟨frozen, or_throw_ok.mpr isFrozen, ?_⟩
  rw [hasBody]
  exact except_bind_ok.mpr ⟨_, or_throw_ok.mpr isSigned, rfl⟩

theorem plain_request_transformed (plain : removeHexPrefix key = key) (signature : Bytes) :
    (⟨hexText signature, key⟩ : SignTransactionRequestDto).transformed =
      ⟨hexText signature, key⟩ := by
  rw [SignTransactionRequestDto.transformed, plain, remove_hex_prefix_hex_text]

/-- A wallet of the list that signs the stored transaction is among the signers
afterwards, if it was not before. -/
theorem wallet_signs (message : requested.transactionMessage = hexText bytes)
    (readable : Readable sdk bytes requested.network body) (signs : Signs sdk others key handler)
    (listed : key ∈ requested.keyList) (plain : removeHexPrefix key = key)
    (hexadecimal : hexRegex key = true) (state : State)
    (stored : Stored (sdk.packages others) requested state) :
    SignedBy requested key
      (act sdk others state (.signCommand (some key) handler (some requested.id))) := by
  obtain ⟨row, found, consistent, rfl⟩ := stored
  change state.repository.find row.id = some row at found
  obtain ⟨signature, nonempty, verified, sent⟩ :=
    sign_command_ok sdk (transformToDto row) message readable signs
  have fetched : (getById (some row.id) (sdk.packages others) state.repository).map Prod.fst =
      .ok (transformToDto row) := by
    rw [get_by_id_ok.mpr ⟨row.id, row, rfl, found, rfl, rfl⟩]
    rfl
  have transformed := plain_request_transformed plain signature
  have valid : Request.Valid ⟨⟨hexText signature, key⟩, some row.id⟩ := by
    rw [Request.Valid, transformed]
    exact ⟨hex_text_nonempty nonempty, key_nonempty hexadecimal, hexadecimal⟩
  have after : act sdk others state (.signCommand (some key) handler (some row.id)) =
      Backend.Operation.next (sdk.packages others) state
        (.sign ⟨hexText signature, key⟩ (some row.id)) := by
    rw [act, fetched, sent]
    change received _ _ _ = _
    rw [received, if_pos valid, signing, transformed]
  change SignedBy _ key (act sdk others state (.signCommand (some key) handler (some row.id)))
  rw [after]
  refine ⟨_, find_after_sign found, ?_⟩
  have own : some row.id = some (withoutSignatures row).id := rfl
  rw [if_pos own]
  by_cases already : key ∈ row.signedKeys
  · rcases after_signature_cases (sdk.packages others) row ⟨hexText signature, key⟩ with
      same | added
    · rw [same]
      exact already
    · exact absurd already added.1
  · have added : addSignature (sdk.packages others) row ⟨hexText signature, key⟩ =
        .ok (withSignature row ⟨hexText signature, key⟩) :=
      add_signature_ok.mpr
        ⟨already, listed, ⟨body, bytes_to_sign_readable sdk message readable, verified⟩, rfl⟩
    rw [afterSignature, added]
    simp [withSignature]

theorem process_transaction_ok {accountId transactionDescription : String}
    {multiKey : Option MultiKey} {environment : Network} {consensusNodes : List ConsensusNode}
    {t : transaction} {startDate : Int} {dto : CreateTransactionRequestDto} :
    sdk.processTransaction accountId multiKey environment consensusNodes transactionDescription t
        startDate = .ok dto ↔
      ∃ identified node keys frozen, sdk.identified t accountId startDate = some identified ∧
        consensusNodes.head? = some node ∧ multiKey = some keys ∧
        sdk.freezeFor identified environment node = some frozen ∧
        dto = ⟨none, hexText (sdk.toBytes frozen), transactionDescription, accountId, keys.keys,
          keys.threshold, environment, startDate⟩ := by
  simp only [HieroSdk.processTransaction, except_bind_ok, or_throw_ok, exists_and_left, pure,
    Except.pure, Except.ok.injEq]
  constructor
  · intro posted
    obtain ⟨identified, isIdentified, node, first, keys, held, frozen, isFrozen, rfl⟩ := posted
    exact ⟨identified, isIdentified, node, first, keys, held, frozen, isFrozen, rfl⟩
  · intro described
    obtain ⟨identified, isIdentified, node, first, keys, held, frozen, isFrozen, rfl⟩ := described
    exact ⟨identified, isIdentified, node, first, keys, held, frozen, isFrozen, rfl⟩

theorem multi_key_threshold {protoKey : ProtoKey} {multiKey : MultiKey}
    (read : MultiKey.fromProtobuf protoKey = .ok multiKey) (nonempty : multiKey.keys ≠ []) :
    multiKey.threshold ≠ 0 := by
  cases protoKey with
  | keyList keys =>
      obtain ⟨texts, _, same⟩ := except_bind_ok.mp read
      cases same
      exact fun none_ => nonempty (List.eq_nil_of_length_eq_zero none_)
  | thresholdKey threshold keys =>
      rw [MultiKey.fromProtobuf] at read
      split at read
      · cases read
      · next positive =>
          obtain ⟨listed, _, later⟩ := except_bind_ok.mp read
          obtain ⟨texts, _, same⟩ := except_bind_ok.mp later
          cases same
          exact positive
  | _ => cases read

theorem created_threshold_le {dto : CreateTransactionRequestDto} (id : Uuid)
    (positive : dto.threshold ≠ 0) : (created dto id).threshold ≤ dto.threshold := by
  simp only [created]
  split
  · next clamped =>
      rcases clamped with zero | short
      · exact absurd zero positive
      · exact Nat.le_of_lt short
  · exact Nat.le_refl _

theorem signed_by_wallets {acts : List (Act transaction)}
    {wallets : List (String × Handler transaction)}
    (message : requested.transactionMessage = hexText bytes)
    (readable : Readable sdk bytes requested.network body)
    (able : ∀ wallet ∈ wallets, Signs sdk others wallet.1 wallet.2 ∧
      wallet.1 ∈ requested.keyList ∧ removeHexPrefix wallet.1 = wallet.1 ∧ hexRegex wallet.1 = true)
    (sign : ∀ wallet ∈ wallets, .signCommand (some wallet.1) wallet.2 (some requested.id) ∈ acts)
    (spared : ∀ taken ∈ acts, Spares requested.id taken)
    (stored : Stored (sdk.packages others) requested state) :
    ∃ row, (run (act sdk others) state acts).repository.find requested.id = some row ∧
      Consistent (sdk.packages others) row ∧ withoutSignatures row = requested ∧
      ∀ wallet ∈ wallets, wallet.1 ∈ row.signedKeys := by
  have along : Along (act sdk others) (fun _ taken => Spares requested.id taken) state acts :=
    along_of_forall_mem _ (fun taken listed _ => spared taken listed) state
  have signed : ∀ wallet ∈ wallets,
      SignedBy requested wallet.1 (run (act sdk others) state acts) := by
    intro wallet member
    obtain ⟨signs, listed, plain, hexadecimal⟩ := able wallet member
    exact brought_about (act sdk others) (fun _ _ stored spares => stored_kept sdk stored spares)
      (fun _ _ _ spares signed => signed_by_kept sdk spares signed)
      (wallet_signs sdk message readable signs listed plain hexadecimal) stored (sign wallet member)
      along
  obtain ⟨row, found, consistent, same⟩ :=
    invariant_of_steps _ (fun _ _ stored spares => stored_kept sdk stored spares) stored along
  refine ⟨row, found, consistent, same, ?_⟩
  intro wallet member
  obtain ⟨other, present, listed⟩ := signed wallet member
  rw [found] at present
  cases present
  exact listed

theorem multi_key_plain {protoKey : ProtoKey} {multiKey : MultiKey}
    (read : MultiKey.fromProtobuf protoKey = .ok multiKey) :
    ∀ key ∈ multiKey.keys, removeHexPrefix key = key := by
  intro key inList
  obtain ⟨bytes, rfl⟩ := multi_key_hex read key inList
  exact remove_hex_prefix_hex_text bytes

theorem transformed_of_plain {dto : CreateTransactionRequestDto}
    (plain : ∀ key ∈ dto.keyList, removeHexPrefix key = key) : dto.transformed = dto := by
  have unchanged : dto.keyList.map removeHexPrefix = dto.keyList :=
    (List.map_congr_left plain).trans (List.map_id' _)
  rw [CreateTransactionRequestDto.transformed, unchanged]

theorem stored_after_create {dto : CreateTransactionRequestDto} {id : Uuid}
    (free : state.repository.find id = none) (unnamed : dto.id = none)
    (transformed : dto.transformed = dto) (valid : dto.Valid) :
    Stored (sdk.packages others) (created dto id) (act sdk others state (.create dto id)) := by
  have named : dto.rowId id = some id := by
    rw [CreateTransactionRequestDto.rowId, unnamed]
  have accepted : create dto id (sdk.packages others) state.repository =
      .ok (created dto id, state.repository.put (created dto id)) :=
    create_ok.mpr ⟨id, named, Or.inr free, rfl, rfl⟩
  rw [act, transformed, if_pos valid]
  exact ⟨created dto id, find_created accepted, consistent_created valid, rfl⟩

theorem signers_le {wallets : List (String × Handler transaction)}
    (distinct : (wallets.map Prod.fst).Nodup)
    (signed : ∀ wallet ∈ wallets, wallet.1 ∈ row.signedKeys) :
    wallets.length ≤ row.signedKeys.length := by
  have subset : wallets.map Prod.fst ⊆ row.signedKeys := by
    intro key member
    obtain ⟨wallet, inList, rfl⟩ := List.mem_map.mp member
    exact signed wallet inList
  have length := (List.subperm_of_subset distinct subset).length_le
  rwa [List.length_map] at length

/-- A transaction that the SDK has posted for an account of many keys is signed
as soon as enough of its wallets have signed it, in any order and whatever other
requests to create and to sign come between, as long as no body takes its id; it is
sent with all their signatures. -/
theorem enough_wallets_sign (others : Packages) (state : State) (id : Uuid)
    (free : state.repository.find id = none) (accountId transactionDescription : String)
    (protoKey : ProtoKey) (multiKey : MultiKey)
    (isMultiKey : MultiKey.fromProtobuf protoKey = .ok multiKey) (environment : Network)
    (consensusNodes : List ConsensusNode) (t : transaction) (startDate : Int)
    (dto : CreateTransactionRequestDto)
    (posted : sdk.processTransaction accountId (some multiKey) environment consensusNodes
      transactionDescription t startDate = .ok dto) (valid : dto.Valid)
    (readable : ∀ identified node frozen, sdk.freezeFor identified environment node = some frozen →
      ∃ body, Readable sdk (sdk.toBytes frozen) environment body)
    (acts : List (Act transaction)) (spared : ∀ taken ∈ acts, Spares id taken)
    (wallets : List (String × Handler transaction))
    (distinct : (wallets.map Prod.fst).Nodup) (enough : multiKey.threshold ≤ wallets.length)
    (listed : ∀ wallet ∈ wallets, wallet.1 ∈ multiKey.keys)
    (signs : ∀ wallet ∈ wallets, Signs sdk others wallet.1 wallet.2)
    (sign : ∀ wallet ∈ wallets, .signCommand (some wallet.1) wallet.2 (some id) ∈ acts) :
    ∃ row, (run (act sdk others) state (.create dto id :: acts)).repository.find id = some row ∧
      row.status = .signed ∧
      ∃ endorsed : Endorsed (sdk.packages others) (created dto id),
        multiKey.threshold ≤ endorsed.signatures.length ∧
        (∀ wallet ∈ wallets, wallet.1 ∈ endorsed.signatures.map Prod.fst) ∧
        Sends sdk endorsed (transformToDto row) := by
  obtain ⟨identified, node, keys, frozen, _, _, held, isFrozen, same⟩ :=
    (process_transaction_ok sdk).mp posted
  cases held
  have keyList : dto.keyList = multiKey.keys := by rw [same]
  have plain := multi_key_plain isMultiKey
  have stored : Stored (sdk.packages others) (created dto id)
      (act sdk others state (.create dto id)) :=
    stored_after_create sdk free (by rw [same]) (transformed_of_plain (keyList ▸ plain)) valid
  have message : (created dto id).transactionMessage = hexText (sdk.toBytes frozen) := by
    rw [created, same]
  have network : (created dto id).network = environment := by
    rw [created, same]
  obtain ⟨body, isReadable⟩ := readable identified node frozen isFrozen
  rw [← network] at isReadable
  obtain ⟨row, found, consistent, isRequested, signed⟩ := signed_by_wallets sdk message isReadable
    (fun wallet member => ⟨signs wallet member,
      mem_remove_duplicates.mpr (keyList ▸ listed wallet member), plain _ (listed wallet member),
      valid.keys _ (keyList ▸ listed wallet member)⟩) sign spared stored
  have threshold : row.threshold ≤ multiKey.threshold := by
    have positive : dto.threshold ≠ 0 := by
      rw [same]
      exact multi_key_threshold isMultiKey (keyList ▸ valid.arrayNotEmpty)
    have kept : row.threshold = (created dto id).threshold := by
      rw [← isRequested]
      rfl
    have bounded := created_threshold_le id positive
    rw [← kept] at bounded
    rwa [same] at bounded
  have many := enough.trans (signers_le distinct signed)
  obtain ⟨endorsed, pairs, sends⟩ := sends_endorsed sdk consistent.toInStep isRequested
  have keys : endorsed.signatures.map Prod.fst = row.signedKeys := by
    rw [pairs, List.map_fst_zip (Nat.le_of_eq consistent.lengths)]
  have count : endorsed.signatures.length = row.signedKeys.length := by
    rw [← keys, List.length_map]
  refine ⟨row, found, consistent.status.mpr (threshold.trans many), endorsed, ?_, ?_, sends⟩
  · rw [count]
    exact many
  · intro wallet member
    rw [keys]
    exact signed wallet member

end Completion

/-! ## Two wallets -/

/-- A transaction is its body, which is never empty, and what was added to it. -/
def plainSdk : HieroSdk (Bytes × List (Bytes × Bytes)) Bytes where
  fromBytes message := some (message, [])
  toBytes := Prod.fst
  identified t _ _ := some t
  freezeFor t _ _ := if t.1 = [] then none else some t
  freezeWith t _ := some t
  bodyBytes t := some t.1
  fromString := bytesOf
  addSignature t key signature := some (t.1, t.2 ++ [(key, signature)])

theorem sample_only_endorsed :
    ∃ dto generated, .create dto generated ∈ overlappingLog ∧ dto.rowId generated = some 1 ∧
      ∃ endorsed : Endorsed (plainSdk.packages samplePackages) (created dto 1),
        Sends plainSdk endorsed (transformToDto (sampleTransaction [firstKey] 1)) ∧
        (TransactionStatus.pending = .signed →
          (created dto 1).threshold ≤ endorsed.signatures.length ∨
            Asked overlappingLog 1 (.updateStatus .signed)) :=
  only_endorsed_sent plainSdk samplePackages overlappingLog overlapping_creations_valid
    (sampleTransaction [firstKey] 1) (List.mem_singleton_self _)

def decoded (text : String) : Bytes := (bytesOf text).getD []

theorem first_key_text : hexText (decoded firstKey) = firstKey := by decide +kernel

theorem second_key_text : hexText (decoded secondKey) = secondKey := by decide +kernel

theorem first_signature_text :
    decoded firstSignature ≠ [] ∧ hexText (decoded firstSignature) = firstSignature := by
  decide +kernel

theorem second_signature_text :
    decoded secondSignature ≠ [] ∧ hexText (decoded secondSignature) = secondSignature := by
  decide +kernel

def signsWith (signature : String) : Handler (Bytes × List (Bytes × Bytes)) :=
  .ofText fun _ => some signature

theorem signs_with {key signature : String}
    (written : decoded signature ≠ [] ∧ hexText (decoded signature) = signature)
    (verifies : ∀ message, verifySignature samplePackages key message signature = true) :
    Signs plainSdk samplePackages key (signsWith signature) := by
  intro frozen bodyBytes _
  refine ⟨decoded signature, written.1, ?_, ?_⟩
  · rw [written.2]
    rfl
  · rw [written.2]
    exact verifies bodyBytes

def bothWallets : List (String × Handler (Bytes × List (Bytes × Bytes))) :=
  [(firstKey, signsWith firstSignature), (secondKey, signsWith secondSignature)]

theorem posted_sample :
    plainSdk.processTransaction "0.0.123456" (some ⟨[firstKey, secondKey], 2⟩) .testnet
        [⟨"127.0.0.1:50211", "0.0.3"⟩] "This transaction is for the creation of a new StableCoin"
        (decoded "0a1a0a0c0892d5c0af0610efaedd9503", []) 0 =
      .ok (sampleRequest [firstKey, secondKey] 2) := by
  have written : hexText (decoded "0a1a0a0c0892d5c0af0610efaedd9503") =
      "0a1a0a0c0892d5c0af0610efaedd9503" := by decide +kernel
  apply (process_transaction_ok plainSdk).mpr
  refine ⟨_, _, _, _, rfl, rfl, rfl, rfl, ?_⟩
  rw [sampleRequest, plainSdk, written]

theorem sample_wallets_sign :
    ∃ row, (run (act plainSdk samplePackages) nothingStored
        (.create (sampleRequest [firstKey, secondKey] 2) 1 ::
          bothWallets.map fun wallet =>
            .signCommand (some wallet.1) wallet.2 (some 1))).repository.find 1 = some row ∧
      row.status = .signed ∧
      ∃ endorsed : Endorsed (plainSdk.packages samplePackages)
          (created (sampleRequest [firstKey, secondKey] 2) 1),
        2 ≤ endorsed.signatures.length ∧
        (∀ wallet ∈ bothWallets, wallet.1 ∈ endorsed.signatures.map Prod.fst) ∧
        Sends plainSdk endorsed (transformToDto row) := by
  refine enough_wallets_sign plainSdk samplePackages nothingStored 1 rfl "0.0.123456"
    "This transaction is for the creation of a new StableCoin"
    (.thresholdKey 2 (some [.ed25519 (decoded firstKey), .ed25519 (decoded secondKey)]))
    ⟨[firstKey, secondKey], 2⟩ ?_ .testnet _ _ 0 _ posted_sample ?_ ?_ _ ?_ bothWallets ?_ ?_ ?_ ?_
    ?_
  · change Except.ok _ = _
    rw [first_key_text, second_key_text]
    rfl
  · apply sample_request_valid (by decide)
    intro key member
    rcases List.mem_pair.mp member with rfl | rfl
    · exact first_key_hexadecimal
    · exact second_key_hexadecimal
  · intro identified node frozen isFrozen
    simp only [plainSdk] at isFrozen
    split at isFrozen
    · cases isFrozen
    · next nonempty =>
        cases isFrozen
        exact ⟨identified.1, nonempty, (identified.1, []), (identified.1, []), rfl, rfl, rfl⟩
  · intro taken member
    obtain ⟨wallet, _, rfl⟩ := List.mem_map.mp member
    exact trivial
  · decide +kernel
  · exact Nat.le_refl 2
  · intro wallet member
    rcases List.mem_pair.mp member with rfl | rfl
    · simp
    · simp
  · intro wallet member
    rcases List.mem_pair.mp member with rfl | rfl
    · exact signs_with first_signature_text first_verifies
    · exact signs_with second_signature_text second_verifies
  · intro wallet member
    exact List.mem_map_of_mem member

end StablecoinStudio.Sdk.MultiSignatures
