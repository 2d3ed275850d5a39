import StablecoinStudio.Backend.Operation
import StablecoinStudio.Foundation.Quorums

/-!
# Signed means signed by enough keys

`create` and `sign` tell keys apart as texts, and a signature is verified with
the bytes that a text decodes to. The two arrays of a transaction stay in step
whatever is requested; its threshold counts keys where the texts that can sign
are as many keys.
-/

namespace StablecoinStudio.Backend.SignedKeys

open StablecoinStudio.Backend.Operation
open StablecoinStudio.Backend.TransactionService
open StablecoinStudio.Backend.Utils
open StablecoinStudio.Foundation.KeyedTables
open StablecoinStudio.Foundation.Quorums
open StablecoinStudio.Foundation.Runs

set_option autoImplicit false

structure Request where
  dto : SignTransactionRequestDto
  transactionId : Option Uuid

def Request.Valid (request : Request) : Prop := request.dto.transformed.Valid

def signing (request : Request) : Event := .sign request.dto.transformed request.transactionId

variable (packages : Packages)

/-- A signature that `verifySignature` accepts for the message of a transaction. -/
def Accepted (transaction : Transaction) (key signature : String) : Prop :=
  ∃ message, bytesToSign packages transaction = .ok message ∧
    verifySignature packages key message signature = true

/-- The signed keys are different keys of the list, and the signatures
correspond to them index by index. -/
structure InStep (transaction : Transaction) : Prop where
  lengths : transaction.signedKeys.length = transaction.signatures.length
  accepted : ∀ key signature, (key, signature) ∈ transaction.signedKeys.zip transaction.signatures →
    Accepted packages transaction key signature
  distinct : transaction.signedKeys.Nodup
  authorized : transaction.signedKeys ⊆ transaction.keyList
  keysDistinct : transaction.keyList.Nodup
  thresholdPositive : 1 ≤ transaction.threshold
  thresholdReachable : transaction.threshold ≤ transaction.keyList.length

/-- Besides, a signed transaction has as many different keys as its threshold
asks for. -/
structure SignedByKeys (transaction : Transaction) : Prop extends InStep packages transaction where
  enough : transaction.status = .signed →
    ∃ keys : Finset Bytes, transaction.threshold ≤ keys.card ∧
      ∀ bytes ∈ keys, ∃ key signature,
        (key, signature) ∈ transaction.signedKeys.zip transaction.signatures ∧
          Accepted packages transaction key signature ∧ bytesOf key = some bytes

def CanSign (transaction : Transaction) (key : String) : Prop :=
  ∃ signature, signature ≠ "" ∧ Accepted packages transaction key signature

open Classical in
noncomputable def signers (transaction : Transaction) : Finset String :=
  transaction.keyList.toFinset.filter (CanSign packages transaction)

/-- If enough keys can sign, each of them decodes and, where one signature does
not suffice, no two of them decode to the same bytes. -/
def KeysApart (transaction : Transaction) : Prop :=
  transaction.threshold ≤ (signers packages transaction).card →
    (∀ key ∈ signers packages transaction, (bytesOf key).isSome) ∧
      (transaction.threshold = 1 ∨ Set.InjOn bytesOf (signers packages transaction))

variable {packages} {row : Transaction} {id : Uuid} {request : Request}
  {requests : List Request}

/-! ## In step in every run -/

theorem after_signature_cases (packages : Packages) (row : Transaction)
    (dto : SignTransactionRequestDto) :
    afterSignature packages row dto = row ∨
      (dto.publicKey ∉ row.signedKeys ∧ dto.publicKey ∈ row.keyList ∧
        Accepted packages row dto.publicKey dto.signature ∧
        afterSignature packages row dto = withSignature row dto) := by
  unfold afterSignature
  cases outcome : addSignature packages row dto with
  | error failure => exact Or.inl rfl
  | ok signed => exact Or.inr (add_signature_ok.mp outcome)

theorem in_step_after_signature (inStep : InStep packages row) (dto : SignTransactionRequestDto) :
    InStep packages (afterSignature packages row dto) := by
  rcases after_signature_cases packages row dto with same | ⟨unsigned, authorized, signed, isSigned⟩
  · rw [same]
    exact inStep
  · rw [isSigned]
    constructor
    · -- lengths
      simp [withSignature, inStep.lengths]
    · -- accepted
      intro key signature member
      change (key, signature) ∈
        (row.signedKeys ++ [dto.publicKey]).zip (row.signatures ++ [dto.signature]) at member
      rw [List.zip_append inStep.lengths] at member
      rcases List.mem_append.mp member with old | new
      · exact inStep.accepted key signature old
      · cases List.mem_singleton.mp new
        exact signed
    · -- distinct
      exact List.nodup_append_comm.mp (List.nodup_cons.mpr ⟨unsigned, inStep.distinct⟩)
    · -- authorized
      apply List.append_subset.mpr
      exact ⟨inStep.authorized, List.cons_subset.mpr ⟨authorized, List.nil_subset _⟩⟩
    · exact inStep.keysDistinct
    · exact inStep.thresholdPositive
    · exact inStep.thresholdReachable

theorem in_step_with_status (inStep : InStep packages row) (status : TransactionStatus) :
    InStep packages { row with status := status } where
  lengths := inStep.lengths
  accepted := inStep.accepted
  distinct := inStep.distinct
  authorized := inStep.authorized
  keysDistinct := inStep.keysDistinct
  thresholdPositive := inStep.thresholdPositive
  thresholdReachable := inStep.thresholdReachable

/-- A row as `create` and `sign` leave it: the status counts texts. -/
structure Consistent (packages : Packages) (row : Transaction) : Prop
    extends InStep packages row where
  nonempty : ∀ signature ∈ row.signatures, signature ≠ ""
  status : row.status = .signed ↔ row.threshold ≤ row.signedKeys.length

theorem created_keys {dto : CreateTransactionRequestDto} (valid : dto.Valid) :
    ∀ key ∈ (created dto id).keyList, hexRegex key = true := by
  intro key listed
  exact valid.keys key (mem_remove_duplicates.mp listed)

theorem consistent_created {dto : CreateTransactionRequestDto} (valid : dto.Valid) :
    Consistent packages (created dto id) := by
  have nonempty : 1 ≤ (removeDuplicates dto.keyList).length := by
    obtain ⟨key, listed⟩ := List.exists_mem_of_ne_nil _ valid.arrayNotEmpty
    exact List.length_pos_of_mem (mem_remove_duplicates.mpr listed)
  have clamped : 1 ≤ (created dto id).threshold ∧
      (created dto id).threshold ≤ (created dto id).keyList.length := by
    simp only [created]
    split
    · exact ⟨nonempty, Nat.le_refl _⟩
    · omega
  exact {
    lengths := rfl
    accepted := fun _ _ member => absurd member List.not_mem_nil
    distinct := List.nodup_nil
    authorized := List.nil_subset _
    keysDistinct := nodup_remove_duplicates _
    thresholdPositive := clamped.1
    thresholdReachable := clamped.2
    nonempty := fun _ member => absurd member List.not_mem_nil
    status := by
      constructor
      · intro signed
        cases signed
      · intro reached
        have none_ : (created dto id).threshold ≤ 0 := reached
        omega }

def StoredInStep (packages : Packages) (id : Uuid) (state : State) : Prop :=
  ∃ row, state.repository.find id = some row ∧ InStep packages row

def Admitted : Event → Prop
  | .create dto _ => dto.Valid
  | _ => True

theorem stored_in_step_next {state : State} {event : Event} (admitted : Admitted event)
    (stored : StoredInStep packages id state) :
    StoredInStep packages id (next packages state event) := by
  obtain ⟨row, found, inStep⟩ := stored
  cases event with
  | create dto generated =>
      refine ⟨_, find_after_create found, ?_⟩
      by_cases overwrites : dto.Overwrites id
      · rw [if_pos overwrites]
        exact (consistent_created admitted).toInStep
      · rw [if_neg overwrites]
        exact inStep
  | sign dto transactionId =>
      refine ⟨_, find_after_sign found, ?_⟩
      by_cases named : transactionId = some id
      · rw [if_pos named]
        exact in_step_after_signature inStep dto
      · rw [if_neg named]
        exact inStep
  | job zone clock submit =>
      obtain ⟨status, changed⟩ := find_after_job zone clock submit found
      exact ⟨_, changed, in_step_with_status inStep status⟩

/-- Whatever the backend is asked and whenever the job runs. -/
theorem stored_in_step_along_run {state : State} {events : List Event}
    (admitted : ∀ event ∈ events, Admitted event) (stored : StoredInStep packages id state) :
    StoredInStep packages id (run (next packages) state events) :=
  invariant_of_steps _ (fun _ _ kept admitted => stored_in_step_next admitted kept) stored
    (along_of_forall_mem _ (fun event listed _ => admitted event listed) state)

/-! ## The row under requests to sign -/

def signedRow (packages : Packages) (id : Uuid) (row : Transaction) (request : Request) :
    Transaction :=
  if request.transactionId = some id then afterSignature packages row request.dto.transformed
  else row

theorem find_after_requests {state : State} (found : state.repository.find id = some row) :
    (run (next packages) state (requests.map signing)).repository.find id =
      some (run (signedRow packages id) row requests) := by
  induction requests generalizing state row with
  | nil => exact found
  | cons request later ih =>
      rw [List.map_cons, run_cons, run_cons]
      apply ih
      exact find_after_sign found

theorem status_with_signature {dto : SignTransactionRequestDto}
    (status : row.status = .signed ↔ row.threshold ≤ row.signedKeys.length) :
    (withSignature row dto).status = .signed ↔
      (withSignature row dto).threshold ≤ (withSignature row dto).signedKeys.length := by
  have grown : (row.signedKeys ++ [dto.publicKey]).length = row.signedKeys.length + 1 :=
    List.length_append
  simp only [withSignature, grown]
  by_cases reached : row.threshold ≤ row.signedKeys.length + 1
  · simp [reached]
  · have before : ¬ row.threshold ≤ row.signedKeys.length := by omega
    simp [reached, status, before]

theorem consistent_step (valid : request.Valid) (consistent : Consistent packages row) :
    Consistent packages (signedRow packages id row request) := by
  unfold signedRow
  by_cases named : request.transactionId = some id
  · rw [if_pos named]
    refine ⟨in_step_after_signature consistent.toInStep _, ?_, ?_⟩
    · rcases after_signature_cases packages row request.dto.transformed with same | added
      · rw [same]
        exact consistent.nonempty
      · rw [added.2.2.2]
        intro signature listed
        rcases List.mem_append.mp listed with old | new
        · exact consistent.nonempty signature old
        · rw [List.mem_singleton.mp new]
          exact valid.signature
    · rcases after_signature_cases packages row request.dto.transformed with same | added
      · rw [same]
        exact consistent.status
      · rw [added.2.2.2]
        exact status_with_signature consistent.status
  · rw [if_neg named]
    exact consistent

theorem consistent_run (valid : ∀ request ∈ requests, request.Valid)
    (consistent : Consistent packages row) :
    Consistent packages (run (signedRow packages id) row requests) :=
  invariant_of_steps _ (fun _ _ kept valid => consistent_step valid kept) consistent
    (along_of_forall_mem _ (fun request listed _ => valid request listed) row)

theorem signers_step (packages : Packages) (id : Uuid) (row : Transaction) (request : Request) :
    signers packages (signedRow packages id row request) = signers packages row ∧
    (signedRow packages id row request).threshold = row.threshold := by
  unfold signedRow
  by_cases named : request.transactionId = some id
  · rw [if_pos named]
    rcases after_signature_cases packages row request.dto.transformed with same | added
    · rw [same]
      exact ⟨rfl, rfl⟩
    · rw [added.2.2.2]
      exact ⟨rfl, rfl⟩
  · rw [if_neg named]
    exact ⟨rfl, rfl⟩

theorem signers_run (packages : Packages) (id : Uuid) (row : Transaction)
    (requests : List Request) : signers packages (run (signedRow packages id) row requests) =
      signers packages row ∧
    (run (signedRow packages id) row requests).threshold = row.threshold := by
  induction requests generalizing row with
  | nil => exact ⟨rfl, rfl⟩
  | cons request later ih =>
      have step := signers_step packages id row request
      rw [run_cons, (ih _).1, (ih _).2]
      exact step

theorem mem_signers {key : String} :
    key ∈ signers packages row ↔ key ∈ row.keyList ∧ CanSign packages row key := by
  simp [signers]

theorem signed_key_accepted (inStep : InStep packages row) {key : String}
    (signed : key ∈ row.signedKeys) :
    ∃ signature, (key, signature) ∈ row.signedKeys.zip row.signatures := by
  rw [← List.map_fst_zip (Nat.le_of_eq inStep.lengths)] at signed
  obtain ⟨⟨_, signature⟩, member, rfl⟩ := List.mem_map.mp signed
  exact ⟨signature, member⟩

theorem signed_keys_can_sign (consistent : Consistent packages row) :
    row.signedKeys.toFinset ⊆ signers packages row := by
  intro key member
  have signed := List.mem_toFinset.mp member
  obtain ⟨signature, paired⟩ := signed_key_accepted consistent.toInStep signed
  have nonempty := consistent.nonempty signature (List.of_mem_zip paired).2
  exact mem_signers.mpr ⟨consistent.authorized signed, signature, nonempty,
    consistent.accepted key signature paired⟩

/-- On a consistent row only the count of the keys is at stake. -/
theorem signed_by_keys_iff (consistent : Consistent packages row) :
    SignedByKeys packages row ↔
      (row.threshold ≤ row.signedKeys.toFinset.card →
        Covers bytesOf row.threshold row.signedKeys.toFinset) := by
  rw [List.toFinset_card_of_nodup consistent.distinct, ← consistent.status]
  constructor
  · intro whole signed
    obtain ⟨keys, enough, read⟩ := whole.enough signed
    refine ⟨keys, enough, ?_⟩
    intro bytes member
    obtain ⟨key, signature, paired, _, decoded⟩ := read bytes member
    exact ⟨key, List.mem_toFinset.mpr (List.of_mem_zip paired).1, decoded⟩
  · intro covers
    refine ⟨consistent.toInStep, ?_⟩
    intro signed
    obtain ⟨keys, enough, read⟩ := covers signed
    refine ⟨keys, enough, ?_⟩
    intro bytes member
    obtain ⟨key, listed, decoded⟩ := read bytes member
    obtain ⟨signature, paired⟩ :=
      signed_key_accepted consistent.toInStep (List.mem_toFinset.mp listed)
    exact ⟨key, signature, paired, consistent.accepted key signature paired, decoded⟩

/-! ## Every set of signers can be reached -/

theorem remove_hex_prefix_added (text : String) : removeHexPrefix ("0x" ++ text) = text := by
  have decoded : ("0x" ++ text).toList = '0' :: 'x' :: text.toList := by
    rw [String.toList_append]
    rfl
  rw [removeHexPrefix, decoded, withoutHexPrefix, String.ofList_toList]

def arriving (dto : SignTransactionRequestDto) (id : Uuid) : Request where
  dto := ⟨"0x" ++ dto.signature, "0x" ++ dto.publicKey⟩
  transactionId := some id

theorem arriving_transformed (dto : SignTransactionRequestDto) (id : Uuid) :
    (arriving dto id).dto.transformed = dto := by
  simp only [arriving, SignTransactionRequestDto.transformed, remove_hex_prefix_added]

theorem signed_row_arriving (dto : SignTransactionRequestDto) :
    signedRow packages id row (arriving dto id) = afterSignature packages row dto := by
  rw [signedRow, arriving_transformed]
  exact if_pos rfl

theorem key_nonempty {key : String} (hexadecimal : hexRegex key = true) : key ≠ "" := by
  intro empty
  rw [empty] at hexadecimal
  revert hexadecimal
  decide

theorem signed_by_all (id : Uuid) (keys : List String) (distinct : keys.Nodup)
    (hexadecimal : ∀ key ∈ row.keyList, hexRegex key = true) (unsigned : row.signedKeys = [])
    (canSign : ∀ key ∈ keys, key ∈ signers packages row) :
    ∃ requests : List Request, (∀ request ∈ requests, request.Valid) ∧
      (run (signedRow packages id) row requests).signedKeys = keys := by
  induction keys using List.reverseRecOn with
  | nil => exact ⟨[], by simp, unsigned⟩
  | append_singleton earlier key ih =>
      have apart := List.nodup_cons.mp (List.nodup_append_comm.mp distinct)
      obtain ⟨requests, valid, signed⟩ := ih apart.2
        fun other listed => canSign other (List.mem_append_left _ listed)
      have able := canSign key (List.mem_append_right _ (List.mem_singleton_self key))
      have listed := (mem_signers.mp able).1
      rw [← (signers_run packages id row requests).1] at able
      obtain ⟨authorized, signature, nonempty, accepted⟩ := mem_signers.mp able
      have request : (arriving ⟨signature, key⟩ id).Valid := by
        rw [Request.Valid, arriving_transformed]
        exact ⟨nonempty, key_nonempty (hexadecimal key listed), hexadecimal key listed⟩
      refine ⟨requests ++ [arriving ⟨signature, key⟩ id], ?_, ?_⟩
      · intro other member
        rcases List.mem_append.mp member with old | new
        · exact valid other old
        · rw [List.mem_singleton.mp new]
          exact request
      · have added : addSignature packages (run (signedRow packages id) row requests)
            ⟨signature, key⟩ = .ok (withSignature (run (signedRow packages id) row requests)
              ⟨signature, key⟩) := by
          apply add_signature_ok.mpr
          refine ⟨?_, authorized, accepted, rfl⟩
          rw [signed]
          exact apart.1
        rw [run_snoc, signed_row_arriving, afterSignature, added]
        change (run (signedRow packages id) row requests).signedKeys ++ [key] = earlier ++ [key]
        rw [signed]

/-! ## From its creation on -/

theorem find_created {state : State} {dto : CreateTransactionRequestDto} {generated : Uuid}
    {after : Repository}
    (accepted : create dto generated packages state.repository = .ok (row, after)) :
    (next packages state (.create dto generated)).repository.find row.id = some row := by
  change (AutoSubmit.afterwards packages (create dto generated) state.repository).find row.id = _
  rw [AutoSubmit.afterwards, accepted]
  obtain ⟨rowId, _, _, rfl, changed⟩ := create_ok.mp accepted
  rw [changed]
  exact KeyedTable.find_put_self

/-- For every transaction that `create` accepts. It is in step from then on,
whatever the backend is asked; and every sequence of requests to sign keeps it
well signed exactly when the keys that can sign are kept apart by their bytes. -/
theorem signed_by_keys_iff_keys_apart (packages : Packages) (state : State)
    (dto : CreateTransactionRequestDto) (valid : dto.transformed.Valid) (generated : Uuid)
    (row : Transaction) (after : Repository)
    (accepted : create dto.transformed generated packages state.repository = .ok (row, after)) :
    (∀ events : List Event, (∀ event ∈ events, Admitted event) →
      StoredInStep packages row.id
        (run (next packages) state (.create dto.transformed generated :: events))) ∧
      ((∀ requests : List Request, (∀ request ∈ requests, request.Valid) →
        ∃ signed, (run (next packages) state
            (.create dto.transformed generated :: requests.map signing)).repository.find row.id =
              some signed ∧
          SignedByKeys packages signed) ↔
        KeysApart packages row) := by
  have found := find_created accepted
  obtain ⟨id, _, _, isCreated, _⟩ := create_ok.mp accepted
  have initial : Consistent packages row := by
    rw [isCreated]
    exact consistent_created valid
  have hexadecimal : ∀ key ∈ row.keyList, hexRegex key = true := by
    rw [isCreated]
    exact created_keys valid
  constructor
  · intro events admitted
    rw [run_cons]
    exact stored_in_step_along_run admitted ⟨row, found, initial.toInStep⟩
  rw [KeysApart, ← every_quorum_covers_iff initial.thresholdPositive]
  constructor
  · intro law quorum able enough
    have unsigned : row.signedKeys = [] := by
      rw [isCreated]
      rfl
    obtain ⟨requests, validRequests, signed⟩ := signed_by_all row.id quorum.toList
      quorum.nodup_toList hexadecimal unsigned fun key listed =>
        able (Finset.mem_toList.mp listed)
    obtain ⟨later, present, whole⟩ := law requests validRequests
    rw [run_cons, find_after_requests found] at present
    cases present
    have covers := (signed_by_keys_iff (consistent_run validRequests initial)).mp whole
    rw [signed, Finset.toList_toFinset, (signers_run packages row.id row requests).2] at covers
    exact covers enough
  · intro covered requests validRequests
    refine ⟨_, by rw [run_cons, find_after_requests found], ?_⟩
    have consistent : Consistent packages (run (signedRow packages row.id) row requests) :=
      consistent_run validRequests initial
    apply (signed_by_keys_iff consistent).mpr
    have able := signed_keys_can_sign consistent
    rw [(signers_run packages row.id row requests).1] at able
    rw [(signers_run packages row.id row requests).2]
    exact covered _ able

/-! ## One key in two spellings -/

/-- A request for keys with prefixes, which the decorator drops. -/
def prefixedRequest (keyList : List String) (threshold : Nat) : CreateTransactionRequestDto :=
  sampleRequest (keyList.map ("0x" ++ ·)) threshold

theorem prefixed_request_transformed (keyList : List String) (threshold : Nat) :
    (prefixedRequest keyList threshold).transformed = sampleRequest keyList threshold := by
  have dropped : (fun key => removeHexPrefix ("0x" ++ key)) = id :=
    funext remove_hex_prefix_added
  simp [prefixedRequest, sampleRequest, CreateTransactionRequestDto.transformed,
    Function.comp_def, dropped]

theorem sample_request_valid {keyList : List String} {threshold : Nat} (nonempty : keyList ≠ [])
    (keys : ∀ key ∈ keyList, hexRegex key = true) : (sampleRequest keyList threshold).Valid where
  transactionMessage := by
    change "0a1a0a0c0892d5c0af0610efaedd9503" ≠ ""
    decide
  description := by
    change "This transaction is for the creation of a new StableCoin" ≠ ""
    decide
  hederaAccountId := by
    change hederaIdRegex "0.0.123456" = true
    decide +kernel
  arrayNotEmpty := nonempty
  keys := keys

theorem first_key_hexadecimal : hexRegex firstKey = true := by decide +kernel

theorem second_key_hexadecimal : hexRegex secondKey = true := by decide +kernel

theorem capitals_hexadecimal : hexRegex firstKeyInCapitals = true := by decide +kernel

def nothingStored : State := ⟨KeyedTable.empty, []⟩

theorem two_keys_valid : (prefixedRequest [firstKey, secondKey] 2).transformed.Valid := by
  rw [prefixed_request_transformed]
  apply sample_request_valid (by decide)
  intro key listed
  rcases List.mem_pair.mp listed with isFirst | isSecond
  · rw [isFirst]
    exact first_key_hexadecimal
  · rw [isSecond]
    exact second_key_hexadecimal

theorem two_keys_signed_by_keys :
    (∀ events : List Event, (∀ event ∈ events, Admitted event) →
      StoredInStep samplePackages 1
        (run (next samplePackages) nothingStored
          (.create (prefixedRequest [firstKey, secondKey] 2).transformed 1 :: events))) ∧
      ((∀ requests : List Request, (∀ request ∈ requests, request.Valid) →
        ∃ signed, (run (next samplePackages) nothingStored
            (.create (prefixedRequest [firstKey, secondKey] 2).transformed 1 ::
              requests.map signing)).repository.find 1 = some signed ∧
          SignedByKeys samplePackages signed) ↔
        KeysApart samplePackages
          (created (prefixedRequest [firstKey, secondKey] 2).transformed 1)) :=
  signed_by_keys_iff_keys_apart samplePackages nothingStored
    (prefixedRequest [firstKey, secondKey] 2) two_keys_valid 1
    (created (prefixedRequest [firstKey, secondKey] 2).transformed 1) _ rfl

/-- The holder of the first key signs under both of its spellings. -/
def bothSpellings : List Request :=
  [arriving ⟨firstSignature, firstKey⟩ 1, arriving ⟨firstSignature, firstKeyInCapitals⟩ 1]

theorem both_spellings_valid : ∀ request ∈ bothSpellings, request.Valid := by
  intro request listed
  rcases List.mem_pair.mp listed with isFirst | isSecond
  · rw [isFirst, Request.Valid, arriving_transformed]
    exact ⟨by decide, by decide, first_key_hexadecimal⟩
  · rw [isSecond, Request.Valid, arriving_transformed]
    exact ⟨by decide, by decide, capitals_hexadecimal⟩

theorem sample_signed {transaction : Transaction} {dto : SignTransactionRequestDto}
    (text : transaction.transactionMessage = "0a1a0a0c0892d5c0af0610efaedd9503")
    (unsigned : dto.publicKey ∉ transaction.signedKeys)
    (authorized : dto.publicKey ∈ transaction.keyList)
    (verifies : ∀ message,
      verifySignature samplePackages dto.publicKey message dto.signature = true) :
    afterSignature samplePackages transaction dto = withSignature transaction dto := by
  rw [afterSignature, sample_signature_accepted text unsigned authorized verifies]

def spelledRow : Transaction := created (sampleRequest [firstKey, firstKeyInCapitals] 2) 1

def spelledTwice : Transaction :=
  withSignature (withSignature spelledRow ⟨firstSignature, firstKey⟩)
    ⟨firstSignature, firstKeyInCapitals⟩

theorem run_both_spellings :
    run (signedRow samplePackages 1) spelledRow bothSpellings = spelledTwice := by
  have once : afterSignature samplePackages spelledRow ⟨firstSignature, firstKey⟩ =
      withSignature spelledRow ⟨firstSignature, firstKey⟩ :=
    sample_signed rfl (by decide) (by decide) first_verifies
  have twice : afterSignature samplePackages
      (withSignature spelledRow ⟨firstSignature, firstKey⟩) ⟨firstSignature, firstKeyInCapitals⟩ =
        spelledTwice :=
    sample_signed rfl (by decide) (by decide) capitals_verify
  rw [bothSpellings, run_cons, run_cons, run_nil, signed_row_arriving, signed_row_arriving, once,
    twice]

/-- Two keys are asked for and one has signed. -/
theorem one_key_counts_twice :
    (prefixedRequest [firstKey, firstKeyInCapitals] 2).transformed.Valid ∧
      (∀ request ∈ bothSpellings, request.Valid) ∧
      ∃ row, (run (next samplePackages) nothingStored
          (.create (prefixedRequest [firstKey, firstKeyInCapitals] 2).transformed 1 ::
            bothSpellings.map signing)).repository.find 1 = some row ∧
        row.status = .signed ∧ ¬ SignedByKeys samplePackages row := by
  rw [prefixed_request_transformed]
  refine ⟨?_, both_spellings_valid, spelledTwice, ?_, by decide, ?_⟩
  · apply sample_request_valid (by decide)
    intro key listed
    rcases List.mem_pair.mp listed with isFirst | isSecond
    · rw [isFirst]
      exact first_key_hexadecimal
    · rw [isSecond]
      exact capitals_hexadecimal
  · have found : (next samplePackages nothingStored
        (.create (sampleRequest [firstKey, firstKeyInCapitals] 2) 1)).repository.find 1 =
          some spelledRow := rfl
    rw [run_cons, find_after_requests found]
    exact congrArg some run_both_spellings
  · intro whole
    obtain ⟨keys, enough, read⟩ := whole.enough (by decide)
    have single : ∀ bytes ∈ keys, bytesOf firstKey = some bytes := by
      intro bytes member
      obtain ⟨key, signature, paired, _, decoded⟩ := read bytes member
      have listed : key ∈ [firstKey, firstKeyInCapitals] := (List.of_mem_zip paired).1
      rcases List.mem_pair.mp listed with isFirst | isSecond
      · rw [← decoded, isFirst]
      · rw [← decoded, isSecond, same_bytes_in_capitals]
    have few : keys.card ≤ 1 := by
      apply Finset.card_le_one.mpr
      intro bytes member other otherMember
      apply Option.some.inj
      rw [← single bytes member, single other otherMember]
    have two : 2 ≤ keys.card := enough
    omega

end StablecoinStudio.Backend.SignedKeys
