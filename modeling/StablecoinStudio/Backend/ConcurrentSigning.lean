import StablecoinStudio.Backend.TransactionService
import StablecoinStudio.Foundation.ReadModifyWrite

/-!
# Overlapping requests to sign

`sign` reads the row with `findOne` and later writes the whole row with `save`;
requests of several signers overlap. With one transaction and distinct keys
this is the concurrent addition of signatures to one cell, the row.
-/

namespace StablecoinStudio.Backend.ConcurrentSigning

open StablecoinStudio.Backend.TransactionService
open StablecoinStudio.Backend.Utils
open StablecoinStudio.Foundation.KeyedTables
open StablecoinStudio.Foundation.ReadModifyWrite
open StablecoinStudio.Foundation.Runs

set_option autoImplicit false

structure Server where
  repository : Repository
  /-- The row that `findOne` returned to a request that has not saved yet. -/
  found : SignTransactionRequestDto → Option Transaction
  /-- The requests that were answered with success, in order. -/
  succeeded : List SignTransactionRequestDto

/-- A request reads the row; later it checks what it read and saves. -/
def next (packages : Packages) (id : Uuid) (server : Server) :
    Access SignTransactionRequestDto → Server
  | .read dto =>
      { server with found := Function.update server.found dto (server.repository.find id) }
  | .write dto =>
      match server.found dto with
      | some row =>
          match addSignature packages row dto with
          | .ok signed =>
              { repository := server.repository.put signed
                found := Function.update server.found dto none
                succeeded := server.succeeded ++ [dto] }
          | .error _ => { server with found := Function.update server.found dto none }
      | none => server

def idle (repository : Repository) : Server := ⟨repository, fun _ => none, []⟩

/-- Requests by distinct keys of the list that have not signed, with signatures
that verify. -/
structure Valid (packages : Packages) (start : Transaction)
    (requests : List SignTransactionRequestDto) : Prop where
  distinct : (requests.map (·.publicKey)).Nodup
  authorized : ∀ dto ∈ requests, dto.publicKey ∈ start.keyList
  unsigned : ∀ dto ∈ requests, dto.publicKey ∉ start.signedKeys
  verified : ∃ message, bytesToSign packages start = .ok message ∧
    ∀ dto ∈ requests, verifySignature packages dto.publicKey message dto.signature = true

/-- Every request's key and signature are in the row, at one place, behind what
was there; and the row is signed when its keys reach the threshold and only then. -/
structure Recorded (start : Transaction) (requests : List SignTransactionRequestDto)
    (row : Transaction) : Prop where
  signatures : ∃ added : List SignTransactionRequestDto,
    row.signedKeys = start.signedKeys ++ added.map (·.publicKey) ∧
      row.signatures = start.signatures ++ added.map (·.signature) ∧
      ∀ dto ∈ requests, dto ∈ added
  status : (requests = [] → start.signedKeys.length < start.threshold) →
    (row.status = .signed ↔ row.threshold ≤ row.signedKeys.length)

/-- A request saves over the row that its `findOne` returned. -/
def NotOvertaken (id : Uuid) (server : Server) : Access SignTransactionRequestDto → Prop
  | .read _ => True
  | .write dto => server.found dto = server.repository.find id

/-! ## The row as a cell -/

def recorded (start : Transaction) (added : List SignTransactionRequestDto) : Transaction :=
  added.foldl withSignature start

variable {packages : Packages} {id : Uuid} {start : Transaction}
  {added requests : List SignTransactionRequestDto} {dto : SignTransactionRequestDto}

theorem recorded_snoc (start : Transaction) (added : List SignTransactionRequestDto)
    (dto : SignTransactionRequestDto) :
    recorded start (added ++ [dto]) = withSignature (recorded start added) dto := by
  rw [recorded, List.foldl_append]
  rfl

theorem recorded_frame (start : Transaction) (added : List SignTransactionRequestDto) :
    recorded start added =
      { start with
        signedKeys := start.signedKeys ++ added.map (·.publicKey)
        signatures := start.signatures ++ added.map (·.signature)
        status := (recorded start added).status } := by
  induction added using List.reverseRecOn with
  | nil => simp [recorded]
  | append_singleton added dto ih =>
      rw [recorded_snoc]
      rw [withSignature, ih]
      simp [List.append_assoc]

theorem recorded_signed_keys : (recorded start added).signedKeys =
    start.signedKeys ++ added.map (·.publicKey) := by
  rw [recorded_frame]

/-- A pending row is signed by the signature that reaches the threshold. -/
theorem recorded_status (pending : start.status = .pending) :
    (recorded start added).status = .signed ↔
      added ≠ [] ∧ start.threshold ≤ (recorded start added).signedKeys.length := by
  induction added using List.reverseRecOn with
  | nil => simp [recorded, pending]
  | append_singleton added dto ih =>
      have threshold : (recorded start added).threshold = start.threshold := by
        rw [recorded_frame]
      rw [recorded_snoc, withSignature]
      simp only [threshold, ne_eq, List.append_eq_nil_iff, List.cons_ne_self, and_false,
        not_false_eq_true, true_and]
      split
      · next reached => simpa using reached
      · next below =>
          simp only [below, iff_false]
          rw [ih]
          intro signed
          apply below
          simp only [List.length_append, List.length_singleton]
          exact Nat.le_succ_of_le signed.2

theorem added_unique {first second : List SignTransactionRequestDto}
    (keys : first.map (·.publicKey) = second.map (·.publicKey))
    (signatures : first.map (·.signature) = second.map (·.signature)) : first = second := by
  induction first generalizing second with
  | nil =>
      rw [List.map_nil] at keys
      exact (List.map_eq_nil_iff.mp keys.symm).symm
  | cons head tail ih =>
      cases second with
      | nil => cases keys
      | cons other rest =>
          simp only [List.map_cons, List.cons.injEq] at keys signatures
          obtain ⟨signature, publicKey⟩ := head
          obtain ⟨otherSignature, otherKey⟩ := other
          obtain ⟨rfl, laterKeys⟩ := keys
          obtain ⟨rfl, laterSignatures⟩ := signatures
          rw [ih laterKeys laterSignatures]

theorem recorded_injective {first second : List SignTransactionRequestDto}
    (same : recorded start first = recorded start second) : first = second := by
  rw [recorded_frame start first, recorded_frame start second, Transaction.mk.injEq] at same
  apply added_unique
  · simpa using same.2.2.2.2.2.2.1
  · simpa using same.2.2.2.2.1

def server (repository : Repository) (start : Transaction)
    (cell : Cell SignTransactionRequestDto) : Server where
  repository := repository.put (recorded start cell.content)
  found dto := (cell.taken dto).map (recorded start)
  succeeded := cell.written

variable {repository : Repository} {cell : Cell SignTransactionRequestDto}
  {taken : Access SignTransactionRequestDto}

theorem recorded_id : (recorded start added).id = start.id := by
  rw [recorded_frame]

theorem find_on_server : (server repository start cell).repository.find start.id =
    some (recorded start cell.content) := by
  have same : (recorded start cell.content).id = start.id := recorded_id
  rw [server, ← same]
  exact KeyedTable.find_put_self

/-- A request that has not written passes the checks on every row that others
have signed. -/
theorem recorded_accepts (valid : Valid packages start requests) (listed : dto ∈ requests)
    (others : added ⊆ requests) (notYet : dto ∉ added) :
    addSignature packages (recorded start added) dto = .ok (recorded start (added ++ [dto])) := by
  obtain ⟨message, deserialized, verifies⟩ := valid.verified
  rw [recorded_snoc]
  apply add_signature_ok.mpr
  refine ⟨?_, ?_, ⟨message, ?_, verifies dto listed⟩, rfl⟩
  · rw [recorded_signed_keys, List.mem_append, not_or]
    refine ⟨valid.unsigned dto listed, ?_⟩
    intro signed
    obtain ⟨other, member, sameKey⟩ := List.mem_map.mp signed
    have same : other = dto :=
      List.inj_on_of_nodup_map valid.distinct (others member) listed sameKey
    exact notYet (same ▸ member)
  · rw [recorded_frame]
    exact valid.authorized dto listed
  · rw [recorded_frame]
    exact deserialized

/-- The cell is sound and only the requests have written to it. -/
def Serving (requests : List SignTransactionRequestDto)
    (cell : Cell SignTransactionRequestDto) : Prop :=
  Sound cell ∧ cell.written ⊆ requests

def Permitted (requests : List SignTransactionRequestDto)
    (cell : Cell SignTransactionRequestDto) (taken : Access SignTransactionRequestDto) : Prop :=
  InTurn cell taken ∧ taken.adder ∈ requests

theorem serving_access (serving : Serving requests cell) (permitted : Permitted requests cell taken) :
    Serving requests (access cell taken) := by
  refine ⟨sound_access serving.1 permitted.1, ?_⟩
  cases taken with
  | read dto => exact serving.2
  | write dto =>
      obtain ⟨base, read⟩ := permitted.1
      simp only [access, read]
      intro other member
      rcases List.mem_append.mp member with old | new
      · exact serving.2 old
      · rw [List.mem_singleton.mp new]
        exact permitted.2

theorem next_on_server (valid : Valid packages start requests) (serving : Serving requests cell)
    (permitted : Permitted requests cell taken) :
    next packages start.id (server repository start cell) taken =
      server repository start (access cell taken) := by
  cases taken with
  | read dto =>
      have found : Function.update (server repository start cell).found dto
          (some (recorded start cell.content)) =
            (server repository start (access cell (.read dto))).found := by
        funext other
        by_cases same : other = dto
        · subst same
          simp [server, access]
        · simp [server, access, same]
      simp only [next, find_on_server, found]
      rfl
  | write dto =>
      obtain ⟨base, read⟩ := permitted.1
      have listed : dto ∈ requests := permitted.2
      obtain ⟨unwritten, _, subset, _⟩ := serving.1.reading dto base read
      have accepted := recorded_accepts valid listed (fun _ member => serving.2 (subset member))
        fun member => unwritten (subset member)
      have held : (server repository start cell).found dto = some (recorded start base) := by
        simp [server, read]
      have found : Function.update (server repository start cell).found dto none =
          (server repository start (access cell (.write dto))).found := by
        funext other
        by_cases same : other = dto
        · subst same
          simp [server, access, read]
        · simp [server, access, read, same]
      have overwritten : (server repository start cell).repository.put
          (recorded start (base ++ [dto])) = repository.put (recorded start (base ++ [dto])) :=
        KeyedTable.put_put (recorded_id.trans recorded_id.symm)
      simp only [next, held, accepted, found, overwritten]
      simp [server, access, read]

theorem not_overtaken_iff_fresh :
    NotOvertaken start.id (server repository start cell) taken ↔ Fresh cell taken := by
  cases taken with
  | read dto => exact Iff.rfl
  | write dto =>
      simp only [NotOvertaken, Fresh, find_on_server]
      constructor
      · intro same
        obtain ⟨base, read, isRow⟩ := Option.map_eq_some_iff.mp same
        rw [read, recorded_injective isRow]
      · intro read
        simp [server, read]

/-- The row at the end, against the requests that are in the cell. -/
theorem recorded_iff (valid : Valid packages start requests) (pending : start.status = .pending)
    (subset : added ⊆ requests) (written : requests ≠ [] → added ≠ []) :
    Recorded start requests (recorded start added) ↔ ∀ dto ∈ requests, dto ∈ added := by
  have threshold : (recorded start added).threshold = start.threshold := by
    rw [recorded_frame]
  constructor
  · intro whole
    obtain ⟨others, keys, _, present⟩ := whole.signatures
    rw [recorded_signed_keys, List.append_cancel_left_eq] at keys
    intro dto listed
    have key : dto.publicKey ∈ added.map (·.publicKey) := by
      rw [keys]
      exact List.mem_map_of_mem (present dto listed)
    obtain ⟨other, member, sameKey⟩ := List.mem_map.mp key
    have same : other = dto :=
      List.inj_on_of_nodup_map valid.distinct (subset member) listed sameKey
    exact same ▸ member
  · intro present
    constructor
    · refine ⟨added, recorded_signed_keys, ?_, present⟩
      rw [recorded_frame]
    · intro below
      rw [recorded_status pending, threshold]
      constructor
      · intro signed
        exact signed.2
      · intro reached
        refine ⟨?_, reached⟩
        by_cases none_ : requests = []
        · intro empty
          have early := below none_
          rw [recorded_signed_keys, empty] at reached
          simp only [List.map_nil, List.append_nil] at reached
          omega
        · exact written none_

theorem server_untouched (stored : repository.find start.id = some start) :
    idle repository = server repository start untouched := by
  have unchanged : repository.put start = repository := KeyedTable.put_of_found stored
  simp [idle, server, untouched, recorded, unchanged]

theorem serving_untouched : Serving requests (untouched : Cell SignTransactionRequestDto) :=
  ⟨sound_untouched, List.nil_subset _⟩

theorem run_on_server (stored : repository.find start.id = some start)
    (valid : Valid packages start requests)
    {schedule : List (Access SignTransactionRequestDto)}
    (permitted : Along access (Permitted requests) untouched schedule) :
    run (next packages start.id) (idle repository) schedule =
      server repository start (run access untouched schedule) := by
  rw [server_untouched stored]
  exact run_embed _ access (fun _ _ => serving_access) (fun _ _ => next_on_server valid)
    serving_untouched permitted

theorem overtaken_on_server (stored : repository.find start.id = some start)
    (valid : Valid packages start requests)
    {schedule : List (Access SignTransactionRequestDto)}
    (permitted : Along access (Permitted requests) untouched schedule) :
    Along (next packages start.id) (NotOvertaken start.id) (idle repository) schedule ↔
      Along access Fresh untouched schedule := by
  rw [server_untouched stored]
  exact along_embed _ access (fun _ _ => serving_access) (fun _ _ => next_on_server valid)
    (fun _ _ _ _ => not_overtaken_iff_fresh) serving_untouched permitted

theorem recorded_on_server (valid : Valid packages start requests)
    (pending : start.status = .pending) {schedule : List (Access SignTransactionRequestDto)}
    (permitted : Along access (Permitted requests) untouched schedule)
    (wrote : (run access untouched schedule).written.Perm requests) :
    Recorded start requests (recorded start (run access untouched schedule).content) ↔
      ∀ dto ∈ requests, dto ∈ (run access untouched schedule).content := by
  have serving : Serving requests (run access untouched schedule) :=
    invariant_of_steps access (fun _ _ => serving_access) serving_untouched permitted
  apply recorded_iff valid pending
  · intro dto member
    exact serving.2 (serving.1.subset member)
  · intro some_
    apply serving.1.nonempty
    intro none_
    rw [none_] at wrote
    exact some_ wrote.symm.eq_nil

/-- For every table, every pending transaction in it, every list of requests and
every interleaving of them: all of them succeed, and all signatures are recorded
exactly when no request saves over a row that it has not read. -/
theorem concurrent_signatures_recorded_iff (packages : Packages) (repository : Repository)
    (start : Transaction) (stored : repository.find start.id = some start)
    (pending : start.status = .pending) (requests : List SignTransactionRequestDto)
    (valid : Valid packages start requests)
    (schedule : List (Access SignTransactionRequestDto))
    (interleaved : Interleaved requests [] schedule) :
    (run (next packages start.id) (idle repository) schedule).succeeded.Perm requests ∧
      ∃ row, (run (next packages start.id) (idle repository) schedule).repository.find start.id =
          some row ∧
        (Recorded start requests row ↔
          Along (next packages start.id) (NotOvertaken start.id) (idle repository) schedule) := by
  have distinct : requests.Nodup := List.Nodup.of_map _ valid.distinct
  obtain ⟨permitted, wrote⟩ := interleaved_from_start distinct interleaved
  rw [run_on_server stored valid permitted, overtaken_on_server stored valid permitted,
    ← nothing_lost_iff distinct interleaved]
  exact ⟨wrote, _, find_on_server, recorded_on_server valid pending permitted wrote⟩

/-! ## Two requests that overlap -/

def firstRequest : SignTransactionRequestDto := ⟨firstSignature, firstKey⟩

def secondRequest : SignTransactionRequestDto := ⟨secondSignature, secondKey⟩

def sampleRow : Transaction := sampleTransaction [firstKey, secondKey] 2

def sampleTable : Repository := ⟨[sampleRow], List.nodup_singleton _⟩

theorem sample_requests_valid :
    Valid samplePackages sampleRow [firstRequest, secondRequest] where
  distinct := by decide
  authorized := by decide
  unsigned := by decide
  verified := by
    obtain ⟨message, deserialized⟩ := message_deserialized
    refine ⟨message, ?_, ?_⟩
    · rw [bytesToSign, sampleRow, sampleTransaction, created, sampleRequest, deserialized]
      rfl
    · intro dto listed
      rcases List.mem_pair.mp listed with rfl | rfl
      · exact first_verifies message
      · exact second_verifies message

/-- One after the other: both signatures are recorded. -/
def serialSchedule : List (Access SignTransactionRequestDto) :=
  [.read firstRequest, .write firstRequest, .read secondRequest, .write secondRequest]

/-- Both read before one of them saves. -/
def overlappingSchedule : List (Access SignTransactionRequestDto) :=
  [.read firstRequest, .read secondRequest, .write firstRequest, .write secondRequest]

theorem serial_signatures_recorded :
    (run (next samplePackages sampleRow.id) (idle sampleTable) serialSchedule).succeeded.Perm
        [firstRequest, secondRequest] ∧
      ∃ row, (run (next samplePackages sampleRow.id) (idle sampleTable)
          serialSchedule).repository.find sampleRow.id = some row ∧
        (Recorded sampleRow [firstRequest, secondRequest] row ↔
          Along (next samplePackages sampleRow.id) (NotOvertaken sampleRow.id) (idle sampleTable)
            serialSchedule) :=
  concurrent_signatures_recorded_iff samplePackages sampleTable sampleRow (by decide) (by decide)
    [firstRequest, secondRequest] sample_requests_valid serialSchedule
    (by simp [Interleaved, serialSchedule, firstRequest, secondRequest, firstKey, secondKey])

/-- Both requests succeed, and the first signature is lost. -/
theorem overlapping_signature_lost :
    ¬ ∀ (requests : List SignTransactionRequestDto)
        (schedule : List (Access SignTransactionRequestDto)),
      Valid samplePackages sampleRow requests → Interleaved requests [] schedule →
        ∃ row, (run (next samplePackages sampleRow.id) (idle sampleTable)
            schedule).repository.find sampleRow.id = some row ∧
          Recorded sampleRow requests row := by
  intro law
  have interleaved : Interleaved [firstRequest, secondRequest] [] overlappingSchedule := by
    simp [Interleaved, overlappingSchedule, firstRequest, secondRequest, firstKey, secondKey]
  obtain ⟨row, found, whole⟩ := law _ _ sample_requests_valid interleaved
  obtain ⟨permitted, wrote⟩ := interleaved_from_start (by decide) interleaved
  rw [run_on_server (by decide) sample_requests_valid permitted, find_on_server] at found
  cases found
  have present := (recorded_on_server sample_requests_valid (by decide) permitted wrote).mp whole
  have held : (run access untouched overlappingSchedule).content = [secondRequest] := by decide
  rw [held] at present
  exact absurd (present firstRequest (by decide)) (by decide)

end StablecoinStudio.Backend.ConcurrentSigning
