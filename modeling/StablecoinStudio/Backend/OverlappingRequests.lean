import StablecoinStudio.Backend.Requests
import StablecoinStudio.Backend.SignedKeys

/-!
# Requests of any kind that overlap

Every request that changes a transaction reads its row with `findOne` and later
saves or deletes it, the updates of the job included; any number of them
overlap on any number of transactions. Signatures can get lost that way, but
none that was not verified gets in. A deleted transaction is back when a
request that still holds its row saves it, or a body carries its id.
-/

namespace StablecoinStudio.Backend.OverlappingRequests

open StablecoinStudio.Backend.AutoSubmit
open StablecoinStudio.Backend.Operation
open StablecoinStudio.Backend.Requests
open StablecoinStudio.Backend.SignedKeys
open StablecoinStudio.Backend.TransactionService
open StablecoinStudio.Backend.Utils
open StablecoinStudio.Foundation.KeyedTables
open StablecoinStudio.Foundation.Runs
open StablecoinStudio.Foundation.Transaction

set_option autoImplicit false

/-- What a request does with the row that it has found. -/
inductive Work where
  | sign (dto : SignTransactionRequestDto)
  | updateStatus (newState : TransactionStatus)
  | delete

/-- The database is asked once by `create` and twice by the other requests,
which are told apart by a ticket. -/
inductive Access where
  | create (dto : CreateTransactionRequestDto) (generated : Uuid)
  | find (ticket : Nat) (transactionId : Option Uuid) (work : Work)
  | finish (ticket : Nat)

structure Server where
  repository : Repository
  /-- The rows that requests have found and not yet written back. -/
  held : Nat → Option (Transaction × Work)

variable (packages : Packages)

/-- A request on its row: what it does to the table. -/
def Work.finish (row : Transaction) (repository : Repository) : Work → Repository
  | sign dto =>
      match addSignature packages row dto with
      | .ok signed => repository.put signed
      | .error _ => repository
  | updateStatus newState => repository.put { row with status := newState }
  | delete => repository.remove row.id

def next (server : Server) : Access → Server
  | .create dto generated =>
      { server with repository := afterwards packages (create dto generated) server.repository }
  | .find ticket transactionId work =>
      { server with
        held := Function.update server.held ticket
          ((transactionId.bind server.repository.find).map fun row => (row, work)) }
  | .finish ticket =>
      match server.held ticket with
      | some (row, work) =>
          { repository := work.finish packages row server.repository
            held := Function.update server.held ticket none }
      | none => server

/-- The function of the service that a request calls. -/
def Work.call (transactionId : Option Uuid) : Work → ServiceTx Unit
  | sign dto => do
      let _ ← TransactionService.sign dto transactionId
  | updateStatus newState => TransactionService.updateStatus newState transactionId
  | delete => Requests.delete transactionId

variable {packages} {server : Server} {id : Uuid} {row : Transaction} {ticket : Nat}

theorem finish_signed {repository : Repository} {dto : SignTransactionRequestDto}
    {signed : Transaction} (checked : addSignature packages row dto = .ok signed) :
    (Work.sign dto).finish packages row repository = repository.put signed := by
  simp only [Work.finish, checked]

theorem finish_refused {repository : Repository} {dto : SignTransactionRequestDto}
    {failure : Failure} (refused : addSignature packages row dto = .error failure) :
    (Work.sign dto).finish packages row repository = repository := by
  simp only [Work.finish, refused]

theorem next_finish {work : Work} (holds : server.held ticket = some (row, work)) :
    next packages server (.finish ticket) =
      ⟨work.finish packages row server.repository, Function.update server.held ticket none⟩ := by
  simp only [next, holds]

theorem call_of_missing {transactionId : Option Uuid} {repository : Repository}
    (missing : transactionId.bind repository.find = none) (work : Work) :
    afterwards packages (work.call transactionId) repository = repository := by
  have refused {value : Type} (call : ServiceTx value)
      (needs : ∀ answer later, call packages repository = .ok (answer, later) →
        ∃ id found, transactionId = some id ∧ repository.find id = some found) :
      afterwards packages call repository = repository := by
    rcases afterwards_cases packages call repository with ⟨answer, committed⟩ | ⟨_, same⟩
    · obtain ⟨id, found, rfl, present⟩ := needs _ _ committed
      rw [Option.bind_some, present] at missing
      cases missing
    · exact same
  apply refused
  intro answer later committed
  cases work with
  | sign dto =>
      simp only [Work.call, Tx.bind_ok, sign_ok] at committed
      obtain ⟨_, _, ⟨id, found, named, present, _⟩, _⟩ := committed
      exact ⟨id, found, named, present⟩
  | updateStatus newState =>
      obtain ⟨id, found, named, present, _⟩ := update_status_ok.mp committed
      exact ⟨id, found, named, present⟩
  | delete =>
      obtain ⟨id, found, named, present, _⟩ := delete_ok.mp committed
      exact ⟨id, found, named, present⟩

theorem call_of_found {repository : Repository} (found : repository.find id = some row)
    (work : Work) :
    afterwards packages (work.call (some id)) repository = work.finish packages row repository := by
  have same : row.id = id := (KeyedTable.find_some.mp found).2
  cases work with
  | sign dto =>
      cases outcome : addSignature packages row dto with
      | ok signed =>
          have committed : (Work.sign dto).call (some id) packages repository =
              .ok ((), repository.put signed) := by
            simp only [Work.call, Tx.bind_ok, sign_ok, Tx.pure_ok]
            exact ⟨signed, _, ⟨id, row, rfl, found, outcome, rfl⟩, trivial, rfl⟩
          rw [afterwards, committed, finish_signed outcome]
      | error failure =>
          rcases afterwards_cases packages ((Work.sign dto).call (some id)) repository with
            ⟨answer, committed⟩ | ⟨_, kept⟩
          · simp only [Work.call, Tx.bind_ok, sign_ok] at committed
            obtain ⟨signed, _, ⟨_, _, ⟨rfl⟩, present, checked, _⟩, _⟩ := committed
            rw [found] at present
            cases present
            rw [outcome] at checked
            cases checked
          · rw [finish_refused outcome]
            exact kept
  | updateStatus newState =>
      have committed : (Work.updateStatus newState).call (some id) packages repository =
          .ok ((), repository.put { row with status := newState }) :=
        update_status_ok.mpr ⟨id, row, rfl, found, rfl⟩
      rw [afterwards, committed, Work.finish]
  | delete =>
      have committed : Work.delete.call (some id) packages repository =
          .ok ((), repository.remove id) := delete_ok.mpr ⟨id, row, rfl, found, rfl⟩
      rw [afterwards, committed, Work.finish, same]

/-- A request that nobody overtakes does what the function of the service does. -/
theorem alone_is_service (server : Server) (ticket : Nat) (transactionId : Option Uuid)
    (work : Work) :
    (next packages (next packages server (.find ticket transactionId work))
        (.finish ticket)).repository =
      afterwards packages (work.call transactionId) server.repository := by
  cases found : transactionId.bind server.repository.find with
  | none =>
      rw [call_of_missing found]
      simp [next, found]
  | some row =>
      obtain ⟨id, rfl, present⟩ := Option.bind_eq_some_iff.mp found
      rw [call_of_found present]
      simp [next, present]

/-! ## What is stored -/

def withoutSignatures (transaction : Transaction) : Transaction :=
  { transaction with signatures := [], signedKeys := [], status := .pending }

def Asked (log : List Access) (id : Uuid) (work : Work) : Prop :=
  ∃ taker, .find taker (some id) work ∈ log

/-- A row as some request created it, with different keys of its list whose
signatures verify, each beside its own. If it is signed, these are as many as its
threshold asks for or a request set its status. -/
structure Genuine (packages : Packages) (log : List Access) (row : Transaction) : Prop where
  inStep : InStep packages row
  requested : ∃ dto generated, .create dto generated ∈ log ∧ dto.rowId generated = some row.id ∧
    withoutSignatures row = created dto row.id
  counted : row.status = .signed →
    row.threshold ≤ row.signedKeys.length ∨ Asked log row.id (.updateStatus .signed)

structure AllGenuine (packages : Packages) (log : List Access) (server : Server) : Prop where
  stored : ∀ row ∈ server.repository.rows, Genuine packages log row
  held : ∀ ticket row work, server.held ticket = some (row, work) →
    Genuine packages log row ∧ Asked log row.id work

variable {log : List Access}

theorem Asked.later {work : Work} (asked : Asked log id work) (access : Access) :
    Asked (log ++ [access]) id work := by
  obtain ⟨taker, listed⟩ := asked
  exact ⟨taker, List.mem_append_left _ listed⟩

theorem Genuine.later (genuine : Genuine packages log row) (access : Access) :
    Genuine packages (log ++ [access]) row := by
  obtain ⟨dto, generated, listed, same⟩ := genuine.requested
  refine ⟨genuine.inStep, ⟨dto, generated, List.mem_append_left _ listed, same⟩, ?_⟩
  intro signed
  exact (genuine.counted signed).imp_right fun asked => asked.later access

theorem genuine_created {dto : CreateTransactionRequestDto} {generated : Uuid} (valid : dto.Valid)
    (named : dto.rowId generated = some id) :
    Genuine packages (log ++ [.create dto generated]) (created dto id) := by
  refine ⟨(consistent_created valid).toInStep, ⟨dto, generated, by simp, named, rfl⟩, ?_⟩
  intro signed
  cases signed

theorem genuine_signed {dto : SignTransactionRequestDto} {signed : Transaction}
    (genuine : Genuine packages log row) (checked : addSignature packages row dto = .ok signed) :
    Genuine packages log signed := by
  have after : afterSignature packages row dto = signed := by rw [afterSignature, checked]
  obtain ⟨_, _, _, isSigned⟩ := add_signature_ok.mp checked
  obtain ⟨origin, generated, listed, named, same⟩ := genuine.requested
  refine ⟨?_, ⟨origin, generated, listed, ?_, ?_⟩, ?_⟩
  · rw [← after]
    exact in_step_after_signature genuine.inStep dto
  · rw [isSigned]
    exact named
  · rw [isSigned]
    exact same
  · rw [isSigned]
    intro status
    simp only [withSignature] at status ⊢
    split at status
    · next reached => exact Or.inl reached
    · apply (genuine.counted status).imp_left
      intro reached
      rw [List.length_append]
      exact Nat.le_add_right_of_le reached

theorem genuine_with_status (genuine : Genuine packages log row) {status : TransactionStatus}
    (asked : Asked log row.id (.updateStatus status)) :
    Genuine packages log { row with status := status } := by
  refine ⟨in_step_with_status genuine.inStep status, genuine.requested, ?_⟩
  intro signed
  cases signed
  exact Or.inr asked

/-- What a request leaves in the table was there or is the row it held, changed
as it asked. -/
theorem genuine_by_finish {repository : Repository} {work : Work}
    (stored : ∀ row ∈ repository.rows, Genuine packages log row)
    (genuine : Genuine packages log row) (asked : Asked log row.id work) :
    ∀ left ∈ (work.finish packages row repository).rows, Genuine packages log left := by
  have put {changed : Transaction} (genuine : Genuine packages log changed) :
      ∀ left ∈ (repository.put changed).rows, Genuine packages log left := by
    intro left listed
    rcases KeyedTable.mem_put.mp listed with rfl | ⟨old, _⟩
    · exact genuine
    · exact stored left old
  cases work with
  | sign dto =>
      cases outcome : addSignature packages row dto with
      | ok signed =>
          rw [finish_signed outcome]
          exact put (genuine_signed genuine outcome)
      | error failure =>
          rw [finish_refused outcome]
          exact stored
  | updateStatus newState => exact put (genuine_with_status genuine asked)
  | delete =>
      intro left listed
      exact stored left (KeyedTable.mem_remove.mp listed).1

theorem all_genuine_next (access : Access) (genuine : AllGenuine packages log server)
    (valid : ∀ dto generated, access = .create dto generated → dto.Valid) :
    AllGenuine packages (log ++ [access]) (next packages server access) := by
  have stored : ∀ row ∈ server.repository.rows, Genuine packages (log ++ [access]) row :=
    fun row listed => (genuine.stored row listed).later access
  have held : ∀ ticket row work, server.held ticket = some (row, work) →
      Genuine packages (log ++ [access]) row ∧ Asked (log ++ [access]) row.id work := by
    intro ticket row work holds
    obtain ⟨isGenuine, asked⟩ := genuine.held ticket row work holds
    exact ⟨isGenuine.later access, asked.later access⟩
  cases access with
  | create dto generated =>
      refine ⟨?_, held⟩
      change ∀ row ∈ (afterwards packages (create dto generated) server.repository).rows, _
      rcases afterwards_cases packages (create dto generated) server.repository with
        ⟨answer, committed⟩ | ⟨_, same⟩
      · obtain ⟨id, named, _, _, changed⟩ := create_ok.mp committed
        rw [changed]
        intro row listed
        rcases KeyedTable.mem_put.mp listed with rfl | ⟨old, _⟩
        · exact genuine_created (valid dto generated rfl) named
        · exact stored row old
      · rw [same]
        exact stored
  | find taker transactionId work =>
      refine ⟨stored, ?_⟩
      intro ticket row kind holds
      by_cases same : ticket = taker
      · subst same
        simp only [next, Function.update_self] at holds
        obtain ⟨found, present, pair⟩ := Option.map_eq_some_iff.mp holds
        obtain ⟨id, rfl, listed⟩ := Option.bind_eq_some_iff.mp present
        obtain ⟨rfl, rfl⟩ := Prod.mk.inj pair
        obtain ⟨member, rfl⟩ := KeyedTable.find_some.mp listed
        exact ⟨stored found member, ticket, by simp⟩
      · simp only [next, Function.update_of_ne same] at holds
        exact held ticket row kind holds
  | finish done =>
      cases holds : server.held done with
      | none =>
          have same : next packages server (.finish done) = server := by
            simp only [next, holds]
          rw [same]
          exact ⟨stored, held⟩
      | some pair =>
          obtain ⟨row, work⟩ := pair
          obtain ⟨isGenuine, asked⟩ := held done row work holds
          rw [next_finish holds]
          refine ⟨genuine_by_finish stored isGenuine asked, ?_⟩
          intro ticket other kind stillHolds
          change Function.update server.held done none ticket = some (other, kind) at stillHolds
          by_cases same : ticket = done
          · subst same
            rw [Function.update_self] at stillHolds
            cases stillHolds
          · rw [Function.update_of_ne same] at stillHolds
            exact held ticket other kind stillHolds

def idle : Server := ⟨KeyedTable.empty, fun _ => none⟩

theorem all_genuine_along (packages : Packages) (log : List Access)
    (valid : ∀ dto generated, .create dto generated ∈ log → dto.Valid) :
    AllGenuine packages log (run (next packages) idle log) := by
  induction log using List.reverseRecOn with
  | nil => exact ⟨by simp [idle, KeyedTable.empty], by simp [idle]⟩
  | append_singleton log access ih =>
      rw [run_snoc]
      apply all_genuine_next access
      · exact ih fun dto generated listed => valid dto generated (List.mem_append_left _ listed)
      · intro dto generated isCreate
        exact valid dto generated (by simp [isCreate])

/-- Whatever requests overlap, in whatever order their accesses reach the
database: every stored row is a requested transaction whose fields are those of
its request, whose signatures were verified for different keys of its list, and
which is signed by enough of them unless a request said so. A request that nobody
overtakes does what the function of the service does. -/
theorem stored_rows_genuine (packages : Packages) (log : List Access)
    (valid : ∀ dto generated, .create dto generated ∈ log → dto.Valid) :
    (∀ row ∈ (run (next packages) idle log).repository.rows, Genuine packages log row) ∧
      ∀ ticket transactionId work,
        (run (next packages) idle
            (log ++ [.find ticket transactionId work, .finish ticket])).repository =
          afterwards packages (work.call transactionId) (run (next packages) idle log).repository := by
  refine ⟨(all_genuine_along packages log valid).stored, ?_⟩
  intro ticket transactionId work
  rw [run_append]
  exact alone_is_service (run (next packages) idle log) ticket transactionId work

/-! ## What is deleted -/

def Saves (packages : Packages) (row : Transaction) : Work → Prop
  | .sign dto => ∃ signed, addSignature packages row dto = .ok signed
  | .updateStatus _ => True
  | .delete => False

def NoneSaves (packages : Packages) (id : Uuid) (server : Server) : Prop :=
  ∀ ticket row work, server.held ticket = some (row, work) → row.id = id →
    ¬ Saves packages row work

structure Gone (packages : Packages) (id : Uuid) (server : Server) : Prop where
  absent : server.repository.find id = none
  unsaved : NoneSaves packages id server

theorem saved_row (repository : Repository) {work : Work} (saves : Saves packages row work) :
    ∃ saved, saved.id = row.id ∧ work.finish packages row repository = repository.put saved := by
  cases work with
  | sign dto =>
      obtain ⟨signed, checked⟩ := saves
      obtain ⟨_, _, _, isSigned⟩ := add_signature_ok.mp checked
      exact ⟨signed, by rw [isSigned]; rfl, finish_signed checked⟩
  | updateStatus newState => exact ⟨{ row with status := newState }, rfl, rfl⟩
  | delete => exact saves.elim

theorem absent_after_finish {repository : Repository} {work : Work}
    (absent : repository.find id = none) (unsaved : row.id = id → ¬ Saves packages row work) :
    (work.finish packages row repository).find id = none := by
  by_cases saves : Saves packages row work
  · obtain ⟨saved, same, changed⟩ := saved_row repository saves
    have other : id ≠ saved.id := by
      intro own
      exact unsaved (same.symm.trans own.symm) saves
    rw [changed, KeyedTable.find_put_of_ne other, absent]
  · cases work with
    | sign dto =>
        cases outcome : addSignature packages row dto with
        | ok signed => exact (saves ⟨signed, outcome⟩).elim
        | error failure =>
            rw [finish_refused outcome]
            exact absent
    | updateStatus newState => exact (saves trivial).elim
    | delete =>
        by_cases own : id = row.id
        · rw [own]
          exact KeyedTable.find_remove_self
        · exact (KeyedTable.find_remove_of_ne own).trans absent

theorem gone_next (access : Access) (gone : Gone packages id server)
    (other : ∀ dto generated, access = .create dto generated → dto.rowId generated ≠ some id) :
    Gone packages id (next packages server access) := by
  cases access with
  | create dto generated =>
      refine ⟨?_, gone.unsaved⟩
      change (afterwards packages (create dto generated) server.repository).find id = none
      rcases afterwards_cases packages (create dto generated) server.repository with
        ⟨answer, committed⟩ | ⟨_, same⟩
      · obtain ⟨rowId, named, _, _, changed⟩ := create_ok.mp committed
        have different : id ≠ (created dto rowId).id := by
          intro own
          have isRow : rowId = id := own.symm
          rw [isRow] at named
          exact other dto generated rfl named
        rw [changed, KeyedTable.find_put_of_ne different, gone.absent]
      · rw [same]
        exact gone.absent
  | find taker transactionId work =>
      refine ⟨gone.absent, ?_⟩
      intro ticket row kind holds own
      by_cases same : ticket = taker
      · -- a request that looks now does not find the row
        subst same
        simp only [next, Function.update_self] at holds
        obtain ⟨found, present, pair⟩ := Option.map_eq_some_iff.mp holds
        obtain ⟨wanted, _, listed⟩ := Option.bind_eq_some_iff.mp present
        obtain ⟨rfl, _⟩ := Prod.mk.inj pair
        have named : wanted = id := (KeyedTable.find_some.mp listed).2.symm.trans own
        rw [named, gone.absent] at listed
        cases listed
      · simp only [next, Function.update_of_ne same] at holds
        exact gone.unsaved ticket row kind holds own
  | finish ticket =>
      cases holds : server.held ticket with
      | none =>
          have same : next packages server (.finish ticket) = server := by
            simp only [next, holds]
          rw [same]
          exact gone
      | some pair =>
          obtain ⟨row, work⟩ := pair
          rw [next_finish holds]
          refine ⟨absent_after_finish gone.absent fun own => gone.unsaved ticket row work holds own,
            ?_⟩
          intro later kept kind stillHolds own
          by_cases same : later = ticket
          · subst same
            simp only [Function.update_self] at stillHolds
            cases stillHolds
          · simp only [Function.update_of_ne same] at stillHolds
            exact gone.unsaved later kept kind stillHolds own

theorem find_after_create_of_absent {dto : CreateTransactionRequestDto} {generated : Uuid}
    (absent : server.repository.find id = none) (named : dto.rowId generated = some id) :
    (next packages server (.create dto generated)).repository.find id = some (created dto id) := by
  have committed : create dto generated packages server.repository =
      .ok (created dto id, server.repository.put (created dto id)) :=
    create_ok.mpr ⟨id, named, Or.inr absent, rfl, rfl⟩
  change (afterwards packages (create dto generated) server.repository).find id = _
  rw [afterwards, committed]
  exact KeyedTable.find_put_self

/-- A deletion removes the row. The transaction stays deleted, whatever is
requested afterwards but a creation under its id, exactly when nobody who still
holds its row saves it; such a creation stores a row with the id again. -/
theorem stays_deleted_iff (packages : Packages) (server : Server) (ticket : Nat)
    (row : Transaction) (holds : server.held ticket = some (row, .delete)) :
    (next packages server (.finish ticket)).repository.find row.id = none ∧
      ((∀ log : List Access,
          (∀ dto generated, .create dto generated ∈ log → dto.rowId generated ≠ some row.id) →
          (run (next packages) (next packages server (.finish ticket)) log).repository.find row.id =
            none) ↔
        NoneSaves packages row.id (next packages server (.finish ticket))) ∧
      ∀ dto generated, dto.rowId generated = some row.id →
        (run (next packages) server [.finish ticket, .create dto generated]).repository.find row.id =
          some (created dto row.id) := by
  have absent : (next packages server (.finish ticket)).repository.find row.id = none := by
    rw [next_finish holds]
    exact KeyedTable.find_remove_self
  refine ⟨absent, ⟨?_, ?_⟩, fun dto generated named => find_after_create_of_absent absent named⟩
  · intro stays holder kept work stillHolds own saves
    have again := stays [.finish holder] (by simp)
    rw [run_cons, run_nil, next_finish stillHolds] at again
    obtain ⟨saved, same, changed⟩ :=
      saved_row (next packages server (.finish ticket)).repository saves
    have named : saved.id = row.id := same.trans own
    simp only [changed, ← named, KeyedTable.find_put_self] at again
    cases again
  · intro unsaved log noCreate
    have gone : Gone packages row.id
        (run (next packages) (next packages server (.finish ticket)) log) := by
      refine invariant_of_steps (next packages)
        (fun start access gone other => gone_next access gone other) ⟨absent, unsaved⟩ ?_
      apply along_of_forall_mem
      intro access listed state dto generated isCreate
      exact noCreate dto generated (isCreate ▸ listed)
    exact gone.absent

/-! ## A signature that overlaps a deletion -/

def overlappingLog : List Access :=
  [.create (sampleRequest [firstKey] 1) 1, .find 0 (some 1) .delete,
    .find 1 (some 1) (.sign ⟨firstSignature, firstKey⟩)]

theorem overlapping_creations_valid :
    ∀ dto generated, .create dto generated ∈ overlappingLog → dto.Valid := by
  intro dto generated listed
  simp only [overlappingLog, List.mem_cons, Access.create.injEq, reduceCtorEq, List.not_mem_nil,
    or_false] at listed
  rw [listed.1]
  apply sample_request_valid (by decide)
  intro key member
  rw [List.mem_singleton.mp member]
  exact first_key_hexadecimal

theorem sample_rows_genuine :
    (∀ row ∈ (run (next samplePackages) idle overlappingLog).repository.rows,
        Genuine samplePackages overlappingLog row) ∧
      ∀ ticket transactionId work,
        (run (next samplePackages) idle
            (overlappingLog ++ [.find ticket transactionId work, .finish ticket])).repository =
          afterwards samplePackages (work.call transactionId)
            (run (next samplePackages) idle overlappingLog).repository :=
  stored_rows_genuine samplePackages overlappingLog overlapping_creations_valid

theorem sample_stays_deleted_iff :
    let server := run (next samplePackages) idle overlappingLog
    (next samplePackages server (.finish 0)).repository.find 1 = none ∧
      ((∀ log : List Access,
          (∀ dto generated, .create dto generated ∈ log → dto.rowId generated ≠ some 1) →
          (run (next samplePackages) (next samplePackages server (.finish 0)) log).repository.find 1 =
            none) ↔
        NoneSaves samplePackages 1 (next samplePackages server (.finish 0))) ∧
      ∀ dto generated, dto.rowId generated = some 1 →
        (run (next samplePackages) server [.finish 0, .create dto generated]).repository.find 1 =
          some (created dto 1) :=
  stays_deleted_iff samplePackages (run (next samplePackages) idle overlappingLog) 0
    (sampleTransaction [firstKey] 1) rfl

end StablecoinStudio.Backend.OverlappingRequests
