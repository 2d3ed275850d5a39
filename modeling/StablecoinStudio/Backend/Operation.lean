import StablecoinStudio.Backend.AutoSubmit
import StablecoinStudio.Foundation.Runs

/-!
# The backend in operation

Requests to create and to sign, and runs of the job, one after another. What
the job hands to `submit` is recorded.
-/

namespace StablecoinStudio.Backend.Operation

open StablecoinStudio.Backend.AutoSubmit
open StablecoinStudio.Backend.TransactionService
open StablecoinStudio.Backend.Utils
open StablecoinStudio.Foundation.KeyedTables
open StablecoinStudio.Foundation.Transaction

set_option autoImplicit false

structure State where
  repository : Repository
  /-- The ids of the transactions handed to `submit`, in order. -/
  submissions : List Uuid

inductive Event where
  | create (dto : CreateTransactionRequestDto) (generated : Uuid)
  | sign (dto : SignTransactionRequestDto) (transactionId : Option Uuid)
  | job (zone : TimeZone) (clock : Nat → Int) (submit : GetTransactionsResponseDto → Bool)

variable (packages : Packages)

def handed (state : State) : Event → List Uuid
  | .job zone clock submit =>
      (AutoSubmit.run packages zone clock submit state.repository).submitted.map (·.id)
  | _ => []

def next (state : State) (event : Event) : State where
  repository := match event with
    | .create dto generated => afterwards packages (create dto generated) state.repository
    | .sign dto transactionId => afterwards packages (sign dto transactionId) state.repository
    | .job zone clock submit =>
        (AutoSubmit.run packages zone clock submit state.repository).repository
  submissions := state.submissions ++ handed packages state event

variable {packages} {state : State} {id : Uuid} {row : Transaction}

/-- A request that commits is seen in the table; one that fails leaves it. -/
theorem afterwards_cases {value : Type} (packages : Packages) (call : ServiceTx value)
    (repository : Repository) :
    (∃ answer, call packages repository = .ok (answer, afterwards packages call repository)) ∨
      ((∃ failure, call packages repository = .error failure) ∧
        afterwards packages call repository = repository) := by
  unfold afterwards
  cases outcome : call packages repository with
  | ok pair =>
      obtain ⟨answer, later⟩ := pair
      exact Or.inl ⟨answer, rfl⟩
  | error failure => exact Or.inr ⟨⟨failure, rfl⟩, rfl⟩

/-- Creating a transaction leaves the others, unless its body carries the id of
one of them. -/
theorem find_after_create {dto : CreateTransactionRequestDto} {generated : Uuid}
    (found : state.repository.find id = some row) :
    (next packages state (.create dto generated)).repository.find id =
      some (if dto.Overwrites id then created dto id else row) := by
  change (afterwards packages (create dto generated) state.repository).find id = _
  rcases afterwards_cases packages (create dto generated) state.repository with
    ⟨answer, committed⟩ | ⟨⟨failure, failed⟩, same⟩
  · obtain ⟨rowId, named, allowed, _, changed⟩ := create_ok.mp committed
    rw [changed]
    by_cases isRow : id = rowId
    · subst isRow
      have overwrites : dto.Overwrites id := by
        rcases allowed with overwrites | absent
        · exact overwrites
        · rw [absent] at found
          cases found
      rw [if_pos overwrites]
      exact KeyedTable.find_put_self
    · have other : ¬ dto.Overwrites id := by
        intro overwrites
        rw [row_id_of_overwrites overwrites] at named
        exact isRow (Option.some.inj named)
      have different : id ≠ (created dto rowId).id := isRow
      rw [if_neg other, KeyedTable.find_put_of_ne different, found]
  · have other : ¬ dto.Overwrites id := by
      intro overwrites
      have succeeds : create dto generated packages state.repository =
          .ok (created dto id, state.repository.put (created dto id)) :=
        create_ok.mpr ⟨id, row_id_of_overwrites overwrites, Or.inl overwrites, rfl, rfl⟩
      rw [succeeds] at failed
      cases failed
    rw [same, if_neg other, found]

def afterSignature (packages : Packages) (row : Transaction) (dto : SignTransactionRequestDto) :
    Transaction :=
  match addSignature packages row dto with
  | .ok signed => signed
  | .error _ => row

theorem find_after_sign {dto : SignTransactionRequestDto} {transactionId : Option Uuid}
    (found : state.repository.find id = some row) :
    (next packages state (.sign dto transactionId)).repository.find id =
      some (if transactionId = some id then afterSignature packages row dto else row) := by
  change (afterwards packages (sign dto transactionId) state.repository).find id = _
  rcases afterwards_cases packages (sign dto transactionId) state.repository with
    ⟨answer, committed⟩ | ⟨⟨failure, failed⟩, same⟩
  · obtain ⟨wanted, stored, rfl, present, checked, changed⟩ := sign_ok.mp committed
    have named : answer.id = wanted := by
      obtain ⟨_, _, _, isSigned⟩ := add_signature_ok.mp checked
      rw [isSigned]
      exact (KeyedTable.find_some.mp present).2
    rw [changed]
    by_cases isRow : wanted = id
    · subst isRow
      rw [present] at found
      cases found
      rw [if_pos rfl, afterSignature, checked, ← named]
      exact KeyedTable.find_put_self
    · rw [if_neg fun equal => isRow (Option.some.inj equal),
        KeyedTable.find_put_of_ne (by rw [named]; exact Ne.symm isRow), found]
  · rw [same, found]
    by_cases isRow : transactionId = some id
    · subst isRow
      rw [if_pos rfl, afterSignature]
      cases outcome : addSignature packages row dto with
      | error _ => rfl
      | ok signed =>
          have succeeds : sign dto (some id) packages state.repository =
              .ok (signed, state.repository.put signed) :=
            sign_ok.mpr ⟨id, row, rfl, found, outcome, rfl⟩
          rw [succeeds] at failed
          cases failed
    · rw [if_neg isRow]

/-! ## Stored transactions under the job -/

theorem visit_of_found (clock : Nat → Int) (found : state.repository.find id = some row) :
    ∃ now, (row, now) ∈ visits clock state.repository ∧ row.id = id := by
  obtain ⟨stored, named⟩ := KeyedTable.find_some.mp found
  rw [← transactions_of_visits clock] at stored
  obtain ⟨⟨_, now⟩, listed, rfl⟩ := List.mem_map.mp stored
  exact ⟨now, listed, named⟩

theorem find_after_job (zone : TimeZone) (clock : Nat → Int)
    (submit : GetTransactionsResponseDto → Bool) (found : state.repository.find id = some row) :
    ∃ status, (next packages state (.job zone clock submit)).repository.find id =
      some { row with status := status } := by
  obtain ⟨now, listed, rfl⟩ := visit_of_found clock found
  have after := find_after_run packages zone submit listed
  change (AutoSubmit.run packages zone clock submit state.repository).repository.find row.id = _
    at after
  rw [settled] at after
  split at after
  · split at after
    · exact ⟨_, after⟩
    · split at after
      · exact ⟨_, after⟩
      · exact ⟨row.status, after⟩
  · exact ⟨row.status, after⟩

end StablecoinStudio.Backend.Operation
