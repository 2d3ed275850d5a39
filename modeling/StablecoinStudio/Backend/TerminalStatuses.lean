import StablecoinStudio.Backend.Operation

/-!
# Statuses that are final

EXECUTED, EXPIRED and ERROR end the life of a transaction for the job, which
submits what is signed. Neither `sign` nor `create` asks for a status: a late
signature that completes the threshold makes the transaction signed again, and a
body that carries its id makes it a new one.
-/

namespace StablecoinStudio.Backend.TerminalStatuses

open StablecoinStudio.Backend.AutoSubmit
open StablecoinStudio.Backend.Operation
open StablecoinStudio.Backend.TransactionService
open StablecoinStudio.Backend.Utils
open StablecoinStudio.Foundation.KeyedTables
open StablecoinStudio.Foundation.Runs

set_option autoImplicit false

def Terminal (status : TransactionStatus) : Prop :=
  status = .executed ∨ status = .expired ∨ status = .error

instance (status : TransactionStatus) : Decidable (Terminal status) :=
  inferInstanceAs (Decidable (_ ∨ _ ∨ _))

variable (packages : Packages)

def Keeps (id : Uuid) (status : TransactionStatus) (state : State) : Prop :=
  ∃ row, state.repository.find id = some row ∧ row.status = status

/-- The step keeps every terminal status and submits nothing that has one. -/
def StepFinal (state : State) (event : Event) : Prop :=
  ∀ id status, Keeps id status state → Terminal status →
    Keeps id status (next packages state event) ∧ id ∉ handed packages state event

/-- Once a transaction is terminal in a run, it has its status in every later
state and is not submitted in between. -/
def FinalForEver (start : State) (events : List Event) : Prop :=
  ∀ before after rest, events = before ++ after ++ rest → ∀ id status,
    Keeps id status (run (next packages) start before) → Terminal status →
      Keeps id status (run (next packages) start (before ++ after)) ∧
        id ∉ collect (next packages) (handed packages) (run (next packages) start before) after

/-- A body carries the id of no terminal transaction, and a signature that `sign`
accepts for one leaves it below its threshold. -/
def NoRevival (state : State) : Event → Prop
  | .create dto _ => ∀ id row, dto.Overwrites id → state.repository.find id = some row →
      ¬ Terminal row.status
  | .sign dto transactionId => ∀ id row signed, transactionId = some id →
      state.repository.find id = some row → Terminal row.status →
      addSignature packages row dto = .ok signed → signed.signedKeys.length < signed.threshold
  | .job _ _ _ => True

variable {packages} {state start : State} {event : Event} {events : List Event} {id : Uuid}
  {row : Transaction} {status : TransactionStatus}

/-! ## One step -/

theorem not_submitted_of_terminal (zone : TimeZone) (now : Int) (terminal : Terminal row.status) :
    toSubmit zone now (transformToDto row) = false := by
  have unsigned : row.status ≠ .signed := by
    intro signed
    rw [signed] at terminal
    revert terminal
    decide
  simp [toSubmit, transformToDto, unsigned]

theorem not_expired_of_terminal (zone : TimeZone) (now : Int) (terminal : Terminal row.status) :
    toExpire zone now (transformToDto row) = false := by
  have unsettled : ¬ (row.status = .signed ∨ row.status = .pending) := by
    rintro (signed | pending)
    · rw [signed] at terminal
      revert terminal
      decide
    · rw [pending] at terminal
      revert terminal
      decide
  rw [not_or] at unsettled
  simp [toExpire, transformToDto, unsettled]

theorem job_final {zone : TimeZone} {clock : Nat → Int}
    {submit : GetTransactionsResponseDto → Bool} :
    StepFinal packages state (.job zone clock submit) := by
  intro id status kept terminal
  obtain ⟨row, found, rfl⟩ := kept
  obtain ⟨now, listed, rfl⟩ := visit_of_found clock found
  have unsubmitted := not_submitted_of_terminal zone now terminal
  have unexpired := not_expired_of_terminal zone now terminal
  have same : settled zone submit (row, now) = row := by simp [settled, unsubmitted, unexpired]
  constructor
  · have after := find_after_run packages zone submit listed
    rw [same, ite_self] at after
    exact ⟨row, after, rfl⟩
  · change row.id ∉ (AutoSubmit.run packages zone clock submit state.repository).submitted.map (·.id)
    rw [run_eq]
    intro submitted
    have passes := ((mem_picked listed).mp submitted).2
    rw [unsubmitted] at passes
    cases passes

theorem created_not_terminal (dto : CreateTransactionRequestDto) (id : Uuid) :
    ¬ Terminal (created dto id).status := by
  change ¬ Terminal .pending
  decide

theorem create_final_iff {dto : CreateTransactionRequestDto} {generated : Uuid} :
    StepFinal packages state (.create dto generated) ↔
      NoRevival packages state (.create dto generated) := by
  constructor
  · intro final id row overwrites found terminal
    obtain ⟨⟨later, after, same⟩, _⟩ := final id row.status ⟨row, found, rfl⟩ terminal
    rw [find_after_create found, if_pos overwrites] at after
    cases after
    rw [← same] at terminal
    exact created_not_terminal dto id terminal
  · intro spared id status kept terminal
    obtain ⟨row, found, rfl⟩ := kept
    have other : ¬ dto.Overwrites id := fun overwrites => spared id row overwrites found terminal
    refine ⟨⟨_, find_after_create found, ?_⟩, List.not_mem_nil⟩
    rw [if_neg other]

/-- An accepted signature leaves a terminal status exactly when it leaves the
transaction below its threshold. -/
theorem status_after_signature {signed : Transaction} {dto : SignTransactionRequestDto}
    (terminal : Terminal row.status) (accepted : addSignature packages row dto = .ok signed) :
    signed.status = row.status ↔ signed.signedKeys.length < signed.threshold := by
  obtain ⟨_, _, _, rfl⟩ := add_signature_ok.mp accepted
  have unsigned : .signed ≠ row.status := by
    intro isSigned
    rw [← isSigned] at terminal
    revert terminal
    decide
  by_cases complete : row.threshold ≤ (row.signedKeys ++ [dto.publicKey]).length
  · simp only [withSignature, if_pos complete, Nat.not_lt.mpr complete, iff_false]
    exact unsigned
  · simp only [withSignature, if_neg complete, Nat.lt_of_not_le complete]

theorem sign_final_iff {dto : SignTransactionRequestDto} {transactionId : Option Uuid} :
    StepFinal packages state (.sign dto transactionId) ↔
      NoRevival packages state (.sign dto transactionId) := by
  constructor
  · intro final id row signed named found terminal accepted
    obtain ⟨⟨later, after, same⟩, _⟩ := final id row.status ⟨row, found, rfl⟩ terminal
    rw [find_after_sign found, if_pos named, afterSignature, accepted] at after
    cases after
    exact (status_after_signature terminal accepted).mp same
  · intro below id status kept terminal
    obtain ⟨row, found, rfl⟩ := kept
    refine ⟨?_, List.not_mem_nil⟩
    refine ⟨_, find_after_sign found, ?_⟩
    by_cases named : transactionId = some id
    · rw [if_pos named, afterSignature]
      cases outcome : addSignature packages row dto with
      | ok signed =>
          exact (status_after_signature terminal outcome).mpr
            (below id row signed named found terminal outcome)
      | error _ => rfl
    · rw [if_neg named]

theorem step_final_iff : StepFinal packages state event ↔ NoRevival packages state event := by
  cases event with
  | create dto generated => exact create_final_iff
  | sign dto transactionId => exact sign_final_iff
  | job zone clock submit => exact ⟨fun _ => trivial, fun _ => job_final⟩

/-! ## Runs -/

theorem keeps_along (final : Along (next packages) (StepFinal packages) state events)
    (kept : Keeps id status state) (terminal : Terminal status) :
    Keeps id status (run (next packages) state events) ∧
      id ∉ collect (next packages) (handed packages) state events := by
  induction events generalizing state with
  | nil => exact ⟨kept, List.not_mem_nil⟩
  | cons event rest ih =>
      obtain ⟨keptNow, unhanded⟩ := final.1 id status kept terminal
      obtain ⟨keptLater, others⟩ := ih final.2 keptNow
      refine ⟨keptLater, ?_⟩
      rw [collect, List.mem_append, not_or]
      exact ⟨unhanded, others⟩

theorem final_for_ever_iff : FinalForEver packages start events ↔
    Along (next packages) (StepFinal packages) start events := by
  constructor
  · intro final
    rw [along_iff_at_cuts]
    intro before taken rest cut id status kept terminal
    have cutAgain : events = before ++ [taken] ++ rest := by simp [cut]
    obtain ⟨keptNow, unhanded⟩ := final before [taken] rest cutAgain id status kept terminal
    rw [run_snoc] at keptNow
    exact ⟨keptNow, by simpa [collect] using unhanded⟩
  · intro along before after rest cut id status kept terminal
    rw [cut, along_append, along_append] at along
    rw [run_append]
    exact keeps_along along.1.2 kept terminal

/-- Whatever was submitted is terminal, and was submitted once. -/
def SubmittedOnce (state : State) : Prop :=
  state.submissions.Nodup ∧
    ∀ id ∈ state.submissions, ∃ status, Terminal status ∧ Keeps id status state

theorem terminal_of_handed (submitted : id ∈ handed packages state event) :
    ∃ status, Terminal status ∧ Keeps id status (next packages state event) := by
  cases event with
  | create dto generated => cases submitted
  | sign dto transactionId => cases submitted
  | job zone clock submit =>
      change id ∈
        (AutoSubmit.run packages zone clock submit state.repository).submitted.map (·.id) at submitted
      rw [run_eq, ids_of_picked] at submitted
      obtain ⟨visit, chosen, rfl⟩ := List.mem_map.mp submitted
      obtain ⟨made, passes⟩ := List.mem_filter.mp chosen
      have after := find_after_run packages zone submit (List.mem_of_mem_take made)
      rw [if_pos made, settled, if_pos passes] at after
      refine ⟨_, ?_, _, after, rfl⟩
      change Terminal (if submit (transformToDto visit.1) = true then .executed else .error)
      split
      · exact Or.inl rfl
      · exact Or.inr (Or.inr rfl)

theorem handed_distinct : (handed packages state event).Nodup := by
  cases event with
  | create dto generated => exact List.nodup_nil
  | sign dto transactionId => exact List.nodup_nil
  | job zone clock submit =>
      change ((AutoSubmit.run packages zone clock submit state.repository).submitted.map
        (·.id)).Nodup
      rw [run_eq]
      exact picked_distinct

theorem submitted_once_step (once : SubmittedOnce state) (final : StepFinal packages state event) :
    SubmittedOnce (next packages state event) := by
  constructor
  · apply List.nodup_append.mpr
    refine ⟨once.1, handed_distinct, ?_⟩
    intro old listed new submitted same
    obtain ⟨status, terminal, kept⟩ := once.2 old listed
    exact (final old status kept terminal).2 (same ▸ submitted)
  · intro id listed
    rcases List.mem_append.mp listed with old | new
    · obtain ⟨status, terminal, kept⟩ := once.2 id old
      exact ⟨status, terminal, (final id status kept terminal).1⟩
    · exact terminal_of_handed new

/-- Terminal statuses are final in a run exactly when no step of it revives a
terminal transaction; in a run from an empty record of submissions nothing is
then submitted twice. -/
structure FinalUnlessRevived (packages : Packages) (start : State) (events : List Event) : Prop where
  final : FinalForEver packages start events ↔
    Along (next packages) (NoRevival packages) start events
  once : start.submissions = [] → Along (next packages) (NoRevival packages) start events →
    (run (next packages) start events).submissions.Nodup

theorem terminal_statuses_final (packages : Packages) (start : State) (events : List Event) :
    FinalUnlessRevived packages start events := by
  have same : StepFinal packages = NoRevival packages := by
    funext state event
    exact propext step_final_iff
  refine ⟨?_, ?_⟩
  · rw [final_for_ever_iff, same]
  · intro fresh below
    rw [← same] at below
    have initial : SubmittedOnce start := by
      rw [SubmittedOnce, fresh]
      exact ⟨List.nodup_nil, fun id listed => (List.not_mem_nil listed).elim⟩
    exact (invariant_of_steps _ (fun state event => submitted_once_step) initial below).1

/-! ## Two ways back -/

def noTransactions : State := ⟨KeyedTable.empty, []⟩

/-- One of two keys suffices and signs, and the job submits. -/
def submittedInTime : List Event :=
  [.create (sampleRequest [firstKey, secondKey] 1) 1, .sign ⟨firstSignature, firstKey⟩ (some 1),
    .job utcZone (fun _ => 0) (fun _ => true)]

def executedTransaction : Transaction :=
  { withSignature (sampleTransaction [firstKey, secondKey] 1) ⟨firstSignature, firstKey⟩ with
    status := .executed }

def single (transaction : Transaction) : Repository := ⟨[transaction], List.nodup_singleton _⟩

theorem executed_in_time :
    (run (next samplePackages) noTransactions submittedInTime).repository.find 1 =
      some executedTransaction := by
  have created : next samplePackages noTransactions
      (.create (sampleRequest [firstKey, secondKey] 1) 1) =
        ⟨single (sampleTransaction [firstKey, secondKey] 1), []⟩ := rfl
  have accepted : addSignature samplePackages (sampleTransaction [firstKey, secondKey] 1)
      ⟨firstSignature, firstKey⟩ = .ok (withSignature _ ⟨firstSignature, firstKey⟩) :=
    sample_signature_accepted rfl (by decide) (by decide) first_verifies
  have signed : next samplePackages ⟨single (sampleTransaction [firstKey, secondKey] 1), []⟩
      (.sign ⟨firstSignature, firstKey⟩ (some 1)) =
        ⟨single (withSignature (sampleTransaction [firstKey, secondKey] 1)
          ⟨firstSignature, firstKey⟩), []⟩ := by
    have committed : sign ⟨firstSignature, firstKey⟩ (some 1) samplePackages
        (single (sampleTransaction [firstKey, secondKey] 1)) = .ok (withSignature _ _, _) :=
      sign_ok.mpr ⟨1, _, rfl, rfl, accepted, rfl⟩
    simp only [next, afterwards, committed]
    rfl
  rw [submittedInTime, run_cons, run_cons, run_cons, run_nil, created, signed]
  decide +kernel

theorem late_signature_revives :
    ¬ FinalForEver samplePackages noTransactions
      (submittedInTime ++ [.sign ⟨secondSignature, secondKey⟩ (some 1)]) := by
  intro final
  obtain ⟨⟨row, found, kept⟩, _⟩ := final submittedInTime _ [] (List.append_nil _).symm 1 .executed
    ⟨executedTransaction, executed_in_time, rfl⟩ (Or.inl rfl)
  have accepted : addSignature samplePackages executedTransaction ⟨secondSignature, secondKey⟩ =
      .ok (withSignature executedTransaction ⟨secondSignature, secondKey⟩) :=
    sample_signature_accepted rfl (by decide) (by decide) second_verifies
  rw [run_snoc, find_after_sign executed_in_time, if_pos rfl, afterSignature, accepted] at found
  cases found
  revert kept
  decide

/-- A request of anybody, with the id of the executed transaction in its body. -/
def takingItsId : CreateTransactionRequestDto :=
  { sampleRequest [secondKey] 1 with id := some (.uuid 1) }

theorem overwriting_revives :
    ¬ FinalForEver samplePackages noTransactions (submittedInTime ++ [.create takingItsId 2]) := by
  intro final
  obtain ⟨⟨row, found, kept⟩, _⟩ := final submittedInTime _ [] (List.append_nil _).symm 1 .executed
    ⟨executedTransaction, executed_in_time, rfl⟩ (Or.inl rfl)
  have overwrites : takingItsId.Overwrites 1 := rfl
  rw [run_snoc, find_after_create executed_in_time, if_pos overwrites] at found
  cases found
  revert kept
  decide

/-- The other key signs afterwards, or a body takes the id. -/
theorem executed_transaction_revived :
    ¬ FinalForEver samplePackages noTransactions
        (submittedInTime ++ [.sign ⟨secondSignature, secondKey⟩ (some 1)]) ∧
      ¬ FinalForEver samplePackages noTransactions (submittedInTime ++ [.create takingItsId 2]) :=
  ⟨late_signature_revives, overwriting_revives⟩

end StablecoinStudio.Backend.TerminalStatuses
