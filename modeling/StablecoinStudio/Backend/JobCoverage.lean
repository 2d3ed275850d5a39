import StablecoinStudio.Backend.AutoSubmit

/-!
# Which transactions a run of the job examines

What a run of the job owes every stored transaction, and when it pays: the loop
leaves out the last page once there are two, the listing it reads shows start
dates without their milliseconds, and it takes three minutes off in local time.
-/

namespace StablecoinStudio.Backend.JobCoverage

open StablecoinStudio.Backend.AutoSubmit
open StablecoinStudio.Backend.TransactionService
open StablecoinStudio.Backend.Utils
open StablecoinStudio.Foundation.KeyedTables

set_option autoImplicit false

def threeMinutesBefore (now : Int) : Int := now - 180 * 1000

/-- `now - 180 s < start_date <= now`, and signed. -/
def DueForSubmission (now : Int) (transaction : Transaction) : Prop :=
  transaction.status = .signed ∧ threeMinutesBefore now < transaction.startDate ∧
    transaction.startDate ≤ now

/-- `start_date <= now - 180 s`, and not settled. -/
def DueForExpiry (now : Int) (transaction : Transaction) : Prop :=
  (transaction.status = .signed ∨ transaction.status = .pending) ∧
    transaction.startDate ≤ threeMinutesBefore now

instance (now : Int) (transaction : Transaction) : Decidable (DueForSubmission now transaction) :=
  inferInstanceAs (Decidable (_ ∧ _ ∧ _))

instance (now : Int) (transaction : Transaction) : Decidable (DueForExpiry now transaction) :=
  inferInstanceAs (Decidable ((_ ∨ _) ∧ _))

def owed (submit : GetTransactionsResponseDto → Bool) (visit : Visit) : Transaction :=
  if DueForSubmission visit.2 visit.1 then
    { visit.1 with status := if submit (transformToDto visit.1) then .executed else .error }
  else if DueForExpiry visit.2 visit.1 then { visit.1 with status := .expired }
  else visit.1

/-- Every stored transaction that is due is submitted or expired, once, and
nothing else happens. -/
structure ExaminesAll (clock : Nat → Int) (submit : GetTransactionsResponseDto → Bool)
    (repository : Repository) (result : JobRun) : Prop where
  submitted : ∀ visit ∈ visits clock repository,
    (result.submitted.map (·.id)).count visit.1.id =
      if DueForSubmission visit.2 visit.1 then 1 else 0
  expired : ∀ visit ∈ visits clock repository,
    (result.expired.map (·.id)).count visit.1.id = if DueForExpiry visit.2 visit.1 then 1 else 0
  stored : ∀ id ∈ result.submitted.map (·.id) ++ result.expired.map (·.id),
    id ∈ repository.rows.map Transaction.id
  left : ∀ visit ∈ visits clock repository,
    result.repository.find visit.1.id = some (owed submit visit)
  none_added : ∀ id, repository.find id = none → result.repository.find id = none

/-- The second of the start date has begun, the start date is still to come. -/
def WithinItsSecond (instant : Int) (transaction : Transaction) : Prop :=
  dateOf (toUTCString transaction.startDate) ≤ instant ∧ instant < transaction.startDate

/-- The date shown is on the other side of the window's end in local time than
the start date is of the moment three minutes ago. -/
def MisplacedAtEnd (zone : TimeZone) (now : Int) (transaction : Transaction) : Prop :=
  (threeMinutesBefore now < transaction.startDate ∧
      dateOf (toUTCString transaction.startDate) ≤ zone.minus3Minutes now) ∨
    (transaction.startDate ≤ threeMinutesBefore now ∧
      zone.minus3Minutes now < dateOf (toUTCString transaction.startDate))

/-- Nothing due is on the last page of several, no signed transaction of the
other pages starts later in the second of the reading, and none of them that is
signed or pending is misplaced at the end of the window. -/
structure NothingMissed (zone : TimeZone) (clock : Nat → Int) (repository : Repository) : Prop where
  lastPage : ∀ visit ∈ missed clock repository,
    ¬ DueForSubmission visit.2 visit.1 ∧ ¬ DueForExpiry visit.2 visit.1
  submission : ∀ visit ∈ visited clock repository,
    visit.1.status = .signed → ¬ WithinItsSecond visit.2 visit.1
  expiry : ∀ visit ∈ visited clock repository,
    visit.1.status = .signed ∨ visit.1.status = .pending → ¬ MisplacedAtEnd zone visit.2 visit.1

variable {packages : Packages} {zone : TimeZone} {clock : Nat → Int}
  {submit : GetTransactionsResponseDto → Bool} {repository : Repository} {visit : Visit} {now : Int}
  {transaction : Transaction}

/-- There is no page to miss while one page holds everything. -/
theorem nothing_missed_on_one_page (few : repository.rows.length ≤ limit) :
    missed clock repository = [] := by
  apply List.drop_eq_nil_of_le
  have one : 1 ≤ lastRound repository := Nat.le_max_left ..
  have all : (visits clock repository).length = repository.rows.length := List.length_mapIdx ..
  calc
    (visits clock repository).length ≤ 1 * limit := by rw [all, Nat.one_mul]; exact few
    _ ≤ lastRound repository * limit := Nat.mul_le_mul_right limit one

/-- Without a change of the clock only the milliseconds are at stake. -/
theorem misplaced_iff_within_its_second (steady : zone.minus3Minutes now = threeMinutesBefore now) :
    MisplacedAtEnd zone now transaction ↔
      WithinItsSecond (threeMinutesBefore now) transaction := by
  rw [MisplacedAtEnd, WithinItsSecond, steady]
  simp only [dateOf, toUTCString]
  omega

theorem visited_or_missed (listed : visit ∈ visits clock repository) :
    visit ∈ visited clock repository ∨ visit ∈ missed clock repository := by
  rw [← visited_and_missed] at listed
  exact List.mem_append.mp listed

theorem not_visited_of_missed (outside : visit ∈ missed clock repository) :
    visit ∉ visited clock repository := by
  have distinct := ids_distinct clock repository
  rw [← visited_and_missed, List.map_append, List.nodup_append] at distinct
  intro made
  exact distinct.2.2 visit.1.id (List.mem_map_of_mem made) visit.1.id
    (List.mem_map_of_mem outside) rfl

theorem listed_of_missed (outside : visit ∈ missed clock repository) :
    visit ∈ visits clock repository := List.mem_of_mem_drop outside

theorem listed_of_visited (made : visit ∈ visited clock repository) :
    visit ∈ visits clock repository := List.mem_of_mem_take made

/-- Where the two tests of the job agree with the dates as stored. -/
theorem tests_exact_iff :
    ((toSubmit zone now (transformToDto transaction) = true ↔ DueForSubmission now transaction) ∧
      (toExpire zone now (transformToDto transaction) = true ↔ DueForExpiry now transaction)) ↔
      (transaction.status = .signed → ¬ WithinItsSecond now transaction) ∧
        (transaction.status = .signed ∨ transaction.status = .pending →
          ¬ MisplacedAtEnd zone now transaction) := by
  simp only [toSubmit, toExpire, Bool.and_eq_true, Bool.or_eq_true, decide_eq_true_eq]
  simp only [transformToDto, DueForSubmission, DueForExpiry, WithinItsSecond, MisplacedAtEnd,
    dateOf, toUTCString, threeMinutesBefore]
  by_cases signed : transaction.status = .signed
  · simp only [signed, true_and, true_or, forall_const]
    omega
  · by_cases pending : transaction.status = .pending
    · simp only [pending, or_true, true_and, forall_const]
      simp only [reduceCtorEq, false_and, false_implies, true_and]
      omega
    · simp [signed, pending]

theorem one_or_none {first second : Prop} [Decidable first] [Decidable second] :
    ((if first then 1 else 0) = (if second then 1 else 0 : Nat)) ↔ (first ↔ second) := by
  by_cases one : first
  · by_cases other : second
    · simp [one, other]
    · simp [one, other]
  · by_cases other : second
    · simp [one, other]
    · simp [one, other]

/-- The tests that the job makes of visits decide exactly what is due. -/
def TestsExact (zone : TimeZone) (clock : Nat → Int) (repository : Repository) : Prop :=
  ∀ visit ∈ visits clock repository,
    ((visit ∈ visited clock repository ∧ toSubmit zone visit.2 (transformToDto visit.1) = true) ↔
        DueForSubmission visit.2 visit.1) ∧
      ((visit ∈ visited clock repository ∧ toExpire zone visit.2 (transformToDto visit.1) = true) ↔
        DueForExpiry visit.2 visit.1)

theorem tests_exact_of_examines
    (examines : ExaminesAll clock submit repository (run packages zone clock submit repository)) :
    TestsExact zone clock repository := by
  intro visit listed
  have submitted := examines.submitted visit listed
  have expired := examines.expired visit listed
  rw [run_eq, count_picked listed, one_or_none] at submitted
  rw [run_eq, count_picked listed, one_or_none] at expired
  exact ⟨submitted, expired⟩

theorem stored_of_picked {test : Int → GetTransactionsResponseDto → Bool} {id : Uuid}
    (chosen : id ∈ (picked test (visited clock repository)).map (·.id)) :
    id ∈ repository.rows.map Transaction.id := by
  rw [ids_of_picked] at chosen
  obtain ⟨visit, kept, rfl⟩ := List.mem_map.mp chosen
  rw [← ids_of_visits clock]
  exact List.mem_map_of_mem (listed_of_visited (List.mem_filter.mp kept).1)

theorem examines_of_tests_exact (exact_ : TestsExact zone clock repository) :
    ExaminesAll clock submit repository (run packages zone clock submit repository) where
  submitted visit listed := by
    rw [run_eq, count_picked listed, one_or_none]
    exact (exact_ visit listed).1
  expired visit listed := by
    rw [run_eq, count_picked listed, one_or_none]
    exact (exact_ visit listed).2
  stored id chosen := by
    rw [run_eq] at chosen
    rcases List.mem_append.mp chosen with submitted | expired
    · exact stored_of_picked submitted
    · exact stored_of_picked expired
  left visit listed := by
    obtain ⟨submission, expiry⟩ := exact_ visit listed
    rw [find_after_run packages zone submit listed, owed, settled]
    by_cases made : visit ∈ visited clock repository
    · simp only [made, true_and] at submission expiry
      simp only [made, if_true, submission, expiry]
    · simp only [made, false_and, false_iff] at submission expiry
      simp only [made, if_false, submission, expiry]
  none_added id absent := by
    rw [run_eq, find_after_all, find_after_all, absent]
    rfl

theorem tests_exact_iff_nothing_missed :
    TestsExact zone clock repository ↔ NothingMissed zone clock repository := by
  constructor
  · intro exact_
    have dates (visit : Visit) (made : visit ∈ visited clock repository) := by
      have tests := exact_ visit (listed_of_visited made)
      simp only [made, true_and] at tests
      exact tests_exact_iff.mp tests
    refine ⟨?_, fun visit made => (dates visit made).1, fun visit made => (dates visit made).2⟩
    intro visit outside
    have tests := exact_ visit (listed_of_missed outside)
    simp only [not_visited_of_missed outside, false_and, false_iff] at tests
    exact tests
  · intro nothing visit listed
    rcases visited_or_missed listed with made | outside
    · simp only [made, true_and]
      exact tests_exact_iff.mpr ⟨nothing.submission visit made, nothing.expiry visit made⟩
    · simp only [not_visited_of_missed outside, false_and, false_iff]
      exact nothing.lastPage visit outside

theorem examines_all_iff :
    ExaminesAll clock submit repository (run packages zone clock submit repository) ↔
      NothingMissed zone clock repository := by
  rw [← tests_exact_iff_nothing_missed]
  constructor
  · intro examines
    exact tests_exact_of_examines examines
  · intro exact_
    exact examines_of_tests_exact exact_

/-- When a run examines everything, and what is left of the condition on a table
of one page and while the clock of the server does not change. -/
structure ExaminesUnlessMissed (packages : Packages) (zone : TimeZone) (clock : Nat → Int)
    (submit : GetTransactionsResponseDto → Bool) (repository : Repository) : Prop where
  examines : ExaminesAll clock submit repository (run packages zone clock submit repository) ↔
    NothingMissed zone clock repository
  onePage : repository.rows.length ≤ limit → missed clock repository = []
  steady : ∀ now transaction, zone.minus3Minutes now = threeMinutesBefore now →
    (MisplacedAtEnd zone now transaction ↔ WithinItsSecond (threeMinutesBefore now) transaction)

/-- For every table, time zone, readings of the clock and answers of the network. -/
theorem run_examines_all_iff (packages : Packages) (zone : TimeZone) (clock : Nat → Int)
    (submit : GetTransactionsResponseDto → Bool) (repository : Repository) :
    ExaminesUnlessMissed packages zone clock submit repository where
  examines := examines_all_iff
  onePage few := nothing_missed_on_one_page few
  steady _ _ same := misplaced_iff_within_its_second same

/-- The clock of a zone goes an hour forward. In the minutes after, the window
ends an hour late, and nothing that is due is submitted. -/
def springForward (change : Int) : TimeZone where
  localTime date := if date < change then date else date + 3600 * 1000
  utc date := if date < change + 3600 * 1000 then date else date - 3600 * 1000

example : (springForward 0).minus3Minutes (60 * 1000) = (60 - 180 + 3600) * 1000 := by decide

/-! ## One transaction more than a page holds -/

def sampleTransaction (id : Nat) : Transaction where
  id := BitVec.ofNat 128 id
  transactionMessage := "0a1a"
  description := "sample"
  hederaAccountId := "0.0.123456"
  signatures := ["e120"]
  keyList := ["cf8c"]
  signedKeys := ["cf8c"]
  status := .signed
  threshold := 1
  network := .testnet
  startDate := 0

def sampleRepository : Repository where
  rows := (List.range 101).map sampleTransaction
  distinct := by decide +kernel

def silentPackages : Packages where
  bodyBytes _ _ := none
  naclVerify _ _ _ := none
  keccak256 _ := []
  ecdsaVerify _ _ _ _ := none

/-- All of them are due, and the 101st one is not submitted. -/
theorem last_page_not_examined :
    ¬ ∀ (clock : Nat → Int) (submit : GetTransactionsResponseDto → Bool)
        (repository : Repository),
      ExaminesAll clock submit repository (run silentPackages utcZone clock submit repository) := by
  intro law
  have nothing := examines_all_iff.mp (law (fun _ => 0) (fun _ => true) sampleRepository)
  have outside : (sampleTransaction 100, 0) ∈ missed (fun _ => 0) sampleRepository := by
    decide +kernel
  exact (nothing.lastPage _ outside).1 (by decide)

end StablecoinStudio.Backend.JobCoverage
