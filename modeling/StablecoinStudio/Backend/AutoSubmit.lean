import Mathlib.Data.List.Count
import StablecoinStudio.Backend.TransactionService

/-!
# The auto-submit job

`run` of `autoSubmit.service.ts`. A round reads one page and the clock, and the
updates that follow are made one after another. The answers of the network and
the server's time zone are parameters.
-/

namespace StablecoinStudio.Backend.AutoSubmit

open StablecoinStudio.Backend.TransactionService
open StablecoinStudio.Backend.Utils
open StablecoinStudio.Foundation.KeyedTables
open StablecoinStudio.Foundation.Transaction

set_option autoImplicit false

def limit : Nat := 100

/-- `new Date` of a text that `toUTCString` wrote. -/
def dateOf (text : Int) : Int := text * 1000

/-- Local time and back, as a `Date` converts its value. -/
structure TimeZone where
  localTime : Int → Int
  utc : Int → Int

def utcZone : TimeZone := ⟨id, id⟩

/-- `setSeconds` of `getSeconds() - 180`, which count in local time. -/
def TimeZone.minus3Minutes (zone : TimeZone) (date : Int) : Int :=
  zone.utc (zone.localTime date - 180 * 1000)

def toSubmit (zone : TimeZone) (currentDate : Int) (tx : GetTransactionsResponseDto) : Bool :=
  decide (tx.status = .signed) && decide (dateOf tx.startDate ≤ currentDate) &&
    decide (zone.minus3Minutes currentDate < dateOf tx.startDate)

def toExpire (zone : TimeZone) (currentDate : Int) (tx : GetTransactionsResponseDto) : Bool :=
  (decide (tx.status = .signed) || decide (tx.status = .pending)) &&
    decide (dateOf tx.startDate ≤ zone.minus3Minutes currentDate)

structure Found where
  transactionsToSubmit : List GetTransactionsResponseDto
  transactionsToExpire : List GetTransactionsResponseDto

def totalPages (repository : Repository) : Nat := (repository.rows.length + limit - 1) / limit

theorem listed_page (page : Nat) (repository : Repository) :
    Filters.listed {} page limit repository =
      { items := ((repository.rows.drop ((page - 1) * limit)).take limit).map transformToDto
        totalPages := some (totalPages repository) } := by
  rw [Filters.listed, if_neg (by decide), accepted_without_filters]
  rfl

/-- The loop from a page on. No filter is set, and the page is counted up before
the test. -/
def rounds (zone : TimeZone) (clock : Nat → Int) (repository : Repository) (page : Nat) : Found :=
  let allTransactions := Filters.listed {} page limit repository
  let submit := allTransactions.items.filter (toSubmit zone (clock page))
  let expire := allTransactions.items.filter (toExpire zone (clock page))
  if allTransactions.totalPages.any fun total => decide (total ≤ page + 1) then ⟨submit, expire⟩
  else
    let rest := rounds zone clock repository (page + 1)
    ⟨submit ++ rest.transactionsToSubmit, expire ++ rest.transactionsToExpire⟩
termination_by totalPages repository - page
decreasing_by
  next more =>
    simp only [allTransactions, listed_page, Option.any_some, decide_eq_true_eq] at more
    omega

def afterwards {value : Type} (packages : Packages) (call : ServiceTx value)
    (repository : Repository) : Repository :=
  match call packages repository with
  | .ok (_, later) => later
  | .error _ => repository

variable (packages : Packages)

def updateAll (newState : GetTransactionsResponseDto → TransactionStatus)
    (transactions : List GetTransactionsResponseDto) (repository : Repository) : Repository :=
  transactions.foldl
    (fun repository t => afterwards packages (updateStatus (newState t) (some t.id)) repository)
    repository

structure JobRun where
  repository : Repository
  /-- The transactions handed to `submit`, in order. -/
  submitted : List GetTransactionsResponseDto
  expired : List GetTransactionsResponseDto

def run (zone : TimeZone) (clock : Nat → Int) (submit : GetTransactionsResponseDto → Bool)
    (repository : Repository) : JobRun :=
  let found := rounds zone clock repository 1
  let expired := updateAll packages (fun _ => .expired) found.transactionsToExpire repository
  { repository := updateAll packages (fun t => if submit t then .executed else .error)
      found.transactionsToSubmit expired
    submitted := found.transactionsToSubmit
    expired := found.transactionsToExpire }

/-! ## The rounds -/

/-- A stored transaction with the clock's reading in the round of its page. -/
abbrev Visit := Transaction × Int

def visits (clock : Nat → Int) (repository : Repository) : List Visit :=
  repository.rows.mapIdx fun index transaction => (transaction, clock (index / limit + 1))

def lastRound (repository : Repository) : Nat := max 1 (totalPages repository - 1)

def visited (clock : Nat → Int) (repository : Repository) : List Visit :=
  (visits clock repository).take (lastRound repository * limit)

def missed (clock : Nat → Int) (repository : Repository) : List Visit :=
  (visits clock repository).drop (lastRound repository * limit)

/-- What a test of the job picks from visits. -/
def picked (test : Int → GetTransactionsResponseDto → Bool) (some_ : List Visit) :
    List GetTransactionsResponseDto :=
  (some_.filter fun visit => test visit.2 (transformToDto visit.1)).map fun visit =>
    transformToDto visit.1

variable {packages} {zone : TimeZone} {clock : Nat → Int} {repository : Repository} {page : Nat}
  {test : Int → GetTransactionsResponseDto → Bool}

theorem picked_append (first second : List Visit) :
    picked test (first ++ second) = picked test first ++ picked test second := by
  rw [picked, List.filter_append, List.map_append]
  rfl

theorem visits_of_page (isPage : 1 ≤ page) :
    ((visits clock repository).drop ((page - 1) * limit)).take limit =
      ((repository.rows.drop ((page - 1) * limit)).take limit).map fun transaction =>
        (transaction, clock page) := by
  apply List.ext_getElem?
  intro place
  rw [List.getElem?_map, List.getElem?_take, List.getElem?_take]
  by_cases inside : place < limit
  · have samePage : ((page - 1) * limit + place) / limit + 1 = page := by
      unfold limit at inside ⊢
      omega
    rw [if_pos inside, if_pos inside, List.getElem?_drop, List.getElem?_drop, visits,
      List.getElem?_mapIdx, samePage]
  · rw [if_neg inside, if_neg inside]
    rfl

theorem picked_on_page (isPage : 1 ≤ page) :
    (Filters.listed {} page limit repository).items.filter (test (clock page)) =
      picked test (((visits clock repository).drop ((page - 1) * limit)).take limit) := by
  rw [visits_of_page isPage, picked, listed_page]
  simp only [List.filter_map, List.map_map]
  rfl

/-- The rounds from a page on: its own, and those up to the last but one. -/
def visitedFrom (clock : Nat → Int) (repository : Repository) (page : Nat) : List Visit :=
  ((visits clock repository).drop ((page - 1) * limit)).take
    ((max page (totalPages repository - 1) - (page - 1)) * limit)

theorem visited_from_last (isPage : 1 ≤ page) (last : totalPages repository ≤ page + 1) :
    visitedFrom clock repository page =
      ((visits clock repository).drop ((page - 1) * limit)).take limit := by
  have rounds : (max page (totalPages repository - 1) - (page - 1)) * limit = limit := by
    have one : max page (totalPages repository - 1) - (page - 1) = 1 := by omega
    rw [one, Nat.one_mul]
  rw [visitedFrom, rounds]

theorem visited_from_next (isPage : 1 ≤ page) (more : page + 1 < totalPages repository) :
    visitedFrom clock repository page =
      ((visits clock repository).drop ((page - 1) * limit)).take limit ++
        visitedFrom clock repository (page + 1) := by
  have rounds : (max page (totalPages repository - 1) - (page - 1)) * limit =
      limit + (max (page + 1) (totalPages repository - 1) - (page + 1 - 1)) * limit := by
    have count : max page (totalPages repository - 1) - (page - 1) =
        1 + (max (page + 1) (totalPages repository - 1) - (page + 1 - 1)) := by omega
    rw [count, Nat.add_mul, Nat.one_mul]
  have start : (page - 1) * limit + limit = (page + 1 - 1) * limit := by
    unfold limit
    omega
  rw [visitedFrom, rounds, List.take_add, List.drop_drop, start]
  rfl

theorem rounds_from (isPage : 1 ≤ page) :
    rounds zone clock repository page =
      ⟨picked (toSubmit zone) (visitedFrom clock repository page),
        picked (toExpire zone) (visitedFrom clock repository page)⟩ := by
  induction page using rounds.induct zone clock repository with
  | case1 page allTransactions last =>
      have isLast := last
      simp only [allTransactions, listed_page, Option.any_some, decide_eq_true_eq] at isLast
      rw [rounds, if_pos last, picked_on_page isPage, picked_on_page isPage,
        visited_from_last isPage isLast]
  | case2 page allTransactions more ih =>
      have next := more
      simp only [allTransactions, listed_page, Option.any_some, decide_eq_true_eq,
        Nat.not_le] at next
      rw [rounds, if_neg more, ih (Nat.le_add_left 1 page), picked_on_page isPage,
        picked_on_page isPage, visited_from_next isPage next, picked_append, picked_append]

theorem rounds_all : rounds zone clock repository 1 =
    ⟨picked (toSubmit zone) (visited clock repository),
      picked (toExpire zone) (visited clock repository)⟩ := by
  have same : visitedFrom clock repository 1 = visited clock repository := by
    simp [visitedFrom, visited, lastRound]
  rw [rounds_from (Nat.le_refl 1), same]

/-! ## Who is picked -/

theorem transactions_of_visits (clock : Nat → Int) :
    (visits clock repository).map Prod.fst = repository.rows := by
  apply List.ext_getElem?
  intro place
  rw [visits, List.getElem?_map, List.getElem?_mapIdx, Option.map_map]
  exact Option.map_id' ..

theorem ids_of_visits (clock : Nat → Int) (repository : Repository) :
    (visits clock repository).map (fun visit => visit.1.id) =
      repository.rows.map Transaction.id := by
  rw [← transactions_of_visits clock, List.map_map]
  rfl

theorem visited_and_missed :
    visited clock repository ++ missed clock repository = visits clock repository :=
  List.take_append_drop ..

theorem ids_distinct (clock : Nat → Int) (repository : Repository) :
    ((visits clock repository).map fun visit => visit.1.id).Nodup := by
  rw [ids_of_visits]
  exact repository.distinct

theorem visit_unique {first second : Visit} (firstListed : first ∈ visits clock repository)
    (secondListed : second ∈ visits clock repository) (same : first.1.id = second.1.id) :
    first = second :=
  List.inj_on_of_nodup_map (ids_distinct clock repository) firstListed secondListed same

theorem ids_of_picked (some_ : List Visit) : (picked test some_).map (·.id) =
    (some_.filter fun visit => test visit.2 (transformToDto visit.1)).map fun visit => visit.1.id := by
  rw [picked, List.map_map]
  rfl

theorem picked_distinct : ((picked test (visited clock repository)).map (·.id)).Nodup := by
  rw [ids_of_picked]
  have shorter : ((visited clock repository).filter fun visit =>
      test visit.2 (transformToDto visit.1)).Sublist (visits clock repository) :=
    List.filter_sublist.trans (List.take_sublist _ _)
  exact (ids_distinct clock repository).sublist (shorter.map _)

theorem mem_picked {visit : Visit} (listed : visit ∈ visits clock repository) :
    visit.1.id ∈ (picked test (visited clock repository)).map (·.id) ↔
      visit ∈ visited clock repository ∧ test visit.2 (transformToDto visit.1) = true := by
  rw [ids_of_picked, List.mem_map]
  constructor
  · intro found
    obtain ⟨other, chosen, same⟩ := found
    obtain ⟨made, passes⟩ := List.mem_filter.mp chosen
    have isSame : other = visit := visit_unique (List.mem_of_mem_take made) listed same
    subst isSame
    exact ⟨made, passes⟩
  · intro made
    exact ⟨visit, List.mem_filter.mpr made, rfl⟩

/-- A transaction is picked once, when its visit is made and passes the test. -/
theorem count_picked {visit : Visit} (listed : visit ∈ visits clock repository) :
    ((picked test (visited clock repository)).map (·.id)).count visit.1.id =
      if visit ∈ visited clock repository ∧ test visit.2 (transformToDto visit.1) = true then 1
      else 0 := by
  rw [picked_distinct.count]
  simp only [mem_picked listed]

/-! ## The updates -/

theorem find_after_update {newState : TransactionStatus} {id wanted : Uuid} :
    (afterwards packages (updateStatus newState (some id)) repository).find wanted =
      (repository.find wanted).map fun row =>
        if wanted = id then { row with status := newState } else row := by
  cases present : repository.find id with
  | none =>
      have failed : updateStatus newState (some id) packages repository = .error notFound := by
        simp [updateStatus, findOne, present]
      rw [afterwards, failed]
      by_cases same : wanted = id
      · subst same
        rw [present]
        rfl
      · simp only [if_neg same]
        exact Option.map_id'.symm
  | some found =>
      have committed : updateStatus newState (some id) packages repository =
          .ok ((), repository.put { found with status := newState }) :=
        update_status_ok.mpr ⟨id, found, rfl, present, rfl⟩
      have named : found.id = id := (KeyedTable.find_some.mp present).2
      rw [afterwards, committed]
      by_cases same : wanted = id
      · subst same
        rw [present]
        simp only [if_pos, Option.map_some]
        rw [← named]
        exact KeyedTable.find_put_self
      · simp only [if_neg same]
        rw [KeyedTable.find_put_of_ne]
        · exact Option.map_id'.symm
        · change wanted ≠ found.id
          rw [named]
          exact same

def updated (newState : GetTransactionsResponseDto → TransactionStatus)
    (transactions : List GetTransactionsResponseDto) (wanted : Uuid) (row : Transaction) :
    Transaction :=
  transactions.foldl
    (fun row t => if wanted = t.id then { row with status := newState t } else row) row

variable {newState : GetTransactionsResponseDto → TransactionStatus}

theorem find_after_all (transactions : List GetTransactionsResponseDto) (wanted : Uuid) :
    (updateAll packages newState transactions repository).find wanted =
      (repository.find wanted).map (updated newState transactions wanted) := by
  induction transactions generalizing repository with
  | nil => exact Option.map_id'.symm
  | cons first rest ih =>
      have later : (updateAll packages newState (first :: rest) repository).find wanted =
          ((afterwards packages (updateStatus (newState first) (some first.id)) repository).find
            wanted).map (updated newState rest wanted) := ih
      rw [find_after_update, Option.map_map] at later
      exact later

theorem updated_of_unlisted {transactions : List GetTransactionsResponseDto} {wanted : Uuid}
    (absent : wanted ∉ transactions.map (·.id)) (row : Transaction) :
    updated newState transactions wanted row = row := by
  induction transactions generalizing row with
  | nil => rfl
  | cons first rest ih =>
      rw [List.map_cons, List.mem_cons, not_or] at absent
      rw [updated, List.foldl_cons, if_neg absent.1]
      exact ih absent.2 row

theorem updated_of_listed {transactions : List GetTransactionsResponseDto}
    {t : GetTransactionsResponseDto} (distinct : (transactions.map (·.id)).Nodup)
    (listed : t ∈ transactions) (row : Transaction) :
    updated newState transactions t.id row = { row with status := newState t } := by
  induction transactions generalizing row with
  | nil => cases listed
  | cons first rest ih =>
      rw [List.map_cons, List.nodup_cons] at distinct
      rw [updated, List.foldl_cons]
      cases listed with
      | head =>
          rw [if_pos rfl]
          exact updated_of_unlisted distinct.1 _
      | tail _ later =>
          have other : t.id ≠ first.id := by
            intro same
            exact distinct.1 (same ▸ List.mem_map_of_mem later)
          rw [if_neg other]
          exact ih distinct.2 later row

theorem updated_picked {visit : Visit} (listed : visit ∈ visits clock repository)
    (row : Transaction) :
    updated newState (picked test (visited clock repository)) visit.1.id row =
      if visit ∈ visited clock repository ∧ test visit.2 (transformToDto visit.1) = true then
        { row with status := newState (transformToDto visit.1) }
      else row := by
  by_cases chosen : visit ∈ visited clock repository ∧
      test visit.2 (transformToDto visit.1) = true
  · rw [if_pos chosen]
    have member : transformToDto visit.1 ∈ picked test (visited clock repository) :=
      List.mem_map_of_mem (List.mem_filter.mpr chosen)
    exact updated_of_listed picked_distinct member row
  · rw [if_neg chosen]
    apply updated_of_unlisted
    rw [mem_picked listed]
    exact chosen

/-! ## A run of the job -/

variable {submit : GetTransactionsResponseDto → Bool}

theorem run_eq : run packages zone clock submit repository =
    { repository := updateAll packages (fun t => if submit t then .executed else .error)
        (picked (toSubmit zone) (visited clock repository))
        (updateAll packages (fun _ => .expired) (picked (toExpire zone) (visited clock repository))
          repository)
      submitted := picked (toSubmit zone) (visited clock repository)
      expired := picked (toExpire zone) (visited clock repository) } := by
  rw [run, rounds_all]

theorem not_expired_of_submitted {currentDate : Int} {tx : GetTransactionsResponseDto}
    (submitted : toSubmit zone currentDate tx = true) : toExpire zone currentDate tx = false := by
  simp only [toSubmit, Bool.and_eq_true, decide_eq_true_eq] at submitted
  have late : ¬ dateOf tx.startDate ≤ zone.minus3Minutes currentDate := Int.not_le.mpr submitted.2
  simp [toExpire, late]

def settled (zone : TimeZone) (submit : GetTransactionsResponseDto → Bool) (visit : Visit) :
    Transaction :=
  if toSubmit zone visit.2 (transformToDto visit.1) = true then
    { visit.1 with status := if submit (transformToDto visit.1) then .executed else .error }
  else if toExpire zone visit.2 (transformToDto visit.1) = true then
    { visit.1 with status := .expired }
  else visit.1

theorem find_after_run (packages : Packages) (zone : TimeZone)
    (submit : GetTransactionsResponseDto → Bool) {visit : Visit}
    (listed : visit ∈ visits clock repository) :
    (run packages zone clock submit repository).repository.find visit.1.id =
      some (if visit ∈ visited clock repository then settled zone submit visit else visit.1) := by
  have stored : visit.1 ∈ repository.rows := by
    rw [← transactions_of_visits clock]
    exact List.mem_map_of_mem listed
  rw [run_eq, find_after_all, find_after_all, KeyedTable.find_of_mem stored, Option.map_some,
    Option.map_some, updated_picked listed, updated_picked listed]
  by_cases made : visit ∈ visited clock repository
  · simp only [made, true_and, if_true, settled]
    by_cases submitted : toSubmit zone visit.2 (transformToDto visit.1) = true
    · simp [submitted, not_expired_of_submitted submitted]
    · simp only [if_neg submitted]
  · simp only [made, false_and, if_false]

end StablecoinStudio.Backend.AutoSubmit
