import StablecoinStudio.Backend.TransactionService
import StablecoinStudio.Foundation.Pages

/-!
# Listing and deleting

The rest of `transaction.service.ts` that requests reach, and the listing of
`transaction.controller.ts`. A client that asks for one page after the other
gets every accepted transaction once, in the order of the table; with a limit of
0 every page has all of them.
-/

namespace StablecoinStudio.Backend.Requests

open StablecoinStudio.Backend.TransactionService
open StablecoinStudio.Backend.Utils
open StablecoinStudio.Foundation.KeyedTables
open StablecoinStudio.Foundation.Pages
open StablecoinStudio.Foundation.Transaction

set_option autoImplicit false

/-- `delete`: the row is looked up before it is deleted. -/
def delete (transactionId : Option Uuid) : ServiceTx Unit := do
  let transaction ← findOne notFound transactionId
  Tx.modify fun repository => repository.remove transaction.id

/-- `getById`, which refuses an id that is no uuid like one that it does not find. -/
def getById (transactionId : Option Uuid) : ServiceTx GetTransactionsResponseDto := do
  let transaction ← findOne notFound transactionId
  return transformToDto transaction

/-- The limit of a listing: 10 for a missing one, and never above 100. -/
def clampedLimit (limit : Option Int) : Int :=
  if limit.getD 10 > 100 then 100 else limit.getD 10

/-- `getTransactions`: a missing page is the first one. -/
def getTransactions (publicKey status network hederaAccountId : Option String)
    (page limit : Option Int) (repository : Repository) : Except Failure Pagination :=
  let page := page.getD 1
  if page < 1 then .error (.error "Page must be greater than 0")
  else
    getAll publicKey status network hederaAccountId page.toNat (clampedLimit limit) repository

def filtersOf (publicKey status network hederaAccountId : Option String) :
    Except Failure Filters := do
  let network ← chosenValue Network.all String.toLower "network" network
  let status ← chosenValue TransactionStatus.all String.toUpper "status" status
  return {
    publicKey := chosen publicKey
    status := status
    network := network
    hederaAccountId := chosen hederaAccountId
  }

variable {packages : Packages} {before after : Repository}
  {publicKey status network hederaAccountId : Option String} {filters : Filters}
  {repository : Repository} {limit : Option Int} {page : Nat}

theorem delete_ok {transactionId : Option Uuid} :
    delete transactionId packages before = .ok ((), after) ↔
      ∃ id found, transactionId = some id ∧ before.find id = some found ∧
        after = before.remove id := by
  simp only [delete, Tx.bind_ok, find_one_ok, Tx.modify_ok]
  constructor
  · intro committed
    obtain ⟨found, _, ⟨id, named, present, rfl⟩, rfl⟩ := committed
    have same : found.id = id := (KeyedTable.find_some.mp present).2
    exact ⟨id, found, named, present, by rw [same]⟩
  · intro described
    obtain ⟨id, found, named, present, rfl⟩ := described
    have same : found.id = id := (KeyedTable.find_some.mp present).2
    exact ⟨found, before, ⟨id, named, present, rfl⟩, by rw [same]⟩

theorem get_by_id_ok {transactionId : Option Uuid} {shown : GetTransactionsResponseDto} :
    getById transactionId packages before = .ok (shown, after) ↔
      ∃ id found, transactionId = some id ∧ before.find id = some found ∧
        shown = transformToDto found ∧ after = before := by
  simp only [getById, Tx.bind_ok, find_one_ok, Tx.pure_ok]
  constructor
  · intro committed
    obtain ⟨found, _, ⟨id, named, present, rfl⟩, rfl, rfl⟩ := committed
    exact ⟨id, found, named, present, rfl, rfl⟩
  · intro described
    obtain ⟨id, found, named, present, rfl, same⟩ := described
    exact ⟨found, before, ⟨id, named, present, rfl⟩, rfl, same.symm⟩

theorem get_all_of_filters {given : Int}
    (chose : filtersOf publicKey status network hederaAccountId = .ok filters) :
    getAll publicKey status network hederaAccountId page given repository =
      .ok (filters.listed page (resolvedLimit given) repository) := by
  unfold filtersOf at chose
  unfold getAll
  cases networkChosen : chosenValue Network.all String.toLower "network" network with
  | error failure =>
      rw [networkChosen] at chose
      cases chose
  | ok networkValue =>
      cases statusChosen : chosenValue TransactionStatus.all String.toUpper "status" status with
      | error failure =>
          rw [networkChosen, statusChosen] at chose
          cases chose
      | ok statusValue =>
          rw [networkChosen, statusChosen] at chose
          cases chose
          rfl

def accepted (filters : Filters) (repository : Repository) : List GetTransactionsResponseDto :=
  (repository.rows.filter filters.accept).map transformToDto

theorem listed_eq {size : Nat} (positive : 0 < size) :
    filters.listed (page + 1) size repository =
      ⟨StablecoinStudio.Foundation.Pages.page (accepted filters repository) page size,
        some (pageCount (accepted filters repository).length size)⟩ := by
  have length : (accepted filters repository).length =
      (repository.rows.filter filters.accept).length := List.length_map ..
  have count : ((repository.rows.filter filters.accept).length + size - 1) / size =
      pageCount (repository.rows.filter filters.accept).length size :=
    (Nat.ceilDiv_eq_add_pred_div ..).symm
  rw [Filters.listed, if_neg (Nat.ne_of_gt positive), length, ← count,
    StablecoinStudio.Foundation.Pages.page, accepted, ← List.map_drop, ← List.map_take]
  rfl

theorem ids_distinct (filters : Filters) (repository : Repository) :
    ((accepted filters repository).map (·.id)).Nodup := by
  rw [accepted, List.map_map]
  exact repository.distinct.sublist (List.filter_sublist.map _)

def pageSize (limit : Option Int) : Nat := resolvedLimit (clampedLimit limit)

theorem page_size_bounds (limit : Option Int) :
    pageSize limit ≤ 100 ∧ (pageSize limit = 0 ↔ limit = some 0) ∧
      ∀ given, limit = some given → 0 ≤ given → (pageSize limit : Int) ≤ given := by
  cases limit with
  | none => decide
  | some given =>
      simp only [pageSize, clampedLimit, resolvedLimit, Option.getD_some, Option.some.injEq,
        forall_eq']
      split <;> split <;> omega

def pageOf (filters : Filters) (limit : Option Int) (page : Nat) (repository : Repository) :
    List GetTransactionsResponseDto :=
  StablecoinStudio.Foundation.Pages.page (accepted filters repository) page (pageSize limit)

theorem listing_of_page (chose : filtersOf publicKey status network hederaAccountId = .ok filters) :
    getTransactions publicKey status network hederaAccountId (some (page + 1 : Nat)) limit
      repository = .ok (filters.listed (page + 1) (pageSize limit) repository) := by
  have first : ¬ ((page + 1 : Nat) : Int) < 1 := by omega
  rw [getTransactions, Option.getD_some]
  simp only [if_neg first, Int.toNat_natCast]
  exact get_all_of_filters chose

/-- For every table and filters. With a limit of 0 every page is the whole list
of the accepted transactions, and no number of pages is announced. With every
other limit, or none: whoever asks for all pages that the first answer announces
gets every accepted transaction once and in order; no page holds more than 100 or
than a positive limit, and there is nothing behind the last. -/
theorem pages_list_accepted_once (repository : Repository)
    (publicKey status network hederaAccountId : Option String) (filters : Filters)
    (limit : Option Int)
    (chose : filtersOf publicKey status network hederaAccountId = .ok filters) :
    ((accepted filters repository).map (·.id)).Nodup ∧
      (limit = some 0 → ∀ page : Nat,
        getTransactions publicKey status network hederaAccountId (some (page + 1 : Nat)) limit
            repository = .ok ⟨accepted filters repository, none⟩) ∧
      (limit ≠ some 0 → ∃ totalPages,
        (∀ page : Nat,
          getTransactions publicKey status network hederaAccountId (some (page + 1 : Nat)) limit
              repository = .ok ⟨pageOf filters limit page repository, some totalPages⟩ ∧
          (pageOf filters limit page repository).length ≤ 100 ∧
          (∀ given, limit = some given → 0 < given →
            ((pageOf filters limit page repository).length : Int) ≤ given) ∧
          (totalPages ≤ page → pageOf filters limit page repository = [])) ∧
        (List.range totalPages).flatMap (fun page => pageOf filters limit page repository) =
          accepted filters repository) := by
  obtain ⟨small, zero, below⟩ := page_size_bounds limit
  refine ⟨ids_distinct filters repository, ?_, ?_⟩
  · intro unlimited page
    rw [listing_of_page chose, Filters.listed, if_pos (zero.mpr unlimited)]
    rfl
  · intro limited
    have positive : 0 < pageSize limit := Nat.pos_of_ne_zero fun empty => limited (zero.mp empty)
    refine ⟨pageCount (accepted filters repository).length (pageSize limit), ?_,
      pages_cover (accepted filters repository) positive⟩
    intro page
    have size : (pageOf filters limit page repository).length ≤ pageSize limit := by
      rw [pageOf, length_page]
      exact Nat.min_le_left ..
    refine ⟨?_, size.trans small, ?_, ?_⟩
    · rw [listing_of_page chose, listed_eq positive]
      rfl
    · intro given isGiven above
      exact (Int.ofNat_le.mpr size).trans (below given isGiven (Int.le_of_lt above))
    · intro past
      apply page_past_end
      calc
        (accepted filters repository).length ≤
            pageCount (accepted filters repository).length (pageSize limit) * pageSize limit :=
          page_count_covers _ positive
        _ ≤ page * pageSize limit := Nat.mul_le_mul_right _ past

/-- Three transactions, two of them for the first key. -/
def sampleTable : Repository where
  rows := [created (sampleRequest [firstKey] 1) 1, created (sampleRequest [secondKey] 1) 2,
    created (sampleRequest [firstKey, secondKey] 2) 3]
  distinct := by decide

theorem sample_pages_listed :
    ((accepted { publicKey := some firstKey } sampleTable).map (·.id)).Nodup ∧
      (some (1 : Int) = some 0 → ∀ page : Nat,
        getTransactions (some firstKey) none none none (some (page + 1 : Nat)) (some 1)
            sampleTable = .ok ⟨accepted { publicKey := some firstKey } sampleTable, none⟩) ∧
      (some (1 : Int) ≠ some 0 → ∃ totalPages,
        (∀ page : Nat,
          getTransactions (some firstKey) none none none (some (page + 1 : Nat)) (some 1)
              sampleTable =
            .ok ⟨pageOf { publicKey := some firstKey } (some 1) page sampleTable,
              some totalPages⟩ ∧
          (pageOf { publicKey := some firstKey } (some 1) page sampleTable).length ≤ 100 ∧
          (∀ given, some (1 : Int) = some given → 0 < given →
            ((pageOf { publicKey := some firstKey } (some 1) page sampleTable).length : Int) ≤
              given) ∧
          (totalPages ≤ page →
            pageOf { publicKey := some firstKey } (some 1) page sampleTable = [])) ∧
        (List.range totalPages).flatMap
            (fun page => pageOf { publicKey := some firstKey } (some 1) page sampleTable) =
          accepted { publicKey := some firstKey } sampleTable) :=
  pages_list_accepted_once sampleTable (some firstKey) none none none
    { publicKey := some firstKey } (some 1) rfl

end StablecoinStudio.Backend.Requests
