import StablecoinStudio.Token.ReferenceLedger
import Mathlib.Algebra.Order.BigOperators.Group.Finset
import Mathlib.Algebra.Order.BigOperators.Group.List
import Mathlib.Data.FinEnum

/-!
# The books of the holds

Totals, sets of ids and records of the hold storage agree in every state that
hold operations reach, whatever the token service answers.
-/

namespace StablecoinStudio.Token.HoldBookkeeping

open StablecoinStudio.Core.Common
open StablecoinStudio.Foundation.CheckedInt
open StablecoinStudio.Foundation.EnumerableSets
open StablecoinStudio.Foundation.Runs
open StablecoinStudio.Foundation.Transaction
open StablecoinStudio.Token.HoldManagement
open StablecoinStudio.Token.ProxyState
open StablecoinStudio.Token.ReferenceLedger
open StablecoinStudio.Token.Services
open StablecoinStudio.Token.System

set_option autoImplicit false

/-! ## The books of one account -/

def amountOf (records : Uint256 → HoldData) (holdId : Uint256) : Int :=
  (records holdId).amount.toInt

@[simp] theorem amount_of_update_self {records : Uint256 → HoldData} {holdId : Uint256}
    {record : HoldData} :
    amountOf (Function.update records holdId record) holdId = record.amount.toInt := by
  simp [amountOf]

theorem amount_of_update (records : Uint256 → HoldData) (holdId : Uint256) (record : HoldData) :
    ∀ other, other ≠ holdId →
      amountOf (Function.update records holdId record) other = amountOf records other := by
  intro other different
  simp [amountOf, different]

/-- The total, the set of ids, the records and the counter of one holder agree. -/
structure AccountBooks (ids : EnumerableSet Uint256) (records : Uint256 → HoldData)
    (total : Sint64) (lastId : Uint256) : Prop where
  sum : total.toInt = (ids.values.map (amountOf records)).sum
  listed : ∀ holdId, holdId ∈ ids ↔ (records holdId).id = holdId ∧ 0 < amountOf records holdId
  numbered : ∀ holdId, holdId ∈ ids → 1 ≤ holdId.toNat ∧ holdId.toNat ≤ lastId.toNat

section Account

variable {ids : EnumerableSet Uint256} {records : Uint256 → HoldData} {total : Sint64}
  {lastId holdId : Uint256}

theorem empty_account_books : AccountBooks ∅ (fun _ => HoldData.zero) 0 lastId where
  sum := by simp
  listed := by
    intro holdId
    simp [HoldData.zero, amountOf]
  numbered := by
    intro holdId member
    simp at member

theorem AccountBooks.next_not_listed (books : AccountBooks ids records total lastId)
    (next : holdId.toNat = lastId.toNat + 1) : holdId ∉ ids := by
  intro member
  have bound := (books.numbered holdId member).2
  omega

theorem AccountBooks.register (books : AccountBooks ids records total lastId)
    (record : HoldData) {later : Sint64} (next : holdId.toNat = lastId.toNat + 1)
    (named : record.id = holdId) (positive : 0 < record.amount.toInt)
    (added : later.toInt = total.toInt + record.amount.toInt) :
    AccountBooks (ids.add holdId).2 (Function.update records holdId record) later holdId := by
  have absent := books.next_not_listed next
  refine ⟨?_, ?_, ?_⟩
  · have change := EnumerableSet.sum_add absent (amount_of_update records holdId record)
    rw [amount_of_update_self, ← books.sum] at change
    rw [added, change]
  · intro other
    rw [EnumerableSet.mem_add]
    by_cases same : other = holdId
    · subst same
      simp [named, positive]
    · simp [same, books.listed other, amount_of_update _ _ _ _ same]
  · intro other member
    rcases EnumerableSet.mem_add.mp member with rfl | earlier
    · omega
    · have bounds := books.numbered other earlier
      omega

theorem AccountBooks.lower (books : AccountBooks ids records total lastId)
    {remaining later : Sint64} (member : holdId ∈ ids) (positive : 0 < remaining.toInt)
    (lowered : later.toInt + amountOf records holdId = total.toInt + remaining.toInt) :
    AccountBooks ids
      (Function.update records holdId ((records holdId).withAmount remaining)) later lastId := by
  refine ⟨?_, ?_, books.numbered⟩
  · have change := EnumerableSet.sum_change member
      (amount_of_update records holdId ((records holdId).withAmount remaining))
    rw [amount_of_update_self, ← books.sum] at change
    rw [HoldData.with_amount_amount] at change
    omega
  · intro other
    by_cases same : other = holdId
    · subst same
      have named := ((books.listed other).mp member).1
      simp [member, named, positive]
    · simp [same, books.listed other, amount_of_update _ _ _ _ same]

theorem AccountBooks.close (books : AccountBooks ids records total lastId) {later : Sint64}
    (member : holdId ∈ ids)
    (lowered : later.toInt + amountOf records holdId = total.toInt) :
    AccountBooks (ids.remove holdId).2 (Function.update records holdId HoldData.zero) later
      lastId := by
  refine ⟨?_, ?_, ?_⟩
  · have change := EnumerableSet.sum_remove member
      (amount_of_update records holdId HoldData.zero)
    rw [← books.sum] at change
    omega
  · intro other
    rw [EnumerableSet.mem_remove]
    by_cases same : other = holdId
    · subst same
      simp [HoldData.zero]
    · simp [same, books.listed other, amount_of_update _ _ _ _ same]
  · intro other listed
    exact books.numbered other (EnumerableSet.mem_remove.mp listed).1

end Account

/-! ## The books of all accounts -/

def accountBooks (storage : HoldDataStorage) (account : Address) : Prop :=
  AccountBooks (storage.holdIdsByAccount account) (storage.holdsByAccountAndId account)
    (storage.totalHeldAmountByAccount account) (storage.nextHoldIdByAccount account)

structure Bookkeeping (storage : HoldDataStorage) : Prop where
  total : storage.totalHeldAmount.toInt =
    ∑ account, (storage.totalHeldAmountByAccount account).toInt
  accounts : ∀ account, accountBooks storage account

section Storage

variable {environment : Msg} {storage after : HoldDataStorage} {tokenHolder : Address}
  {holdId : Uint256}

theorem empty_bookkeeping : Bookkeeping HoldDataStorage.empty where
  total := by simp [HoldDataStorage.empty]
  accounts := fun _ => empty_account_books

theorem Bookkeeping.change (books : Bookkeeping storage) (tokenHolder : Address) (amount : Int)
    (changed : accountBooks after tokenHolder)
    (others : ∀ account, account ≠ tokenHolder →
      accountBooks storage account → accountBooks after account)
    (sameTotals : ∀ account, account ≠ tokenHolder →
      after.totalHeldAmountByAccount account = storage.totalHeldAmountByAccount account)
    (total : after.totalHeldAmount.toInt = storage.totalHeldAmount.toInt + amount)
    (accountTotal : (after.totalHeldAmountByAccount tokenHolder).toInt =
      (storage.totalHeldAmountByAccount tokenHolder).toInt + amount) : Bookkeeping after := by
  refine ⟨?_, ?_⟩
  · have pointwise : ∀ account, account ≠ tokenHolder →
        (fun account => (after.totalHeldAmountByAccount account).toInt) account =
          (fun account => (storage.totalHeldAmountByAccount account).toInt) account := by
      intro account different
      simp only [sameTotals account different]
    have sums := sum_univ_change pointwise
    simp only [accountTotal] at sums
    rw [total, books.total]
    omega
  · intro account
    by_cases same : account = tokenHolder
    · rw [same]
      exact changed
    · exact others account same (books.accounts account)

theorem AccountBooks.amount_le {ids : EnumerableSet Uint256} {records : Uint256 → HoldData}
    {total : Sint64} {lastId : Uint256} (books : AccountBooks ids records total lastId) :
    (∀ holdId ∈ ids, amountOf records holdId ≤ total.toInt) ∧ 0 ≤ total.toInt := by
  have positive : ∀ amount ∈ ids.values.map (amountOf records), 0 ≤ amount := by
    intro amount member
    obtain ⟨holdId, listed, rfl⟩ := List.mem_map.mp member
    have bound := ((books.listed holdId).mp listed).2
    omega
  rw [books.sum]
  refine ⟨?_, List.sum_nonneg positive⟩
  intro holdId listed
  exact List.single_le_sum positive _ (List.mem_map_of_mem listed)

/-- No account holds more than the total, and no hold more than its account. -/
theorem Bookkeeping.amount_le_total (books : Bookkeeping storage)
    (live : holdId ∈ storage.holdIdsByAccount tokenHolder) :
    (storage.holdsByAccountAndId tokenHolder holdId).amount.toInt ≤
        (storage.totalHeldAmountByAccount tokenHolder).toInt ∧
      (storage.totalHeldAmountByAccount tokenHolder).toInt ≤ storage.totalHeldAmount.toInt := by
  refine ⟨(books.accounts tokenHolder).amount_le.1 holdId live, ?_⟩
  rw [books.total]
  exact Finset.single_le_sum (fun account _ => (books.accounts account).amount_le.2)
    (Finset.mem_univ tokenHolder)

theorem Bookkeeping.decrease_possible (books : Bookkeeping storage) (environment : Msg)
    {amount : Sint64} (live : holdId ∈ storage.holdIdsByAccount tokenHolder)
    (positive : 0 ≤ amount.toInt)
    (within : amount.toInt ≤ (storage.holdsByAccountAndId tokenHolder holdId).amount.toInt) :
    ∃ after, decreaseHoldAmount tokenHolder holdId amount environment storage =
      .ok ((), after) := by
  obtain ⟨inAccount, inTotal⟩ := books.amount_le_total live
  have lowered : ∀ larger : Sint64, amount.toInt ≤ larger.toInt →
      ∃ result : Sint64, result.toInt = larger.toInt - amount.toInt := by
    intro larger covered
    have upper := larger.upper
    have found : ∃ result : Sint64,
        Sint.checked (larger.toInt - amount.toInt) = some result ∧
          result.toInt = larger.toInt - amount.toInt :=
      Sint.checked_of_in_range (by omega) (by omega)
    obtain ⟨result, _, value⟩ := found
    exact ⟨result, value⟩
  obtain ⟨remaining, rest⟩ := lowered _ within
  obtain ⟨accountTotal, accountSum⟩ := lowered _ (within.trans inAccount)
  obtain ⟨total, sum⟩ := lowered _ ((within.trans inAccount).trans inTotal)
  exact ⟨_, decrease_hold_amount_ok.mpr
    ⟨remaining, total, accountTotal, rest, sum, accountSum, fun _ => live, rfl⟩⟩

theorem Bookkeeping.register (books : Bookkeeping storage) {hold : Hold} {operatorData : Bytes}
    (next : holdId.toNat = (storage.nextHoldIdByAccount tokenHolder).toNat + 1)
    (positive : 0 < hold.amount.toInt)
    (registered : registerHold tokenHolder holdId hold operatorData environment
      (HoldDataStorage.setNextHoldId storage tokenHolder holdId) = .ok ((), after)) :
    Bookkeeping after := by
  obtain ⟨_, total, accountTotal, sum, accountSum, rfl⟩ := register_hold_ok.mp registered
  apply books.change tokenHolder hold.amount.toInt
  · have added := (books.accounts tokenHolder).register
      (Hold.toHoldData hold holdId operatorData) next rfl positive accountSum
    simpa [accountBooks, HoldDataStorage.setTotals, HoldDataStorage.setHoldIds,
      HoldDataStorage.setHold, HoldDataStorage.setNextHoldId] using added
  · intro account different kept
    simpa [accountBooks, HoldDataStorage.setTotals, HoldDataStorage.setHoldIds,
      HoldDataStorage.setHold, HoldDataStorage.setNextHoldId, different] using kept
  · intro account different
    simp [HoldDataStorage.setTotals, HoldDataStorage.setHoldIds,
      HoldDataStorage.setHold, HoldDataStorage.setNextHoldId, different]
  · simpa [HoldDataStorage.setTotals, HoldDataStorage.setNextHoldId] using sum
  · simpa [HoldDataStorage.setTotals, HoldDataStorage.setNextHoldId] using accountSum

theorem Bookkeeping.decrease (books : Bookkeeping storage) {amount : Sint64}
    (live : holdId ∈ storage.holdIdsByAccount tokenHolder)
    (within : amount.toInt ≤ (storage.holdsByAccountAndId tokenHolder holdId).amount.toInt)
    (decreased : decreaseHoldAmount tokenHolder holdId amount environment storage =
      .ok ((), after)) : Bookkeeping after := by
  obtain ⟨remaining, total, accountTotal, rest, sum, accountSum, _, rfl⟩ :=
    decrease_hold_amount_ok.mp decreased
  have account := books.accounts tokenHolder
  have value : amountOf (storage.holdsByAccountAndId tokenHolder) holdId =
      (storage.holdsByAccountAndId tokenHolder holdId).amount.toInt := rfl
  unfold afterDecrease
  by_cases empty : remaining = 0
  · have nothing : remaining.toInt = 0 := by rw [empty]; rfl
    simp only [empty, if_true]
    apply books.change tokenHolder (-amount.toInt)
    · have closed : AccountBooks _ _ accountTotal _ := account.close live (by omega)
      simpa [accountBooks, HoldDataStorage.setTotals, HoldDataStorage.setHoldIds,
        HoldDataStorage.setHold] using closed
    · intro other different kept
      simpa [accountBooks, HoldDataStorage.setTotals, HoldDataStorage.setHoldIds,
        HoldDataStorage.setHold, different] using kept
    · intro other different
      simp [HoldDataStorage.setTotals, HoldDataStorage.setHoldIds, HoldDataStorage.setHold,
        different]
    · simpa [HoldDataStorage.setTotals, HoldDataStorage.setHoldIds, HoldDataStorage.setHold,
        Int.sub_eq_add_neg] using sum
    · simpa [HoldDataStorage.setTotals, HoldDataStorage.setHoldIds, HoldDataStorage.setHold,
        Int.sub_eq_add_neg] using accountSum
  · have positive : 0 < remaining.toInt := by
      have different : remaining.toInt ≠ 0 := fun zero => empty (Sint.ext zero)
      omega
    simp only [empty, if_false]
    apply books.change tokenHolder (-amount.toInt)
    · have lowered : AccountBooks _ _ accountTotal _ := account.lower live positive (by omega)
      simpa [accountBooks, HoldDataStorage.setTotals, HoldDataStorage.setHold] using lowered
    · intro other different kept
      simpa [accountBooks, HoldDataStorage.setTotals, HoldDataStorage.setHold, different] using kept
    · intro other different
      simp [HoldDataStorage.setTotals, HoldDataStorage.setHold, different]
    · simpa [HoldDataStorage.setTotals, HoldDataStorage.setHold, Int.sub_eq_add_neg] using sum
    · simpa [HoldDataStorage.setTotals, HoldDataStorage.setHold, Int.sub_eq_add_neg] using
        accountSum

end Storage

/-! ## The books along a run -/

section Runs

variable {world : Type} {p : Platform world} {msg : Msg} {before after : State world}

/-- A committed call changed the books as one of the hold operations does. -/
theorem bookkeeping_call {called : Call} (books : Bookkeeping before.holds)
    (control : called.keepsControl p msg) (effect : Effect p msg before after called) :
    Bookkeeping after.holds := by
  cases effect with
  | view _ same => rw [same]; exact books
  | mint done => rw [done.frame]; exact books
  | burn done => rw [done.frame]; exact books
  | wipe done => rw [done.frame]; exact books
  | rescue done => rw [done.frame]; exact books
  | rescueHBAR done => rw [done.frame (control.2 rfl)]; exact books
  | administration _ _ _ _ frame => rw [frame]; exact books
  | permission _ _ frame => rw [frame]; exact books
  | reserve _ _ frame => rw [frame]; exact books
  | createHold done => exact books.register done.next done.positive done.registered
  | createHoldByController _ done => exact books.register done.next done.positive done.registered
  | executeHold _ _ _ _ done => exact books.decrease done.live done.within done.decreased
  | releaseHold _ _ done => exact books.decrease done.live done.within done.decreased
  | reclaimHold _ done => exact books.decrease done.live done.within done.decreased
  | configuration _ _ frame => rw [frame]; exact books
  | initialization _ => exact (control.1 rfl).elim

theorem bookkeeping_next (state : State world) (label : Label world)
    (books : Bookkeeping state.holds) (control : KeepsControl p state label) :
    Bookkeeping (next p state label).holds := by
  cases label with
  | outside later => exact books
  | call msg called =>
      rcases next_cases p state msg called with committed | same
      · exact bookkeeping_call books control (effect_of_committed committed)
      · rw [same]
        exact books

theorem bookkeeping_run {start : State world} {labels : List (Label world)}
    (fresh : start.holds = HoldDataStorage.empty)
    (control : Along (next p) (KeepsControl p) start labels) :
    Bookkeeping (run (next p) start labels).holds := by
  have initial : Bookkeeping start.holds := by
    rw [fresh]
    exact empty_bookkeeping
  exact invariant_of_steps (next p) bookkeeping_next initial control

/-- No `assert` of the hold operations fails on a state whose books agree. -/
theorem hold_call_assertion {called : Call} (books : Bookkeeping before.holds)
    (kind : called.kind = .hold) :
    called.perform p msg before ≠ .error (.panic .assertion) := by
  have creation : ∀ tokenHolder hold operatorData,
      createHoldInternal p tokenHolder hold operatorData msg before ≠
        .error (.panic .assertion) := by
    intro tokenHolder hold operatorData raised
    obtain ⟨holdId, next, listed⟩ := create_hold_internal_assertion raised
    exact (books.accounts tokenHolder).next_not_listed next listed
  intro failed
  cases called with
  | createHold hold => exact creation _ _ _ (create_hold_assertion (discard_error.mp failed))
  | createHoldByController holder hold operatorData =>
      exact creation _ _ _ (create_hold_by_controller_assertion (discard_error.mp failed))
  | executeHold identifier recipient amount =>
      exact execute_hold_assertion (discard_error.mp failed)
  | releaseHold identifier amount => exact release_hold_assertion (discard_error.mp failed)
  | reclaimHold identifier => exact reclaim_hold_assertion (discard_error.mp failed)
  | _ => cases kind

/-- Totals, sets and records agree, and no assertion of a hold operation fails. -/
structure BooksAgree (p : Platform world) (state : State world) : Prop where
  total : state.holds.totalHeldAmount.toInt =
    ∑ account, (state.holds.totalHeldAmountByAccount account).toInt
  accountTotal : ∀ account, (state.holds.totalHeldAmountByAccount account).toInt =
    ((state.holds.holdIdsByAccount account).values.map fun holdId =>
      (state.holds.holdsByAccountAndId account holdId).amount.toInt).sum
  listed : ∀ account holdId, holdId ∈ state.holds.holdIdsByAccount account ↔
    (state.holds.holdsByAccountAndId account holdId).id = holdId ∧
      0 < (state.holds.holdsByAccountAndId account holdId).amount.toInt
  numbered : ∀ account, ∀ holdId ∈ state.holds.holdIdsByAccount account,
    1 ≤ holdId.toNat ∧ holdId.toNat ≤ (state.holds.nextHoldIdByAccount account).toNat
  distinct : ∀ account, (state.holds.holdIdsByAccount account).values.Nodup
  assertions : ∀ (msg : Msg) (called : Call), called.kind = .hold →
    called.perform p msg state ≠ .error (.panic .assertion)

/-- Whatever the token service answers and whatever amounts are passed. -/
theorem books_agree_along_runs (p : Platform world) (start : State world)
    (labels : List (Label world)) (fresh : start.holds = HoldDataStorage.empty)
    (control : Along (next p) (KeepsControl p) start labels) :
    BooksAgree p (run (next p) start labels) := by
  have books : Bookkeeping (run (next p) start labels).holds := bookkeeping_run fresh control
  exact {
    total := books.total
    accountTotal := fun account => (books.accounts account).sum
    listed := fun account => (books.accounts account).listed
    numbered := fun account => (books.accounts account).numbered
    distinct := fun account => (_ : EnumerableSet Uint256).nodup
    assertions := fun _ _ kind => hold_call_assertion books kind
  }

def sampleRun : List (Label Ledger) :=
  [.call (sampleMsg 2 1) (.createHold (sampleHold 10)),
    .call (sampleMsg 3 2) (.executeHold ⟨2, units256 1⟩ 4 (units64 4)),
    .call (sampleMsg 3 3) (.executeHold ⟨2, units256 1⟩ 4 (units64 6))]

theorem books_agree_on_sample_run :
    BooksAgree (reference 1)
      (run (next (reference 1)) (deployed RolesStorage.empty (holderLedger 100)) sampleRun) :=
  books_agree_along_runs _ _ _ rfl
    (by simp [sampleRun, Along, KeepsControl, Call.keepsControl, Call.kind])

end Runs

end StablecoinStudio.Token.HoldBookkeeping
