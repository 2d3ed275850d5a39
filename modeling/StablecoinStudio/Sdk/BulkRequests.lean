import StablecoinStudio.Sdk.RequestedRights
import StablecoinStudio.Token.BulkRoles

/-!
# Requests for several roles and accounts

The request of the SDK for several roles and accounts, and the loops of the
contract that carry it out: when it goes through, and what it leaves.
-/

namespace StablecoinStudio.Sdk.BulkRequests

open StablecoinStudio.Core.Common
open StablecoinStudio.Core.Constants
open StablecoinStudio.Foundation.CheckedInt
open StablecoinStudio.Foundation.DecimalTexts
open StablecoinStudio.Foundation.Exceptions
open StablecoinStudio.Foundation.Runs
open StablecoinStudio.Sdk.FixedNumber
open StablecoinStudio.Sdk.RequestedRights
open StablecoinStudio.Sdk.RightRequests
open StablecoinStudio.Token.BulkRoles
open StablecoinStudio.Token.ProxyState
open StablecoinStudio.Token.ReferenceLedger
open StablecoinStudio.Token.RightChanges
open StablecoinStudio.Token.Roles
open StablecoinStudio.Token.Services
open StablecoinStudio.Token.SupplierAdmin
open StablecoinStudio.Token.SupplierRights
open StablecoinStudio.Token.System

set_option autoImplicit false

section Spec

variable {fixed world : Type} (connection : Connection fixed) (request : GrantMultiRolesRequest)

/-- No two ids of the request stand for one account. -/
def StandApart : Prop :=
  ∀ first ∈ request.targetsId, ∀ second ∈ request.targetsId,
    connection.answers.accountToEvmAddress first = connection.answers.accountToEvmAddress second →
      first = second

structure MayGrant (state : State world) (sender : Address) : Prop where
  admin : RolesStorage.hasRole state.roles adminRole sender = true
  nonzero : ∀ targetId ∈ request.targetsId,
    connection.answers.accountToEvmAddress targetId ≠ some 0
  /-- With the role of suppliers come amounts, and nobody without a limit is
  given one. -/
  amounts : CASHIN_ROLE ∈ request.roles → request.amounts ≠ none ∧
    ∀ entry ∈ request.targetsId.zip (request.amounts.getD []), amountOf entry.2 ≠ 0 →
      ∀ account, connection.answers.accountToEvmAddress entry.1 = some account →
        state.supplierAdmin.unlimitedSupplierAllowances account = false

structure GrantedAsRequested (before after : State world) : Prop where
  holders : ∀ role account, RolesStorage.hasRole after.roles role account = true ↔
    RolesStorage.hasRole before.roles role account = true ∨
      ((∃ text ∈ request.roles, roleWord text = some role) ∧
        ∃ targetId ∈ request.targetsId,
          connection.answers.accountToEvmAddress targetId = some account)
  rights : ∀ supplier, rightOf supplier after =
    run change (rightOf supplier before)
      (RightRequest.asks connection supplier (.grantMultiRoles request))
  others : after =
    { before with roles := after.roles, supplierAdmin := after.supplierAdmin }

end Spec

/-! ## The lists of the call -/

section Lists

variable {fixed world : Type} {ethers : FixedNumbers fixed} {connection : Connection fixed}
  {request : GrantMultiRolesRequest} {state : State world} {words : List Bytes32}
  {accounts : List Address} {amounts : List Uint256} {amount : Text} {account : Address}
  {word : Uint256}

theorem mem_words (lists : SentLists ethers connection request words accounts amounts)
    {role : Bytes32} :
    role ∈ words ↔ ∃ text ∈ request.roles, roleWord text = some role :=
  mem_of_mapM lists.roles

theorem accounts_distinct (lists : SentLists ethers connection request words accounts amounts)
    (apart : StandApart connection request) : accounts.Nodup := by
  apply nodup_of_mapM lists.targets lists.distinctTargets
  intro first member second memberSecond account answered answeredSecond
  exact apart first member second memberSecond (answered.trans answeredSecond.symm)

theorem nonzero_accounts_iff (lists : SentLists ethers connection request words accounts amounts) :
    (∀ account ∈ accounts, account ≠ 0) ↔ ∀ targetId ∈ request.targetsId,
      connection.answers.accountToEvmAddress targetId ≠ some 0 := by
  constructor
  · intro nonzero targetId listed answered
    exact nonzero 0 ((mem_of_mapM lists.targets).mpr ⟨targetId, listed, answered⟩) rfl
  · intro nonzero account listed isZero
    obtain ⟨targetId, member, answered⟩ := (mem_of_mapM lists.targets).mp listed
    rw [isZero] at answered
    exact nonzero targetId member answered

theorem same_length_iff (lists : SentLists ethers connection request words accounts amounts)
    (suppliers : CASHIN_ROLE ∈ request.roles) :
    accounts.length = amounts.length ↔ request.amounts ≠ none := by
  rw [length_of_mapM lists.targets, length_of_mapM lists.formatted]
  constructor
  · intro same none_
    rw [none_] at same
    exact lists.someTarget (List.length_eq_zero_iff.mp same)
  · intro given
    exact (lists.length suppliers given).symm

/-- A limit that is sent is refused for whoever has none. -/
theorem grantable_word (laws : StrictLaws ethers) {number : fixed}
    (read : amountOfCommand ethers connection amount = .ok number) (valid : 0 ≤ amountOf amount)
    (formatted : RoleOperations.formatAmount ethers number = some word) :
    Grantable state (.cashin account word) ↔
      (amountOf amount ≠ 0 → state.supplierAdmin.unlimitedSupplierAllowances account = false) := by
  rw [Grantable]
  rcases formatted_word laws read valid formatted with
    ⟨none_, largest⟩ | ⟨some_, notLargest, notZero, _⟩
  · simp [none_, largest, RoleManagementFacet.maxUint256]
  · simp [some_, notLargest, notZero]

theorem grantable_entries_iff (laws : StrictLaws ethers)
    (lists : SentLists ethers connection request words accounts amounts)
    (suppliers : CASHIN_ROLE ∈ request.roles) :
    (∀ entry ∈ accounts.zip amounts, Grantable state (.cashin entry.1 entry.2)) ↔
      ∀ entry ∈ request.targetsId.zip (request.amounts.getD []), amountOf entry.2 ≠ 0 →
        ∀ account, connection.answers.accountToEvmAddress entry.1 = some account →
          state.supplierAdmin.unlimitedSupplierAllowances account = false := by
  apply forall_zip_mapM lists.targets lists.formatted
  intro targetId _ amount given account word answered sentAs
  obtain ⟨number, read, formatted⟩ := Option.bind_eq_some_iff.mp sentAs
  rw [grantable_word laws (or_throw_ok.mpr read) (lists.nonneg suppliers amount given) formatted]
  simp [answered]

/-- What the contract asks of the lists is what is asked of the request. -/
theorem accepted_lists_iff (laws : StrictLaws ethers)
    (lists : SentLists ethers connection request words accounts amounts)
    (apart : StandApart connection request) {sender : Address} :
    (RolesStorage.hasRole state.roles adminRole sender = true ∧
      (∀ account ∈ accounts, account ≠ 0) ∧
      (cashinRole ∈ words → accounts.length = amounts.length) ∧
      Along granted Grantable state (grants words accounts amounts)) ↔
    MayGrant connection request state sender := by
  obtain ⟨distinct, cashin⟩ := role_words lists.roles lists.distinctRoles
  constructor
  · intro accepted
    obtain ⟨admin, nonzero, lengths, along⟩ := accepted
    refine ⟨admin, (nonzero_accounts_iff lists).mp nonzero, ?_⟩
    intro suppliers
    have each := (grants_accepted_iff distinct (accounts_distinct lists apart) lengths).mp along
    exact ⟨(same_length_iff lists suppliers).mp (lengths (cashin.mpr suppliers)),
      (grantable_entries_iff laws lists suppliers).mp (each (cashin.mpr suppliers))⟩
  · intro may
    have lengths : cashinRole ∈ words → accounts.length = amounts.length := fun listed =>
      (same_length_iff lists (cashin.mp listed)).mpr (may.amounts (cashin.mp listed)).1
    refine ⟨may.admin, (nonzero_accounts_iff lists).mpr may.nonzero, lengths, ?_⟩
    rw [grants_accepted_iff distinct (accounts_distinct lists apart) lengths]
    intro listed
    have suppliers := cashin.mp listed
    exact (grantable_entries_iff laws lists suppliers).mpr (may.amounts suppliers).2

end Lists

/-! ## When a request goes through -/

section Outcome

variable {fixed world : Type} {ethers : FixedNumbers fixed} {connection : Connection fixed}
  {request : GrantMultiRolesRequest} {call : Call} {words : List Bytes32}
  {accounts : List Address} {amounts : List Uint256} {p : Platform world} {state : State world}
  {msg : Msg}

theorem grants_succeed_iff :
    succeeds p state msg (.grantRoles words accounts amounts) = true ↔
      RolesStorage.hasRole state.roles adminRole msg.sender = true ∧
        (∀ account ∈ accounts, account ≠ 0) ∧
        (cashinRole ∈ words → accounts.length = amounts.length) ∧
        Along granted Grantable state (grants words accounts amounts) := by
  constructor
  · intro success
    obtain ⟨admin, nonzero, lengths, along, _⟩ := grant_roles_ok.mp (succeeds_iff.mp success)
    exact ⟨admin, nonzero, lengths, along⟩
  · intro accepted
    obtain ⟨admin, nonzero, lengths, along⟩ := accepted
    have done : (Call.grantRoles words accounts amounts).perform p msg state =
        .ok ((), run granted state (grants words accounts amounts)) :=
      grant_roles_ok.mpr ⟨admin, nonzero, lengths, along, rfl⟩
    unfold Token.System.succeeds
    rw [done]

end Outcome

/-! ## A request that goes through -/

/-- The cash-in role and the role to burn for 4 without a limit and for 5 up to
0.30. -/
def sampleRequest : GrantMultiRolesRequest where
  tokenId := "0.0.7".toList
  roles := [CASHIN_ROLE, roleText burnRole]
  targetsId := ["0.0.4".toList, "0.0.5".toList]
  amounts := some ["0".toList, "0.30".toList]

end StablecoinStudio.Sdk.BulkRequests
