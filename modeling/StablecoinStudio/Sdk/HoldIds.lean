import StablecoinStudio.Sdk.HoldAgreement
import StablecoinStudio.Token.HoldPages

/-!
# Ids on the first page

Whether an id is that of a live hold is told from the first hundred ids of the
holder, as numbers. The contract asks the whole set.
-/

namespace StablecoinStudio.Sdk.HoldIds

open StablecoinStudio.Core.Common
open StablecoinStudio.Foundation.CheckedInt
open StablecoinStudio.Foundation.EnumerableSets
open StablecoinStudio.Foundation.FloatIntegers
open StablecoinStudio.Foundation.Pages
open StablecoinStudio.Sdk.FixedNumber
open StablecoinStudio.Sdk.HoldAgreement
open StablecoinStudio.Sdk.HoldChecks
open StablecoinStudio.Sdk.StableCoins
open StablecoinStudio.Token
open StablecoinStudio.Token.ProxyState
open StablecoinStudio.Token.ReferenceLedger

set_option autoImplicit false

def firstPage : Nat := 100

section Check

variable {fixed world : Type} (msg : Msg) (state : State world) (request : Request fixed)
  (tokenHolder : Address)

def ValidHold : Prop :=
  ∃ holdId : Uint256, holdId.toNat = request.holdId ∧
    HoldManagement.validHold ⟨tokenHolder, holdId⟩ msg state = .ok ((), state)

def CheckAgrees : Prop :=
  checkValidHoldId msg state request = .ok () ↔ ValidHold msg state request tokenHolder

/-- A live id behind the first page, and no id of the page reads as it. -/
structure Overlooked : Prop where
  behind : ∃ id ∈ (state.holds.holdIdsByAccount tokenHolder).values.drop firstPage,
    id.toNat = request.holdId
  unread : ∀ id ∈ (state.holds.holdIdsByAccount tokenHolder).values.take firstPage,
    nearest numberBits id.toNat ≠ request.holdId

/-- No live id, but one of the first page is rounded to it. -/
structure Confused : Prop where
  missing : ∀ id ∈ state.holds.holdIdsByAccount tokenHolder, id.toNat ≠ request.holdId
  read : ∃ id ∈ (state.holds.holdIdsByAccount tokenHolder).values.take firstPage,
    nearest numberBits id.toNat = request.holdId

/-- The coin is run by a proxy, the holder has an address, and the id is a
number. -/
structure Asked : Prop where
  proxy : request.coin.evmProxyAddress ≠ none
  holder : request.accountToEvmAddress request.sourceId = some tokenHolder
  isNumber : nearest numberBits request.holdId = request.holdId

variable {msg state request tokenHolder}

theorem valid_hold_iff : ValidHold msg state request tokenHolder ↔
    ∃ id ∈ state.holds.holdIdsByAccount tokenHolder, id.toNat = request.holdId := by
  constructor
  · intro valid
    obtain ⟨holdId, same, guard⟩ := valid
    exact ⟨holdId, (HoldManagement.valid_hold_ok.mp guard).1, same⟩
  · intro listed
    obtain ⟨holdId, live, same⟩ := listed
    exact ⟨holdId, same, HoldManagement.valid_hold_ok.mpr ⟨live, rfl⟩⟩

theorem first_page_given :
    HoldManagement.getHoldsIdFor tokenHolder 0 ⟨firstPage, by decide⟩ msg state =
      .ok ((state.holds.holdIdsByAccount tokenHolder).values.take firstPage, state) := by
  have fits : (0 : Uint256).toNat * firstPage + firstPage < 2 ^ 256 := by decide
  have given := HoldPages.get_holds_id_for msg state tokenHolder 0 ⟨firstPage, by decide⟩ fits
  rw [HoldPages.view_without_loop, Uint.to_nat_zero, Nat.zero_mul, if_pos (Nat.zero_le _)] at given
  rw [given, page, Nat.zero_mul, List.drop_zero]

theorem check_valid_hold_id_ok (asked : Asked request tokenHolder) :
    checkValidHoldId msg state request = .ok () ↔
      ∃ id ∈ (state.holds.holdIdsByAccount tokenHolder).values.take firstPage,
        nearest numberBits id.toNat = request.holdId := by
  have proxy : checkProxy request = .ok () := refuse_when_ok.mpr asked.proxy
  have holder : HoldChecks.accountToEvmAddress request request.sourceId = .ok tokenHolder := by
    rw [HoldChecks.accountToEvmAddress, asked.holder]
  have ids : HoldChecks.getHoldsIdFor msg state request =
      .ok (((state.holds.holdIdsByAccount tokenHolder).values.take firstPage).map
        fun id => nearest numberBits id.toNat) := by
    have given : HoldManagement.getHoldsIdFor tokenHolder 0 ⟨100, by decide⟩ msg state = _ :=
      first_page_given
    rw [HoldChecks.getHoldsIdFor, proxy, holder]
    dsimp only [bind, Except.bind]
    rw [given]
    rfl
  rw [checkValidHoldId, ids]
  change refuseWhen _ _ = .ok () ↔ _
  rw [refuse_when_ok, not_not, List.mem_map]

/-- The check and the guard come apart in two ways. -/
theorem check_agrees_iff (asked : Asked request tokenHolder) :
    CheckAgrees msg state request tokenHolder ↔
      ¬Overlooked state request tokenHolder ∧ ¬Confused state request tokenHolder := by
  rw [CheckAgrees, check_valid_hold_id_ok asked, valid_hold_iff]
  constructor
  · intro agrees
    constructor
    · intro overlooked
      obtain ⟨id, behind, same⟩ := overlooked.behind
      obtain ⟨other, first, read⟩ := agrees.mpr ⟨id, List.mem_of_mem_drop behind, same⟩
      exact overlooked.unread other first read
    · intro confused
      obtain ⟨id, live, same⟩ := agrees.mp confused.read
      exact confused.missing id live same
  · intro apart
    obtain ⟨seen, clear⟩ := apart
    constructor
    · intro read
      by_contra missing
      exact clear ⟨fun id live same => missing ⟨id, live, same⟩, read⟩
    · intro listed
      obtain ⟨id, live, same⟩ := listed
      by_contra unread
      have split : id ∈ (state.holds.holdIdsByAccount tokenHolder).values.take firstPage ++
          (state.holds.holdIdsByAccount tokenHolder).values.drop firstPage := by
        rw [List.take_append_drop]
        exact live
      rcases List.mem_append.mp split with first | behind
      · refine unread ⟨id, first, ?_⟩
        rw [same]
        exact asked.isNumber
      · exact seen ⟨⟨id, behind, same⟩, fun other first read => unread ⟨other, first, read⟩⟩

/-- With ids that are numbers themselves, only a live id behind the first page
is judged wrongly. -/
theorem check_agrees_iff_not_behind (asked : Asked request tokenHolder)
    (safe : ∀ id ∈ state.holds.holdIdsByAccount tokenHolder, id.toNat < 2 ^ numberBits) :
    CheckAgrees msg state request tokenHolder ↔
      ∀ id ∈ (state.holds.holdIdsByAccount tokenHolder).values.drop firstPage,
        id.toNat ≠ request.holdId := by
  have exact_ : ∀ id ∈ (state.holds.holdIdsByAccount tokenHolder).values.take firstPage,
      nearest numberBits id.toNat = id.toNat := by
    intro id first
    exact nearest_of_lt (by decide) (safe id (List.mem_of_mem_take first))
  rw [check_agrees_iff asked]
  constructor
  · intro apart id behind same
    refine apart.1 ⟨⟨id, behind, same⟩, fun other first read => ?_⟩
    rw [exact_ other first, ← same] at read
    -- an id stands once in the set
    have distinct := (state.holds.holdIdsByAccount tokenHolder).nodup
    rw [← List.take_append_drop firstPage (state.holds.holdIdsByAccount tokenHolder).values]
      at distinct
    exact (List.nodup_append.mp distinct).2.2 other first id behind (Uint.ext read)
  · intro front
    constructor
    · intro overlooked
      obtain ⟨id, behind, same⟩ := overlooked.behind
      exact front id behind same
    · intro confused
      obtain ⟨id, first, read⟩ := confused.read
      rw [exact_ id first] at read
      exact confused.missing id (List.mem_of_mem_take first) read

end Check

/-- The check passes for just the live ids, unless a live id behind the first
page is overlooked or one of the page is rounded to an id that is not live. -/
theorem hold_id_check {fixed world : Type} (msg : Msg) (state : State world)
    (request : Request fixed) (tokenHolder : Address) (asked : Asked request tokenHolder) :
    (CheckAgrees msg state request tokenHolder ↔
      ¬Overlooked state request tokenHolder ∧ ¬Confused state request tokenHolder) ∧
    ((∀ id ∈ state.holds.holdIdsByAccount tokenHolder, id.toNat < 2 ^ numberBits) →
      (CheckAgrees msg state request tokenHolder ↔
        ∀ id ∈ (state.holds.holdIdsByAccount tokenHolder).values.drop firstPage,
          id.toNat ≠ request.holdId)) :=
  ⟨check_agrees_iff asked, check_agrees_iff_not_behind asked⟩

/-! ## A holder with many holds -/

def firstIds (count : Nat) (fits : count < 2 ^ 256) : EnumerableSet Uint256 where
  values := (List.finRange count).map fun index : Fin count => ⟨index.val + 1, by omega⟩
  nodup := by
    apply List.Nodup.map
    · intro left right same
      have next : left.val + 1 = right.val + 1 := congrArg Uint.toNat same
      exact Fin.ext (by omega)
    · exact List.nodup_finRange count

def crowdedState (count : Nat) (fits : count < 2 ^ 256) : State Ledger :=
  let state := deployed RolesStorage.empty (holderLedger 100)
  { state with
    holds := { state.holds with holdIdsByAccount := fun _ => firstIds count fits } }

def idRequest (holdId : Nat) : Request ExactNumber :=
  { sampleRequest none 0 with holdId := holdId }

theorem id_asked {holdId : Nat} (small : holdId < 2 ^ numberBits) : Asked (idRequest holdId) 2 :=
  ⟨nofun, rfl, nearest_of_lt (by decide) small⟩

theorem third_of_three :
    CheckAgrees (sampleMsg 3 0) (crowdedState 3 (by decide)) (idRequest 3) 2 := by
  refine ((hold_id_check (sampleMsg 3 0) (crowdedState 3 (by decide)) (idRequest 3) 2
    (id_asked (by decide))).2 ?_).mpr ?_
  · decide
  · exact fun _ behind => absurd behind List.not_mem_nil

/-- The last of 101 holds is live for the contract and invalid for the check. -/
theorem last_of_many :
    checkValidHoldId (sampleMsg 3 0) (crowdedState 101 (by decide)) (idRequest 101) =
        .error .invalidHoldId ∧
      ¬CheckAgrees (sampleMsg 3 0) (crowdedState 101 (by decide)) (idRequest 101) 2 := by
  have refused : checkValidHoldId (sampleMsg 3 0) (crowdedState 101 (by decide)) (idRequest 101) =
      .error .invalidHoldId := by decide +kernel
  refine ⟨refused, ?_⟩
  intro agrees
  have live : ValidHold (sampleMsg 3 0) (crowdedState 101 (by decide)) (idRequest 101) 2 := by
    rw [valid_hold_iff]
    exact ⟨⟨101, by decide⟩, List.mem_map.mpr ⟨⟨100, by decide⟩, List.mem_finRange _, rfl⟩, rfl⟩
  rw [agrees.mpr live] at refused
  cases refused

end StablecoinStudio.Sdk.HoldIds
