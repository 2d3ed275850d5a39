import StablecoinStudio.Sdk.RightRequests
import StablecoinStudio.Token.MintingRights

/-!
# Rights as they are requested

The requests of the SDK and the contract together: what a supplier may mint is
at every time what the requests that went through say, and what the queries
show is that.
-/

namespace StablecoinStudio.Sdk.RequestedRights

open StablecoinStudio.Core.Common
open StablecoinStudio.Core.Constants
open StablecoinStudio.Foundation.CheckedInt
open StablecoinStudio.Foundation.DecimalQuantities
open StablecoinStudio.Foundation.DecimalTexts
open StablecoinStudio.Foundation.Exceptions
open StablecoinStudio.Foundation.GuardedLoops
open StablecoinStudio.Foundation.Runs
open StablecoinStudio.Sdk.BigDecimal
open StablecoinStudio.Sdk.CoinCreation (UINT256_MAX resolve)
open StablecoinStudio.Sdk.FixedNumber
open StablecoinStudio.Sdk.RightRequests
open StablecoinStudio.Sdk.TokenKeys
open StablecoinStudio.Sdk.Validation
open StablecoinStudio.Token.MintingRights
open StablecoinStudio.Token.ProxyState
open StablecoinStudio.Token.ReferenceLedger
open StablecoinStudio.Token.RightChanges
open StablecoinStudio.Token.Roles
open StablecoinStudio.Token.Services
open StablecoinStudio.Token.SupplierAdmin
open StablecoinStudio.Token.SupplierRights
open StablecoinStudio.Token.System

set_option autoImplicit false

/-! ## What a request asks for -/

def unitsOf (decimals : Nat) (amount : Text) : Nat := ⌊amountOf amount * 10 ^ decimals⌋.toNat

/-- In a list of amounts, zero stands for no limit. -/
def limitOf (decimals : Nat) (amount : Text) : Change :=
  if amountOf amount = 0 then .grantUnlimited else .grant (unitsOf decimals amount)

section Asked

variable {fixed : Type} (connection : Connection fixed) (supplier : Address)

def forTarget (targetId : Text) (taken : Change) : List Change :=
  if connection.answers.accountToEvmAddress targetId = some supplier then [taken] else []

def RightRequest.asks : RightRequest → List Change
  | .grantRole request =>
      if request.role = some CASHIN_ROLE then
        forTarget connection supplier request.targetId
          (if request.supplierType = some "limited".toList then
            .grant (unitsOf connection.coin.decimals (request.amount.getD []))
          else .grantUnlimited)
      else []
  | .revokeRole request =>
      if request.role = some CASHIN_ROLE then forTarget connection supplier request.targetId .clear
      else []
  | .grantMultiRoles request =>
      if includes request.roles CASHIN_ROLE then
        (request.targetsId.zip (request.amounts.getD [])).flatMap fun entry =>
          forTarget connection supplier entry.1 (limitOf connection.coin.decimals entry.2)
      else []
  | .revokeMultiRoles request =>
      if includes request.roles CASHIN_ROLE then
        request.targetsId.flatMap fun targetId => forTarget connection supplier targetId .clear
      else []
  | .increaseAllowance request =>
      forTarget connection supplier request.targetId
        (.increase (unitsOf connection.coin.decimals request.amount))
  | .decreaseAllowance request =>
      forTarget connection supplier request.targetId
        (.decrease (unitsOf connection.coin.decimals request.amount))
  | .resetAllowance request => forTarget connection supplier request.targetId .reset

end Asked

def RightRequest.amounts : RightRequest → List Text
  | .grantRole request =>
      if request.role = some CASHIN_ROLE ∧ request.supplierType = some "limited".toList then
        [request.amount.getD []]
      else []
  | .grantMultiRoles request =>
      if includes request.roles CASHIN_ROLE then request.amounts.getD [] else []
  | .increaseAllowance request | .decreaseAllowance request => [request.amount]
  | _ => []

/-! ## What a validated request is like -/

section Validated

variable {fixed : Type} {ethers : FixedNumbers fixed} {val : Text} {vals : List Text}
  {check : Text → Check} {listed : String}

theorem distinct_checked {before : List Text}
    (passed : checkDistinct listed check before vals = some []) :
    vals.Nodup ∧ ∀ val ∈ vals, check val = some [] ∧ val ∉ before := by
  induction vals generalizing before with
  | nil => exact ⟨List.nodup_nil, fun _ member => absurd member List.not_mem_nil⟩
  | cons first rest ih =>
      obtain ⟨err, checked, later⟩ := Option.bind_eq_some_iff.mp passed
      split at later
      · next some_ => exact absurd (Option.some.inj later) some_
      · next none_ =>
          rw [not_not.mp none_] at checked
          split at later
          · cases Option.some.inj later
          · next fresh =>
              obtain ⟨distinct, each⟩ := ih later
              refine ⟨List.nodup_cons.mpr ⟨?_, distinct⟩, ?_⟩
              · intro again
                exact (each first again).2 (List.mem_append_right _ (List.mem_singleton_self _))
              · intro val member
                rcases List.mem_cons.mp member with rfl | inRest
                · exact ⟨checked, fun inBefore => fresh (includes_iff.mpr inBefore)⟩
                · exact ⟨(each val inRest).1, fun inBefore =>
                    (each val inRest).2 (List.mem_append_left _ inBefore)⟩

theorem list_checked (passed : checkList listed check vals = some []) :
    vals.Nodup ∧ ∀ val ∈ vals, check val = some [] := by
  unfold checkList at passed
  split at passed
  · cases passed
  · obtain ⟨distinct, each⟩ := distinct_checked passed
    exact ⟨distinct, fun val member => (each val member).1⟩

theorem list_not_empty (passed : checkList listed check vals = some []) : vals ≠ [] := by
  intro none_
  rw [checkList, if_pos none_] at passed
  cases passed

theorem all_checked (passed : checkAll check vals = some []) : ∀ val ∈ vals, check val = some [] := by
  induction vals with
  | nil => exact fun _ member => absurd member List.not_mem_nil
  | cons first rest ih =>
      obtain ⟨err, checked, later⟩ := Option.bind_eq_some_iff.mp passed
      split at later
      · next some_ => exact absurd (Option.some.inj later) some_
      · next none_ =>
          rw [not_not.mp none_] at checked
          exact List.forall_mem_cons.mpr ⟨checked, ih later⟩

theorem amount_of_zero : amountOf ['0'] = 0 := by decide +kernel

theorem amount_checked (laws : StrictLaws ethers) {zeroIsValid : Bool}
    {decimals : Nat}
    (passed : checkAmount ethers zeroIsValid decimals val = some []) :
    0 ≤ amountOf val ∧ (zeroIsValid = false → amountOf val ≠ 0) := by
  unfold checkAmount at passed
  split at passed
  · cases passed
  · obtain ⟨zero, zeroRead, later⟩ := Option.bind_eq_some_iff.mp passed
    obtain ⟨value, valueRead, reported⟩ := Option.bind_eq_some_iff.mp later
    obtain ⟨inside, _⟩ := List.append_eq_nil_iff.mp (Option.some.inj reported)
    have zeroIs : ethers.amount zero = 0 := (laws.read zeroRead).2.2.trans amount_of_zero
    have valueIs : ethers.amount value = amountOf val := (laws.read valueRead).2.2
    cases zeroIsValid with
    | true =>
        have notBelow : ¬isLowerThan ethers value zero = true := by
          intro below
          simp [below] at inside
        rw [isLowerThan, laws.lt_iff, zeroIs, valueIs, not_lt] at notBelow
        exact ⟨notBelow, fun other => nomatch other⟩
    | false =>
        have above : isLowerOrEqualThan ethers value zero = false := by
          cases compared : isLowerOrEqualThan ethers value zero with
          | false => rfl
          | true => simp [compared] at inside
        have greater : ethers.gt value zero = true := by
          rw [isLowerOrEqualThan, Bool.not_eq_false'] at above
          exact above
        rw [laws.gt_iff, zeroIs, valueIs] at greater
        exact ⟨le_of_lt greater, fun _ => ne_of_gt greater⟩

theorem amounts_checked (laws : StrictLaws ethers) {roles targetsId amounts : List Text}
    (passed : checkAmounts ethers roles targetsId amounts = some []) (cashin : CASHIN_ROLE ∈ roles) :
    amounts.length = targetsId.length ∧ ∀ amount ∈ amounts, 0 ≤ amountOf amount := by
  have listed : includes roles CASHIN_ROLE = true := includes_iff.mpr cashin
  rw [checkAmounts, listed, if_neg (by decide)] at passed
  split at passed
  · cases passed
  · next same =>
      refine ⟨not_not.mp same, ?_⟩
      intro amount member
      exact (amount_checked laws (all_checked passed amount member)).1

end Validated

/-! ## What is sent -/

section Sent

variable {fixed : Type} {ethers : FixedNumbers fixed} {connection : Connection fixed}
  {supplier sender account : Address} {targetId amount : Text} {id : HederaId} {number : fixed}
  {word : Uint256} {call : Call}

theorem valid_of_sent {request : RightRequest} (sent : request.send ethers connection = .ok call) :
    ∀ property ∈ request.schema ethers, Passes property := by
  obtain ⟨_, passed, _⟩ := except_bind_ok.mp sent
  exact validated_iff.mp (not_not.mp (throw_when_ok.mp passed))

theorem contract_call_ok {params : Option Call}
    (sent : executeContractCall connection params = .ok call) : params = some call := by
  obtain ⟨_, _, given⟩ := Option.bind_eq_some_iff.mp (or_throw_ok.mp sent)
  exact given

theorem resolved (passed : checkHederaIdFormat false targetId = some [])
    (made : HederaId.new targetId = some id) (found : resolve connection.answers id = some account) :
    connection.answers.accountToEvmAddress targetId = some account := by
  have given := (hedera_id_checked passed).2
  rw [resolve, value_of_new made, if_neg given] at found
  exact found

theorem only_of_target (answered : connection.answers.accountToEvmAddress targetId = some account)
    (taken : Change) : only supplier account taken = forTarget connection supplier targetId taken := by
  simp only [only, forTarget, answered, Option.some.injEq]

theorem units_of_exact {decimals units : Nat} (same : quantity decimals units = amountOf amount) :
    unitsOf decimals amount = units := by
  have scaled : quantity decimals units * 10 ^ decimals = ((units : Int) : ℚ) :=
    div_mul_cancel₀ _ (ne_of_gt (ten_pow_pos decimals))
  rw [unitsOf, ← same, scaled, Int.floor_intCast, Int.toNat_natCast]

theorem amount_sent (laws : StrictLaws ethers)
    (read : amountOfCommand ethers connection amount = .ok number)
    (sent : amountWord ethers number = some word) :
    quantity connection.coin.decimals word.toNat = amountOf amount ∧
      word.toNat = unitsOf connection.coin.decimals amount := by
  obtain ⟨decimals, _, same⟩ := laws.read (or_throw_ok.mp read)
  have value : (word.toNat : Int) = ethers.value number := Uint.checked_eq_some.mp sent
  have exact_ : quantity connection.coin.decimals word.toNat = amountOf amount := by
    rw [value, ← same, FixedNumbers.amount, decimals]
    rfl
  exact ⟨exact_, (units_of_exact exact_).symm⟩

theorem formatted_word (laws : StrictLaws ethers)
    (read : amountOfCommand ethers connection amount = .ok number)
    (valid : 0 ≤ amountOf amount) (sent : RoleOperations.formatAmount ethers number = some word) :
    (amountOf amount = 0 ∧ word.toNat = RoleManagementFacet.maxUint256) ∨
      (amountOf amount ≠ 0 ∧ word.toNat ≠ RoleManagementFacet.maxUint256 ∧ word.toNat ≠ 0 ∧
        word.toNat = unitsOf connection.coin.decimals amount) := by
  obtain ⟨_, fits, same⟩ := laws.read (or_throw_ok.mp read)
  obtain ⟨zero, zeroRead, formatted⟩ := Option.bind_eq_some_iff.mp sent
  have zeroIs : ethers.amount zero = 0 := (laws.read zeroRead).2.2.trans amount_of_zero
  have above : isGreaterThan ethers number zero = true ↔ 0 < amountOf amount := by
    rw [isGreaterThan, laws.gt_iff, zeroIs, same]
  by_cases none_ : amountOf amount = 0
  · have notAbove : ¬isGreaterThan ethers number zero = true := by
      rw [above, none_]
      exact lt_irrefl 0
    rw [if_neg notAbove] at formatted
    have value := Uint.checked_eq_some.mp formatted
    rw [UINT256_MAX] at value
    refine .inl ⟨none_, ?_⟩
    rw [RoleManagementFacet.maxUint256]
    omega
  · rw [if_pos (above.mpr (lt_of_le_of_ne valid (Ne.symm none_)))] at formatted
    have value : (word.toNat : Int) = ethers.value number := Uint.checked_eq_some.mp formatted
    have upper := fits.upper
    obtain ⟨exact_, units⟩ := amount_sent laws read formatted
    refine .inr ⟨none_, ?_, ?_, units⟩
    · rw [RoleManagementFacet.maxUint256]
      omega
    · intro nothing
      rw [nothing, Nat.cast_zero, quantity_zero] at exact_
      exact none_ exact_.symm

theorem limit_sent (laws : StrictLaws ethers)
    (read : amountOfCommand ethers connection amount = .ok number)
    (valid : 0 ≤ amountOf amount) (sent : RoleOperations.formatAmount ethers number = some word)
    (answered : connection.answers.accountToEvmAddress targetId = some account) :
    cashinChanges supplier account word =
      forTarget connection supplier targetId (limitOf connection.coin.decimals amount) := by
  rw [cashinChanges, only_of_target answered, limitOf]
  rcases formatted_word laws read valid sent with ⟨none_, largest⟩ | ⟨some_, notLargest, _, units⟩
  · rw [if_pos largest, if_pos none_]
  · rw [if_neg notLargest, if_neg some_, units]

theorem only_of_amount (laws : StrictLaws ethers)
    (read : amountOfCommand ethers connection amount = .ok number)
    (sent : amountWord ethers number = some word)
    (answered : connection.answers.accountToEvmAddress targetId = some account)
    (taken : Nat → Change) :
    only supplier account (taken word.toNat) = forTarget connection supplier targetId
      (taken (unitsOf connection.coin.decimals amount)) := by
  rw [only_of_target answered, (amount_sent laws read sent).2]

/-! ### The call of a request -/

theorem amount_call_ok {called : Address → Uint256 → Call}
    (sent : SupplierOperations.callWithAmount ethers connection called id number = .ok call) :
    ∃ account word, resolve connection.answers id = some account ∧
      amountWord ethers number = some word ∧ call = called account word := by
  obtain ⟨account, found, later⟩ := Option.bind_eq_some_iff.mp (contract_call_ok sent)
  obtain ⟨word, formatted, same⟩ := Option.bind_eq_some_iff.mp later
  exact ⟨account, word, found, formatted, (Option.some.inj same).symm⟩

theorem account_call_ok {called : Address → Call}
    (sent : SupplierOperations.callWithAccount connection called id = .ok call) :
    ∃ account, resolve connection.answers id = some account ∧ call = called account := by
  obtain ⟨account, found, same⟩ := Option.bind_eq_some_iff.mp (contract_call_ok sent)
  exact ⟨account, found, (Option.some.inj same).symm⟩

theorem grant_role_ok {request : GrantRoleRequest}
    (sent : RightRequests.grantRole ethers connection request = .ok call) :
    ∃ id account, HederaId.new request.targetId = some id ∧
      resolve connection.answers id = some account ∧
      if request.role = some CASHIN_ROLE then
        if request.supplierType = some "limited".toList then
          ∃ number word, amountOfCommand ethers connection (request.amount.getD []) = .ok number ∧
            amountWord ethers number = some word ∧ call = .grantSupplierRole account word
        else call = .grantUnlimitedSupplierRole account
      else ∃ word, roleWord (request.role.getD []) = some word ∧ call = .grantRole word account := by
  simp only [RightRequests.grantRole, except_bind_ok, idOf, or_throw_ok] at sent
  obtain ⟨id, made, _, _, later⟩ := sent
  split at later
  · next cashin =>
      split at later
      · next limited =>
          obtain ⟨number, read, called⟩ := except_bind_ok.mp later
          obtain ⟨account, word, found, formatted, same⟩ := amount_call_ok called
          refine ⟨id, account, made, found, ?_⟩
          rw [if_pos cashin, if_pos limited]
          exact ⟨number, word, read, formatted, same⟩
      · next unlimited =>
          obtain ⟨account, found, same⟩ := account_call_ok later
          refine ⟨id, account, made, found, ?_⟩
          rw [if_pos cashin, if_neg unlimited]
          exact same
  · next other =>
      obtain ⟨word, read, resolving⟩ := Option.bind_eq_some_iff.mp (contract_call_ok later)
      obtain ⟨account, found, same⟩ := Option.bind_eq_some_iff.mp resolving
      refine ⟨id, account, made, found, ?_⟩
      rw [if_neg other]
      exact ⟨word, read, (Option.some.inj same).symm⟩

theorem revoke_role_ok {request : RevokeRoleRequest}
    (sent : RightRequests.revokeRole connection request = .ok call) :
    ∃ id account, HederaId.new request.targetId = some id ∧
      resolve connection.answers id = some account ∧
      if request.role = some CASHIN_ROLE then call = .revokeSupplierRole account
      else ∃ word, roleWord (request.role.getD []) = some word ∧ call = .revokeRole word account := by
  simp only [RightRequests.revokeRole, except_bind_ok, idOf, or_throw_ok] at sent
  obtain ⟨id, made, _, _, later⟩ := sent
  split at later
  · next cashin =>
      obtain ⟨account, found, same⟩ := account_call_ok later
      refine ⟨id, account, made, found, ?_⟩
      rw [if_pos cashin]
      exact same
  · next other =>
      obtain ⟨word, read, resolving⟩ := Option.bind_eq_some_iff.mp (contract_call_ok later)
      obtain ⟨account, found, same⟩ := Option.bind_eq_some_iff.mp resolving
      refine ⟨id, account, made, found, ?_⟩
      rw [if_neg other]
      exact ⟨word, read, (Option.some.inj same).symm⟩

theorem grant_multi_roles_ok {request : GrantMultiRolesRequest}
    (sent : RightRequests.grantMultiRoles ethers connection request = .ok call) :
    ∃ accounts words amounts,
      request.targetsId.mapM (fun targetId =>
        (HederaId.new targetId).bind (resolve connection.answers)) = some accounts ∧
      request.roles.mapM roleWord = some words ∧
      (request.amounts.getD []).mapM (fun amount =>
        (BigDecimal.fromString ethers amount (some connection.coin.decimals)).bind
          (RoleOperations.formatAmount ethers)) = some amounts ∧
      call = .grantRoles words accounts amounts := by
  simp only [RightRequests.grantMultiRoles, grantMultiRolesCommand, except_bind_ok,
    or_throw_ok] at sent
  obtain ⟨ids, made, _, _, _, _, numbers, read, called⟩ := sent
  obtain ⟨accounts, found, later⟩ := Option.bind_eq_some_iff.mp (contract_call_ok called)
  obtain ⟨amounts, formatted, later⟩ := Option.bind_eq_some_iff.mp later
  obtain ⟨words, readRoles, same⟩ := Option.bind_eq_some_iff.mp later
  exact ⟨accounts, words, amounts, mapM_then made found, readRoles, mapM_then read formatted,
    (Option.some.inj same).symm⟩

theorem revoke_multi_roles_ok {request : RevokeMultiRolesRequest}
    (sent : RightRequests.revokeMultiRoles connection request = .ok call) :
    ∃ accounts words,
      request.targetsId.mapM (fun targetId =>
        (HederaId.new targetId).bind (resolve connection.answers)) = some accounts ∧
      request.roles.mapM roleWord = some words ∧ call = .revokeRoles words accounts := by
  simp only [RightRequests.revokeMultiRoles, revokeMultiRolesCommand, except_bind_ok,
    or_throw_ok] at sent
  obtain ⟨ids, made, _, _, _, _, called⟩ := sent
  obtain ⟨accounts, found, later⟩ := Option.bind_eq_some_iff.mp (contract_call_ok called)
  obtain ⟨words, readRoles, same⟩ := Option.bind_eq_some_iff.mp later
  exact ⟨accounts, words, mapM_then made found, readRoles, (Option.some.inj same).symm⟩

theorem allowance_ok {called : Address → Uint256 → Call} {tokenId : Text}
    (sent : (do
      let id ← idOf targetId
      let _ ← idOf tokenId
      allowanceCommand ethers connection
        (SupplierOperations.callWithAmount ethers connection called) amount id) = .ok call) :
    ∃ id account number word, HederaId.new targetId = some id ∧
      resolve connection.answers id = some account ∧
      amountOfCommand ethers connection amount = .ok number ∧
      amountWord ethers number = some word ∧ call = called account word := by
  simp only [allowanceCommand, except_bind_ok, idOf, or_throw_ok] at sent
  obtain ⟨id, made, _, _, _, _, _, _, number, read, sentAs⟩ := sent
  obtain ⟨account, word, found, formatted, same⟩ := amount_call_ok sentAs
  exact ⟨id, account, number, word, made, found, read, formatted, same⟩

theorem reset_allowance_ok {request : ResetSupplierAllowanceRequest}
    (sent : RightRequests.resetAllowance connection request = .ok call) :
    ∃ id account, HederaId.new request.targetId = some id ∧
      resolve connection.answers id = some account ∧ call = .resetSupplierAllowance account := by
  simp only [RightRequests.resetAllowance, except_bind_ok, idOf, or_throw_ok] at sent
  obtain ⟨id, made, _, _, later⟩ := sent
  obtain ⟨account, found, same⟩ := account_call_ok later
  exact ⟨id, account, made, found, same⟩

theorem permission_of_sent {request : RightRequest}
    (sent : request.send ethers connection = .ok call) : call.kind = .permission := by
  obtain ⟨_, _, later⟩ := except_bind_ok.mp sent
  cases request with
  | grantRole request =>
      obtain ⟨_, _, _, _, calls⟩ := grant_role_ok later
      split at calls
      · split at calls
        · obtain ⟨_, _, _, _, rfl⟩ := calls
          rfl
        · rw [calls]
          rfl
      · obtain ⟨_, _, rfl⟩ := calls
        rfl
  | revokeRole request =>
      obtain ⟨_, _, _, _, calls⟩ := revoke_role_ok later
      split at calls
      · rw [calls]
        rfl
      · obtain ⟨_, _, rfl⟩ := calls
        rfl
  | grantMultiRoles request =>
      obtain ⟨_, _, _, _, _, _, rfl⟩ := grant_multi_roles_ok later
      rfl
  | revokeMultiRoles request =>
      obtain ⟨_, _, _, _, rfl⟩ := revoke_multi_roles_ok later
      rfl
  | increaseAllowance request | decreaseAllowance request =>
      obtain ⟨_, _, _, _, _, _, _, _, rfl⟩ := allowance_ok later
      rfl
  | resetAllowance request =>
      obtain ⟨_, _, _, _, rfl⟩ := reset_allowance_ok later
      rfl

/-! ### What the call changes -/

theorem other_role {role : Option Text} {word : Bytes32} (other : role ≠ some CASHIN_ROLE)
    (read : roleWord (role.getD []) = some word) : word ≠ cashinRole := by
  intro same
  rw [same, role_word_cashin] at read
  cases role with
  | none => exact absurd read (by decide +kernel)
  | some given => exact other (congrArg some read)

theorem changes_of_grant_role (laws : StrictLaws ethers) {request : GrantRoleRequest}
    (valid : ∀ property ∈ request.schema ethers, Passes property)
    (sent : RightRequests.grantRole ethers connection request = .ok call) :
    changesOf supplier sender call =
      RightRequest.asks connection supplier (.grantRole request) := by
  have format : checkHederaIdFormat false request.targetId = some [] :=
    valid _ (List.mem_cons_self ..)
  obtain ⟨id, account, made, found, calls⟩ := grant_role_ok sent
  have answered := resolved format made found
  rw [RightRequest.asks]
  split at calls
  · next cashin =>
      rw [if_pos cashin]
      split at calls
      · next limited =>
          obtain ⟨number, word, read, formatted, rfl⟩ := calls
          rw [if_pos limited]
          exact only_of_amount laws read formatted answered .grant
      · next unlimited =>
          rw [if_neg unlimited, calls]
          exact only_of_target answered .grantUnlimited
  · next other =>
      obtain ⟨word, read, rfl⟩ := calls
      rw [if_neg other]
      exact role_changes_of_other (other_role other read)

theorem changes_of_revoke_role {request : RevokeRoleRequest}
    (valid : ∀ property ∈ request.schema, Passes property)
    (sent : RightRequests.revokeRole connection request = .ok call) :
    changesOf supplier sender call =
      RightRequest.asks connection supplier (.revokeRole request) := by
  have format : checkHederaIdFormat false request.targetId = some [] :=
    valid _ (List.mem_cons_self ..)
  obtain ⟨id, account, made, found, calls⟩ := revoke_role_ok sent
  rw [RightRequest.asks]
  split at calls
  · next cashin =>
      rw [if_pos cashin, calls]
      exact only_of_target (resolved format made found) .clear
  · next other =>
      obtain ⟨word, read, rfl⟩ := calls
      rw [if_neg other]
      exact role_changes_of_other (other_role other read)

/-! ### Lists of roles and accounts -/

/-- The words of distinct roles are distinct, and one of them is that of
suppliers when the text of it is listed. -/
theorem role_words {roles : List Text} {words : List Bytes32}
    (read : roles.mapM roleWord = some words) (distinct : roles.Nodup) :
    words.Nodup ∧ (cashinRole ∈ words ↔ CASHIN_ROLE ∈ roles) := by
  constructor
  · apply nodup_of_mapM read distinct
    intro first _ second _ word readFirst readSecond
    rw [text_of_role_word readFirst, text_of_role_word readSecond]
  · rw [mem_of_mapM read]
    constructor
    · intro found
      obtain ⟨role, listed, isCashin⟩ := found
      rw [← role_word_cashin.mp isCashin]
      exact listed
    · intro listed
      exact ⟨CASHIN_ROLE, listed, role_word_cashin.mpr rfl⟩

theorem target_resolved (passed : checkHederaIdFormat false targetId = some [])
    (found : (HederaId.new targetId).bind (resolve connection.answers) = some account) :
    connection.answers.accountToEvmAddress targetId = some account := by
  obtain ⟨id, made, found⟩ := Option.bind_eq_some_iff.mp found
  exact resolved passed made found

/-- The words that are sent of a request for several roles and accounts, each
for what the request lists. -/
structure SentLists (ethers : FixedNumbers fixed) (connection : Connection fixed)
    (request : GrantMultiRolesRequest) (words : List Bytes32) (accounts : List Address)
    (amounts : List Uint256) : Prop where
  roles : request.roles.mapM roleWord = some words
  targets : request.targetsId.mapM connection.answers.accountToEvmAddress = some accounts
  formatted : (request.amounts.getD []).mapM (fun amount =>
    (BigDecimal.fromString ethers amount (some connection.coin.decimals)).bind
      (RoleOperations.formatAmount ethers)) = some amounts
  distinctRoles : request.roles.Nodup
  distinctTargets : request.targetsId.Nodup
  someTarget : request.targetsId ≠ []
  /-- With the role of suppliers, the amounts that are given are as many. -/
  length : CASHIN_ROLE ∈ request.roles → request.amounts ≠ none →
    (request.amounts.getD []).length = request.targetsId.length
  nonneg : CASHIN_ROLE ∈ request.roles → ∀ amount ∈ request.amounts.getD [], 0 ≤ amountOf amount

theorem lists_of_grant (laws : StrictLaws ethers) {request : GrantMultiRolesRequest}
    (valid : ∀ property ∈ request.schema ethers, Passes property)
    (sent : RightRequests.grantMultiRoles ethers connection request = .ok call) :
    ∃ words accounts amounts, SentLists ethers connection request words accounts amounts ∧
      call = .grantRoles words accounts amounts := by
  obtain ⟨accounts, words, amounts, found, read, formatted, same⟩ := grant_multi_roles_ok sent
  simp only [GrantMultiRolesRequest.schema, List.forall_mem_cons, Passes] at valid
  obtain ⟨_, targets, roles, given, _⟩ := valid
  refine ⟨words, accounts, amounts, ?_, same⟩
  exact {
    roles := read
    targets := by
      apply mapM_imp found
      intro targetId listed account resolvedTo
      exact target_resolved ((list_checked targets).2 targetId listed) resolvedTo
    formatted := formatted
    distinctRoles := (list_checked roles).1
    distinctTargets := (list_checked targets).1
    someTarget := list_not_empty targets
    length := by
      intro suppliers some_
      obtain ⟨texts, isTexts⟩ := Option.ne_none_iff_exists'.mp some_
      rw [isTexts] at given ⊢
      exact (amounts_checked laws given suppliers).1
    nonneg := by
      intro suppliers amount listed
      cases isTexts : request.amounts with
      | none =>
          rw [isTexts] at listed
          exact absurd listed List.not_mem_nil
      | some texts =>
          rw [isTexts] at given listed
          exact (amounts_checked laws given suppliers).2 amount listed
  }

theorem changes_of_grant_multi_roles (laws : StrictLaws ethers) {request : GrantMultiRolesRequest}
    (valid : ∀ property ∈ request.schema ethers, Passes property)
    (sent : RightRequests.grantMultiRoles ethers connection request = .ok call) :
    changesOf supplier sender call =
      RightRequest.asks connection supplier (.grantMultiRoles request) := by
  obtain ⟨words, accounts, amounts, lists, rfl⟩ := lists_of_grant laws valid sent
  obtain ⟨distinct, cashin⟩ := role_words lists.roles lists.distinctRoles
  rw [changesOf, grantRolesChanges, made_once distinct, RightRequest.asks]
  by_cases suppliers : includes request.roles CASHIN_ROLE = true
  · rw [if_pos (cashin.mpr (includes_iff.mp suppliers)), if_pos suppliers]
    apply flatMap_zip_mapM lists.targets lists.formatted
    intro targetId _ amount given account word answered sentAs
    obtain ⟨number, read, formatted⟩ := Option.bind_eq_some_iff.mp sentAs
    have nonneg := lists.nonneg (includes_iff.mp suppliers) amount given
    exact limit_sent laws (or_throw_ok.mpr read) nonneg formatted answered
  · rw [if_neg fun listed => suppliers (includes_iff.mpr (cashin.mp listed)), if_neg suppliers]

theorem changes_of_revoke_multi_roles {request : RevokeMultiRolesRequest}
    (valid : ∀ property ∈ request.schema, Passes property)
    (sent : RightRequests.revokeMultiRoles connection request = .ok call) :
    changesOf supplier sender call =
      RightRequest.asks connection supplier (.revokeMultiRoles request) := by
  simp only [RevokeMultiRolesRequest.schema, List.forall_mem_cons, Passes] at valid
  obtain ⟨_, targets, roles, _⟩ := valid
  obtain ⟨accounts, words, found, read, rfl⟩ := revoke_multi_roles_ok sent
  obtain ⟨distinct, cashin⟩ := role_words read (list_checked roles).1
  have rounds : revokeRolesChanges supplier words accounts = words.flatMap fun role =>
      if role = cashinRole then accounts.flatMap fun account => only supplier account .clear
      else [] := by
    apply List.flatMap_congr
    intro role _
    by_cases isCashin : role = cashinRole
    · simp [roleChanges, isCashin]
    · simp [roleChanges, isCashin]
  rw [changesOf, rounds, made_once distinct, RightRequest.asks]
  by_cases suppliers : includes request.roles CASHIN_ROLE = true
  · rw [if_pos (cashin.mpr (includes_iff.mp suppliers)), if_pos suppliers]
    apply flatMap_mapM found
    intro targetId listed account resolvedTo
    exact only_of_target (target_resolved ((list_checked targets).2 targetId listed) resolvedTo) _
  · rw [if_neg fun listed => suppliers (includes_iff.mpr (cashin.mp listed)), if_neg suppliers]

/-! ### Every request -/

/-- Every request that is sent changes in every right what it asks for. -/
theorem changes_of_sent (laws : StrictLaws ethers) {request : RightRequest}
    (sent : request.send ethers connection = .ok call) :
    changesOf supplier sender call = RightRequest.asks connection supplier request := by
  have valid := valid_of_sent sent
  obtain ⟨_, _, later⟩ := except_bind_ok.mp sent
  cases request with
  | grantRole request => exact changes_of_grant_role laws valid later
  | revokeRole request => exact changes_of_revoke_role valid later
  | grantMultiRoles request => exact changes_of_grant_multi_roles laws valid later
  | revokeMultiRoles request => exact changes_of_revoke_multi_roles valid later
  | increaseAllowance request =>
      have format : checkHederaIdFormat false request.targetId = some [] :=
        valid _ (List.mem_cons_self ..)
      obtain ⟨id, account, number, word, made, found, read, formatted, rfl⟩ := allowance_ok later
      exact only_of_amount laws read formatted (resolved format made found) .increase
  | decreaseAllowance request =>
      have format : checkHederaIdFormat false request.targetId = some [] :=
        valid _ (List.mem_cons_self ..)
      obtain ⟨id, account, number, word, made, found, read, formatted, rfl⟩ := allowance_ok later
      exact only_of_amount laws read formatted (resolved format made found) .decrease
  | resetAllowance request =>
      have format : checkHederaIdFormat false request.targetId = some [] :=
        valid _ (List.mem_cons_self ..)
      obtain ⟨id, account, made, found, rfl⟩ := reset_allowance_ok later
      exact only_of_target (resolved format made found) .reset

theorem units_read (laws : StrictLaws ethers)
    (read : amountOfCommand ethers connection amount = .ok number) (valid : 0 ≤ amountOf amount) :
    quantity connection.coin.decimals (unitsOf connection.coin.decimals amount) =
      amountOf amount := by
  obtain ⟨decimals, _, same⟩ := laws.read (or_throw_ok.mp read)
  rw [FixedNumbers.amount, decimals] at same
  have nonneg : 0 ≤ ethers.value number := by
    rw [← same] at valid
    exact quantity_nonneg_iff.mp valid
  have natural : ((ethers.value number).toNat : Int) = ethers.value number :=
    Int.toNat_of_nonneg nonneg
  have exact_ : quantity connection.coin.decimals (ethers.value number).toNat =
      amountOf amount := by
    rw [natural, ← same]
    rfl
  rw [units_of_exact exact_, exact_]

theorem exact_of_sent (laws : StrictLaws ethers) {request : RightRequest}
    (sent : request.send ethers connection = .ok call)
    (listed : amount ∈ RightRequest.amounts request) :
    quantity connection.coin.decimals (unitsOf connection.coin.decimals amount) =
      amountOf amount := by
  have valid := valid_of_sent sent
  obtain ⟨_, _, later⟩ := except_bind_ok.mp sent
  cases request with
  | grantRole request =>
      obtain ⟨isLimit, isAmount⟩ : (request.role = some CASHIN_ROLE ∧
          request.supplierType = some "limited".toList) ∧ amount = request.amount.getD [] := by
        rw [RightRequest.amounts] at listed
        split at listed
        · next isLimit => exact ⟨isLimit, List.mem_singleton.mp listed⟩
        · exact absurd listed List.not_mem_nil
      obtain ⟨_, _, _, _, calls⟩ := grant_role_ok later
      rw [if_pos isLimit.1, if_pos isLimit.2] at calls
      obtain ⟨number, word, read, formatted, _⟩ := calls
      obtain ⟨exact_, units⟩ := amount_sent laws read formatted
      rw [isAmount, ← units, exact_]
  | grantMultiRoles request =>
      obtain ⟨suppliers, given⟩ : includes request.roles CASHIN_ROLE = true ∧
          amount ∈ request.amounts.getD [] := by
        rw [RightRequest.amounts] at listed
        split at listed
        · next suppliers => exact ⟨suppliers, listed⟩
        · exact absurd listed List.not_mem_nil
      obtain ⟨_, _, _, lists, _⟩ := lists_of_grant laws valid later
      obtain ⟨_, formattedAs⟩ := some_of_mapM lists.formatted given
      obtain ⟨number, read, _⟩ := Option.bind_eq_some_iff.mp formattedAs
      have notBelow := lists.nonneg (includes_iff.mp suppliers) amount given
      exact units_read laws (or_throw_ok.mpr read) notBelow
  | increaseAllowance request | decreaseAllowance request =>
      obtain rfl := List.mem_singleton.mp listed
      obtain ⟨_, _, number, word, _, _, read, formatted, _⟩ := allowance_ok later
      obtain ⟨exact_, units⟩ := amount_sent laws read formatted
      rw [← units, exact_]
  | _ => exact absurd listed List.not_mem_nil

end Sent

/-! ## What the queries show -/

/-- What the SDK shows of the right of a supplier. An allowance of more units
than the numbers of the package have is not read. -/
structure ShowsRight {fixed world : Type} (ethers : FixedNumbers fixed)
    (connection : Connection fixed) (state : State world) (targetId : Text) (right : Right) :
    Prop where
  supplier : hasRole connection state targetId CASHIN_ROLE = .ok right.supplier
  unlimited : isUnlimited connection state targetId = .ok right.unlimited
  limited : isLimited connection state targetId = .ok (right.supplier && !right.unlimited)
  allowance : Representable connection.coin.decimals right.allowance →
    ∃ number, getAllowance ethers connection state targetId = .ok number ∧
      ethers.Is number connection.coin.decimals right.allowance
  tooLarge : ¬Representable connection.coin.decimals right.allowance →
    getAllowance ethers connection state targetId = .error .invalidNumber

structure Finds {fixed : Type} (connection : Connection fixed) (targetId : Text)
    (supplier : Address) : Prop where
  format : isHederaId targetId = true
  proxy : connection.coin.evmProxyAddress ≠ none
  answered : connection.answers.accountToEvmAddress targetId = some supplier

section Shown

variable {fixed world : Type} {ethers : FixedNumbers fixed} {connection : Connection fixed}
  {targetId : Text} {supplier : Address}

theorem queried_ok (found : Finds connection targetId supplier) :
    queried connection targetId = .ok supplier := by
  obtain ⟨proxy, isProxy⟩ := Option.ne_none_iff_exists'.mp found.proxy
  have made : HederaId.new targetId = some ⟨targetId, found.format⟩ := dif_pos found.format
  rw [queried, idOf, made, isProxy]
  exact or_throw_ok.mpr found.answered

theorem shows_right (laws : Laws ethers) (found : Finds connection targetId supplier)
    (state : State world) :
    ShowsRight ethers connection state targetId (rightOf supplier state) := by
  have account := queried_ok found
  have role : hasRole connection state targetId CASHIN_ROLE =
      .ok (rightOf supplier state).supplier := by
    rw [hasRole, account, role_word_cashin.mpr rfl]
    rfl
  have flag : isUnlimited connection state targetId = .ok (rightOf supplier state).unlimited := by
    rw [isUnlimited, account]
    rfl
  have number : getAllowance ethers connection state targetId =
      orThrow .invalidNumber (fromStringFixed ethers
        (Nat.toDigits 10 (rightOf supplier state).allowance) connection.coin.decimals) := by
    rw [getAllowance, account, ← integerDigits_natCast]
    rfl
  refine ⟨role, flag, ?_, ?_, ?_⟩
  · rw [isLimited, role, flag]
    rfl
  · intro fits
    obtain ⟨value, read, is⟩ := fromStringFixed_natural laws fits
    rw [number, read]
    exact ⟨value, rfl, is⟩
  · intro misfit
    rw [number, fromStringFixed_large laws misfit]
    rfl

end Shown

/-! ## Runs of requests -/

/-- A step of a coin: a request that somebody sends with the SDK, or whatever
else happens to it. -/
inductive Step (fixed world : Type) where
  | request (connection : Connection fixed) (msg : Msg) (asked : RightRequest)
  | other (label : Label world)

section Runs

variable {fixed world : Type} (ethers : FixedNumbers fixed) (p : Platform world)

def nextRequest (state : State world) : Step fixed world → State world
  | .request connection msg asked =>
      match asked.send ethers connection with
      | .ok call => next p state (.call msg call)
      | .error _ => state
  | .other label => next p state label

/-- What a step changes in the right of `supplier`: what its request asks for,
if the request is sent and the call succeeds. -/
def obtained (supplier : Address) (state : State world) : Step fixed world → List Change
  | .request connection msg asked =>
      match asked.send ethers connection with
      | .ok call =>
          if succeeds p state msg call then RightRequest.asks connection supplier asked else []
      | .error _ => []
  | .other label => changesBy p supplier state label

def requested (supplier : Address) (start : State world) (steps : List (Step fixed world)) :
    List Change :=
  collect (nextRequest ethers p) (obtained ethers p supplier) start steps

/-- Nobody who is sent HBAR by another call calls back. -/
def OthersUndisturbed (state : State world) : Step fixed world → Prop
  | .request .. => True
  | .other label => Undisturbed p state label

variable {ethers} {p} {supplier : Address}

theorem undisturbed_permission {state : State world} {msg : Msg} {call : Call}
    (kind : call.kind = .permission) : Undisturbed p state (.call msg call) := by
  constructor
  · intro hbar
    rw [kind] at hbar
    cases hbar
  · intro init same
    rw [same] at kind
    cases kind

/-- A step is matched by what it obtains. -/
theorem simulates_request (supplier : Address) (laws : StrictLaws ethers) (state : State world)
    (step : Step fixed world) (undisturbed : OthersUndisturbed p state step) :
    Simulates (nextRequest ethers p) change Allowed (rightOf supplier)
      (obtained ethers p supplier) state step := by
  cases step with
  | other label =>
      have matched := simulates_step supplier state label undisturbed
      exact ⟨matched.along, matched.reached⟩
  | request connection msg asked =>
      cases outcome : asked.send ethers connection with
      | error failure =>
          refine ⟨?_, ?_⟩
          · simp [obtained, outcome, Along]
          · simp [obtained, nextRequest, outcome]
      | ok call =>
          have quiet : Undisturbed p state (.call msg call) :=
            undisturbed_permission (permission_of_sent outcome)
          have matched := simulates_step supplier state (.call msg call) quiet
          have same : obtained ethers p supplier state (.request connection msg asked) =
              changesBy p supplier state (.call msg call) := by
            simp only [obtained, outcome, changesBy, changes_of_sent laws outcome]
          have later : nextRequest ethers p state (.request connection msg asked) =
              next p state (.call msg call) := by
            simp only [nextRequest, outcome]
          refine ⟨?_, ?_⟩
          · rw [same]
            exact matched.along
          · rw [same, later]
            exact matched.reached

/-- What the requests of a run say about the right of a supplier at its end. -/
structure RightsAsRequested (ethers : FixedNumbers fixed) (p : Platform world)
    (supplier : Address) (start : State world) (steps : List (Step fixed world)) : Prop where
  /-- Nothing is granted, spent or taken that the right did not allow. -/
  allowed : Along change Allowed (rightOf supplier start) (requested ethers p supplier start steps)
  right : rightOf supplier (run (nextRequest ethers p) start steps) =
    run change (rightOf supplier start) (requested ethers p supplier start steps)
  shown : ∀ connection targetId, Finds connection targetId supplier →
    ShowsRight ethers connection (run (nextRequest ethers p) start steps) targetId
      (run change (rightOf supplier start) (requested ethers p supplier start steps))
  /-- The units of a request that is sent are those of its amounts, without a rest. -/
  exact : ∀ connection msg asked, .request connection msg asked ∈ steps →
    ∀ call, asked.send ethers connection = .ok call → ∀ amount ∈ RightRequest.amounts asked,
      quantity connection.coin.decimals (unitsOf connection.coin.decimals amount) =
        amountOf amount

/-- Roles and rights are changed by requests of the SDK only. -/
def ManagedWithSdk : Step fixed world → Prop
  | .request .. => True
  | .other (.call _ called) => called.kind ≠ .permission
  | .other (.outside _) => True

/-- No request takes the role of suppliers alone. -/
theorem asked_loses_nothing {connection : Connection fixed} {request : RightRequest} {taken : Change}
    (member : taken ∈ RightRequest.asks connection supplier request) (right : Right) :
    LosesNothing right taken := by
  have ofTarget : ∀ {targetId : Text} {change : Change}, change ≠ .loseRole →
      taken ∈ forTarget connection supplier targetId change → LosesNothing right taken := by
    intro targetId change keeps listed
    unfold forTarget at listed
    split at listed
    · obtain rfl := List.mem_singleton.mp listed
      cases taken with
      | loseRole => exact absurd rfl keeps
      | _ => trivial
    · exact absurd listed List.not_mem_nil
  cases request with
  | grantRole request =>
      rw [RightRequest.asks] at member
      split at member
      · refine ofTarget ?_ member
        split <;> exact Change.noConfusion
      · exact absurd member List.not_mem_nil
  | revokeRole request =>
      rw [RightRequest.asks] at member
      split at member
      · exact ofTarget Change.noConfusion member
      · exact absurd member List.not_mem_nil
  | grantMultiRoles request =>
      rw [RightRequest.asks] at member
      split at member
      · obtain ⟨entry, _, listed⟩ := List.mem_flatMap.mp member
        refine ofTarget ?_ listed
        unfold limitOf
        split <;> exact Change.noConfusion
      · exact absurd member List.not_mem_nil
  | revokeMultiRoles request =>
      rw [RightRequest.asks] at member
      split at member
      · obtain ⟨targetId, _, listed⟩ := List.mem_flatMap.mp member
        exact ofTarget Change.noConfusion listed
      · exact absurd member List.not_mem_nil
  | increaseAllowance request | decreaseAllowance request | resetAllowance request =>
      exact ofTarget Change.noConfusion member

theorem managed_loses_nothing (state : State world) (step : Step fixed world)
    (managed : ManagedWithSdk step) :
    Along change LosesNothing (rightOf supplier state) (obtained ethers p supplier state step) := by
  cases step with
  | other label =>
      apply loses_nothing_step
      cases label with
      | outside later => trivial
      | call msg called =>
          cases called with
          | revokeRole role account => exact absurd rfl managed
          | _ => trivial
  | request connection msg asked =>
      apply along_of_forall_mem change
      intro taken member right
      simp only [obtained] at member
      split at member
      · split at member
        · exact asked_loses_nothing member right
        · exact absurd member List.not_mem_nil
      · exact absurd member List.not_mem_nil

end Runs

/-! ## A run of requests -/

def sampleCoin : StableCoins.StableCoin ExactNumber where
  decimals := 2
  totalSupply := none
  maxSupply := none
  supplyType := .infinite
  tokenId := some "0.0.7"
  treasury := none
  proxyAddress := some "0.0.8"
  evmProxyAddress := some "0x08"
  supplyKey := none
  wipeKey := none

def sampleConnection : Connection ExactNumber where
  coin := sampleCoin
  answers := {
    getContractInfo := fun _ => none
    accountToEvmAddress := fun text =>
      if text = "0.0.4".toList then some 4 else if text = "0.0.5".toList then some 5 else none
    getReserveLatestRoundData := fun _ => none
    toBytesRaw := fun _ => none
  }
  getAccountInfo _ := true

def sampleStart : State Ledger :=
  deployed (RolesStorage.grantRole RolesStorage.empty adminRole 4) (holderLedger 10)

/-- The administrator 4 lets 5 mint 0.30 and 0.1 more; 5 mints 25 units, and
then loses the role. -/
def sampleSteps : List (Step ExactNumber Ledger) :=
  [.request sampleConnection (sampleMsg 4 1)
      (.grantRole ⟨"0.0.5".toList, "0.0.7".toList, some CASHIN_ROLE, some "limited".toList,
        some "0.30".toList⟩),
    .other (.call (sampleMsg 5 2) (.mint 2 (units64 25))),
    .request sampleConnection (sampleMsg 4 3)
      (.increaseAllowance ⟨"0.0.5".toList, "0.0.7".toList, "0.1".toList⟩),
    .request sampleConnection (sampleMsg 4 4)
      (.revokeRole ⟨"0.0.5".toList, "0.0.7".toList, some CASHIN_ROLE⟩)]

theorem undisturbed_sample_steps :
    Along (nextRequest exactNumbers (reference 1)) (OthersUndisturbed (reference 1)) sampleStart
      sampleSteps := by
  simp [sampleSteps, Along, OthersUndisturbed, Undisturbed, Call.undisturbed, Call.kind]

end StablecoinStudio.Sdk.RequestedRights
