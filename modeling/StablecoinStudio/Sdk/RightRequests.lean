import StablecoinStudio.Sdk.CoinCreation
import StablecoinStudio.Token.System

/-!
# Requests for roles and minting rights

The requests of `Role` on their way to the contract of the coin: validation,
port, command handlers, `RoleOperations` and `SupplierOperations`; and the
queries that show what came of them.
-/

namespace StablecoinStudio.Sdk.RightRequests

open StablecoinStudio.Core.Common
open StablecoinStudio.Core.Constants
open StablecoinStudio.Foundation.CheckedInt
open StablecoinStudio.Foundation.DecimalTexts
open StablecoinStudio.Foundation.Exceptions
open StablecoinStudio.Sdk.BigDecimal
open StablecoinStudio.Sdk.CoinCreation
open StablecoinStudio.Sdk.FixedNumber
open StablecoinStudio.Sdk.StableCoins
open StablecoinStudio.Sdk.TokenKeys
open StablecoinStudio.Sdk.Validation
open StablecoinStudio.Token.ProxyState
open StablecoinStudio.Token.Roles
open StablecoinStudio.Token.System

set_option autoImplicit false

/-! ## Roles -/

/-- A role in the form in which requests give it: 64 digits. -/
def roleText (role : Bytes32) : Text :=
  let digits := Nat.toDigits 16 role.toNat
  "0x".toList ++ (List.replicate (64 - digits.length) '0' ++ digits)

/-- `Object.values(StableCoinRole)`, as the words that these texts stand for. -/
def StableCoinRole.values : List Bytes32 :=
  [cashinRole, burnRole, wipeRole, rescueRole, pauseRole, freezeRole, deleteRole, adminRole,
    withoutRole, kycRole, customFeesRole, holdCreatorRole]

/-- The word that the encoder reads in the text of a role. -/
def roleWord (role : Text) : Option Bytes32 :=
  StableCoinRole.values.find? fun word => decide (roleText word = role)

/-- `StableCoinRole.CASHIN_ROLE`. -/
def CASHIN_ROLE : Text := roleText cashinRole

example : CASHIN_ROLE =
    "0x53300d27a2268d3ff3ecb0ec8e628321ecfba1a08aed8b817e8acf589a52d25c".toList := by decide +kernel

theorem text_of_role_word {role : Text} {word : Bytes32} (read : roleWord role = some word) :
    role = roleText word := by
  unfold roleWord at read
  have same := List.find?_some read
  exact (of_decide_eq_true same).symm

theorem role_word_cashin {role : Text} : roleWord role = some cashinRole ↔ role = CASHIN_ROLE := by
  constructor
  · exact text_of_role_word
  · intro same
    rw [same]
    exact List.find?_cons_of_pos (decide_eq_true rfl)

/-! ## Validation -/

def includes (vals : List Text) (val : Text) : Bool := vals.any fun other => decide (other = val)

theorem includes_iff {vals : List Text} {val : Text} : includes vals val = true ↔ val ∈ vals := by
  simp [includes]

def checkRole (val : Text) : Check :=
  if roleWord val = none then some [.invalidRole val] else some []

/-- In any mixture of small and capital letters. -/
def checkSupplierType (val : Text) : Check :=
  if includes ["limited".toList, "unlimited".toList] (val.map Char.toLower) = true then some []
  else some [.invalidSupplierType val]

/-- The loop over a list in which nothing may occur again. -/
def checkDistinct (listed : String) (check : Text → Check) : (before : List Text) → List Text → Check
  | _, [] => some []
  | before, val :: rest => do
      let err ← check val
      if err ≠ [] then return err
      if includes before val then
        return [.invalidValue (listed ++ " " ++ String.ofList val ++ " is duplicated")]
      checkDistinct listed check (before ++ [val]) rest

def checkList (listed : String) (check : Text → Check) (vals : List Text) : Check :=
  if vals = [] then some [.invalidValue ("The list of " ++ listed ++ "s cannot be empty.")]
  else checkDistinct listed check [] vals

def checkAll (check : Text → Check) : List Text → Check
  | [] => some []
  | val :: rest => do
      let err ← check val
      if err ≠ [] then return err
      checkAll check rest

section Checks

variable {fixed : Type} (ethers : FixedNumbers fixed)

/-- Amounts are for the cash-in role only. -/
def checkAmounts (roles targetsId amounts : List Text) : Check :=
  if includes roles CASHIN_ROLE = false then some []
  else if amounts.length ≠ targetsId.length then
    some [.invalidValue ("The list of amounts and the list of accounts " ++
      "must contain the same number of items.")]
  else checkAll (checkAmount ethers true 18) amounts

end Checks

/-! ## Requests -/

structure GrantRoleRequest where
  targetId : Text
  tokenId : Text
  role : Option Text
  supplierType : Option Text
  amount : Option Text

structure RevokeRoleRequest where
  targetId : Text
  tokenId : Text
  role : Option Text

structure GrantMultiRolesRequest where
  tokenId : Text
  roles : List Text
  targetsId : List Text
  amounts : Option (List Text)

structure RevokeMultiRolesRequest where
  tokenId : Text
  roles : List Text
  targetsId : List Text

structure IncreaseSupplierAllowanceRequest where
  targetId : Text
  tokenId : Text
  amount : Text

structure DecreaseSupplierAllowanceRequest where
  targetId : Text
  tokenId : Text
  amount : Text

structure ResetSupplierAllowanceRequest where
  targetId : Text
  tokenId : Text

inductive RightRequest where
  | grantRole (request : GrantRoleRequest)
  | revokeRole (request : RevokeRoleRequest)
  | grantMultiRoles (request : GrantMultiRolesRequest)
  | revokeMultiRoles (request : RevokeMultiRolesRequest)
  | increaseAllowance (request : IncreaseSupplierAllowanceRequest)
  | decreaseAllowance (request : DecreaseSupplierAllowanceRequest)
  | resetAllowance (request : ResetSupplierAllowanceRequest)

section Schemas

variable {fixed : Type} (ethers : FixedNumbers fixed)

def GrantRoleRequest.schema (this : GrantRoleRequest) : List Property :=
  [⟨"targetId", false, some (checkHederaIdFormat false this.targetId)⟩,
    ⟨"tokenId", false, some (checkHederaIdFormat false this.tokenId)⟩,
    ⟨"role", false, this.role.map checkRole⟩,
    ⟨"supplierType", true, this.supplierType.map checkSupplierType⟩,
    ⟨"amount", true, this.amount.map (checkAmount ethers false 18)⟩]

def RevokeRoleRequest.schema (this : RevokeRoleRequest) : List Property :=
  [⟨"targetId", false, some (checkHederaIdFormat false this.targetId)⟩,
    ⟨"tokenId", false, some (checkHederaIdFormat false this.tokenId)⟩,
    ⟨"role", false, this.role.map checkRole⟩]

def GrantMultiRolesRequest.schema (this : GrantMultiRolesRequest) : List Property :=
  [⟨"tokenId", false, some (checkHederaIdFormat false this.tokenId)⟩,
    ⟨"targetsId", false, some (checkList "account" (checkHederaIdFormat false) this.targetsId)⟩,
    ⟨"roles", false, some (checkList "role" checkRole this.roles)⟩,
    ⟨"amounts", true, this.amounts.map (checkAmounts ethers this.roles this.targetsId)⟩]

def RevokeMultiRolesRequest.schema (this : RevokeMultiRolesRequest) : List Property :=
  [⟨"tokenId", false, some (checkHederaIdFormat false this.tokenId)⟩,
    ⟨"targetsId", false, some (checkList "account" (checkHederaIdFormat false) this.targetsId)⟩,
    ⟨"roles", false, some (checkList "role" checkRole this.roles)⟩]

def allowanceSchema (targetId tokenId amount : Text) : List Property :=
  [⟨"targetId", false, some (checkHederaIdFormat false targetId)⟩,
    ⟨"tokenId", false, some (checkHederaIdFormat false tokenId)⟩,
    ⟨"amount", false, some (checkAmount ethers false 18 amount)⟩]

def IncreaseSupplierAllowanceRequest.schema (this : IncreaseSupplierAllowanceRequest) :
    List Property :=
  allowanceSchema ethers this.targetId this.tokenId this.amount

def DecreaseSupplierAllowanceRequest.schema (this : DecreaseSupplierAllowanceRequest) :
    List Property :=
  allowanceSchema ethers this.targetId this.tokenId this.amount

def ResetSupplierAllowanceRequest.schema (this : ResetSupplierAllowanceRequest) : List Property :=
  [⟨"targetId", false, some (checkHederaIdFormat false this.targetId)⟩,
    ⟨"tokenId", false, some (checkHederaIdFormat false this.tokenId)⟩]

def RightRequest.schema : RightRequest → List Property
  | grantRole request => request.schema ethers
  | revokeRole request => request.schema
  | grantMultiRoles request => request.schema ethers
  | revokeMultiRoles request => request.schema
  | increaseAllowance request => request.schema ethers
  | decreaseAllowance request => request.schema ethers
  | resetAllowance request => request.schema

end Schemas

/-! ## Port, handlers and operations -/

inductive RightFailure where
  | validationError (responses : List ValidationResponse)
  | invalidId
  | accountsIdNotExists (accounts : List Text)
  | decimalsOverRange (decimals : Nat)
  /-- What the package throws for a number. -/
  | invalidNumber
  /-- What an operation makes of whatever is thrown in it. -/
  | signingError
  /-- What the mirror node's adapter or a query throws. -/
  | noAnswer
deriving DecidableEq

abbrev Sending (result : Type) := Except RightFailure result

structure Connection (fixed : Type) where
  coin : StableCoin fixed
  answers : Answers
  /-- Whether there is an answer for the account. -/
  getAccountInfo : Text → Bool

section Operations

variable {fixed : Type} (ethers : FixedNumbers fixed) (connection : Connection fixed)

/-- The call, if the coin has a proxy. -/
def executeContractCall (params : Option Call) : Sending Call :=
  orThrow .signingError (connection.coin.proxyAddress.bind fun _ => params)

/-- `toBigInt()` as an argument of the contract. -/
def amountWord (amount : fixed) : Option Uint256 := Uint.checked (toBigInt ethers amount)

namespace RoleOperations

def grantRole (targetId : HederaId) (role : Text) : Sending Call :=
  executeContractCall connection do
    let word ← roleWord role
    let account ← resolve connection.answers targetId
    return .grantRole word account

def revokeRole (targetId : HederaId) (role : Text) : Sending Call :=
  executeContractCall connection do
    let word ← roleWord role
    let account ← resolve connection.answers targetId
    return .revokeRole word account

/-- An amount that is not above zero stands for no limit. -/
def formatAmount (amount : fixed) : Option Uint256 := do
  let zero ← BigDecimal.fromString ethers ['0'] none
  if isGreaterThan ethers amount zero then amountWord ethers amount else Uint.checked UINT256_MAX

def grantRoles (targetsId : List HederaId) (roles : List Text) (amounts : List fixed) :
    Sending Call :=
  executeContractCall connection do
    let accounts ← targetsId.mapM (resolve connection.answers)
    let amountsFormatted ← amounts.mapM (formatAmount ethers)
    let words ← roles.mapM roleWord
    return .grantRoles words accounts amountsFormatted

def revokeRoles (targetsId : List HederaId) (roles : List Text) : Sending Call :=
  executeContractCall connection do
    let accounts ← targetsId.mapM (resolve connection.answers)
    let words ← roles.mapM roleWord
    return .revokeRoles words accounts

end RoleOperations

namespace SupplierOperations

def callWithAmount (call : Address → Uint256 → Call) (targetId : HederaId) (amount : fixed) :
    Sending Call :=
  executeContractCall connection do
    let account ← resolve connection.answers targetId
    let word ← amountWord ethers amount
    return call account word

def callWithAccount (call : Address → Call) (targetId : HederaId) : Sending Call :=
  executeContractCall connection do
    let account ← resolve connection.answers targetId
    return call account

def grantSupplierRole : HederaId → fixed → Sending Call :=
  callWithAmount ethers connection .grantSupplierRole

def grantUnlimitedSupplierRole : HederaId → Sending Call :=
  callWithAccount connection .grantUnlimitedSupplierRole

def revokeSupplierRole : HederaId → Sending Call := callWithAccount connection .revokeSupplierRole

def increaseSupplierAllowance : HederaId → fixed → Sending Call :=
  callWithAmount ethers connection .increaseSupplierAllowance

def decreaseSupplierAllowance : HederaId → fixed → Sending Call :=
  callWithAmount ethers connection .decreaseSupplierAllowance

def resetSupplierAllowance : HederaId → Sending Call :=
  callWithAccount connection .resetSupplierAllowance

end SupplierOperations

/-! The handlers of the commands. -/

def idOf (value : Text) : Sending HederaId := orThrow .invalidId (HederaId.new value)

def amountOfCommand (amount : Text) : Sending fixed :=
  orThrow .invalidNumber (BigDecimal.fromString ethers amount (some connection.coin.decimals))

/-- The handlers of the commands that change an allowance. -/
def allowanceCommand (operation : HederaId → fixed → Sending Call) (amount : Text)
    (targetId : HederaId) : Sending Call := do
  let more ← orThrow .invalidNumber
    (hasMoreDecimals ethers amount connection.coin.decimals)
  throwWhen (more = true) (.decimalsOverRange connection.coin.decimals)
  let number ← amountOfCommand ethers connection amount
  operation targetId number

def increaseAllowanceCommand : (amount : Text) → (targetId : HederaId) → Sending Call :=
  allowanceCommand ethers connection (SupplierOperations.increaseSupplierAllowance ethers connection)

def decreaseAllowanceCommand : (amount : Text) → (targetId : HederaId) → Sending Call :=
  allowanceCommand ethers connection (SupplierOperations.decreaseSupplierAllowance ethers connection)

/-- The accounts of a list that the mirror node does not know. -/
def checkAccounts (targetsId : List HederaId) : Sending Unit :=
  let noExistsAccounts := (targetsId.map HederaId.value).filter fun id =>
    !connection.getAccountInfo id
  throwWhen (noExistsAccounts ≠ []) (.accountsIdNotExists noExistsAccounts)

def grantMultiRolesCommand (roles : List Text) (targetsId : List HederaId) (amounts : List Text) :
    Sending Call := do
  checkAccounts connection targetsId
  let amountsFormatted ← orThrow .invalidNumber
    (amounts.mapM fun amount =>
      BigDecimal.fromString ethers amount (some connection.coin.decimals))
  RoleOperations.grantRoles ethers connection targetsId roles amountsFormatted

def revokeMultiRolesCommand (roles : List Text) (targetsId : List HederaId) : Sending Call := do
  checkAccounts connection targetsId
  RoleOperations.revokeRoles connection targetsId roles

/-! The functions of the port, after the validation. -/

/-- Any supplier type but the very text `limited` stands for no limit. -/
def grantRole (request : GrantRoleRequest) : Sending Call := do
  let targetId ← idOf request.targetId
  let _ ← idOf request.tokenId
  if request.role = some CASHIN_ROLE then
    if request.supplierType = some "limited".toList then
      -- No text is none that the package reads.
      let amount ← amountOfCommand ethers connection (request.amount.getD [])
      SupplierOperations.grantSupplierRole ethers connection targetId amount
    else SupplierOperations.grantUnlimitedSupplierRole connection targetId
  else RoleOperations.grantRole connection targetId (request.role.getD [])

def revokeRole (request : RevokeRoleRequest) : Sending Call := do
  let targetId ← idOf request.targetId
  let _ ← idOf request.tokenId
  if request.role = some CASHIN_ROLE then
    SupplierOperations.revokeSupplierRole connection targetId
  else RoleOperations.revokeRole connection targetId (request.role.getD [])

def grantMultiRoles (request : GrantMultiRolesRequest) : Sending Call := do
  let targetsId ← orThrow .invalidId (request.targetsId.mapM HederaId.new)
  let _ ← idOf request.tokenId
  grantMultiRolesCommand ethers connection request.roles targetsId (request.amounts.getD [])

def revokeMultiRoles (request : RevokeMultiRolesRequest) : Sending Call := do
  let targetsId ← orThrow .invalidId (request.targetsId.mapM HederaId.new)
  let _ ← idOf request.tokenId
  revokeMultiRolesCommand connection request.roles targetsId

def increaseAllowance (request : IncreaseSupplierAllowanceRequest) : Sending Call := do
  let targetId ← idOf request.targetId
  let _ ← idOf request.tokenId
  increaseAllowanceCommand ethers connection request.amount targetId

def decreaseAllowance (request : DecreaseSupplierAllowanceRequest) : Sending Call := do
  let targetId ← idOf request.targetId
  let _ ← idOf request.tokenId
  decreaseAllowanceCommand ethers connection request.amount targetId

def resetAllowance (request : ResetSupplierAllowanceRequest) : Sending Call := do
  let targetId ← idOf request.targetId
  let _ ← idOf request.tokenId
  SupplierOperations.resetSupplierAllowance connection targetId

def RightRequest.send (request : RightRequest) : Sending Call := do
  throwWhen (validate (request.schema ethers) ≠ [])
    (.validationError (validate (request.schema ethers)))
  match request with
  | grantRole request => RightRequests.grantRole ethers connection request
  | revokeRole request => RightRequests.revokeRole connection request
  | grantMultiRoles request => RightRequests.grantMultiRoles ethers connection request
  | revokeMultiRoles request => RightRequests.revokeMultiRoles connection request
  | increaseAllowance request => RightRequests.increaseAllowance ethers connection request
  | decreaseAllowance request => RightRequests.decreaseAllowance ethers connection request
  | resetAllowance request => RightRequests.resetAllowance connection request

end Operations

/-! ## Queries -/

section Queries

variable {fixed world : Type} (ethers : FixedNumbers fixed) (connection : Connection fixed)
  (state : State world)

def queried (targetId : Text) : Sending Address := do
  let id ← idOf targetId
  let _ ← orThrow .noAnswer connection.coin.evmProxyAddress
  orThrow .noAnswer (connection.answers.accountToEvmAddress id.value)

def hasRole (targetId role : Text) : Sending Bool := do
  let account ← queried connection targetId
  let word ← orThrow .noAnswer (roleWord role)
  return RolesStorage.hasRole state.roles word account

def isUnlimited (targetId : Text) : Sending Bool := do
  let account ← queried connection targetId
  return state.supplierAdmin.unlimitedSupplierAllowances account

def isLimited (targetId : Text) : Sending Bool := do
  let hasRole ← hasRole connection state targetId CASHIN_ROLE
  let unlimited ← isUnlimited connection state targetId
  return hasRole && !unlimited

def getAllowance (targetId : Text) : Sending fixed := do
  let account ← queried connection targetId
  let res := state.supplierAdmin.supplierAllowances account
  orThrow .invalidNumber
    (fromStringFixed ethers (integerDigits res.toNat) connection.coin.decimals)

end Queries

end StablecoinStudio.Sdk.RightRequests
