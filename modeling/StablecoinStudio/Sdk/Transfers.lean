import StablecoinStudio.Sdk.CashIn

/-!
# The targets of a multi-transfer

The check that a cash-in makes of its target is made for every target of a
multi-transfer. The association is looked up for the account of the loop, the
free slots and the name in an error are those of `targetId`, the other account
of the command.
-/

namespace StablecoinStudio.Sdk.Transfers

open StablecoinStudio.Foundation.DecimalTexts
open StablecoinStudio.Sdk.CashIn
open StablecoinStudio.Sdk.FixedNumber
open StablecoinStudio.Sdk.StableCoins

set_option autoImplicit false

structure Accounts (fixed : Type) where
  tokenRelationship : String → Option (AccountTokenRelation fixed)
  autoAssociation : String → Option AccountAutoAssociation

/-- `TransfersCommand`, and the decimals and the id of the coin. -/
structure Command where
  amounts : List Text
  targetsIds : List String
  tokenId : String
  targetId : String
  decimals : Nat
  coinTokenId : Option String

section Handler

variable {fixed : Type} (ethers : FixedNumbers fixed) (accounts : Accounts fixed)
  (command : Command)

/-- A round of the loop over the targets. -/
def checkTarget (account : String) : Checked Unit :=
  match accounts.tokenRelationship account with
  | none =>
      match accounts.autoAssociation command.targetId with
      | none => .error (.stableCoinNotAssociated command.targetId command.tokenId)
      | some autoAssociationInfo => do
          let max := autoAssociationInfo.maxAutoAssociations.getD 0
          let remaining := autoAssociationInfo.remainingAutoAssociations.getD 0
          refuseWhen (max = 0) (.stableCoinNotAssociated command.targetId command.tokenId)
          refuseWhen (¬(max = -1 ∨ remaining = -1) ∧ remaining ≤ 0)
            (.stableCoinMaxAutoAssociationReached command.targetId max)
  | some tokenRelationship => do
      refuseWhen (tokenRelationship.freezeStatus = .frozen) (.accountFreeze command.targetId)
      refuseWhen (tokenRelationship.kycStatus = .revoked) (.accountNotKyc command.targetId)

def checkTargets : List String → Checked Unit
  | [] => .ok ()
  | account :: rest => do
      checkTarget accounts command account
      checkTargets rest

def parsedAmounts : List Text → Checked (List fixed)
  | [] => .ok []
  | amount :: rest => do
      checkDecimals ethers amount command.decimals
      let amountBd ← parsedAmount ethers amount command.decimals
      let others ← parsedAmounts rest
      return amountBd :: others

/-- The amounts with which `handler.transfers` is called. -/
def execute : Checked (List fixed) := do
  checkTargets accounts command command.targetsIds
  refuseWhen (command.coinTokenId = none) (.operationNotAllowed "The stablecoin is not valid")
  parsedAmounts ethers command command.amounts

/-- The cash-in of the same token to one account. -/
def cashInTo (request : Request fixed) (account : String) : Request fixed :=
  { request with
    tokenId := command.tokenId
    targetId := account
    tokenRelationship := accounts.tokenRelationship account
    autoAssociation := accounts.autoAssociation account }

end Handler

/-! ## Who can receive -/

def named : Failure → Option String
  | .stableCoinNotAssociated targetId _ => some targetId
  | .stableCoinMaxAutoAssociationReached targetId _ => some targetId
  | .accountFreeze targetId => some targetId
  | .accountNotKyc targetId => some targetId
  | _ => none

def Slot (info : Option AccountAutoAssociation) : Prop :=
  ∃ known, info = some known ∧ known.maxAutoAssociations.getD 0 ≠ 0 ∧
    (known.maxAutoAssociations.getD 0 = -1 ∨ known.remainingAutoAssociations.getD 0 = -1 ∨
      0 < known.remainingAutoAssociations.getD 0)

section Accounts

variable {fixed : Type}

/-- Associated and neither frozen nor revoked, or not associated with a slot. -/
def Receives (relation : Option (AccountTokenRelation fixed))
    (slots : Option AccountAutoAssociation) : Prop :=
  match relation with
  | none => Slot slots
  | some known => known.freezeStatus ≠ .frozen ∧ known.kycStatus ≠ .revoked

variable {request : Request fixed} {failure : Failure}

theorem check_slot_ok {known : AccountAutoAssociation} {first second : Failure} :
    ((do
      let max := known.maxAutoAssociations.getD 0
      let remaining := known.remainingAutoAssociations.getD 0
      refuseWhen (max = 0) first
      refuseWhen (¬(max = -1 ∨ remaining = -1) ∧ remaining ≤ 0) second : Checked Unit) = .ok ()) ↔
      Slot (some known) := by
  dsimp only
  rw [bind_ok]
  simp only [refuse_when_ok]
  unfold Slot
  constructor
  · intro passed
    obtain ⟨_, some_, free⟩ := passed
    refine ⟨known, rfl, some_, ?_⟩
    omega
  · intro slot
    obtain ⟨_, same, some_, free⟩ := slot
    obtain rfl := Option.some.inj same
    refine ⟨(), some_, ?_⟩
    omega

theorem check_association_ok : checkAssociation request = .ok () ↔
    Receives request.tokenRelationship request.autoAssociation := by
  unfold checkAssociation Receives
  cases request.tokenRelationship with
  | none =>
      cases request.autoAssociation with
      | none =>
          constructor
          · intro impossible
            cases impossible
          · intro slot
            cases slot.choose_spec.1
      | some known => exact check_slot_ok
  | some known =>
      dsimp only
      rw [bind_ok]
      simp only [refuse_when_ok, exists_const]

theorem check_association_names (failed : checkAssociation request = .error failure) :
    named failure = some request.targetId := by
  unfold checkAssociation at failed
  split at failed
  · split at failed
    · obtain rfl := Except.error.inj failed
      rfl
    · dsimp only at failed
      rcases bind_error.mp failed with first | ⟨_, _, second⟩
      · obtain ⟨_, rfl⟩ := refuse_when_error.mp first
        rfl
      · obtain ⟨_, rfl⟩ := refuse_when_error.mp second
        rfl
  · rcases bind_error.mp failed with first | ⟨_, _, second⟩
    · obtain ⟨_, rfl⟩ := refuse_when_error.mp first
      rfl
    · obtain ⟨_, rfl⟩ := refuse_when_error.mp second
      rfl

end Accounts

/-! ## The loop -/

section Loop

variable {fixed : Type} {accounts : Accounts fixed} {command : Command} {request : Request fixed}
  {account : String} {targets : List String} {failure : Failure}

/-- A round is the check of a cash-in to `targetId`, but for the relation. -/
theorem check_target_eq (request : Request fixed) : checkTarget accounts command account =
    checkAssociation
      { cashInTo accounts command request command.targetId with
        tokenRelationship := accounts.tokenRelationship account } := rfl

theorem check_targets_ok : checkTargets accounts command targets = .ok () ↔
    ∀ account ∈ targets, checkTarget accounts command account = .ok () := by
  induction targets with
  | nil => simp [checkTargets]
  | cons account rest ih =>
      rw [checkTargets, bind_ok, List.forall_mem_cons, ih]
      constructor
      · intro passed
        obtain ⟨_, first, others⟩ := passed
        exact ⟨first, others⟩
      · intro passed
        exact ⟨(), passed⟩

theorem check_targets_error (failed : checkTargets accounts command targets = .error failure) :
    ∃ account ∈ targets, checkTarget accounts command account = .error failure := by
  induction targets with
  | nil => cases failed
  | cons account rest ih =>
      rw [checkTargets] at failed
      rcases bind_error.mp failed with first | ⟨_, _, later⟩
      · exact ⟨account, List.mem_cons_self .., first⟩
      · obtain ⟨other, member, raised⟩ := ih later
        exact ⟨other, List.mem_cons_of_mem _ member, raised⟩

end Loop

section Agreement

variable {fixed : Type} (accounts : Accounts fixed) (command : Command) (request : Request fixed)

/-- The targets pass together when each passes alone, and an error names one
that does not. -/
structure TargetsAgree : Prop where
  passes : checkTargets accounts command command.targetsIds = .ok () ↔
    ∀ account ∈ command.targetsIds,
      checkAssociation (cashInTo accounts command request account) = .ok ()
  names : ∀ failure, checkTargets accounts command command.targetsIds = .error failure →
    ∃ account ∈ command.targetsIds, named failure = some account ∧
      checkAssociation (cashInTo accounts command request account) ≠ .ok ()

def ReceivesAlone (account : String) : Prop :=
  Receives (accounts.tokenRelationship account) (accounts.autoAssociation account)

structure AllReceive : Prop where
  each : ∀ account ∈ command.targetsIds, ReceivesAlone accounts account
  slot : (∀ account ∈ command.targetsIds, accounts.tokenRelationship account ≠ none) ∨
    Slot (accounts.autoAssociation command.targetId)

/-- `targetId` is itself a target and cannot receive. -/
structure NamedFails : Prop where
  listed : command.targetId ∈ command.targetsIds
  fails : ¬ReceivesAlone accounts command.targetId

variable {accounts command request}

/-- What the loop asks of a target: its relation, or the slots of `targetId`. -/
theorem check_target_ok (request : Request fixed) {account : String} :
    checkTarget accounts command account = .ok () ↔
      Receives (accounts.tokenRelationship account)
        (accounts.autoAssociation command.targetId) := by
  rw [check_target_eq request]
  exact check_association_ok

theorem targets_agree_of_all_receive (receive : AllReceive accounts command) :
    TargetsAgree accounts command request := by
  have alone : ∀ account ∈ command.targetsIds,
      checkAssociation (cashInTo accounts command request account) = .ok () :=
    fun account member => check_association_ok.mpr (receive.each account member)
  have passed : checkTargets accounts command command.targetsIds = .ok () := by
    rw [check_targets_ok]
    intro account member
    rw [check_target_ok request]
    have own := receive.each account member
    unfold ReceivesAlone at own
    cases relation : accounts.tokenRelationship account with
    | none =>
        rcases receive.slot with associated | slot
        · exact absurd relation (associated account member)
        · exact slot
    | some known =>
        rw [relation] at own
        exact own
  refine ⟨⟨fun _ => alone, fun _ => passed⟩, ?_⟩
  intro failure failed
  rw [passed] at failed
  cases failed

theorem targets_agree_of_named_fails (described : NamedFails accounts command) :
    TargetsAgree accounts command request := by
  have refused : checkAssociation (cashInTo accounts command request command.targetId) ≠ .ok () :=
    fun passed => described.fails (check_association_ok.mp passed)
  constructor
  · constructor
    · intro passed
      have own := (check_target_ok request).mp
        (check_targets_ok.mp passed command.targetId described.listed)
      exact absurd own described.fails
    · intro alone
      exact absurd (alone command.targetId described.listed) refused
  · intro failure failed
    obtain ⟨account, _, raised⟩ := check_targets_error failed
    rw [check_target_eq request] at raised
    exact ⟨command.targetId, described.listed, check_association_names raised, refused⟩

end Agreement

/-- The loop agrees with the single checks where all targets can receive and
`targetId` has a slot if one is needed, and where `targetId` is itself a target
that cannot receive. -/
theorem targets_agree_iff {fixed : Type} (accounts : Accounts fixed) (command : Command)
    (request : Request fixed) :
    TargetsAgree accounts command request ↔
      AllReceive accounts command ∨ NamedFails accounts command := by
  constructor
  · intro agree
    cases outcome : checkTargets accounts command command.targetsIds with
    | ok _ =>
        left
        have alone := agree.passes.mp outcome
        refine ⟨fun account member => check_association_ok.mp (alone account member), ?_⟩
        by_contra needed
        obtain ⟨unassociated, full⟩ := not_or.mp needed
        simp only [not_forall, not_not] at unassociated
        obtain ⟨account, member, relation⟩ := unassociated
        have slot := (check_target_ok request).mp (check_targets_ok.mp outcome account member)
        rw [relation] at slot
        exact full slot
    | error failure =>
        right
        obtain ⟨account, member, same, refused⟩ := agree.names failure outcome
        obtain ⟨_, _, raised⟩ := check_targets_error outcome
        rw [check_target_eq request] at raised
        have isTarget : command.targetId = account :=
          Option.some.inj ((check_association_names raised).symm.trans same)
        subst isTarget
        exact ⟨member, fun receives => refused (check_association_ok.mpr receives)⟩
  · intro described
    rcases described with receive | fails
    · exact targets_agree_of_all_receive receive
    · exact targets_agree_of_named_fails fails

/-! ## Two accounts -/

/-- No account is associated, and account 2 alone has slots, without limit. -/
def sampleAccounts : Accounts ExactNumber where
  tokenRelationship _ := none
  autoAssociation account :=
    if account = "0.0.2" then some ⟨some (-1), 0, some (-1)⟩ else some ⟨some 0, 0, some 0⟩

def sampleCommand : Command where
  amounts := [['5']]
  targetsIds := ["0.0.5"]
  tokenId := "0.0.9"
  targetId := "0.0.2"
  decimals := 2
  coinTokenId := some "0.0.9"

/-- The transfer is let through to an account that cannot receive it. -/
theorem foreign_slots_counted :
    execute exactNumbers sampleAccounts sampleCommand = .ok [⟨500, 2⟩] ∧
      ¬TargetsAgree sampleAccounts sampleCommand (sampleRequest 1050) := by
  refine ⟨by decide +kernel, ?_⟩
  intro agree
  have alone := agree.passes.mp rfl "0.0.5" (List.mem_singleton.mpr rfl)
  revert alone
  decide

end StablecoinStudio.Sdk.Transfers
