import StablecoinStudio.Foundation.KeyedTables
import StablecoinStudio.Sdk.TokenKeys

/-!
# Capabilities

The operations that an account can ask for on a token, each through the token
service or through the contract. The decision is the first entry of a list; it
should be the contract only where the contract of the coin holds the key.
-/

namespace StablecoinStudio.Sdk.Capabilities

open StablecoinStudio.Backend.Utils
open StablecoinStudio.Foundation.DecimalTexts
open StablecoinStudio.Foundation.KeyedTables
open StablecoinStudio.Sdk.TokenKeys

set_option autoImplicit false

inductive Operation
  | cashIn
  | burn
  | wipe
  | freeze
  | unfreeze
  | pause
  | unpause
  | delete
  | rescue
  | rescueHbar
  | roleManagement
  | roleAdminManagement
  | reserveManagement
  | updateConfigVersion
  | updateConfig
  | updateResolver
  | createHold
  | controllerCreateHold
  | releaseHold
  | executeHold
  | reclaimHold
  | grantKyc
  | revokeKyc
  | createCustomFee
  | removeCustomFee
  | transfers
  | update
deriving DecidableEq

inductive Access
  | hts
  | contract
deriving DecidableEq

structure Capability where
  operation : Operation
  access : Access
deriving DecidableEq

inductive Decision
  | forbidden
  | hts
  | contract
deriving DecidableEq

structure Account where
  publicKey : Option PublicKey

def MAX_CUSTOM_FEES : Nat := 10

/-! ## `StableCoinService.getCapabilities` -/

def pushed {item : Type} (condition : Bool) (items : List item) : List item :=
  if condition then items else []

/-- `key instanceof PublicKey && key.key.toString() === account.publicKey?.key`. -/
def isKeyOf (account : Account) : Option Key → Bool
  | some (.publicKey key) => account.publicKey.map PublicKey.key = some key.key
  | _ => false

/-- `key instanceof HederaId`. -/
def isContract : Option Key → Bool
  | some (.contractId _) => true
  | _ => false

/-- What a key is good for: through the service for its owner, and through the
contract where it is a contract. -/
def keyCapabilities (account : Account) (condition : Bool) (key : Option Key)
    (operations : List Operation) : List Capability :=
  pushed (condition && isKeyOf account key) (operations.map fun operation => ⟨operation, .hts⟩) ++
    pushed (condition && isContract key) (operations.map fun operation => ⟨operation, .contract⟩)

def feeOperations : Option Nat → List Operation
  | none => []
  | some customFees =>
      pushed (decide (customFees < MAX_CUSTOM_FEES)) [.createCustomFee] ++
        pushed (decide (0 < customFees)) [.removeCustomFee]

/-- The texts of the supply key and of the treasury. -/
def isTreasuryKey (coin : StableCoinDetail) : Bool :=
  coin.supplyKey.map Key.toString = coin.treasury.map HederaId.value

def unconditional : List Capability :=
  [⟨.roleManagement, .contract⟩, ⟨.roleAdminManagement, .contract⟩, ⟨.reserveManagement, .contract⟩,
    ⟨.rescueHbar, .contract⟩, ⟨.updateConfigVersion, .contract⟩, ⟨.updateConfig, .contract⟩,
    ⟨.updateResolver, .contract⟩]

def holdCapabilities : List Capability :=
  [⟨.createHold, .contract⟩, ⟨.controllerCreateHold, .contract⟩, ⟨.releaseHold, .contract⟩,
    ⟨.executeHold, .contract⟩, ⟨.reclaimHold, .contract⟩]

def getCapabilities (account : Account) (coin : StableCoinDetail)
    (tokenIsPaused tokenIsDeleted : Option Bool) : List Capability :=
  let paused := tokenIsPaused.getD coin.paused
  let deleted := tokenIsDeleted.getD coin.deleted
  let operable := !deleted && !paused
  pushed operable [⟨.rescue, .contract⟩] ++
  pushed (operable && isTreasuryKey coin) [⟨.cashIn, .contract⟩, ⟨.burn, .contract⟩] ++
  pushed (operable && isKeyOf account coin.supplyKey) [⟨.cashIn, .hts⟩, ⟨.burn, .hts⟩] ++
  keyCapabilities account operable coin.wipeKey [.wipe] ++
  keyCapabilities account (!deleted) coin.pauseKey [.pause, .unpause] ++
  keyCapabilities account operable coin.freezeKey [.freeze, .unfreeze] ++
  keyCapabilities account operable coin.adminKey [.delete, .update] ++
  keyCapabilities account operable coin.kycKey [.grantKyc, .revokeKyc] ++
  keyCapabilities account operable coin.feeScheduleKey (feeOperations coin.customFees) ++
  unconditional ++
  pushed (operable && isContract coin.supplyKey && isContract coin.wipeKey) holdCapabilities

/-- `CapabilityDecider.getAccessDecision`. -/
def getAccessDecision (capabilities : List Capability) (operation : Operation) : Decision :=
  match capabilities.find? fun capability => capability.operation = operation with
  | none => .forbidden
  | some capability => if capability.access = .contract then .contract else .hts

/-! ## Which operations are listed -/

def tiedKey : Operation → Option TokenKey
  | .cashIn | .burn => some .supply
  | .wipe => some .wipe
  | .pause | .unpause => some .pause
  | .freeze | .unfreeze => some .freeze
  | .grantKyc | .revokeKyc => some .kyc
  | .delete | .update => some .admin
  | .createCustomFee | .removeCustomFee => some .feeSchedule
  | _ => none

def StatusAllows (operation : Operation) (paused deleted : Bool) : Prop :=
  deleted = false ∧ (paused = true → operation = .pause ∨ operation = .unpause)

def FeesAllow (operation : Operation) (customFees : Option Nat) : Prop :=
  (operation = .createCustomFee → ∃ count, customFees = some count ∧ count < MAX_CUSTOM_FEES) ∧
    (operation = .removeCustomFee → ∃ count, customFees = some count ∧ 0 < count)

section Listed

variable {account : Account} {coin : StableCoinDetail} {tokenIsPaused tokenIsDeleted : Option Bool}
  {operation : Operation} {key : TokenKey}

@[simp] theorem mem_pushed {item : Type} {condition : Bool} {items : List item} {entry : item} :
    entry ∈ pushed condition items ↔ condition = true ∧ entry ∈ items := by
  unfold pushed
  split
  · next holds => simp [holds]
  · next fails => simp [fails]

@[simp] theorem mem_key_capabilities {condition : Bool} {held : Option Key}
    {operations : List Operation} {access : Access} :
    ⟨operation, access⟩ ∈ keyCapabilities account condition held operations ↔
      condition = true ∧ operation ∈ operations ∧
        (access = .hts ∧ isKeyOf account held = true ∨
          access = .contract ∧ isContract held = true) := by
  cases access with
  | hts =>
      have listed : ⟨operation, .hts⟩ ∈ keyCapabilities account condition held operations ↔
          operation ∈ operations ∧ condition = true ∧ isKeyOf account held = true := by
        simp [keyCapabilities, and_comm]
      simpa using listed.trans and_left_comm
  | contract =>
      have listed : ⟨operation, .contract⟩ ∈ keyCapabilities account condition held operations ↔
          operation ∈ operations ∧ condition = true ∧ isContract held = true := by
        simp [keyCapabilities, and_comm]
      simpa using listed.trans and_left_comm

def ListedFor (account : Account) (coin : StableCoinDetail) (key : TokenKey) : Access → Prop
  | .hts => isKeyOf account (coin.key key) = true
  | .contract =>
      if key = .supply then isTreasuryKey coin = true else isContract (coin.key key) = true

theorem mem_fee_operations {customFees : Option Nat} :
    operation ∈ feeOperations customFees ↔
      (operation = .createCustomFee ∨ operation = .removeCustomFee) ∧
        FeesAllow operation customFees := by
  unfold FeesAllow
  cases customFees with
  | none => cases operation <;> simp [feeOperations]
  | some count => cases operation <;> simp [feeOperations]

theorem mem_capabilities_iff (tied : tiedKey operation = some key) {access : Access} :
    ⟨operation, access⟩ ∈ getCapabilities account coin tokenIsPaused tokenIsDeleted ↔
      StatusAllows operation (tokenIsPaused.getD coin.paused) (tokenIsDeleted.getD coin.deleted) ∧
        FeesAllow operation coin.customFees ∧ ListedFor account coin key access := by
  -- one look at the list for each operation and access; those tied to no key drop out
  cases operation <;> cases tied <;> cases access <;>
    simp [getCapabilities, unconditional, holdCapabilities, mem_fee_operations, StatusAllows,
      FeesAllow, ListedFor, StableCoinDetail.key, and_assoc]

theorem not_listed_for_both (treasury : coin.treasury ≠ none)
    (owner : ListedFor account coin key .hts) : ¬ListedFor account coin key .contract := by
  unfold ListedFor at owner ⊢
  dsimp only at owner ⊢
  cases held : coin.key key with
  | none =>
      rw [held] at owner
      cases owner
  | some found =>
      cases found with
      | contractId id =>
          rw [held] at owner
          cases owner
      | publicKey publicKey =>
          split
          · next isSupply =>
              subst isSupply
              intro same
              obtain ⟨id, given⟩ := Option.ne_none_iff_exists'.mp treasury
              have supply : coin.supplyKey = some (.publicKey publicKey) := held
              unfold isTreasuryKey at same
              rw [supply, given, decide_eq_true_eq] at same
              exact public_key_ne_id publicKey id (Option.some.inj same)
          · exact Bool.false_ne_true

end Listed

/-! ## The decision -/

section Decisions

variable {account : Account} {coin : StableCoinDetail} {tokenIsPaused tokenIsDeleted : Option Bool}
  {capabilities : List Capability} {operation : Operation} {key : TokenKey}

def Access.decision : Access → Decision
  | .hts => .hts
  | .contract => .contract

theorem decision_of_first_match : getAccessDecision capabilities operation =
    ((firstMatch Capability.operation Capability.access capabilities operation).map
      Access.decision).getD .forbidden := by
  unfold getAccessDecision firstMatch
  cases capabilities.find? fun capability => capability.operation = operation with
  | none => rfl
  | some capability =>
      obtain ⟨operation, access⟩ := capability
      cases access <;> rfl

theorem listed_agree (treasury : coin.treasury ≠ none) (tied : tiedKey operation = some key) :
    AgreeOn Capability.operation Capability.access
      (getCapabilities account coin tokenIsPaused tokenIsDeleted) operation := by
  intro first firstListed second secondListed firstIs secondIs
  obtain ⟨firstOperation, firstAccess⟩ := first
  obtain ⟨secondOperation, secondAccess⟩ := second
  obtain rfl : firstOperation = operation := firstIs
  obtain rfl : secondOperation = firstOperation := secondIs
  have firstFor := ((mem_capabilities_iff tied).mp firstListed).2.2
  have secondFor := ((mem_capabilities_iff tied).mp secondListed).2.2
  cases firstAccess with
  | hts =>
      cases secondAccess with
      | hts => rfl
      | contract => exact absurd secondFor (not_listed_for_both treasury firstFor)
  | contract =>
      cases secondAccess with
      | hts => exact absurd firstFor (not_listed_for_both treasury secondFor)
      | contract => rfl

theorem decision_iff (treasury : coin.treasury ≠ none) (tied : tiedKey operation = some key)
    (access : Access) :
    getAccessDecision (getCapabilities account coin tokenIsPaused tokenIsDeleted) operation =
        access.decision ↔
      ⟨operation, access⟩ ∈ getCapabilities account coin tokenIsPaused tokenIsDeleted := by
  have agree : AgreeOn Capability.operation Capability.access
      (getCapabilities account coin tokenIsPaused tokenIsDeleted) operation :=
    listed_agree treasury tied
  have found := first_match_some agree access
  have listed : (∃ entry ∈ getCapabilities account coin tokenIsPaused tokenIsDeleted,
      entry.operation = operation ∧ entry.access = access) ↔
      ⟨operation, access⟩ ∈ getCapabilities account coin tokenIsPaused tokenIsDeleted := by
    constructor
    · intro given
      obtain ⟨entry, member, rfl, rfl⟩ := given
      exact member
    · intro member
      exact ⟨_, member, rfl, rfl⟩
  rw [decision_of_first_match, ← listed, ← found]
  cases firstMatch Capability.operation Capability.access
      (getCapabilities account coin tokenIsPaused tokenIsDeleted) operation with
  | none => cases access <;> simp [Access.decision]
  | some other => cases access <;> cases other <;> simp [Access.decision]

theorem forbidden_of_unlisted
    (unlisted : ∀ access, ⟨operation, access⟩ ∉ capabilities) :
    getAccessDecision capabilities operation = .forbidden := by
  have nothing : firstMatch Capability.operation Capability.access capabilities operation = none :=
    first_match_none.mpr fun capability member same =>
      unlisted capability.access (by rw [← same]; exact member)
  rw [decision_of_first_match, nothing]
  rfl

end Decisions

/-! ## Soundness -/

section Soundness

variable (decode : Bytes → Option ProtoKey) (account : Account) (data : TokenDetail)
  (tokenIsPaused tokenIsDeleted : Option Bool) (operation : Operation) (key : TokenKey)

def IsContractKey (val : IPublicKey) (id : Text) : Prop :=
  val.type = PROTOBUF_ENCODED ∧ ∃ contract : ContractID,
    (decode (keyBytes val.key) = some (.contractID contract) ∨
      decode (keyBytes val.key) = some (.delegatableContractId contract)) ∧
    contract.text = some id

/-- The key is the public key of the account: the same hexadecimal digits. -/
def IsAccountKey (val : IPublicKey) : Prop :=
  val.type ≠ PROTOBUF_ENCODED ∧ ∃ publicKey, account.publicKey = some publicKey ∧
    publicKey.key = formatKey val.key

def isPaused : Bool := tokenIsPaused.getD (data.pauseStatus = "PAUSED")

def isDeleted : Bool := tokenIsDeleted.getD data.deleted

structure Sound (capabilities : List Capability) : Prop where
  contract : getAccessDecision capabilities operation = .contract →
    ∃ val, data.key key = some val ∧ IsContractKey decode val data.proxyId
  hts : getAccessDecision capabilities operation = .hts →
    ∃ val, data.key key = some val ∧ IsAccountKey account val
  notBoth : ¬(⟨operation, .hts⟩ ∈ capabilities ∧ ⟨operation, .contract⟩ ∈ capabilities)
  anyOrder : ∀ other : List Capability, other.Perm capabilities →
    getAccessDecision other operation = getAccessDecision capabilities operation
  deleted : isDeleted data tokenIsDeleted = true →
    getAccessDecision capabilities operation = .forbidden
  paused : isPaused data tokenIsPaused = true → operation ≠ .pause → operation ≠ .unpause →
    getAccessDecision capabilities operation = .forbidden

/-- An encoded key that is not the contract of the coin, for an operation that
the status and the fees allow; the supply key only where it is read as the
treasury. -/
structure Misgranted (val : IPublicKey) : Prop where
  status : StatusAllows operation (isPaused data tokenIsPaused) (isDeleted data tokenIsDeleted)
  fees : FeesAllow operation data.customFees
  reported : data.key key = some val
  encoded : val.type = PROTOBUF_ENCODED
  foreign : ¬IsContractKey decode val data.proxyId
  treasury : key = .supply → ∃ out, decode (keyBytes val.key) = some out ∧
    data.treasuryAccountId = some (contractText out)

variable {decode account data tokenIsPaused tokenIsDeleted operation key} {coin : StableCoinDetail}

theorem reported_of_contract (read : Read decode data coin)
    (held : isContract (coin.key key) = true) :
    ∃ val, data.key key = some val ∧ val.type = PROTOBUF_ENCODED := by
  have given := read.key key
  cases reported : data.key key with
  | none =>
      rw [reported] at given
      rw [← Option.some.inj given] at held
      cases held
  | some val =>
      rw [reported] at given
      unfold isContract at held
      split at held
      · next id found =>
          rw [found] at given
          exact ⟨val, rfl, (contract_of_read given).mp ⟨id, rfl⟩⟩
      · cases held

theorem contract_of_reported (read : Read decode data coin) {val : IPublicKey}
    (reported : data.key key = some val) (encoded : val.type = PROTOBUF_ENCODED) :
    ∃ id, coin.key key = some (.contractId id) := by
  have given := read.key key
  rw [reported] at given
  have shape := given
  rw [getKeyOrDefault, if_pos encoded] at shape
  obtain ⟨id, _, same⟩ := Option.map_eq_some_iff.mp shape
  exact ⟨id, same.symm⟩

theorem account_key_of_listed (read : Read decode data coin)
    (owner : isKeyOf account (coin.key key) = true) :
    ∃ val, data.key key = some val ∧ IsAccountKey account val := by
  have given := read.key key
  unfold isKeyOf at owner
  split at owner
  · next publicKey found =>
      rw [found] at given
      cases reported : data.key key with
      | none =>
          rw [reported] at given
          cases given
      | some val =>
          rw [reported] at given
          obtain ⟨plain, digits⟩ := public_key_of_read given
          obtain ⟨mine, held, same⟩ := Option.map_eq_some_iff.mp (of_decide_eq_true owner)
          exact ⟨val, rfl, plain, mine, held, same.trans digits⟩
  · cases owner

theorem treasury_ne_none (read : Read decode data coin) : coin.treasury ≠ none := by
  obtain ⟨treasury, held, _⟩ := read.treasury
  rw [held]
  exact Option.some_ne_none treasury

/-- The supply key is listed for the contract as the text of the treasury. -/
theorem treasury_key_iff (read : Read decode data coin) :
    isTreasuryKey coin = true ↔ ∃ val out, data.key .supply = some val ∧
      val.type = PROTOBUF_ENCODED ∧ decode (keyBytes val.key) = some out ∧
      data.treasuryAccountId = some (contractText out) := by
  obtain ⟨id, held, sameText⟩ := read.treasury
  have same : isTreasuryKey coin = true ↔ coin.supplyKey.map Key.toString = some id.value := by
    rw [isTreasuryKey, held, decide_eq_true_eq]
    rfl
  rw [same]
  constructor
  · intro texts
    obtain ⟨key, found, shown⟩ := Option.map_eq_some_iff.mp texts
    cases key with
    | publicKey publicKey => exact absurd shown (public_key_ne_id publicKey id)
    | contractId contract =>
        have held : isContract (coin.key .supply) = true := by
          change isContract coin.supplyKey = true
          rw [found]
          rfl
        obtain ⟨val, reported, encoded⟩ := reported_of_contract read held
        have given := read.key .supply
        rw [reported, show coin.key .supply = some (.contractId contract) from found] at given
        obtain ⟨out, decoded, named⟩ := id_of_read given
        have text : contractText out = data.treasuryAccountId.getD [] := by
          rw [← named, ← sameText]
          exact shown
        refine ⟨val, out, reported, encoded, decoded, ?_⟩
        cases treasuryId : data.treasuryAccountId with
        | none =>
            rw [treasuryId] at text
            cases text
        | some treasuryText =>
            rw [treasuryId] at text
            exact congrArg some text.symm
  · intro reads
    obtain ⟨val, out, reported, encoded, decoded, treasuryId⟩ := reads
    obtain ⟨contract, found⟩ := contract_of_reported read reported encoded
    have given := read.key .supply
    rw [reported, found] at given
    obtain ⟨again, decodedAgain, named⟩ := id_of_read given
    obtain rfl := Option.some.inj (decoded.symm.trans decodedAgain)
    rw [show coin.supplyKey = some (.contractId contract) from found, sameText, treasuryId,
      Option.getD_some, ← named]
    rfl

/-- The contract is decided on for the keys that are read as contracts, and for
the supply key that is read as the treasury. -/
theorem contract_decision_iff (read : Read decode data coin)
    (tied : tiedKey operation = some key) :
    getAccessDecision (getCapabilities account coin tokenIsPaused tokenIsDeleted) operation =
        .contract ↔
      ∃ val, StatusAllows operation (isPaused data tokenIsPaused) (isDeleted data tokenIsDeleted) ∧
        FeesAllow operation data.customFees ∧ data.key key = some val ∧
        val.type = PROTOBUF_ENCODED ∧
        (key = .supply → ∃ out, decode (keyBytes val.key) = some out ∧
          data.treasuryAccountId = some (contractText out)) := by
  rw [show Decision.contract = Access.contract.decision from rfl,
    decision_iff (treasury_ne_none read) tied, mem_capabilities_iff tied, read.paused, read.deleted,
    read.customFees]
  constructor
  · intro listed
    obtain ⟨status, allowed, listedFor⟩ := listed
    unfold ListedFor at listedFor
    dsimp only at listedFor
    split at listedFor
    · next isSupply =>
        subst isSupply
        obtain ⟨val, out, reported, encoded, decoded, treasuryId⟩ :=
          (treasury_key_iff read).mp listedFor
        exact ⟨val, status, allowed, reported, encoded, fun _ => ⟨out, decoded, treasuryId⟩⟩
    · next notSupply =>
        obtain ⟨val, reported, encoded⟩ := reported_of_contract read listedFor
        exact ⟨val, status, allowed, reported, encoded, fun isSupply => absurd isSupply notSupply⟩
  · intro described
    obtain ⟨val, status, allowed, reported, encoded, supply⟩ := described
    refine ⟨status, allowed, ?_⟩
    unfold ListedFor
    dsimp only
    split
    · next isSupply =>
        obtain ⟨out, decoded, treasuryId⟩ := supply isSupply
        subst isSupply
        exact (treasury_key_iff read).mpr ⟨val, out, reported, encoded, decoded, treasuryId⟩
    · obtain ⟨id, found⟩ := contract_of_reported read reported encoded
      rw [found]
      rfl

/-- The decisions are sound but for the encoded keys that are not the contract of
the coin. -/
theorem capabilities_sound_iff (decode : Bytes → Option ProtoKey) (account : Account)
    (data : TokenDetail) (coin : StableCoinDetail) (read : getStableCoin decode data = some coin)
    (tokenIsPaused tokenIsDeleted : Option Bool) (operation : Operation) (key : TokenKey)
    (tied : tiedKey operation = some key) :
    Sound decode account data tokenIsPaused tokenIsDeleted operation key
        (getCapabilities account coin tokenIsPaused tokenIsDeleted) ↔
      ∀ val, ¬Misgranted decode data tokenIsPaused tokenIsDeleted operation key val := by
  have details := read_of_some read
  have some_ := treasury_ne_none details
  have listed : ∀ access, ⟨operation, access⟩ ∈
      getCapabilities account coin tokenIsPaused tokenIsDeleted →
        StatusAllows operation (isPaused data tokenIsPaused) (isDeleted data tokenIsDeleted) ∧
          ListedFor account coin key access := by
    intro access member
    obtain ⟨status, _, listedFor⟩ := (mem_capabilities_iff tied).mp member
    rw [details.paused, details.deleted] at status
    exact ⟨status, listedFor⟩
  constructor
  · intro sound val misgranted
    obtain ⟨found, reported, isProxy⟩ := sound.contract ((contract_decision_iff details tied).mpr
      ⟨val, misgranted.status, misgranted.fees, misgranted.reported, misgranted.encoded,
        misgranted.treasury⟩)
    obtain rfl := Option.some.inj (misgranted.reported.symm.trans reported)
    exact misgranted.foreign isProxy
  · intro granted
    refine ⟨?_, ?_, ?_, ?_, ?_, ?_⟩
    · intro decided
      obtain ⟨val, status, allowed, reported, encoded, supply⟩ :=
        (contract_decision_iff details tied).mp decided
      refine ⟨val, reported, ?_⟩
      by_contra foreign
      exact granted val ⟨status, allowed, reported, encoded, foreign, supply⟩
    · intro decided
      have member := (decision_iff some_ tied .hts).mp decided
      exact account_key_of_listed details (listed .hts member).2
    · intro both
      exact not_listed_for_both some_ (listed .hts both.1).2 (listed .contract both.2).2
    · intro other same
      rw [decision_of_first_match, decision_of_first_match,
        first_match_perm (listed_agree some_ tied) same]
    · intro isDeleted_
      apply forbidden_of_unlisted
      intro access member
      have alive := (listed access member).1.1
      rw [isDeleted_] at alive
      cases alive
    · intro isPaused_ notPause notUnpause
      apply forbidden_of_unlisted
      intro access member
      rcases (listed access member).1.2 isPaused_ with pause | unpause
      · exact notPause pause
      · exact notUnpause unpause

end Soundness

/-! ## Two tokens -/

/-- Contracts with a small number, and a list without keys. -/
def sampleDecode : Bytes → Option ProtoKey
  | [0x0a, 0x02, 0x18, contractNum] =>
      if contractNum < 0x80 then some (.contractID ⟨0, 0, some contractNum.toNat⟩) else none
  | [0x32, 0x00] => some .keyList
  | _ => none

/-- The proxy is contract 5 and holds the supply key; the freeze key is the given
one and the wipe key an Ed25519 key. -/
def sampleToken (freezeKey : Text) : TokenDetail where
  adminKey := none
  kycKey := none
  freezeKey := some ⟨PROTOBUF_ENCODED, freezeKey⟩
  wipeKey := some ⟨"ED25519", List.replicate 64 'a'⟩
  supplyKey := some ⟨PROTOBUF_ENCODED, "0a021805".toList⟩
  pauseKey := none
  feeScheduleKey := none
  treasuryAccountId := some "0.0.5".toList
  proxyId := "0.0.5".toList
  pauseStatus := "UNPAUSED"
  deleted := false
  customFees := some 0

def sampleAccount : Account where
  publicKey := some ⟨List.replicate 64 'a', "ED25519".toList⟩

def proxyId : HederaId := ⟨"0.0.5".toList, by decide⟩

def sampleCoin (freezeKey : HederaId) : StableCoinDetail where
  adminKey := none
  kycKey := none
  freezeKey := some (.contractId freezeKey)
  wipeKey := some (.publicKey ⟨List.replicate 64 'a', "ED25519".toList⟩)
  supplyKey := some (.contractId proxyId)
  pauseKey := none
  feeScheduleKey := none
  treasury := some proxyId
  proxyAddress := proxyId
  paused := false
  deleted := false
  customFees := some 0

theorem sample_read : getStableCoin sampleDecode (sampleToken "0a021805".toList) =
    some (sampleCoin proxyId) := by decide +kernel

/-- The contract of the coin freezes. -/
theorem capabilities_sound_on_samples :
    Sound sampleDecode sampleAccount (sampleToken "0a021805".toList) none none .freeze .freeze
      (getCapabilities sampleAccount (sampleCoin proxyId) none none) := by
  refine (capabilities_sound_iff sampleDecode sampleAccount (sampleToken "0a021805".toList)
    (sampleCoin proxyId) sample_read none none .freeze .freeze rfl).mpr ?_
  intro val misgranted
  obtain rfl := Option.some.inj misgranted.reported
  exact misgranted.foreign ⟨rfl, ⟨0, 0, some 5⟩, Or.inl rfl, by decide⟩

def otherId : HederaId := ⟨"0.0.6".toList, by decide⟩

def noId : HederaId := ⟨"0.0.0".toList, by decide⟩

/-- A list of keys is read as contract 0. The decision is the contract for it, as
for another contract. -/
theorem foreign_keys_granted :
    (getStableCoin sampleDecode (sampleToken "0a021806".toList) = some (sampleCoin otherId) ∧
      getAccessDecision (getCapabilities sampleAccount (sampleCoin otherId) none none) .freeze =
        .contract ∧
      ¬Sound sampleDecode sampleAccount (sampleToken "0a021806".toList) none none .freeze .freeze
        (getCapabilities sampleAccount (sampleCoin otherId) none none)) ∧
    (getStableCoin sampleDecode (sampleToken "3200".toList) = some (sampleCoin noId) ∧
      getAccessDecision (getCapabilities sampleAccount (sampleCoin noId) none none) .freeze =
        .contract ∧
      ¬Sound sampleDecode sampleAccount (sampleToken "3200".toList) none none .freeze .freeze
        (getCapabilities sampleAccount (sampleCoin noId) none none)) := by
  refine ⟨⟨by decide +kernel, by decide +kernel, fun sound => ?_⟩,
    ⟨by decide +kernel, by decide +kernel, fun sound => ?_⟩⟩
  · obtain ⟨val, reported, _, contract, decoded, text⟩ := sound.contract (by decide +kernel)
    obtain rfl := Option.some.inj reported
    rcases decoded with direct | delegated
    · obtain rfl := ProtoKey.contractID.inj (Option.some.inj direct)
      exact absurd text (by decide)
    · cases Option.some.inj delegated
  · obtain ⟨val, reported, _, contract, decoded, _⟩ := sound.contract (by decide +kernel)
    obtain rfl := Option.some.inj reported
    rcases decoded with direct | delegated
    · cases Option.some.inj direct
    · cases Option.some.inj delegated

end StablecoinStudio.Sdk.Capabilities
