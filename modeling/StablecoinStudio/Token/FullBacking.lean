import StablecoinStudio.Token.HederaReserve
import StablecoinStudio.Token.ReserveRule
import StablecoinStudio.Token.SupplyCoverage

/-!
# The coin and its reserve

A stablecoin whose price feed is the example reserve. Both contracts take their
calls in any order; mints are checked against what the reserve holds by then.
The supply stays covered exactly as long as the administrator of the reserve
never sets it below what is issued.
-/

namespace StablecoinStudio.Token.FullBacking

open StablecoinStudio.Core.Common
open StablecoinStudio.Core.Constants
open StablecoinStudio.Foundation.CheckedInt
open StablecoinStudio.Foundation.DecimalQuantities
open StablecoinStudio.Foundation.Runs
open StablecoinStudio.Foundation.Transaction
open StablecoinStudio.Token.HederaReserve
open StablecoinStudio.Token.ProxyState
open StablecoinStudio.Token.ReferenceLedger
open StablecoinStudio.Token.Reserve
open StablecoinStudio.Token.ReserveRule
open StablecoinStudio.Token.Roles
open StablecoinStudio.Token.Services
open StablecoinStudio.Token.SupplyCoverage
open StablecoinStudio.Token.System
open StablecoinStudio.Token.TokenFlows
open StablecoinStudio.Token.TokenLaws
open StablecoinStudio.Token.Treasury

set_option autoImplicit false

/-- The world of the coin: the reserve, the time of the block, and the rest. -/
structure FeedWorld (rest : Type) where
  rest : rest
  reserve : ReserveState
  now : Uint256

variable {rest : Type}

def onRest {answer : Type} (service : rest → answer × rest) (world : FeedWorld rest) :
    answer × FeedWorld rest :=
  ((service world.rest).1, { world with rest := (service world.rest).2 })

def inWorld {first second : Type} (state : State first) (given : second) : State second where
  initialized := state.initialized
  tokenAddress := state.tokenAddress
  metadata := state.metadata
  roles := state.roles
  supplierAdmin := state.supplierAdmin
  reserve := state.reserve
  holds := state.holds
  resolverProxy := state.resolverProxy
  reentrancyGuardEntered := state.reentrancyGuardEntered
  world := given

/-- `latestRoundData` of the reserve, as the coin asks for it in its block. -/
def reserveRound (world : FeedWorld rest) : Option (Sint256 × Uint256) :=
  match HederaReserveFacet.latestRoundData { sender := 0, timestamp := world.now } world.reserve with
  | .ok (round, _) => some (round.answer, round.updatedAt)
  | .error _ => none

/-- The platform on which the reserve answers at the address of the feed. -/
def withReserve (p : Platform rest) (feed : Address) : Platform (FeedWorld rest) where
  proxy := p.proxy
  mintToken token amount := onRest (p.mintToken token amount)
  burnToken token amount := onRest (p.burnToken token amount)
  wipeTokenAccount token account amount := onRest (p.wipeTokenAccount token account amount)
  transferToken token sender recipient amount := onRest (p.transferToken token sender recipient amount)
  getTokenKey token keyType world := p.getTokenKey token keyType world.rest
  getTokenInfo token world := p.getTokenInfo token world.rest
  administer request := onRest (p.administer request)
  createFungibleToken token initialTotalSupply decimals value :=
    onRest (p.createFungibleToken token initialTotalSupply decimals value)
  balanceOf token account world := p.balanceOf token account world.rest
  totalSupply token world := p.totalSupply token world.rest
  decimals token world := p.decimals token world.rest
  tokenName token world := p.tokenName token world.rest
  tokenSymbol token world := p.tokenSymbol token world.rest
  latestRoundData asked world :=
    if asked = feed then reserveRound world else p.latestRoundData asked world.rest
  feedDecimals asked world :=
    if asked = feed then some HederaReserveFacet.decimals else p.feedDecimals asked world.rest
  configurationRegistered resolver configurationId version world :=
    p.configurationRegistered resolver configurationId version world.rest
  hbarBalance world := p.hbarBalance world.rest
  sendValue recipient amount state :=
    (p.sendValue recipient amount (inWorld state state.world.rest)).map fun later =>
      inWorld later { state.world with rest := later.world }

variable {p : Platform rest} {feed : Address} {msg : Msg}

theorem reserve_round_eq {world : FeedWorld rest} {answer : Sint256} {updatedAt : Uint256} :
    reserveRound world = some (answer, updatedAt) ↔
      answer = world.reserve.hederaReserve.reserveAmount ∧
        updatedAt.toNat + 10 = world.now.toNat := by
  unfold reserveRound
  constructor
  · intro answered
    split at answered
    · next round later outcome =>
        obtain ⟨⟨time, past, rfl⟩, _⟩ := HederaReserveFacet.latest_round_data_ok.mp outcome
        simp only [Option.some.injEq, Prod.mk.injEq] at answered
        obtain ⟨rfl, rfl⟩ := answered
        exact ⟨rfl, past⟩
    · cases answered
  · intro described
    obtain ⟨rfl, past⟩ := described
    have outcome : HederaReserveFacet.latestRoundData { sender := 0, timestamp := world.now }
        world.reserve = .ok (⟨0, world.reserve.hederaReserve.reserveAmount, updatedAt, updatedAt, 0⟩,
          world.reserve) :=
      HederaReserveFacet.latest_round_data_ok.mpr ⟨⟨updatedAt, past, rfl⟩, rfl⟩
    rw [outcome]

section OnRest

variable {answer : Type} {service : rest → answer × rest} {before after : FeedWorld rest}
  {given : answer}

theorem on_rest_eq (answered : onRest service before = (given, after)) :
    service before.rest = (given, after.rest) := by
  unfold onRest at answered
  obtain ⟨same, later⟩ := Prod.mk.inj answered
  rw [← same, ← later]

theorem on_rest_reserve (answered : onRest service before = (given, after)) :
    after.reserve = before.reserve := by
  rw [← (Prod.mk.inj answered).2]

end OnRest

theorem with_reserve_supply_laws {token : Address} (laws : SupplyLaws p token) :
    SupplyLaws (withReserve p feed) token where
  mint answered := laws.mint (on_rest_eq answered)
  burn answered := laws.burn (on_rest_eq answered)
  wipe answered := laws.wipe (on_rest_eq answered)
  transfer answered := laws.transfer (on_rest_eq answered)
  administer answered := laws.administer (on_rest_eq answered)

/-! ## The two contracts together -/

inductive Event (rest : Type) where
  | coin (msg : Msg) (called : Call)
  | reserve (msg : Msg) (called : ReserveCall)
  | outside (later : rest)

abbrev Coin (rest : Type) := State (FeedWorld rest)

/-- The coin in the block of a message. -/
def atTime (time : Uint256) (state : Coin rest) : Coin rest :=
  { state with world := { state.world with now := time } }

def nextEvent (p : Platform rest) (feed : Address) (state : Coin rest) : Event rest → Coin rest
  | .coin msg called =>
      next (withReserve p feed) (atTime msg.timestamp state) (.call msg called)
  | .reserve msg called =>
      { state with
        world := { state.world with reserve := nextReserve state.world.reserve (msg, called) } }
  | .outside later => { state with world := { state.world with rest := later } }

def reserveAmount (state : Coin rest) : Sint256 := state.world.reserve.hederaReserve.reserveAmount

/-- The reserve is worth what is issued, each in its own decimals. -/
def Backs (digits : Nat) (issued : Int) (amount : Sint256) : Prop :=
  (issued : ℚ) / 10 ^ digits ≤ (amount.toInt : ℚ) / 10 ^ 2

def Backed (p : Platform rest) (feed : Address) (digits : Nat) (state : Coin rest) : Prop :=
  Backs digits (supplyIn (withReserve p feed) state) (reserveAmount state)

/-- The coin keeps its feed, receivers of HBAR do not call back, and nobody but
the coin issues its token. -/
def InScope (p : Platform rest) (feed : Address) (state : Coin rest) : Event rest → Prop
  | .coin msg called =>
      called.keepsControl (withReserve p feed) msg ∧
        ∀ newAddress, called = .updateReserveAddress newAddress → newAddress = feed
  | .reserve _ _ => True
  | .outside later =>
      supply p state.tokenAddress later ≤ supplyIn (withReserve p feed) state

/-- Whoever may set the reserve sets what is issued at least. -/
def SetsEnough (p : Platform rest) (feed : Address) (digits : Nat) (state : Coin rest) :
    Event rest → Prop
  | .reserve msg (.setAmount newValue) =>
      state.world.reserve.hederaReserve.admin = msg.sender →
        Backs digits (supplyIn (withReserve p feed) state) newValue
  | .reserve _ (.initialize_ initialReserve admin) =>
      state.world.reserve.initialized hederaReserveResolverKey = false → admin ≠ 0 →
        Backs digits (supplyIn (withReserve p feed) state) initialReserve
  | _ => True

structure Attached (token feed : Address) (state : Coin rest) : Prop where
  token_ : state.tokenAddress = token
  reserve : state.reserve.reserveAddress = feed

section Step

variable {state : Coin rest} {called : Call}

theorem reserve_address_kept {world : Type} {q : Platform world} {before after : State world}
    (control : called.keepsControl q msg)
    (feedKept : ∀ newAddress, called = .updateReserveAddress newAddress → newAddress = feed)
    (committed : called.perform q msg before = .ok ((), after))
    (attached : before.reserve.reserveAddress = feed) : after.reserve.reserveAddress = feed := by
  cases effect_of_committed committed with
  | view _ same => rw [same, attached]
  | mint done => rw [done.frame, attached]
  | burn done => rw [done.frame, attached]
  | wipe done => rw [done.frame, attached]
  | rescue done => rw [done.frame, attached]
  | rescueHBAR done => rw [done.frame (control.2 rfl), attached]
  | administration _ _ _ _ frame => rw [frame, attached]
  | permission _ _ frame => rw [frame, attached]
  | reserve kind _ _ =>
      cases called with
      | updateReserveAddress newAddress =>
          obtain ⟨_, _, _, changed⟩ := Tx.bind_ok.mp committed
          rw [← Tx.modify_ok.mp changed]
          exact feedKept newAddress rfl
      | updateUpdatedAtThreshold newThreshold =>
          obtain ⟨_, _, checked, changed⟩ := Tx.bind_ok.mp committed
          obtain ⟨_, rfl⟩ := RolesStorageWrapper.only_role_ok.mp checked
          rw [← Tx.modify_ok.mp changed]
          exact attached
      | _ => cases kind
  | createHold done => rw [done.frame, attached]
  | createHoldByController _ done => rw [done.frame, attached]
  | executeHold _ _ _ _ done => rw [done.frame, attached]
  | releaseHold _ _ done => rw [done.frame, attached]
  | reclaimHold _ done => rw [done.frame, attached]
  | configuration _ _ frame => rw [frame, attached]
  | initialization _ => exact (control.1 rfl).elim

theorem reserve_kept_by_coin {before after : Coin rest}
    (control : called.keepsControl (withReserve p feed) msg)
    (effect : Effect (withReserve p feed) msg before after called) :
    after.world.reserve = before.world.reserve := by
  cases effect with
  | view _ same => rw [same]
  | mint done =>
      obtain ⟨minted, issued, _, delivered⟩ := done.tokens
      obtain ⟨_, rfl⟩ | ⟨_, paid⟩ := delivered
      · exact on_rest_reserve issued
      · exact (on_rest_reserve paid).trans (on_rest_reserve issued)
  | burn done => exact on_rest_reserve done.tokens
  | wipe done => exact on_rest_reserve done.tokens
  | rescue done => exact on_rest_reserve done.tokens
  | rescueHBAR done =>
      obtain ⟨inside, sent, rfl⟩ := done.sent
      obtain ⟨later, _, rfl⟩ := Option.map_eq_some_iff.mp sent
      rfl
  | administration _ _ _ answered _ => exact on_rest_reserve answered
  | permission _ _ frame | reserve _ _ frame | configuration _ _ frame => rw [frame]
  | createHold done | createHoldByController _ done =>
      obtain ⟨wiped, taken, issued⟩ := done.tokens
      exact (on_rest_reserve issued).trans (on_rest_reserve taken)
  | executeHold _ _ _ _ done | releaseHold _ _ done | reclaimHold _ done =>
      exact on_rest_reserve done.paid
  | initialization _ => exact (control.1 rfl).elim

theorem attached_by_event {token : Address} (state : Coin rest) (event : Event rest)
    (attached : Attached token feed state) (inScope : InScope p feed state event) :
    Attached token feed (nextEvent p feed state event) := by
  cases event with
  | outside later => exact ⟨attached.token_, attached.reserve⟩
  | reserve msg called => exact ⟨attached.token_, attached.reserve⟩
  | coin msg called =>
      obtain ⟨control, feedKept⟩ := inScope
      rcases next_cases (withReserve p feed) (atTime msg.timestamp state) msg called with
        committed | same
      · refine ⟨?_, reserve_address_kept control feedKept committed attached.reserve⟩
        exact (token_kept_by_call control (effect_of_committed committed)).trans attached.token_
      · rw [nextEvent, same]
        exact ⟨attached.token_, attached.reserve⟩

theorem backed_by_coin {digits : Nat} (isSet : feed ≠ 0)
    (fixed : ∀ current, (p.decimals state.tokenAddress current).toNat = digits)
    (laws : SupplyLaws p state.tokenAddress) (attached : state.reserve.reserveAddress = feed)
    (control : called.keepsControl (withReserve p feed) msg)
    (backed : Backed p feed digits state) :
    Backed p feed digits (nextEvent p feed state (.coin msg called)) := by
  have rule : SupplyStep (withReserve p feed) (atTime msg.timestamp state) msg called :=
    supply_step (with_reserve_supply_laws laws) control
  have before : Backed p feed digits (atTime msg.timestamp state) := backed
  rcases next_cases (withReserve p feed) (atTime msg.timestamp state) msg called with
    committed | same
  · have effect := effect_of_committed committed
    have reserveKept := reserve_kept_by_coin control effect
    unfold Backed Backs reserveAmount at before ⊢
    rw [nextEvent, reserveKept]
    by_cases grown : supplyIn (withReserve p feed) (atTime msg.timestamp state) <
        supplyIn (withReserve p feed)
          (next (withReserve p feed) (atTime msg.timestamp state) (.call msg called))
    · obtain ⟨answers, account, amount, rfl⟩ := rule.grows grown
      have asked : (atTime msg.timestamp state).reserve.reserveAddress = feed := attached
      obtain ⟨answer, updatedAt, reserveDecimals, round, feedDigits, enough, _⟩ :=
        rule.covered account amount rfl answers (by rw [asked]; exact isSet)
      rw [asked] at round feedDigits
      simp only [withReserve, if_true] at round feedDigits
      obtain ⟨rfl, _⟩ := reserve_round_eq.mp round
      obtain rfl := Option.some.inj feedDigits
      have minted : supplyIn (withReserve p feed)
          (next (withReserve p feed) (atTime msg.timestamp state) (.call msg (.mint account amount))) =
          supplyIn (withReserve p feed) (atTime msg.timestamp state) + amount.toInt := by
        cases effect with
        | mint done => exact supply_by_mint (with_reserve_supply_laws laws) done
        | view kind _ | administration kind _ _ _ _ | permission kind _ _ | reserve kind _ _
        | configuration kind _ _ => cases kind
      have tokenDigits : ((withReserve p feed).decimals (atTime msg.timestamp state).tokenAddress
          (atTime msg.timestamp state).world).toNat = digits := fixed _
      rw [tokenDigits] at enough
      rw [minted]
      exact enough
    · have lower : (supplyIn (withReserve p feed)
          (next (withReserve p feed) (atTime msg.timestamp state) (.call msg called)) : ℚ) ≤
          supplyIn (withReserve p feed) (atTime msg.timestamp state) := by
        exact_mod_cast not_lt.mp grown
      exact (div_le_div_of_nonneg_right lower (by positivity)).trans before
  · rw [nextEvent, same]
    exact before

theorem backed_by_outside {digits : Nat} {later : rest}
    (inScope : InScope p feed state (.outside later)) (backed : Backed p feed digits state) :
    Backed p feed digits (nextEvent p feed state (.outside later)) := by
  have lower : (supplyIn (withReserve p feed) (nextEvent p feed state (.outside later)) : ℚ) ≤
      supplyIn (withReserve p feed) state := by
    exact_mod_cast inScope
  exact (div_le_div_of_nonneg_right lower (by positivity)).trans backed

/-- A call of the reserve leaves the supply backed exactly when it sets enough. -/
theorem backed_by_reserve {digits : Nat} {called : ReserveCall}
    (backed : Backed p feed digits state) :
    Backed p feed digits (nextEvent p feed state (.reserve msg called)) ↔
      SetsEnough p feed digits state (.reserve msg called) := by
  have supplied : Backed p feed digits (nextEvent p feed state (.reserve msg called)) ↔
      Backs digits (supplyIn (withReserve p feed) state)
        (nextReserve state.world.reserve (msg, called)).hederaReserve.reserveAmount := Iff.rfl
  rw [supplied]
  cases called with
  | setAdmin admin =>
      have kept : (nextReserve state.world.reserve
          (msg, .setAdmin admin)).hederaReserve.reserveAmount = reserveAmount state := by
        rw [next_set_admin]
        split <;> rfl
      rw [kept]
      exact iff_of_true backed trivial
  | setAmount newValue =>
      rw [next_set_amount]
      split
      · next admin => exact ⟨fun enough _ => enough, fun enough => enough admin⟩
      · next stranger => exact iff_of_true backed fun admin => (stranger admin).elim
  | initialize_ initialReserve admin =>
      rw [next_initialization]
      split
      · next first => exact ⟨fun enough _ _ => enough, fun enough => enough first.1 first.2⟩
      · next done => exact iff_of_true backed fun first isSet => (done ⟨first, isSet⟩).elim

end Step

/-! ## Along a run -/

section Runs

variable {digits : Nat} {start : Coin rest} {events : List (Event rest)}

theorem backed_by_event {token : Address} (isSet : feed ≠ 0)
    (fixed : ∀ current, (p.decimals token current).toNat = digits) (laws : SupplyLaws p token)
    (state : Coin rest) (event : Event rest) (attached : Attached token feed state)
    (inScope : InScope p feed state event) (backed : Backed p feed digits state) :
    Backed p feed digits (nextEvent p feed state event) ↔ SetsEnough p feed digits state event := by
  have sameToken := attached.token_
  cases event with
  | coin msg called =>
      rw [← sameToken] at fixed laws
      exact iff_of_true (backed_by_coin isSet fixed laws attached.reserve inScope.1 backed) trivial
  | reserve msg called => exact backed_by_reserve backed
  | outside later => exact iff_of_true (backed_by_outside inScope backed) trivial

/-- The administrator of the reserve makes no call to it. -/
def SilentAdmin (state : Coin rest) : Event rest → Prop
  | .reserve msg _ => msg.sender ≠ state.world.reserve.hederaReserve.admin
  | _ => True

theorem opened_by_event (state : Coin rest) (event : Event rest)
    (opened : state.world.reserve.initialized hederaReserveResolverKey = true)
    (met : InScope p feed state event ∧ SilentAdmin state event) :
    (nextEvent p feed state event).world.reserve.initialized hederaReserveResolverKey = true := by
  cases event with
  | outside later => exact opened
  | reserve msg called =>
      have kept := next_reserve_of_stranger state.world.reserve (msg, called) opened met.2
      rw [nextEvent, kept]
      exact opened
  | coin msg called =>
      rcases next_cases (withReserve p feed) (atTime msg.timestamp state) msg called with
        committed | same
      · rw [nextEvent, reserve_kept_by_coin met.1.1 (effect_of_committed committed)]
        exact opened
      · rw [nextEvent, same]
        exact opened

end Runs

/-! ## When the reserve lets a mint pass -/

theorem feed_answers {state : Coin rest} (isSet : feed ≠ 0)
    (attached : state.reserve.reserveAddress = feed) (tenSeconds : 10 ≤ msg.timestamp.toNat)
    (threshold : state.reserve.updatedAtThreshold.toNat = 0 ∨
      10 ≤ state.reserve.updatedAtThreshold.toNat)
    (nonNegative : 0 ≤ (reserveAmount state).toInt) :
    FeedAnswers (withReserve p feed) msg (atTime msg.timestamp state)
      (reserveAmount state).toInt.toNat HederaReserveFacet.decimals
      (p.decimals state.tokenAddress state.world.rest)
      (p.totalSupply state.tokenAddress state.world.rest) where
  isSet := by
    rw [← attached] at isSet
    exact isSet
  round := by
    have bound := msg.timestamp.bound
    have asked : (atTime msg.timestamp state).reserve.reserveAddress = feed := attached
    refine ⟨reserveAmount state, ⟨msg.timestamp.toNat - 10, by omega⟩,
      (Int.toNat_of_nonneg nonNegative).symm, ?_, Nat.sub_le _ _, ?_⟩
    · rw [asked]
      simp only [withReserve, if_true]
      exact reserve_round_eq.mpr ⟨rfl, Nat.sub_add_cancel tenSeconds⟩
    · intro limited
      have limit : 10 ≤ (atTime msg.timestamp state).reserve.updatedAtThreshold.toNat :=
        threshold.resolve_left (Nat.ne_of_gt limited)
      simp only
      omega
  feedDecimals := by
    have asked : (atTime msg.timestamp state).reserve.reserveAddress = feed := attached
    rw [asked]
    simp only [withReserve, if_true]
  decimals := rfl
  supply := rfl

/-- The time of the reserve is ten seconds old by construction, so a threshold
of one to nine seconds lets no mint pass and any other never stops one. -/
theorem reserve_passes_iff (p : Platform rest) (feed : Address) (msg : Msg) (state : Coin rest)
    (units : Uint256) (isSet : feed ≠ 0) (attached : state.reserve.reserveAddress = feed) :
    ReserveStorageWrapper.checkReserveIncrease (withReserve p feed) units msg
        (atTime msg.timestamp state) = .ok ((), atTime msg.timestamp state) ↔
      10 ≤ msg.timestamp.toNat ∧
        (state.reserve.updatedAtThreshold.toNat = 0 ∨
          10 ≤ state.reserve.updatedAtThreshold.toNat) ∧
        0 ≤ (reserveAmount state).toInt ∧
        Expressible (p.decimals state.tokenAddress state.world.rest) HederaReserveFacet.decimals
          units ∧
        Fits (p.decimals state.tokenAddress state.world.rest).toNat 2
          ((p.totalSupply state.tokenAddress state.world.rest).toNat + units.toNat)
          (reserveAmount state).toInt.toNat ∧
        Covered (p.decimals state.tokenAddress state.world.rest).toNat 2
          ((p.totalSupply state.tokenAddress state.world.rest).toNat + units.toNat)
          (reserveAmount state).toInt.toNat := by
  have feedSet : (atTime msg.timestamp state).reserve.reserveAddress ≠ 0 := by
    rw [← attached] at isSet
    exact isSet
  have asked : (atTime msg.timestamp state).reserve.reserveAddress = feed := attached
  rw [ReserveStorageWrapper.check_reserve_increase_ok]
  constructor
  · intro passed
    obtain ⟨unset, _⟩ | ⟨_, compared⟩ :=
      (ReserveStorageWrapper.check_reserve_amount_ok passed.1).2
    · exact (feedSet unset).elim
    · obtain ⟨answer, updatedAt, _, round, _, _, recent, nonNegative, _⟩ := compared.exists_feed
      rw [asked] at round
      simp only [withReserve, if_true] at round
      obtain ⟨rfl, past⟩ := reserve_round_eq.mp round
      have time : updatedAt.toNat + 10 = msg.timestamp.toNat := past
      have tenSeconds : 10 ≤ msg.timestamp.toNat := by omega
      have threshold : state.reserve.updatedAtThreshold.toNat = 0 ∨
          10 ≤ state.reserve.updatedAtThreshold.toNat := by
        rcases Nat.eq_zero_or_pos state.reserve.updatedAtThreshold.toNat with none | limited
        · exact Or.inl none
        · have age : msg.timestamp.toNat - updatedAt.toNat ≤
            state.reserve.updatedAtThreshold.toNat := recent limited
          exact Or.inr (by omega)
      obtain ⟨_, expressible, fits, enough⟩ :=
        (check_ok (feed_answers isSet attached tenSeconds threshold nonNegative)).mp passed.1
      exact ⟨tenSeconds, threshold, nonNegative, expressible, fits,
        aligned_iff_covered.mp (of_decide_eq_true enough.symm)⟩
  · intro described
    obtain ⟨tenSeconds, threshold, nonNegative, expressible, fits, covered⟩ := described
    refine ⟨?_, rfl⟩
    exact (check_ok (feed_answers isSet attached tenSeconds threshold nonNegative)).mpr
      ⟨rfl, expressible, fits, (decide_eq_true (aligned_iff_covered.mpr covered)).symm⟩

/-! ## A coin with a reserve of 20.00 -/

/-- The reference service for a token without decimals. -/
def wholeUnits : Platform Ledger := { reference 1 with decimals := fun _ _ => 0 }

theorem whole_units_supply_laws (token : Address) : SupplyLaws wholeUnits token where
  mint := (reference_supply_laws 1 token).mint
  burn := (reference_supply_laws 1 token).burn
  wipe := (reference_supply_laws 1 token).wipe
  transfer := (reference_supply_laws 1 token).transfer
  administer {request before after} answered := by
    have same : (reference 1).administer request before = (success, after) := answered
    exact (reference_supply_laws 1 token).administer same

/-- Account 6 administers the reserve at address 9; 10 of the coin are issued. -/
def signed256 (amount : Fin (2 ^ 255)) : Sint256 := ⟨amount, by omega, by omega⟩

def sampleReserve : ReserveState where
  initialized _ := true
  hederaReserve := ⟨signed256 2000, 6⟩

def sampleCoin : Coin Ledger :=
  inWorld
    { deployed (RolesStorage.grantRole RolesStorage.empty adminRole 4) (holderLedger 10) with
      reserve := ⟨9, units256 10⟩ }
    ⟨holderLedger 10, sampleReserve, 0⟩

/-- Account 5 mints up to the reserve and then beyond it, and account 4 tries to
set the reserve. -/
def sampleEvents : List (Event Ledger) :=
  [.coin (sampleMsg 4 11) (.grantUnlimitedSupplierRole 5),
    .coin (sampleMsg 5 12) (.mint 2 (units64 10)),
    .coin (sampleMsg 5 13) (.mint 2 (units64 1)),
    .reserve (sampleMsg 4 14) (.setAmount (signed256 0))]

/-- The second mint is refused. -/
example : supplyIn (withReserve wholeUnits 9)
    (run (nextEvent wholeUnits 9) sampleCoin sampleEvents) = 20 := rfl

theorem sample_backed : Backed wholeUnits 9 0 sampleCoin := by
  have issued : supplyIn (withReserve wholeUnits 9) sampleCoin = 10 := rfl
  have amount : (reserveAmount sampleCoin).toInt = 2000 := rfl
  rw [Backed, Backs, issued, amount]
  norm_num

theorem sample_reserve_passes_iff :
    ReserveStorageWrapper.checkReserveIncrease (withReserve wholeUnits 9) (units256 10)
        (sampleMsg 5 12) (atTime (sampleMsg 5 12).timestamp sampleCoin) =
          .ok ((), atTime (sampleMsg 5 12).timestamp sampleCoin) ↔
      10 ≤ 12 ∧ (10 = 0 ∨ 10 ≤ 10) ∧ (0 : Int) ≤ 2000 ∧
        Expressible 0 HederaReserveFacet.decimals (units256 10) ∧ Fits 0 2 (10 + 10) 2000 ∧
        Covered 0 2 (10 + 10) 2000 :=
  reserve_passes_iff wholeUnits 9 (sampleMsg 5 12) sampleCoin (units256 10) (by decide) rfl

end StablecoinStudio.Token.FullBacking
