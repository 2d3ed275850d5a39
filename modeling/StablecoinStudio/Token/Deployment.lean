import StablecoinStudio.Token.BulkRoles
import StablecoinStudio.Token.FullBacking

/-!
# Deploying a coin

`deployStableCoin` of `StableCoinFactoryFacet.sol` from end to end: the reserve
is made or asked, the proxy of the coin is made, and its token is created. What
the request asks for is what the coin starts with, and a coin with the example
reserve starts covered by it.
-/

namespace StablecoinStudio.Token.Deployment

open StablecoinStudio.Core.Common
open StablecoinStudio.Core.Constants
open StablecoinStudio.Foundation.CheckedInt
open StablecoinStudio.Foundation.DecimalQuantities
open StablecoinStudio.Foundation.GuardedLoops
open StablecoinStudio.Foundation.Runs
open StablecoinStudio.Foundation.Transaction
open StablecoinStudio.Resolver
open StablecoinStudio.Token.Administration
open StablecoinStudio.Token.BulkRoles
open StablecoinStudio.Token.FullBacking
open StablecoinStudio.Token.HederaReserve
open StablecoinStudio.Token.ProxyState
open StablecoinStudio.Token.ReferenceLedger
open StablecoinStudio.Token.Reserve
open StablecoinStudio.Token.ReserveRule
open StablecoinStudio.Token.Roles
open StablecoinStudio.Token.Services
open StablecoinStudio.Token.StableCoinFactory
open StablecoinStudio.Token.SupplierAdmin
open StablecoinStudio.Token.System
open StablecoinStudio.Token.TokenFlows
open StablecoinStudio.Token.TokenLaws
open StablecoinStudio.Token.Treasury

set_option autoImplicit false

structure ResolverProxyConfiguration where
  key : Bytes32
  version : Nat

/-- A request with the fields that choose the reserve and the configurations. -/
structure CoinRequest extends TokenStruct where
  createReserve : Bool
  reserveAddress : Address
  reserveInitialAmount : Sint256
  businessLogicResolverAddress : Address
  stableCoinConfigurationId : ResolverProxyConfiguration
  reserveConfigurationId : ResolverProxyConfiguration

variable {rest : Type}

/-- The factory works on the two proxies it makes; a call of the reserve fails
with the errors of the reserve. -/
abbrev FactoryTx (rest : Type) := Tx Msg (Coin rest) ReserveRevert

def ofContract {value : Type} (call : FacetTx (FeedWorld rest) value) : FactoryTx rest value :=
  fun msg state => match call msg state with
    | .ok done => .ok done
    | .error failure => .error (.common failure)

def calledBy {state error value : Type} (factory : Address) (passed : Uint256)
    (call : Tx Msg state error value) : Tx Msg state error value :=
  fun msg before => call { msg with sender := factory, value := passed } before

def ReserveState.created : ReserveState := ⟨fun _ => false, ⟨0, 0⟩⟩

def putReserve (state : Coin rest) (reserve : ReserveState) : Coin rest :=
  { state with world := { state.world with reserve := reserve } }

def onReserve {value : Type} (call : ReserveTx value) : FactoryTx rest value :=
  Tx.focus (fun state => state.world.reserve) putReserve call

section Factory

variable (p : Platform rest) (feed factory : Address) (requestedToken : CoinRequest)

/-- `new ResolverProxy` for the reserve, at the address of the feed. The facet
of the reserve asks for none of the roles it is given. -/
def newReserveProxy : FactoryTx rest Unit :=
  ofContract <| calledBy factory 0 <|
    Tx.focus (fun state => ResolverProxy.created state.world)
      (fun state _ => putReserve state ReserveState.created)
      (ResolverProxy.initialize_ (withReserve p feed) requestedToken.businessLogicResolverAddress
        requestedToken.reserveConfigurationId.key requestedToken.reserveConfigurationId.version
        requestedToken.roles)

/-- The last part of `_handleReserve`, for a feed that exists. -/
def checkFeed : FacetTx (FeedWorld rest) Unit := do
  let state ← Tx.get
  let (reserveInitialAmount, updatedAt) ← Tx.ofOption .externalCallFailed
    ((withReserve p feed).latestRoundData requestedToken.reserveAddress state.world)
  let updatedAtThreshold := requestedToken.updatedAtThreshold
  let msg ← Tx.read
  assertion (updatedAt.toNat ≤ msg.timestamp.toNat)
  Tx.require
    (¬ (updatedAtThreshold.toNat > 0 ∧
      msg.timestamp.toNat - updatedAt.toNat > updatedAtThreshold.toNat))
    (.reserveAmountOutdated updatedAt updatedAtThreshold)
  let reserveDecimals ← Tx.ofOption .externalCallFailed
    ((withReserve p feed).feedDecimals requestedToken.reserveAddress state.world)
  validationReserveInitialAmount reserveDecimals reserveInitialAmount requestedToken.tokenDecimals
    requestedToken.tokenInitialSupply

def handleReserve : FactoryTx rest Address :=
  if requestedToken.createReserve = false ∧ requestedToken.reserveAddress = 0 then return 0
  else if requestedToken.createReserve then do
    newReserveProxy p feed factory requestedToken
    ofContract (validationReserveInitialAmount HederaReserveFacet.decimals
      requestedToken.reserveInitialAmount requestedToken.tokenDecimals
      requestedToken.tokenInitialSupply)
    let msg ← Tx.read
    onReserve (calledBy factory 0
      (HederaReserveFacet.initialize_ requestedToken.reserveInitialAmount msg.sender))
    return feed
  else do
    ofContract (checkFeed p feed requestedToken)
    return requestedToken.reserveAddress

def deployStableCoinProxy : FactoryTx rest Unit :=
  ofContract <| calledBy factory 0 <|
    ResolverProxy.initialize_ (withReserve p feed) requestedToken.businessLogicResolverAddress
      requestedToken.stableCoinConfigurationId.key requestedToken.stableCoinConfigurationId.version
      requestedToken.roles

/-- On the storage at the address of the new coin. -/
def deployStableCoin : FactoryTx rest DeployedStableCoin := do
  Tx.require (requestedToken.businessLogicResolverAddress ≠ 0)
    (.common (.addressZero requestedToken.businessLogicResolverAddress))
  Tx.require (requestedToken.stableCoinConfigurationId.key ≠ 0)
    (.common (.bytes32Zero requestedToken.stableCoinConfigurationId.key))
  let reserveAddress ← handleReserve p feed factory requestedToken
  deployStableCoinProxy p feed factory requestedToken
  let msg ← Tx.read
  ofContract (calledBy factory msg.value
    (deployedStableCoin (withReserve p feed) requestedToken.toTokenStruct msg.sender
      reserveAddress))

end Factory

variable {p : Platform rest} {feed factory : Address} {requestedToken : CoinRequest} {msg : Msg}
  {before after : Coin rest}

@[simp] theorem of_contract_ok {value : Type} {call : FacetTx (FeedWorld rest) value}
    {result : value} :
    ofContract call msg before = .ok (result, after) ↔ call msg before = .ok (result, after) := by
  unfold ofContract
  cases call msg before with
  | ok done => simp
  | error failure => simp

/-! ## The reserve -/

def FirstSupplyCovered (requestedToken : CoinRequest) (digits : Nat) (amount : Sint256) : Prop :=
  (requestedToken.tokenInitialSupply.toInt : ℚ) / 10 ^ requestedToken.tokenDecimals.toInt.toNat ≤
    (amount.toInt : ℚ) / 10 ^ digits

theorem first_supply_covered {state : Type} {start final : state} {reserveDecimals : Uint8}
    {amount : Sint256} {result : Unit}
    (committed : validationReserveInitialAmount reserveDecimals amount requestedToken.tokenDecimals
      requestedToken.tokenInitialSupply msg start = .ok (result, final)) :
    start = final ∧ FirstSupplyCovered requestedToken reserveDecimals.toNat amount := by
  have signs : ∃ reserve decimals supply : Nat, amount.toInt = reserve ∧
      requestedToken.tokenDecimals.toInt = decimals ∧
      requestedToken.tokenInitialSupply.toInt = supply := by
    have casts := committed
    simp only [validationReserveInitialAmount, Tx.bind_ok, Tx.of_option_ok,
      Uint.checked_eq_some] at casts
    obtain ⟨reserve, _, ⟨sameReserve, _⟩, decimals, _, ⟨sameDecimals, _⟩, _, _, _, supply, _,
      ⟨sameSupply, _⟩, _⟩ := casts
    exact ⟨reserve.toNat, decimals.toNat, supply.toNat, sameReserve.symm, sameDecimals.symm,
      sameSupply.symm⟩
  obtain ⟨reserve, decimals, supply, sameReserve, sameDecimals, sameSupply⟩ := signs
  obtain ⟨same, _, compared⟩ :=
    (validation_ok sameReserve sameDecimals sameSupply).mp committed
  have covered : Covered decimals reserveDecimals.toNat supply reserve :=
    aligned_iff_covered.mp compared
  refine ⟨same, ?_⟩
  rw [FirstSupplyCovered, sameReserve, sameDecimals, sameSupply, Int.toNat_natCast,
    Int.cast_natCast, Int.cast_natCast]
  exact covered

def ReserveState.administered (amount : Sint256) (caller : Address) : ReserveState :=
  ⟨Function.update (fun _ => false) hederaReserveResolverKey true, ⟨amount, caller⟩⟩

inductive Handled (p : Platform rest) (feed : Address) (requestedToken : CoinRequest)
    (caller : Address) (before : Coin rest) : Address → Coin rest → Prop where
  | none (creates : requestedToken.createReserve = false)
      (given : requestedToken.reserveAddress = 0) :
      Handled p feed requestedToken caller before 0 before
  | created (creates : requestedToken.createReserve = true) (isSet : caller ≠ 0)
      (covered : FirstSupplyCovered requestedToken 2 requestedToken.reserveInitialAmount) :
      Handled p feed requestedToken caller before feed
        (putReserve before
          (ReserveState.administered requestedToken.reserveInitialAmount caller))
  | existing {answer : Sint256} {updatedAt : Uint256} {digits : Uint8}
      (creates : requestedToken.createReserve = false)
      (given : requestedToken.reserveAddress ≠ 0)
      (round : (withReserve p feed).latestRoundData requestedToken.reserveAddress before.world =
        some (answer, updatedAt))
      (feedDigits : (withReserve p feed).feedDecimals requestedToken.reserveAddress before.world =
        some digits)
      (covered : FirstSupplyCovered requestedToken digits.toNat answer) :
      Handled p feed requestedToken caller before requestedToken.reserveAddress before

theorem handled_rest {caller address : Address} {handled : Coin rest}
    (handling : Handled p feed requestedToken caller before address handled) :
    handled.world.rest = before.world.rest := by
  cases handling with
  | none | created | existing => rfl

theorem check_feed_ok {result : Unit} (creates : requestedToken.createReserve = false)
    (given : requestedToken.reserveAddress ≠ 0)
    (committed : checkFeed p feed requestedToken msg before = .ok (result, after)) :
    Handled p feed requestedToken msg.sender before requestedToken.reserveAddress after := by
  simp only [checkFeed, Tx.bind_ok, Tx.get_ok, Tx.of_option_ok, Tx.read_ok, Tx.require_ok]
    at committed
  obtain ⟨_, _, ⟨rfl, rfl⟩, ⟨answer, updatedAt⟩, _, ⟨round, rfl⟩, _, _, ⟨rfl, rfl⟩, _, _, ⟨_, rfl⟩,
    _, _, ⟨_, rfl⟩, digits, _, ⟨feedDigits, rfl⟩, validated⟩ := committed
  obtain ⟨rfl, covered⟩ := first_supply_covered validated
  exact .existing creates given round feedDigits covered

theorem handle_reserve_ok {address : Address}
    (committed : handleReserve p feed factory requestedToken msg before = .ok (address, after)) :
    Handled p feed requestedToken msg.sender before address after := by
  unfold handleReserve at committed
  split at committed
  · next none_ =>
      obtain ⟨rfl, rfl⟩ := Tx.pure_ok.mp committed
      exact .none none_.1 none_.2
  · next some_ =>
      split at committed
      · next creates =>
          simp only [newReserveProxy, onReserve, calledBy, Tx.bind_ok, of_contract_ok, Tx.focus_ok,
            Tx.read_ok, Tx.pure_ok] at committed
          obtain ⟨_, _, ⟨_, _, rfl⟩, _, _, validated, _, _, ⟨rfl, rfl⟩, _, _, ⟨_, opened, rfl⟩,
            rfl, rfl⟩ := committed
          obtain ⟨rfl, covered⟩ := first_supply_covered validated
          obtain ⟨_, isSet, rfl⟩ := HederaReserveFacet.initialize_ok.mp opened
          exact .created creates isSet covered
      · next exists_ =>
          have creates : requestedToken.createReserve = false := by simpa using exists_
          simp only [Tx.bind_ok, of_contract_ok, Tx.pure_ok] at committed
          obtain ⟨_, _, checked, rfl, rfl⟩ := committed
          exact check_feed_ok creates (fun given => some_ ⟨creates, given⟩) checked

/-! ## Roles and rights -/

section Rights

variable {world : Type} {p : Platform world} {roles : List RolesStruct}
  {cashin : CashinRoleStruct} {sender : Address} {before after : State world}

def plainGrants (roles : List RolesStruct) : List Grant :=
  roles.map fun entry => .plain entry.role entry.account

def initialGrants (sender : Address) (roles : List RolesStruct) (cashin : CashinRoleStruct) :
    List Grant :=
  plainGrants roles ++
    ((if cashin.account ≠ 0 then [.cashin cashin.account cashin.allowance] else []) ++
      [.plain adminRole sender])

theorem grant_role_performs {role : Bytes32} {account : Address} :
    Performs msg (RolesStorageWrapper.grantRole role account : FacetTx world Unit)
      (fun before => Grantable before (.plain role account))
      (fun before => granted before (.plain role account)) := by
  intro before after
  rw [RolesStorageWrapper.grant_role_ok]
  simp only [Grantable, granted, true_and, eq_comm]

theorem assign_roles_performs :
    Performs msg (ResolverProxy.assignRoles roles : FacetTx world Unit)
      (fun before => Along granted Grantable before (plainGrants roles))
      (fun before => run granted before (plainGrants roles)) :=
  performs_loop fun _ _ => grant_role_performs

theorem grant_initial_roles_performs :
    Performs msg
      (HederaTokenManagerFacet.grantInitialRoles sender roles cashin : FacetTx world Unit)
      (fun before => Along granted Grantable before (initialGrants sender roles cashin))
      (fun before => run granted before (initialGrants sender roles cashin)) := by
  apply performs_append assign_roles_performs
  have grant : Performs msg (RolesStorageWrapper.grantRole adminRole sender : FacetTx world Unit)
      _ _ := grant_role_performs
  have admin := performs_one grant
  by_cases isSet : cashin.account ≠ 0
  · simp only [if_pos isSet]
    exact performs_append (performs_one grant_cashin_performs) admin
  · simp only [if_neg isSet]
    exact admin

theorem mem_plain_grants {role : Bytes32} {account : Address} :
    (role, account) ∈ (plainGrants roles).map Grant.pair ↔ ⟨role, account⟩ ∈ roles := by
  simp only [plainGrants, List.map_map, List.mem_map, Function.comp_apply, Grant.pair,
    Prod.mk.injEq]
  constructor
  · intro found
    obtain ⟨entry, listed, rfl, rfl⟩ := found
    exact listed
  · intro listed
    exact ⟨_, listed, rfl, rfl⟩

theorem mem_initial_grants {role : Bytes32} {account : Address} :
    (role, account) ∈ (initialGrants sender roles cashin).map Grant.pair ↔
      ⟨role, account⟩ ∈ roles ∨
        (role = cashinRole ∧ account = cashin.account ∧ cashin.account ≠ 0) ∨
        (role = adminRole ∧ account = sender) := by
  rw [initialGrants, List.map_append, List.mem_append, List.map_append, List.mem_append,
    mem_plain_grants]
  by_cases isSet : cashin.account ≠ 0
  · simp only [eq_true isSet, and_true]
    simp [Grant.pair]
  · simp only [eq_false isSet, and_false, false_or]
    simp [Grant.pair]

/-- Listed roles give no allowance, the cash-in role included. -/
theorem last_amount_plain (supplier : Address) : lastAmount supplier (plainGrants roles) = none := by
  have none_ : (plainGrants roles).filterMap (Grant.amountFor supplier) = [] := by
    rw [plainGrants, List.filterMap_map, List.filterMap_eq_nil_iff]
    intro entry _
    rfl
  rw [lastAmount, none_, List.getLast?_nil]

theorem last_amount_initial (supplier : Address) :
    lastAmount supplier (initialGrants sender roles cashin) =
      if supplier = cashin.account ∧ cashin.account ≠ 0 then some cashin.allowance else none := by
  have plain : lastAmount supplier (plainGrants roles) = none := last_amount_plain supplier
  rw [initialGrants, ← List.append_assoc, last_amount_snoc, Grant.amountFor, Option.none_or]
  by_cases isSet : cashin.account ≠ 0
  · rw [if_pos isSet, last_amount_snoc, plain, Option.or_none, Grant.amountFor]
    simp only [isSet, and_true, eq_comm, ne_eq, not_false_eq_true]
  · rw [if_neg isSet, List.append_nil, plain, if_neg]
    exact fun found => isSet found.2

end Rights

/-! ## The deployment -/

def pointed (requestedToken : CoinRequest) (handled : Coin rest) : Coin rest :=
  { handled with
    resolverProxy :=
      ⟨requestedToken.businessLogicResolverAddress, requestedToken.stableCoinConfigurationId.key,
        requestedToken.stableCoinConfigurationId.version⟩ }

def proxied (requestedToken : CoinRequest) (handled : Coin rest) : Coin rest :=
  run granted (pointed requestedToken handled) (plainGrants requestedToken.roles)

def described (requestedToken : CoinRequest) (reserveAddress : Address) (handled : Coin rest) :
    Coin rest :=
  { proxied requestedToken handled with
    metadata := requestedToken.metadata
    reserve := ⟨reserveAddress, requestedToken.updatedAtThreshold⟩ }

def appointed (requestedToken : CoinRequest) (caller reserveAddress : Address)
    (handled : Coin rest) : Coin rest :=
  run granted (described requestedToken reserveAddress handled)
    (initialGrants caller requestedToken.roles requestedToken.cashinRole)

structure Deploys (p : Platform rest) (feed : Address) (requestedToken : CoinRequest) (msg : Msg)
    (before : Coin rest) (deployed : DeployedStableCoin) (after : Coin rest) : Prop where
  proxy : deployed.stableCoinProxy = p.proxy
  sender : msg.sender ≠ 0
  steps : ∃ handled, Handled p feed requestedToken msg.sender before deployed.reserveProxy handled ∧
    Along granted Grantable (described requestedToken deployed.reserveProxy handled)
      (initialGrants msg.sender requestedToken.roles requestedToken.cashinRole) ∧
    ∃ later refunded,
      (withReserve p feed).createFungibleToken (createToken requestedToken.toTokenStruct p.proxy)
          requestedToken.tokenInitialSupply requestedToken.tokenDecimals msg.value handled.world =
        ((success, deployed.tokenAddress), later) ∧
      (refunded =
          { appointed requestedToken msg.sender deployed.reserveProxy handled with
            tokenAddress := deployed.tokenAddress
            world := later } ∨
        ∃ amount, (withReserve p feed).sendValue msg.sender amount
          { appointed requestedToken msg.sender deployed.reserveProxy handled with
            tokenAddress := deployed.tokenAddress
            world := later } = some refunded) ∧
      after =
        { refunded with
          initialized := Function.update refunded.initialized hederaTokenManagerResolverKey true }

theorem proxied_ok {handled : Coin rest} {result : Unit}
    (committed : deployStableCoinProxy p feed factory requestedToken msg handled =
      .ok (result, after)) : after = proxied requestedToken handled := by
  simp only [deployStableCoinProxy, calledBy, of_contract_ok] at committed
  obtain ⟨_, assigned⟩ := ResolverProxy.constructed_ok committed
  exact ((assign_roles_performs _ _).mp assigned).2

theorem granted_world (before : Coin rest) (taken : List Grant) :
    (run granted before taken).world = before.world := by
  rw [others_after_grants]

theorem proxied_world (requestedToken : CoinRequest) (handled : Coin rest) :
    (proxied requestedToken handled).world = handled.world := granted_world _ _

theorem deploy_ok {deployed : DeployedStableCoin}
    (committed : deployStableCoin p feed factory requestedToken msg before =
      .ok (deployed, after)) : Deploys p feed requestedToken msg before deployed after := by
  simp only [deployStableCoin, deployedStableCoin, initializeToken, calledBy, Tx.bind_ok,
    Tx.require_ok, Tx.read_ok, of_contract_ok, Tx.pure_ok] at committed
  obtain ⟨_, _, ⟨_, rfl⟩, _, _, ⟨_, rfl⟩, reserveAddress, handled, handling, _, made, making, _, _,
    ⟨rfl, rfl⟩, token, _, initialized, rfl, rfl⟩ := committed
  obtain rfl := proxied_ok making
  obtain ⟨_, refunded, first, refunding, rfl⟩ := initialize_ok.mp initialized
  obtain ⟨_, granting, later, answered, rfl⟩ := first.created
  obtain ⟨accepted, rfl⟩ := (grant_initial_roles_performs _ _).mp granting
  refine ⟨rfl, first.sender, handled, handle_reserve_ok handling, accepted, later, refunded, ?_, ?_,
    rfl⟩
  · rw [granted_world] at answered
    rw [← proxied_world requestedToken handled]
    exact answered
  · rcases transfer_funds_back_ok.mp refunding with ⟨_, same⟩ | ⟨_, sent⟩
    · exact Or.inl same.symm
    · exact Or.inr ⟨_, sent⟩

/-! ## What the coin starts with -/

/-- The roles of the request, its supplier, the caller as an administrator, and
nothing that the request does not name. -/
structure StartsAs (requestedToken : CoinRequest) (caller : Address)
    (deployed : DeployedStableCoin) (coin : Coin rest) : Prop where
  holders : ∀ role account, RolesStorage.hasRole coin.roles role account = true ↔
    ⟨role, account⟩ ∈ requestedToken.roles ∨
      (role = cashinRole ∧ account = requestedToken.cashinRole.account ∧
        requestedToken.cashinRole.account ≠ 0) ∨
      (role = adminRole ∧ account = caller)
  suppliers : ∀ supplier, mintable coin supplier =
    if supplier = requestedToken.cashinRole.account ∧ requestedToken.cashinRole.account ≠ 0 then
      allowanceOf requestedToken.cashinRole.allowance
    else (false, 0)
  others : coin =
    { ResolverProxy.created coin.world with
      initialized := Function.update (fun _ => false) hederaTokenManagerResolverKey true
      tokenAddress := deployed.tokenAddress
      metadata := requestedToken.metadata
      roles := coin.roles
      supplierAdmin := coin.supplierAdmin
      reserve := ⟨deployed.reserveProxy, requestedToken.updatedAtThreshold⟩
      resolverProxy :=
        ⟨requestedToken.businessLogicResolverAddress,
          requestedToken.stableCoinConfigurationId.key,
          requestedToken.stableCoinConfigurationId.version⟩ }

section Start

variable {caller address : Address} {handled coin : Coin rest} {world_ : FeedWorld rest}
  {deployed : DeployedStableCoin}

theorem handled_created
    (done : Handled p feed requestedToken caller (ResolverProxy.created world_) address handled) :
    handled = ResolverProxy.created handled.world := by
  cases done with
  | none _ _ => rfl
  | created _ _ _ => rfl
  | existing _ _ _ _ _ => rfl

theorem refunded_world {prepared refunded : Coin rest}
    (quiet : QuietReceiver (withReserve p feed) caller)
    (done : refunded = prepared ∨
      ∃ amount, (withReserve p feed).sendValue caller amount prepared = some refunded) :
    refunded = { prepared with world := refunded.world } := by
  rcases done with rfl | ⟨amount, sent⟩
  · rfl
  · exact quiet.frame sent

theorem holders_appointed (requestedToken : CoinRequest) (caller address : Address)
    (world_ : FeedWorld rest) (role : Bytes32) (account : Address) :
    RolesStorage.hasRole
        (appointed requestedToken caller address (ResolverProxy.created world_)).roles role
        account = true ↔
      ⟨role, account⟩ ∈ requestedToken.roles ∨
        (role = cashinRole ∧ account = requestedToken.cashinRole.account ∧
          requestedToken.cashinRole.account ≠ 0) ∨
        (role = adminRole ∧ account = caller) := by
  have listed : RolesStorage.hasRole
      (described requestedToken address (ResolverProxy.created world_)).roles role account =
        true ↔ ⟨role, account⟩ ∈ requestedToken.roles := by
    rw [described, proxied, has_role_after_grants, mem_plain_grants]
    simp [pointed, ResolverProxy.created, RolesStorage.hasRole, RolesStorage.empty]
  rw [appointed, has_role_after_grants, mem_initial_grants, listed]
  constructor
  · intro held
    exact held.elim Or.inl id
  · exact Or.inr

theorem suppliers_appointed (world_ : FeedWorld rest) (supplier : Address)
    (accepted : Along granted Grantable
      (described requestedToken address (ResolverProxy.created world_))
      (initialGrants caller requestedToken.roles requestedToken.cashinRole)) :
    mintable (appointed requestedToken caller address (ResolverProxy.created world_)) supplier =
      if supplier = requestedToken.cashinRole.account ∧ requestedToken.cashinRole.account ≠ 0 then
        allowanceOf requestedToken.cashinRole.allowance
      else (false, 0) := by
  have plain : mintable (described requestedToken address (ResolverProxy.created world_))
      supplier = (false, 0) := by
    have along (start : Coin rest) :
        Along granted Grantable start (plainGrants requestedToken.roles) := by
      refine along_of_forall_mem _ ?_ start
      intro taken listed state
      obtain ⟨entry, _, rfl⟩ := List.mem_map.mp listed
      trivial
    have constructed := mintable_after_grants
      (along (pointed requestedToken (ResolverProxy.created world_))) supplier
    rw [last_amount_plain] at constructed
    exact constructed
  rw [appointed, mintable_after_grants accepted, last_amount_initial, plain]
  by_cases own : supplier = requestedToken.cashinRole.account ∧
      requestedToken.cashinRole.account ≠ 0
  · rw [if_pos own, if_pos own]
  · rw [if_neg own, if_neg own]

theorem proxied_eq (requestedToken : CoinRequest) (handled : Coin rest) :
    proxied requestedToken handled =
      { pointed requestedToken handled with
        roles := (proxied requestedToken handled).roles
        supplierAdmin := (proxied requestedToken handled).supplierAdmin } :=
  others_after_grants _ _

theorem appointed_eq (requestedToken : CoinRequest) (caller address : Address)
    (handled : Coin rest) :
    appointed requestedToken caller address handled =
      { pointed requestedToken handled with
        metadata := requestedToken.metadata
        roles := (appointed requestedToken caller address handled).roles
        supplierAdmin := (appointed requestedToken caller address handled).supplierAdmin
        reserve := ⟨address, requestedToken.updatedAtThreshold⟩ } := by
  have granting : appointed requestedToken caller address handled =
      { described requestedToken address handled with
        roles := (appointed requestedToken caller address handled).roles
        supplierAdmin := (appointed requestedToken caller address handled).supplierAdmin } :=
    others_after_grants _ _
  have constructed := proxied_eq requestedToken handled
  generalize appointed requestedToken caller address handled = final at granting ⊢
  rw [granting, described]
  generalize proxied requestedToken handled = made at constructed ⊢
  rw [constructed]

theorem starts_as_of_deploys (done : Deploys p feed requestedToken msg
      (ResolverProxy.created world_) deployed coin)
    (quiet : QuietReceiver (withReserve p feed) msg.sender) :
    StartsAs requestedToken msg.sender deployed coin := by
  obtain ⟨handled, handling, accepted, later, refunded, _, refunding, rfl⟩ := done.steps
  have fresh := handled_created handling
  have shape := refunded_world quiet refunding
  rw [fresh] at accepted shape
  rw [shape]
  refine ⟨holders_appointed requestedToken msg.sender _ _,
    fun supplier => suppliers_appointed _ supplier accepted, ?_⟩
  conv_lhs => rw [appointed_eq]
  rfl

theorem allowance_of_deploys (done : Deploys p feed requestedToken msg
      (ResolverProxy.created world_) deployed coin)
    (isSet : requestedToken.cashinRole.account ≠ 0) :
    requestedToken.cashinRole.allowance.toNat ≠ 0 := by
  obtain ⟨_, _, accepted, _⟩ := done.steps
  rw [initialGrants, if_pos isSet] at accepted
  obtain ⟨_, later⟩ := (along_append granted).mp accepted
  exact ((along_append granted).mp later).1.1.1

/-- A deployed coin has the roles and the supplier of its request, its creator
as an administrator, and nothing else. -/
theorem deployed_starts_as (p : Platform rest) (feed factory : Address)
    (requestedToken : CoinRequest) (msg : Msg) (world_ : FeedWorld rest)
    (deployed : DeployedStableCoin) (coin : Coin rest)
    (committed : deployStableCoin p feed factory requestedToken msg
      (ResolverProxy.created world_) = .ok (deployed, coin))
    (quiet : QuietReceiver (withReserve p feed) msg.sender) :
    StartsAs requestedToken msg.sender deployed coin :=
  starts_as_of_deploys (deploy_ok committed) quiet

end Start

/-! ## A coin on the example reserve -/

/-- The reserve at the address of the feed is made with the coin or is there
already. -/
def ReserveChosen (feed : Address) (requestedToken : CoinRequest) (world_ : FeedWorld rest) :
    Prop :=
  requestedToken.createReserve = true ∨
    (requestedToken.reserveAddress = feed ∧
      world_.reserve.initialized hederaReserveResolverKey = true)

structure CreationLaws (p : Platform rest) : Prop where
  supply : ∀ {token initial decimals value before address after},
    p.createFungibleToken token initial decimals value before = ((success, address), after) →
    supply p address after = initial.toInt

/-- Anybody may call anything on the coin, `initialize` included. -/
def Permitted (p : Platform rest) (feed : Address) (state : Coin rest) : Event rest → Prop
  | .coin msg called =>
      (called.kind = .hbar → QuietReceiver (withReserve p feed) msg.sender) ∧
        ∀ newAddress, called = .updateReserveAddress newAddress → newAddress = feed
  | .reserve msg _ => msg.sender ≠ state.world.reserve.hederaReserve.admin
  | .outside later =>
      supply p state.tokenAddress later ≤ supplyIn (withReserve p feed) state

structure Backing (p : Platform rest) (feed : Address) (digits : Nat) (token : Address)
    (state : Coin rest) : Prop where
  attached : Attached token feed state
  initialized : state.initialized hederaTokenManagerResolverKey = true
  opened : state.world.reserve.initialized hederaReserveResolverKey = true
  backed : Backed p feed digits state

section Backing

variable {digits : Nat} {token : Address} {state : Coin rest} {called : Call}

theorem not_initialization_of_committed {world : Type} {q : Platform world}
    {before after : State world} (initialized : before.initialized hederaTokenManagerResolverKey = true)
    (committed : called.perform q msg before = .ok ((), after)) :
    called.kind ≠ .initialization := by
  intro kind
  cases called with
  | initialize_ init =>
      obtain ⟨token, done⟩ := discard_ok.mp committed
      obtain ⟨_, _, first, _⟩ := initialize_ok.mp done
      rw [first.first] at initialized
      cases initialized
  | _ => cases kind

theorem initialized_kept_by_call {world : Type} {q : Platform world} {before after : State world}
    (control : called.keepsControl q msg) (effect : Effect q msg before after called) :
    after.initialized = before.initialized := by
  cases effect with
  | view _ same => rw [same]
  | mint done | burn done | wipe done | rescue done => rw [done.frame]
  | rescueHBAR done => rw [done.frame (control.2 rfl)]
  | administration _ _ _ _ frame => rw [frame]
  | permission _ _ frame | reserve _ _ frame | configuration _ _ frame => rw [frame]
  | createHold done | createHoldByController _ done => rw [done.frame]
  | executeHold _ _ _ _ done | releaseHold _ _ done | reclaimHold _ done => rw [done.frame]
  | initialization _ => exact (control.1 rfl).elim

theorem backing_by_event (isSet : feed ≠ 0)
    (fixed : ∀ current, (p.decimals token current).toNat = digits) (laws : SupplyLaws p token)
    (state : Coin rest) (event : Event rest) (backing : Backing p feed digits token state)
    (permitted : Permitted p feed state event) :
    Backing p feed digits token (nextEvent p feed state event) := by
  cases event with
  | outside later =>
      exact ⟨attached_by_event state (.outside later) backing.attached permitted,
        backing.initialized, backing.opened, backed_by_outside permitted backing.backed⟩
  | reserve msg called =>
      have same : nextEvent p feed state (.reserve msg called) = state := by
        rw [nextEvent, next_reserve_of_stranger state.world.reserve (msg, called) backing.opened
          permitted]
      rw [same]
      exact backing
  | coin msg called =>
      rcases next_cases (withReserve p feed) (atTime msg.timestamp state) msg called with
        committed | same
      · have started : (atTime msg.timestamp state).initialized hederaTokenManagerResolverKey
            = true := backing.initialized
        have again := not_initialization_of_committed started committed
        have inScope : InScope p feed state (.coin msg called) :=
          ⟨⟨again, permitted.1⟩, permitted.2⟩
        refine ⟨attached_by_event state _ backing.attached inScope, ?_,
          opened_by_event state _ backing.opened ⟨inScope, trivial⟩, ?_⟩
        · rw [nextEvent, initialized_kept_by_call inScope.1 (effect_of_committed committed)]
          exact backing.initialized
        · exact (backed_by_event isSet fixed laws state _ backing.attached inScope
            backing.backed).mpr trivial
      · rw [nextEvent, same]
        exact ⟨⟨backing.attached.token_, backing.attached.reserve⟩, backing.initialized,
          backing.opened, backing.backed⟩

theorem handled_address {world_ : FeedWorld rest} {caller address : Address} {handled : Coin rest}
    (isSet : feed ≠ 0) (chosen : ReserveChosen feed requestedToken world_)
    (handling : Handled p feed requestedToken caller (ResolverProxy.created world_) address
      handled) :
    address = feed ∧ handled.world.reserve.initialized hederaReserveResolverKey = true ∧
      FirstSupplyCovered requestedToken 2 handled.world.reserve.hederaReserve.reserveAmount := by
  cases handling with
  | none creates given =>
      rcases chosen with made | ⟨same, _⟩
      · rw [made] at creates
        cases creates
      · exact (isSet (same.symm.trans given)).elim
  | created _ _ covered =>
      exact ⟨rfl, by simp [putReserve, ReserveState.administered], covered⟩
  | existing creates given round feedDigits covered =>
      rcases chosen with made | ⟨same, opened⟩
      · rw [made] at creates
        cases creates
      · rw [same] at round feedDigits
        simp only [withReserve, if_true] at round feedDigits
        obtain ⟨rfl, _⟩ := reserve_round_eq.mp round
        obtain rfl := Option.some.inj feedDigits
        exact ⟨same, opened, covered⟩

theorem refunded_reserve {prepared refunded : Coin rest} {caller : Address}
    (done : refunded = prepared ∨
      ∃ amount, (withReserve p feed).sendValue caller amount prepared = some refunded) :
    refunded.world.reserve = prepared.world.reserve := by
  rcases done with rfl | ⟨amount, sent⟩
  · rfl
  · obtain ⟨later, _, rfl⟩ := Option.map_eq_some_iff.mp sent
    rfl

theorem refunded_supply {prepared refunded : Coin rest} {caller : Address}
    (quiet : QuietReceiver (withReserve p feed) caller)
    (done : refunded = prepared ∨
      ∃ amount, (withReserve p feed).sendValue caller amount prepared = some refunded) :
    supply p token refunded.world.rest = supply p token prepared.world.rest := by
  rcases done with rfl | ⟨amount, sent⟩
  · rfl
  · exact congrArg (fun word : Uint256 => (word.toNat : Int)) (quiet.supply sent token)

theorem issued_of_deploys {world_ : FeedWorld rest} {deployed : DeployedStableCoin}
    {coin : Coin rest} (quiet : QuietReceiver (withReserve p feed) msg.sender)
    (creation : CreationLaws p)
    (done : Deploys p feed requestedToken msg (ResolverProxy.created world_) deployed coin) :
    supply p deployed.tokenAddress coin.world.rest =
      requestedToken.tokenInitialSupply.toInt := by
  obtain ⟨_, _, _, _, _, answered, refunding, rfl⟩ := done.steps
  exact (refunded_supply quiet refunding).trans (creation.supply (on_rest_eq answered))

theorem backing_of_deployed {world_ : FeedWorld rest} {deployed : DeployedStableCoin}
    {coin : Coin rest} (isSet : feed ≠ 0) (chosen : ReserveChosen feed requestedToken world_)
    (quiet : QuietReceiver (withReserve p feed) msg.sender) (creation : CreationLaws p)
    (done : Deploys p feed requestedToken msg (ResolverProxy.created world_) deployed coin) :
    Backing p feed requestedToken.tokenDecimals.toInt.toNat deployed.tokenAddress coin := by
  have issued := issued_of_deploys quiet creation done
  obtain ⟨handled, handling, _, later, refunded, answered, refunding, rfl⟩ := done.steps
  obtain ⟨address, opened, covered⟩ := handled_address isSet chosen handling
  have shape := refunded_world quiet refunding
  have reserveKept : refunded.world.reserve = handled.world.reserve :=
    (refunded_reserve refunding).trans (on_rest_reserve answered)
  have token : refunded.tokenAddress = deployed.tokenAddress := by rw [shape]
  have feedStored : refunded.reserve.reserveAddress = feed := by
    rw [shape, ← address, appointed_eq]
  refine ⟨⟨token, feedStored⟩, by simp, ?_, ?_⟩
  · exact (congrArg (fun reserve => reserve.initialized hederaReserveResolverKey)
      reserveKept).trans opened
  · have supplied : supplyIn (withReserve p feed)
        { refunded with
          initialized :=
            Function.update refunded.initialized hederaTokenManagerResolverKey true } =
        requestedToken.tokenInitialSupply.toInt := by
      rw [← issued, ← token]
      rfl
    rw [Backed, Backs, supplied, reserveAmount, reserveKept]
    exact covered

end Backing

/-- The reference service for tokens without decimals; a new token belongs to
the treasury. -/
def launching : Platform Ledger :=
  { wholeUnits with
    createFungibleToken := fun _ initial _ _ ledger =>
      match (Uint.checked initial.toInt : Option Uint256) with
      | some issued =>
          ((success, 7),
            { ledger with balances := Function.update ledger.balances 1 issued, supply := issued })
      | none => ((refused, 0), ledger) }

theorem launching_creation_laws : CreationLaws launching where
  supply {token initial decimals value before address after} answered := by
    simp only [launching] at answered
    split at answered
    · next issued fits =>
        rw [← (Prod.mk.inj answered).2]
        exact Uint.checked_eq_some.mp fits
    · cases (Prod.mk.inj (Prod.mk.inj answered).1).1

theorem launching_supply_laws (token : Address) : SupplyLaws launching token where
  mint := (whole_units_supply_laws token).mint
  burn := (whole_units_supply_laws token).burn
  wipe := (whole_units_supply_laws token).wipe
  transfer := (whole_units_supply_laws token).transfer
  administer {request before after} answered := by
    have same : wholeUnits.administer request before = (success, after) := answered
    exact (whole_units_supply_laws token).administer same

/-- Ten tokens on a reserve of 20.00, which account 4 makes with the coin. -/
def sampleRequest : CoinRequest where
  tokenName := ""
  tokenSymbol := ""
  freeze := false
  supplyType := false
  tokenMaxSupply := 0
  tokenInitialSupply := units64 10
  tokenDecimals := 0
  updatedAtThreshold := 0
  keys := []
  roles := [⟨burnRole, 6⟩]
  cashinRole := ⟨5, units256 30⟩
  metadata := ""
  createReserve := true
  reserveAddress := 0
  reserveInitialAmount := sampleReserve.hederaReserve.reserveAmount
  businessLogicResolverAddress := 8
  stableCoinConfigurationId := ⟨2, 1⟩
  reserveConfigurationId := ⟨3, 1⟩

def sampleWorld : FeedWorld Ledger := ⟨holderLedger 0, ReserveState.created, 0⟩

def sampleDeployment : DeployedStableCoin × Coin Ledger :=
  match deployStableCoin launching 9 3 sampleRequest (sampleMsg 4 5)
      (ResolverProxy.created sampleWorld) with
  | .ok done => done
  | .error _ => (⟨0, 0, 0⟩, ResolverProxy.created sampleWorld)

theorem launching_quiet (recipient : Address) :
    QuietReceiver (withReserve launching 9) recipient where
  frame sent := by
    cases sent
    rfl
  balances sent token account := by
    cases sent
    rfl
  supply sent token := by
    cases sent
    rfl

theorem sample_deployed_starts_as :
    StartsAs sampleRequest 4 sampleDeployment.1 sampleDeployment.2 :=
  deployed_starts_as launching 9 3 sampleRequest (sampleMsg 4 5) sampleWorld _ _ rfl
    (launching_quiet 4)

/-- The supplier mints up to the reserve and beyond it, and somebody initializes
the coin again. -/
def sampleEventsOfDeployed : List (Event Ledger) :=
  [.coin (sampleMsg 5 15) (.mint 2 (units64 10)),
    .coin (sampleMsg 5 16) (.mint 2 (units64 1)),
    .coin (sampleMsg 6 17) (.initialize_ sampleInit)]

end StablecoinStudio.Token.Deployment
