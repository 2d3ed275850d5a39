import StablecoinStudio.Token.RoleRegistry
import StablecoinStudio.Token.StableCoinFactory

/-!
# How often a proxy is initialized

The initializer checks its flag before its body and sets it after, and the body
refunds HBAR to an account of the caller's choice. A journal beside the world
outside keeps the token address that every completed execution of the body
returned; a reverted call takes its entry back.
-/

namespace StablecoinStudio.Token.InitializedOnce

open StablecoinStudio.Core.Common
open StablecoinStudio.Core.Constants
open StablecoinStudio.Foundation.Runs
open StablecoinStudio.Foundation.Transaction
open StablecoinStudio.Resolver
open StablecoinStudio.Token.Administration
open StablecoinStudio.Token.NestedCalls
open StablecoinStudio.Token.PermissionRules
open StablecoinStudio.Token.ProxyState
open StablecoinStudio.Token.ReferenceLedger
open StablecoinStudio.Token.Roles
open StablecoinStudio.Token.Services
open StablecoinStudio.Token.StableCoinFactory
open StablecoinStudio.Token.SupplierAdmin
open StablecoinStudio.Token.System

set_option autoImplicit false

/-- The tokens that completed initializations returned, in order. -/
abbrev Journal := List Address

variable {world : Type}

/-- A service of the world outside, which cannot touch the journal. -/
def besideJournal {answer : Type} (service : world → answer × world) (current : world × Journal) :
    answer × (world × Journal) :=
  ((service current.1).1, (service current.1).2, current.2)

def journaled (p : Platform world) : Platform (world × Journal) where
  proxy := p.proxy
  mintToken token amount := besideJournal (p.mintToken token amount)
  burnToken token amount := besideJournal (p.burnToken token amount)
  wipeTokenAccount token account amount := besideJournal (p.wipeTokenAccount token account amount)
  transferToken token sender recipient amount :=
    besideJournal (p.transferToken token sender recipient amount)
  getTokenKey token keyType current := p.getTokenKey token keyType current.1
  getTokenInfo token current := p.getTokenInfo token current.1
  administer request := besideJournal (p.administer request)
  createFungibleToken token supply decimals value :=
    besideJournal (p.createFungibleToken token supply decimals value)
  balanceOf token account current := p.balanceOf token account current.1
  totalSupply token current := p.totalSupply token current.1
  decimals token current := p.decimals token current.1
  tokenName token current := p.tokenName token current.1
  tokenSymbol token current := p.tokenSymbol token current.1
  latestRoundData feed current := p.latestRoundData feed current.1
  feedDecimals feed current := p.feedDecimals feed current.1
  configurationRegistered resolver configurationId version current :=
    p.configurationRegistered resolver configurationId version current.1
  hbarBalance current := p.hbarBalance current.1
  sendValue _ _ _ := none

/-- The receivers see the journal as little as the services do. -/
def journaledReceivers (receivers : Receivers world (Label world)) :
    Receivers (world × Journal) (Label world) where
  transfer recipient amount current :=
    (receivers.transfer recipient amount current.1).map fun paid => (paid, current.2)
  reaction recipient amount state :=
    receivers.reaction recipient amount { state with world := state.world.1 }

def noteToken (token : Address) (state : State (world × Journal)) : State (world × Journal) :=
  { state with world := (state.world.1, state.world.2 ++ [token]) }

def noted (p : Platform (world × Journal)) (state : State (world × Journal)) :
    Label world → State (world × Journal)
  | .call msg (.initialize_ init) =>
      match HederaTokenManagerFacet.initialize_ p init msg state with
      | .ok (token, later) => noteToken token later
      | .error _ => state
  | .call msg called => next p state (.call msg called)
  | .outside later => { state with world := (later, state.world.2) }

/-- The proxy on which every transfer of HBAR runs the receiver's code. -/
abbrev reentrant (p : Platform world) (receivers : Receivers world (Label world)) (depth : Nat) :
    Platform (world × Journal) :=
  withReceivers noted (journaled p) (journaledReceivers receivers) depth

/-- At most one initialization completed, and the token it returned is the one
in store. -/
structure OneInitialization (state : State (world × Journal)) : Prop where
  once : state.world.2.length ≤ 1
  stored : ∀ token ∈ state.world.2, token = state.tokenAddress

variable {p : Platform world} {q : Platform (world × Journal)} {msg : Msg}
  {before after : State (world × Journal)} {init : InitializeStruct} {token : Address}
  {prepared : State (world × Journal)}

theorem noted_of_initialized
    (committed : HederaTokenManagerFacet.initialize_ q init msg before = .ok (token, after)) :
    noted q before (.call msg (.initialize_ init)) = noteToken token after := by
  simp only [noted, committed]

theorem noted_of_other {called : Call} (other : called.kind ≠ .initialization) :
    noted q before (.call msg called) = next q before (.call msg called) := by
  cases called with
  | initialize_ init => exact (other rfl).elim
  | _ => rfl

/-- The services and transfers of the model keep the journal. -/
def SameJournal (before after : world × Journal) : Prop := after.2 = before.2

instance : Std.Refl (@SameJournal world) := ⟨fun _ => rfl⟩

instance : IsTrans (world × Journal) SameJournal := ⟨fun _ _ _ start rest => rest.trans start⟩

theorem services_keep_journal (p : Platform world) : ServicesKeep SameJournal (journaled p) := by
  constructor
  all_goals
    intros
    next answered =>
      cases answered
      rfl

/-- A relation that the other calls keep is kept by a step with the journal when
the completed initializations keep it. -/
theorem kept_by_noted {relation : State (world × Journal) → State (world × Journal) → Prop}
    [Std.Refl relation] [IsTrans (State (world × Journal)) relation]
    (same : ∀ before after, SameRegistry SameJournal before after → relation before after)
    (others : ∀ before after, KeepsOthers before after → relation before after)
    (services : ServicesKeep SameJournal q) (state : State (world × Journal)) (taken : Label world)
    (initializes : ∀ msg init token after, taken = .call msg (.initialize_ init) →
      HederaTokenManagerFacet.initialize_ q init msg state = .ok (token, after) →
      relation state (noteToken token after))
    (sends : SendsKeep relation q) : relation state (noted q state taken) := by
  cases taken with
  | outside later => exact same _ _ ⟨rfl, rfl, rfl, rfl⟩
  | call msg called =>
      by_cases isInitialize : called.kind = .initialization
      · cases called with
        | initialize_ init =>
            cases outcome : HederaTokenManagerFacet.initialize_ q init msg state with
            | ok committed =>
                rw [noted_of_initialized outcome]
                exact initializes _ _ _ _ rfl outcome
            | error failure =>
                simp only [noted, outcome]
                exact refl_of relation state
        | _ => cases isInitialize
      · rw [noted_of_other isInitialize]
        apply kept_by_call same services (keeps_others_writes.mono others) state
          (fun init token after named => ?_) sends
        subst named
        exact (isInitialize rfl).elim

/-- The journal only grows, and while it stays so do the flag and the token. -/
structure Extends (before after : State (world × Journal)) : Prop where
  grows : before.world.2 <+: after.world.2
  settled : after.world.2 = before.world.2 → after.tokenAddress = before.tokenAddress ∧
    after.initialized hederaTokenManagerResolverKey =
      before.initialized hederaTokenManagerResolverKey

instance : Std.Refl (@Extends world) := ⟨fun _ => ⟨List.prefix_rfl, fun _ => ⟨rfl, rfl⟩⟩⟩

instance : IsTrans (State (world × Journal)) Extends where
  trans first second third start rest := by
    refine ⟨start.grows.trans rest.grows, ?_⟩
    intro same
    have unmoved : second.world.2 = first.world.2 := by
      apply start.grows.eq_of_length_le _ |>.symm
      rw [← same]
      exact rest.grows.length_le
    obtain ⟨firstToken, firstFlag⟩ := start.settled unmoved
    obtain ⟨lastToken, lastFlag⟩ := rest.settled (same.trans unmoved.symm)
    exact ⟨lastToken.trans firstToken, lastFlag.trans firstFlag⟩

theorem extends_of_same (same : SameRegistry SameJournal before after) : Extends before after := by
  refine ⟨?_, ?_⟩
  · rw [same.world]
  · intro _
    rw [same.tokenAddress, same.initialized]
    exact ⟨rfl, rfl⟩

theorem extends_of_others (kept : KeepsOthers before after) : Extends before after := by
  rw [kept]
  exact ⟨List.prefix_rfl, fun _ => ⟨rfl, rfl⟩⟩

theorem journal_of_prepared (first : Prepared q msg init before token prepared)
    (services : ServicesKeep SameJournal q) : prepared.world.2 = before.world.2 := by
  obtain ⟨granted, granting, later, created, rfl⟩ := first.created
  have others : KeepsOthers _ granted :=
    grant_initial_roles_respects keeps_others_writes (fun _ _ => trivial) first.sender _ _ _ _
      granting
  calc
    later.2 = granted.world.2 := services.create created
    _ = before.world.2 := by rw [others]

/-- A completed initialization: its entry comes after those of the refund. -/
theorem extends_by_initialization (sends : SendsKeep Extends q)
    (services : ServicesKeep SameJournal q)
    (committed : HederaTokenManagerFacet.initialize_ q init msg before = .ok (token, after)) :
    Extends before (noteToken token after) := by
  obtain ⟨prepared, refunded, first, refunding, rfl⟩ := initialize_ok.mp committed
  have entries : before.world.2 <+: refunded.world.2 := by
    rw [← journal_of_prepared first services]
    exact (refund_keeps sends refunding).grows
  refine ⟨entries.trans (List.prefix_append _ _), ?_⟩
  intro same
  have longer : refunded.world.2.length + 1 = before.world.2.length := by
    rw [← same]
    simp [noteToken]
  have shorter := entries.length_le
  omega

theorem extends_by_step (services : ServicesKeep SameJournal q) (sends : SendsKeep Extends q)
    (state : State (world × Journal)) (taken : Label world) :
    Extends state (noted q state taken) := by
  apply kept_by_noted (fun _ _ => extends_of_same) (fun _ _ => extends_of_others) services state
    taken (fun msg init token after _ committed => ?_) sends
  exact extends_by_initialization sends services committed

/-- Nothing is asked of the calls that the receivers' code makes. -/
theorem extends_at_depth (p : Platform world) (receivers : Receivers world (Label world))
    (depth : Nat) : SendsKeep Extends (reentrant p receivers depth) := by
  have permitted : ReactsBy noted (fun _ _ _ => True) (journaled p) (journaledReceivers receivers) :=
    fun _ _ _ state _ _ => along_of_forall_mem _ (fun _ _ _ => trivial) state
  apply sends_keep_at_depth Extends _ _ permitted
  · intro recipient amount state paid paying
    obtain ⟨_, _, rfl⟩ := Option.map_eq_some_iff.mp paying
    exact extends_of_same ⟨rfl, rfl, rfl, rfl⟩
  · intro depth sends state taken _
    exact extends_by_step (services_keep_at_depth (services_keep_journal p) depth) sends state taken

theorem extends_along_run (p : Platform world) (receivers : Receivers world (Label world))
    (depth : Nat) (start : State (world × Journal)) (labels : List (Label world)) :
    Extends start (run (noted (reentrant p receivers depth)) start labels) := by
  apply invariant_of_every_step _ _ (fun state taken so_far => ?_) labels (refl_of Extends start)
  exact trans_of Extends so_far (extends_by_step
    (services_keep_at_depth (services_keep_journal p) depth) (extends_at_depth p receivers depth)
    state taken)

/-! ## One initialization -/

/-- Between the first part of the initializer and its last write, the refund: the
entries it leaves decide. -/
theorem one_after_initialization (services : ServicesKeep SameJournal q)
    (sends : SendsKeep Extends q) (empty : before.world.2 = [])
    (first : Prepared q msg init before token prepared)
    (refunding : HederaTokenManagerFacet.transferFundsBackToOriginalSender q init.originalSender msg
      prepared = .ok ((), after)) :
    OneInitialization (noted q before (.call msg (.initialize_ init))) ↔
      after.world.2 = prepared.world.2 := by
  have start : prepared.world.2 = [] := (journal_of_prepared first services).trans empty
  have named : prepared.tokenAddress = token := by
    obtain ⟨_, _, _, _, rfl⟩ := first.created
    rfl
  rw [noted_of_initialized (initialize_ok.mpr ⟨prepared, after, first, refunding, rfl⟩)]
  constructor
  · intro one
    have short : (after.world.2 ++ [token]).length ≤ 1 := one.once
    have none_ : after.world.2 = [] := by
      apply List.eq_nil_of_length_eq_zero
      simpa using short
    rw [none_, start]
  · intro same
    have kept := (refund_keeps sends refunding).settled same
    rw [start] at same
    constructor
    · simp [noteToken, same]
    · intro entry listed
      have newest : entry = token := by simpa [noteToken, same] using listed
      rw [newest, ← named]
      exact kept.1.symm

/-! ## Runs -/

/-- No initialization completes within the refund of another one. -/
def NoneWithinRefund (q : Platform (world × Journal)) (state : State (world × Journal)) :
    Label world → Prop
  | .call msg (.initialize_ init) => ∀ token prepared refunded,
      Prepared q msg init state token prepared →
      HederaTokenManagerFacet.transferFundsBackToOriginalSender q init.originalSender msg prepared =
        .ok ((), refunded) →
      refunded.world.2 = prepared.world.2
  | _ => True

/-- The flag and the journal agree. -/
def Balanced (state : State (world × Journal)) : Prop :=
  (state.initialized hederaTokenManagerResolverKey = false ∧ state.world.2 = []) ∨
    (state.initialized hederaTokenManagerResolverKey = true ∧
      state.world.2 = [state.tokenAddress])

theorem one_of_balanced (balanced : Balanced before) : OneInitialization before := by
  rcases balanced with ⟨_, entries⟩ | ⟨_, entries⟩
  · constructor
    · simp [entries]
    · simp [entries]
  · constructor
    · simp [entries]
    · simp [entries]

def StaysBalanced (before after : State (world × Journal)) : Prop :=
  Balanced before → Balanced after

instance : Std.Refl (@StaysBalanced world) := ⟨fun _ => id⟩

instance : IsTrans (State (world × Journal)) StaysBalanced :=
  ⟨fun _ _ _ start rest balanced => rest (start balanced)⟩

theorem balanced_of_same (same : SameRegistry SameJournal before after) :
    StaysBalanced before after := by
  unfold StaysBalanced Balanced
  rw [same.initialized, same.tokenAddress, same.world]
  exact id

theorem balanced_of_others (kept : KeepsOthers before after) : StaysBalanced before after := by
  rw [kept]
  exact id

/-- The condition is used here: the refund leaves no entry, so the one made last
is the first. -/
theorem balanced_by_initialization (services : ServicesKeep SameJournal q)
    (sends : SendsKeep Extends q)
    (noneWithin : NoneWithinRefund q before (.call msg (.initialize_ init)))
    (committed : HederaTokenManagerFacet.initialize_ q init msg before = .ok (token, after)) :
    StaysBalanced before (noteToken token after) := by
  obtain ⟨prepared, refunded, first, refunding, rfl⟩ := initialize_ok.mp committed
  rintro (⟨_, empty⟩ | ⟨already, _⟩)
  · have none_ := noneWithin token prepared refunded first refunding
    have start : prepared.world.2 = [] := (journal_of_prepared first services).trans empty
    have one := (one_after_initialization services sends empty first refunding).mpr none_
    rw [noted_of_initialized committed] at one
    have newest : refunded.world.2 ++ [token] = [token] := by rw [none_, start, List.nil_append]
    refine Or.inr ⟨by simp [noteToken], ?_⟩
    have listed : token ∈ refunded.world.2 ++ [token] := by simp
    have stored := one.stored token listed
    rw [← stored]
    exact newest
  · rw [first.first] at already
    cases already

theorem balanced_by_step (services : ServicesKeep SameJournal q) (extends_ : SendsKeep Extends q)
    (sends : SendsKeep StaysBalanced q) (state : State (world × Journal)) (taken : Label world)
    (noneWithin : NoneWithinRefund q state taken) : StaysBalanced state (noted q state taken) := by
  apply kept_by_noted (fun _ _ => balanced_of_same) (fun _ _ => balanced_of_others) services state
    taken (fun msg init token after isInitialize committed => ?_) sends
  subst isInitialize
  exact balanced_by_initialization services extends_ noneWithin committed

theorem balanced_along_run (p : Platform world) (receivers : Receivers world (Label world))
    (depth : Nat)
    (reacts : ReactsBy noted NoneWithinRefund (journaled p) (journaledReceivers receivers))
    (start : State (world × Journal)) (labels : List (Label world))
    (noneWithin : Along (noted (reentrant p receivers depth))
      (NoneWithinRefund (reentrant p receivers depth)) start labels) :
    StaysBalanced start (run (noted (reentrant p receivers depth)) start labels) := by
  apply run_keeps_at_depth StaysBalanced _ _ reacts depth start labels noneWithin
  · intro recipient amount state paid paying
    obtain ⟨_, _, rfl⟩ := Option.map_eq_some_iff.mp paying
    exact balanced_of_same ⟨rfl, rfl, rfl, rfl⟩
  · intro depth sends state taken permitted
    exact balanced_by_step (services_keep_at_depth (services_keep_journal p) depth)
      (extends_at_depth p receivers depth) sends state taken permitted

theorem balanced_constructed {resolver : Address} {configurationId : Bytes32} {version : Nat}
    {initialRoles : List RolesStruct} {world_ : world}
    (constructed : ResolverProxy.initialize_ (journaled p) resolver configurationId version
      initialRoles msg (ResolverProxy.created (world_, [])) = .ok ((), after)) :
    Balanced after := by
  obtain ⟨_, assigned⟩ := ResolverProxy.constructed_ok constructed
  have kept : KeepsOthers _ after := ResolverProxy.assign_roles_keeps _ _ _ _ assigned
  exact balanced_of_others kept (Or.inl ⟨rfl, rfl⟩)

/-- What the factory is told stays in the journal. -/
theorem returned_to_factory {requestedToken : TokenStruct} {caller reserveAddress : Address}
    {deployed : DeployedStableCoin}
    (committed : deployedStableCoin q requestedToken caller reserveAddress msg before =
      .ok (deployed, after)) :
    deployed.tokenAddress ∈ (noted q before
      (.call msg (.initialize_ (initInfo requestedToken caller q.proxy reserveAddress)))).world.2 := by
  simp only [deployedStableCoin, Tx.bind_ok, Tx.pure_ok] at committed
  obtain ⟨returned, _, called, rfl, rfl⟩ := committed
  rw [noted_of_initialized called]
  simp [noteToken]

/-- One initialize call leaves one initialization exactly when its refund leaves
none; runs of such calls do as well; and then the factory is told the token
that the proxy stores, whatever follows. -/
structure OnceWhenUninterrupted (p : Platform world) (receivers : Receivers world (Label world))
    (depth : Nat) (start : State (world × Journal)) : Prop where
  single : ∀ msg init before token prepared refunded, before.world.2 = [] →
    Prepared (reentrant p receivers depth) msg init before token prepared →
    HederaTokenManagerFacet.transferFundsBackToOriginalSender (reentrant p receivers depth)
      init.originalSender msg prepared = .ok ((), refunded) →
    (OneInitialization (noted (reentrant p receivers depth) before (.call msg (.initialize_ init))) ↔
      refunded.world.2 = prepared.world.2)
  reached : ReactsBy noted NoneWithinRefund (journaled p) (journaledReceivers receivers) →
    ∀ labels, Along (noted (reentrant p receivers depth))
        (NoneWithinRefund (reentrant p receivers depth)) start labels →
      OneInitialization (run (noted (reentrant p receivers depth)) start labels)
  returned : ∀ requestedToken caller reserveAddress msg before deployed after later,
    deployedStableCoin (reentrant p receivers depth) requestedToken caller reserveAddress msg
      before = .ok (deployed, after) →
    let final := run (noted (reentrant p receivers depth)) before
      (.call msg (.initialize_ (initInfo requestedToken caller (reentrant p receivers depth).proxy
        reserveAddress)) :: later)
    OneInitialization final → deployed.tokenAddress = final.tokenAddress

theorem initialized_once (p : Platform world) (receivers : Receivers world (Label world))
    (depth : Nat) (world_ : world) (resolver : Address) (configurationId : Bytes32) (version : Nat)
    (initialRoles : List RolesStruct) (creator : Msg) (start : State (world × Journal))
    (constructed : ResolverProxy.initialize_ (journaled p) resolver configurationId version
      initialRoles creator (ResolverProxy.created (world_, [])) = .ok ((), start)) :
    OnceWhenUninterrupted p receivers depth start := by
  have services : ServicesKeep SameJournal (reentrant p receivers depth) :=
    services_keep_at_depth (services_keep_journal p) depth
  refine ⟨?_, ?_, ?_⟩
  · intro msg init before token prepared refunded empty first refunding
    exact one_after_initialization services (extends_at_depth p receivers depth) empty first
      refunding
  · intro reacts labels noneWithin
    exact one_of_balanced (balanced_along_run p receivers depth reacts start labels noneWithin
      (balanced_constructed constructed))
  · intro requestedToken caller reserveAddress msg before deployed after later committed final one
    apply one.stored
    have listed := returned_to_factory committed
    exact (extends_along_run p receivers depth _ later).grows.subset listed

/-! ## A receiver that initializes again -/

/-- The balances count HBAR here. A token created while the proxy at address 1
holds some is 8, and 9 afterwards. -/
def refundable : Platform Ledger :=
  { reference 1 with
    hbarBalance := fun ledger => ledger.balances 1
    createFungibleToken := fun _ _ _ _ ledger =>
      ((success, if ledger.balances 1 = 0 then 9 else 8), ledger) }

def reinitializer : Receivers Ledger (Label Ledger) where
  transfer recipient amount ledger :=
    some { ledger with
      balances := Function.update (Function.update ledger.balances 1 0) recipient amount }
  reaction _ _ _ := some [.call (sampleMsg 4 1) (.initialize_ sampleInit)]

/-- A constructed proxy that was sent 5 for its initialization. -/
def refundableLedger : Ledger where
  balances account := if account = 1 then units256 5 else 0
  supply := 0

def refundableConstructed : State (Ledger × Journal) :=
  { ResolverProxy.created (refundableLedger, []) with
    resolverProxy := ⟨5, 6, 1⟩
    roles := RolesStorage.grantRole RolesStorage.empty adminRole 4 }

theorem initialized_once_refundable :
    OnceWhenUninterrupted refundable reinitializer 1 refundableConstructed :=
  initialized_once refundable reinitializer 1 refundableLedger 5 6 1 [⟨adminRole, 4⟩]
    (sampleMsg 4 0) refundableConstructed rfl

/-- Both executions complete; the first one returns 8 while the proxy stores 9. -/
theorem initialized_twice :
    ¬ ∀ start : State (Ledger × Journal),
      ResolverProxy.initialize_ (journaled refundable) 5 6 1 [⟨adminRole, 4⟩] (sampleMsg 4 0)
          (ResolverProxy.created (refundableLedger, [])) = .ok ((), start) →
        ∀ labels, OneInitialization
          (run (noted (reentrant refundable reinitializer 1)) start labels) := by
  intro law
  have one := law refundableConstructed rfl [.call (sampleMsg 4 1) (.initialize_ sampleInit)]
  have twice : (run (noted (reentrant refundable reinitializer 1)) refundableConstructed
      [.call (sampleMsg 4 1) (.initialize_ sampleInit)]).world.2 = [9, 8] := by decide
  have short := one.once
  rw [twice] at short
  exact absurd short (by decide)

end StablecoinStudio.Token.InitializedOnce
