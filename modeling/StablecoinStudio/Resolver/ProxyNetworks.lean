import StablecoinStudio.Resolver.ResolverProxy
import StablecoinStudio.Resolver.VersionHistory
import StablecoinStudio.Token.ReferenceLedger

/-!
# The resolver and its proxies

One resolver and any number of proxies that are constructed at fresh addresses.
Calls of the resolver, constructions of proxies and calls of proxies interleave
in any order; the world outside may change in between. Only the calls of the
resolver change its storage, so what every such call keeps holds along every run.
-/

namespace StablecoinStudio.Resolver.ProxyNetworks

open StablecoinStudio.Core.Common
open StablecoinStudio.Foundation.Runs
open StablecoinStudio.Foundation.Transaction
open StablecoinStudio.Resolver.BusinessLogicResolver
open StablecoinStudio.Resolver.BusinessLogicResolverWrapper
open StablecoinStudio.Resolver.DiamondCutManagerWrapper
open StablecoinStudio.Resolver.ResolverEffects
open StablecoinStudio.Resolver.VersionHistory
open StablecoinStudio.Resolver.VersionTables
open StablecoinStudio.Token.Administration
open StablecoinStudio.Token.ProxyState
open StablecoinStudio.Token.ReferenceLedger
open StablecoinStudio.Token.Services
open StablecoinStudio.Token.System

set_option autoImplicit false

/-- Where the resolver is deployed, what the code of the facets declares and
how everything else answers the proxies. -/
structure Deployment (outside : Type) where
  resolverAddress : Address
  facets : StaticFunctionSelectors
  platform : Platform (ResolverState × outside)

structure Network (outside : Type) where
  resolver : ResolverState
  outside : outside
  proxies : Address → Option (State Unit)

variable {outside : Type} (d : Deployment outside)

def inWorld {first second : Type} (state : State first) (world : second) : State second where
  initialized := state.initialized
  tokenAddress := state.tokenAddress
  metadata := state.metadata
  roles := state.roles
  supplierAdmin := state.supplierAdmin
  reserve := state.reserve
  holds := state.holds
  resolverProxy := state.resolverProxy
  reentrancyGuardEntered := state.reentrancyGuardEntered
  world := world

/-- What a proxy calls: at the address of the resolver, the resolver itself. -/
def Deployment.platformOf (proxy : Address) : Platform (ResolverState × outside) :=
  { d.platform with
    proxy := proxy
    configurationRegistered := fun resolver configurationId version world =>
      if resolver = d.resolverAddress then
        isResolverProxyConfigurationRegistered world.1.diamondCutManager configurationId version
      else d.platform.configurationRegistered resolver configurationId version world }

inductive NetworkLabel (outside : Type) where
  | resolver (msg : Msg) (called : ResolverCall)
  | deploy (proxy : Address) (msg : Msg) (resolver : Address) (configurationId : Bytes32)
      (version : Nat) (roles : List RolesStruct)
  | proxy (proxy : Address) (msg : Msg) (called : Call)
  | outside (later : outside)

def Network.world (network : Network outside) : ResolverState × outside :=
  (network.resolver, network.outside)

def Network.setProxy (network : Network outside) (proxy : Address) (state : State Unit) :
    Network outside :=
  { network with proxies := Function.update network.proxies proxy (some state) }

def resolverNext (facets : StaticFunctionSelectors) (state : ResolverState) (msg : Msg)
    (called : ResolverCall) : ResolverState :=
  match called.perform facets msg state with
  | .ok (_, later) => later
  | .error _ => state

def constructed (world : ResolverState × outside) (proxy : Address) (msg : Msg)
    (resolver : Address) (configurationId : Bytes32) (version : Nat) (roles : List RolesStruct) :
    Option (State Unit) :=
  match ResolverProxy.initialize_ (d.platformOf proxy) resolver configurationId version roles msg
      (ResolverProxy.created world) with
  | .ok (_, state) => some (inWorld state ())
  | .error _ => none

/-- One step. A proxy only reads the resolver: what the resolver's own callers
do while HBAR is sent is a step of its own. -/
def nextNetwork (network : Network outside) : NetworkLabel outside → Network outside
  | .resolver msg called =>
      { network with resolver := resolverNext d.facets network.resolver msg called }
  | .deploy proxy msg resolver configurationId version roles =>
      match network.proxies proxy, constructed d network.world proxy msg resolver configurationId
        version roles with
      | none, some state => network.setProxy proxy state
      | _, _ => network
  | .proxy proxy msg called =>
      match network.proxies proxy with
      | none => network
      | some state =>
          let after := next (d.platformOf proxy) (inWorld state network.world) (.call msg called)
          { network.setProxy proxy (inWorld after ()) with outside := after.world.2 }
  | .outside later => { network with outside := later }

/-- Before anything happened: nobody initialized the resolver, no proxy exists. -/
def freshNetwork (world : outside) : Network outside where
  resolver := ResolverState.created
  outside := world
  proxies _ := none

/-- Nobody who is sent HBAR calls back: their own calls are steps. -/
def NobodyCallsBack (_ : Network outside) : NetworkLabel outside → Prop
  | .proxy proxy msg called => called.undisturbed (d.platformOf proxy) msg
  | _ => True

variable {d} {network : Network outside} {msg : Msg}

theorem resolver_next_of_committed {facets : StaticFunctionSelectors} {before after : ResolverState}
    {called : ResolverCall} (committed : called.perform facets msg before = .ok ((), after)) :
    resolverNext facets before msg called = after := by
  simp only [resolverNext, committed]

theorem resolver_next_of_reverted {facets : StaticFunctionSelectors} {before : ResolverState}
    {called : ResolverCall} {failure : Revert}
    (reverted : called.perform facets msg before = .error failure) :
    resolverNext facets before msg called = before := by
  simp only [resolverNext, reverted]

theorem resolver_next_cases (facets : StaticFunctionSelectors) (state : ResolverState) (msg : Msg)
    (called : ResolverCall) :
    ResolverEffect facets msg state (resolverNext facets state msg called) called ∨
      resolverNext facets state msg called = state := by
  cases outcome : called.perform facets msg state with
  | ok pair =>
      obtain ⟨_, later⟩ := pair
      rw [resolver_next_of_committed outcome]
      exact Or.inl (resolver_effect outcome)
  | error failure => exact Or.inr (resolver_next_of_reverted outcome)

theorem resolver_after_deploy {proxy resolver : Address} {configurationId : Bytes32}
    {version : Nat} {roles : List RolesStruct} :
    (nextNetwork d network (.deploy proxy msg resolver configurationId version roles)).resolver =
      network.resolver := by
  simp only [nextNetwork]
  split
  · rfl
  · rfl

theorem resolver_after_proxy {proxy : Address} {called : Call} :
    (nextNetwork d network (.proxy proxy msg called)).resolver = network.resolver := by
  simp only [nextNetwork]
  split
  · rfl
  · rfl

theorem resolver_step (d : Deployment outside) (network : Network outside)
    (label : NetworkLabel outside) :
    (∃ msg called, label = .resolver msg called ∧
        called.perform d.facets msg network.resolver =
          .ok ((), (nextNetwork d network label).resolver)) ∨
      (nextNetwork d network label).resolver = network.resolver := by
  cases label with
  | resolver msg called =>
      cases outcome : called.perform d.facets msg network.resolver with
      | ok pair =>
          obtain ⟨_, later⟩ := pair
          have reached : (nextNetwork d network (.resolver msg called)).resolver = later :=
            resolver_next_of_committed outcome
          rw [reached]
          exact Or.inl ⟨msg, called, rfl, outcome⟩
      | error failure => exact Or.inr (resolver_next_of_reverted outcome)
  | deploy _ _ _ _ _ _ => exact Or.inr resolver_after_deploy
  | proxy _ _ _ => exact Or.inr resolver_after_proxy
  | outside _ => exact Or.inr rfl

theorem resolver_after_step (label : NetworkLabel outside) :
    (∃ msg called, label = .resolver msg called ∧
        ResolverEffect d.facets msg network.resolver (nextNetwork d network label).resolver
          called) ∨
      (nextNetwork d network label).resolver = network.resolver := by
  rcases resolver_step d network label with ⟨msg, called, named, committed⟩ | same
  · exact Or.inl ⟨msg, called, named, resolver_effect committed⟩
  · exact Or.inr same

/-! ## The resolver's storage along a run -/

abbrev manager (network : Network outside) : DiamondCutManagerStorage :=
  network.resolver.diamondCutManager

/-- Only the calls of the resolver change its storage. -/
theorem manager_step (d : Deployment outside) (ordered : VersionsInOrder (manager network))
    (label : NetworkLabel outside) :
    VersionsInOrder (manager (nextNetwork d network label)) ∧
      Grows (manager network) (manager (nextNetwork d network label)) := by
  rcases resolver_after_step label with ⟨msg, called, rfl, effect⟩ | same
  · exact history_of_effect ordered effect
  · simp only [manager, same]
    exact ⟨ordered, grows_refl _⟩

theorem manager_invariant_step (invariant : ManagerInvariant (manager network))
    (label : NetworkLabel outside) : ManagerInvariant (manager (nextNetwork d network label)) := by
  rcases resolver_after_step label with ⟨msg, called, rfl, effect⟩ | same
  · exact manager_invariant_of_effect invariant effect
  · simp only [manager, same]
    exact invariant

theorem grows_along_run (d : Deployment outside) (labels : List (NetworkLabel outside))
    (ordered : VersionsInOrder (manager network)) :
    Grows (manager network) (manager (run (nextNetwork d) network labels)) := by
  induction labels generalizing network with
  | nil => exact grows_refl _
  | cons first rest ih =>
      obtain ⟨kept, grows⟩ := manager_step d ordered first
      exact grows.trans (ih kept)

theorem manager_invariant_along_run (labels : List (NetworkLabel outside))
    (invariant : ManagerInvariant (manager network)) :
    ManagerInvariant (manager (run (nextNetwork d) network labels)) :=
  invariant_of_every_step (nextNetwork d) (fun network => ManagerInvariant (manager network))
    (fun _ taken invariant => manager_invariant_step invariant taken) labels invariant

/-! ## A network to evaluate on

A resolver at address 5 administered by account 4, with three facets: the code
at 11 and the code at 12 declare selectors of their own, and the code at 13
shares one with the code at 11.
-/

def sampleFacets : StaticFunctionSelectors where
  getStaticFunctionSelectors address :=
    if address = 11 then some [0x101, 0x102]
    else if address = 12 then some [0x103]
    else if address = 13 then some [0x102, 0x104]
    else none
  getStaticInterfaceIds address :=
    if address = 11 ∨ address = 12 ∨ address = 13 then some [0x201] else none

/-- A token service that refuses, for networks whose proxies hold no tokens. -/
def refusing : Platform (ResolverState × Unit) where
  proxy := 0
  mintToken _ _ world := (refused, world)
  burnToken _ _ world := (refused, world)
  wipeTokenAccount _ _ _ world := (refused, world)
  transferToken _ _ _ _ world := (refused, world)
  getTokenKey _ _ _ := refused
  getTokenInfo _ _ := (refused, {})
  administer _ world := (refused, world)
  createFungibleToken _ _ _ _ world := ((refused, 0), world)
  balanceOf _ _ _ := 0
  totalSupply _ _ := 0
  decimals _ _ := 0
  tokenName _ _ := ""
  tokenSymbol _ _ := ""
  latestRoundData _ _ := none
  feedDecimals _ _ := none
  configurationRegistered _ _ _ _ := false
  hbarBalance _ := 0
  sendValue _ _ _ := none

def sample : Deployment Unit where
  resolverAddress := 5
  facets := sampleFacets
  platform := refusing

def byAdmin (called : ResolverCall) : NetworkLabel Unit := .resolver (sampleMsg 4 1) called

def sampleRegistrations : List (NetworkLabel Unit) :=
  [byAdmin .initialize_BusinessLogicResolver,
    byAdmin (.registerBusinessLogics [⟨1, 11⟩, ⟨2, 12⟩, ⟨3, 13⟩])]

def sampleStart : Network Unit := run (nextNetwork sample) (freshNetwork ()) sampleRegistrations

end StablecoinStudio.Resolver.ProxyNetworks
