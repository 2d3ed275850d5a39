import StablecoinStudio.Foundation.Runs
import StablecoinStudio.Token.System

/-!
# Calls from within an HBAR transfer

Whoever is sent HBAR may run code, and that code may call the proxy again. The
calls it makes are a run of their own on the storage as the transfer finds it,
with transfers nested in turn up to some depth.
-/

namespace StablecoinStudio.Token.NestedCalls

open StablecoinStudio.Core.Common
open StablecoinStudio.Foundation.CheckedInt
open StablecoinStudio.Foundation.Runs
open StablecoinStudio.Token.Administration
open StablecoinStudio.Token.PermissionRules
open StablecoinStudio.Token.ProxyState
open StablecoinStudio.Token.Services
open StablecoinStudio.Token.System
open StablecoinStudio.Token.Treasury

set_option autoImplicit false

/-- Whom the proxy may send HBAR, with the code that runs there. -/
structure Receivers (world label : Type) where
  /-- The transfer itself; nothing when it fails. -/
  transfer : (recipient : Address) → (amount : Uint256) → world → Option world
  /-- The calls the code makes, whatever it reads; nothing when it reverts. -/
  reaction : (recipient : Address) → (amount : Uint256) → State world → Option (List label)

variable {world label : Type}

/-- The platform on which receivers react, with calls that take the given
steps. Beyond the depth a transfer fails. -/
def withReceivers (step : Platform world → State world → label → State world)
    (p : Platform world) (receivers : Receivers world label) : Nat → Platform world
  | 0 => { p with sendValue := fun _ _ _ => none }
  | depth + 1 =>
      { p with
        sendValue := fun recipient amount state => do
          let paid ← receivers.transfer recipient amount state.world
          let calls ← receivers.reaction recipient amount { state with world := paid }
          return run (step (withReceivers step p receivers depth)) { state with world := paid }
            calls }

/-- Whatever comes back from a transfer is related to what was sent. -/
def SendsKeep (relation : State world → State world → Prop) (p : Platform world) : Prop :=
  ∀ recipient amount before after,
    p.sendValue recipient amount before = some after → relation before after

section Depth

variable {step : Platform world → State world → label → State world} {p : Platform world}
  {receivers : Receivers world label}

/-- The calls that the receivers' code makes are permitted in the states it makes
them in, at every depth. -/
def ReactsBy (step : Platform world → State world → label → State world)
    (allowed : Platform world → State world → label → Prop) (p : Platform world)
    (receivers : Receivers world label) : Prop :=
  ∀ depth recipient amount state calls, receivers.reaction recipient amount state = some calls →
    Along (step (withReceivers step p receivers depth))
      (allowed (withReceivers step p receivers depth)) state calls

/-- The rule of nested calls: a relation that a step keeps whenever the
transfers inside it keep it is kept at every depth. -/
theorem sends_keep_at_depth (relation : State world → State world → Prop) [Std.Refl relation]
    [IsTrans (State world) relation] {allowed : Platform world → State world → label → Prop}
    (pays : ∀ recipient amount state paid, receivers.transfer recipient amount state.world =
      some paid → relation state { state with world := paid })
    (keeps : ∀ depth, SendsKeep relation (withReceivers step p receivers depth) →
      ∀ state taken, allowed (withReceivers step p receivers depth) state taken →
        relation state (step (withReceivers step p receivers depth) state taken))
    (reacts : ReactsBy step allowed p receivers) (depth : Nat) :
    SendsKeep relation (withReceivers step p receivers depth) := by
  induction depth with
  | zero =>
      intro recipient amount before after sent
      cases sent
  | succ depth ih =>
      intro recipient amount before after sent
      obtain ⟨paid, paying, calls, chosen, final⟩ :
          ∃ paid, receivers.transfer recipient amount before.world = some paid ∧
            ∃ calls, receivers.reaction recipient amount { before with world := paid } =
                some calls ∧
              run (step (withReceivers step p receivers depth)) { before with world := paid }
                calls = after := by
        simpa [withReceivers, Option.bind_eq_some_iff] using sent
      rw [← final]
      have nested := reacts depth recipient amount _ calls chosen
      have started := pays recipient amount before paid paying
      apply invariant_of_steps _ (fun state taken kept permitted => ?_) started nested
      exact trans_of relation kept (keeps depth ih state taken permitted)

theorem run_keeps_at_depth (relation : State world → State world → Prop) [Std.Refl relation]
    [IsTrans (State world) relation] {allowed : Platform world → State world → label → Prop}
    (pays : ∀ recipient amount state paid, receivers.transfer recipient amount state.world =
      some paid → relation state { state with world := paid })
    (keeps : ∀ depth, SendsKeep relation (withReceivers step p receivers depth) →
      ∀ state taken, allowed (withReceivers step p receivers depth) state taken →
        relation state (step (withReceivers step p receivers depth) state taken))
    (reacts : ReactsBy step allowed p receivers) (depth : Nat) (start : State world)
    (labels : List label)
    (permitted : Along (step (withReceivers step p receivers depth))
      (allowed (withReceivers step p receivers depth)) start labels) :
    relation start (run (step (withReceivers step p receivers depth)) start labels) := by
  have sends := sends_keep_at_depth relation pays keeps reacts depth
  apply invariant_of_steps _ (fun state taken kept permitted => ?_) (refl_of relation start)
    permitted
  exact trans_of relation kept (keeps depth sends state taken permitted)

end Depth

/-! ## One call -/

section Call

variable {p : Platform world} {relation : State world → State world → Prop}
  {still : world → world → Prop}

/-- The services leave a part of the world as it is. -/
structure ServicesKeep (still : world → world → Prop) (p : Platform world) : Prop where
  mint : ∀ {token amount before answer after},
    p.mintToken token amount before = (answer, after) → still before after
  burn : ∀ {token amount before answer after},
    p.burnToken token amount before = (answer, after) → still before after
  wipe : ∀ {token account amount before answer after},
    p.wipeTokenAccount token account amount before = (answer, after) → still before after
  transfer : ∀ {token sender recipient amount before answer after},
    p.transferToken token sender recipient amount before = (answer, after) → still before after
  administer : ∀ {request before answer after},
    p.administer request before = (answer, after) → still before after
  create : ∀ {token supply decimals value before answer after},
    p.createFungibleToken token supply decimals value before = (answer, after) →
      still before after

theorem services_keep_at_depth {step : Platform world → State world → label → State world}
    {receivers : Receivers world label} (services : ServicesKeep still p) (depth : Nat) :
    ServicesKeep still (withReceivers step p receivers depth) := by
  cases depth with
  | zero =>
      exact ⟨services.mint, services.burn, services.wipe, services.transfer, services.administer,
        services.create⟩
  | succ depth =>
      exact ⟨services.mint, services.burn, services.wipe, services.transfer, services.administer,
        services.create⟩

/-- Same roles, same flags, same token, and nothing new in the part of the world. -/
structure SameRegistry (still : world → world → Prop) (before after : State world) : Prop where
  roles : after.roles = before.roles
  initialized : after.initialized = before.initialized
  tokenAddress : after.tokenAddress = before.tokenAddress
  world : still before.world after.world

/-- A relation that only reads these is kept by a call when the writes of
roles, the initializer and the transfers keep it. -/
theorem kept_by_call [Std.Refl relation] [IsTrans (State world) relation] [Std.Refl still]
    [IsTrans world still] {mayHold : Address → Prop} {msg : Msg} {called : Call}
    (same : ∀ before after, SameRegistry still before after → relation before after)
    (services : ServicesKeep still p) (writes : KeptByWrites mayHold relation)
    (state : State world)
    (initializes : ∀ init token after, called = .initialize_ init →
      HederaTokenManagerFacet.initialize_ p init msg state = .ok (token, after) →
      relation state after)
    (sends : SendsKeep relation p) : relation state (next p state (.call msg called)) := by
  have idle : still state.world state.world := refl_of still state.world
  rcases next_cases p state msg called with committed | unchanged
  · generalize next p state (.call msg called) = after at committed ⊢
    cases effect_of_committed committed with
    | view _ unchanged =>
        rw [unchanged]
        exact refl_of relation state
    | mint done =>
        obtain ⟨minted, minting, _, paid⟩ := done.tokens
        rw [done.frame]
        rcases paid with ⟨_, stays⟩ | ⟨_, moving⟩
        · exact same _ _ ⟨rfl, rfl, rfl, stays ▸ services.mint minting⟩
        · exact same _ _ ⟨rfl, rfl, rfl,
            trans_of still (services.mint minting) (services.transfer moving)⟩
    | burn done =>
        rw [done.frame]
        exact same _ _ ⟨rfl, rfl, rfl, services.burn done.tokens⟩
    | wipe done =>
        rw [done.frame]
        exact same _ _ ⟨rfl, rfl, rfl, services.wipe done.tokens⟩
    | rescue done =>
        rw [done.frame]
        exact same _ _ ⟨rfl, rfl, rfl, services.transfer done.tokens⟩
    | rescueHBAR done =>
        obtain ⟨inside, sent, rfl⟩ := done.sent
        have started : relation state { state with reentrancyGuardEntered := true } :=
          same _ _ ⟨rfl, rfl, rfl, idle⟩
        have finished : relation inside { inside with reentrancyGuardEntered := false } :=
          same _ _ ⟨rfl, rfl, rfl, refl_of still inside.world⟩
        exact trans_of relation (trans_of relation started (sends _ _ _ _ sent)) finished
    | administration _ _ _ answered frame =>
        rw [frame]
        exact same _ _ ⟨rfl, rfl, rfl, services.administer answered⟩
    | reserve _ _ frame | configuration _ _ frame =>
        rw [frame]
        exact same _ _ ⟨rfl, rfl, rfl, idle⟩
    | createHold done | createHoldByController _ done =>
        obtain ⟨wiped, wiping, minting⟩ := done.tokens
        rw [done.frame]
        exact same _ _ ⟨rfl, rfl, rfl, trans_of still (services.wipe wiping) (services.mint minting)⟩
    | executeHold _ _ _ _ done | releaseHold _ _ done | reclaimHold _ done =>
        rw [done.frame]
        exact same _ _ ⟨rfl, rfl, rfl, services.transfer done.paid⟩
    | permission kind _ _ => exact permission_respects writes kind committed
    | initialization _ =>
        obtain ⟨token, initialized⟩ := discard_ok.mp committed
        exact initializes _ token _ rfl initialized
  · rw [unchanged]
    exact refl_of relation state

theorem refund_keeps [Std.Refl relation] (sends : SendsKeep relation p) {originalSender : Address}
    {msg : Msg} {before after : State world}
    (refunding : HederaTokenManagerFacet.transferFundsBackToOriginalSender p originalSender msg
      before = .ok ((), after)) : relation before after := by
  rcases transfer_funds_back_ok.mp refunding with ⟨_, rfl⟩ | ⟨_, sent⟩
  · exact refl_of relation before
  · exact sends _ _ _ _ sent

end Call

/-! ## The world at large -/

/-- Any change of the world. -/
def AnyWorld (_ _ : world) : Prop := True

instance : Std.Refl (@AnyWorld world) := ⟨fun _ => trivial⟩

instance : IsTrans world AnyWorld := ⟨fun _ _ _ _ _ => trivial⟩

theorem services_keep_any (p : Platform world) : ServicesKeep AnyWorld p := by
  constructor
  all_goals
    intros
    exact trivial

theorem kept_by_next {p : Platform world} {relation : State world → State world → Prop}
    [Std.Refl relation] [IsTrans (State world) relation] {mayHold : Address → Prop}
    (same : ∀ before after, SameRegistry AnyWorld before after → relation before after)
    (writes : KeptByWrites mayHold relation) (state : State world) (taken : Label world)
    (initializes : ∀ init token msg after, taken = .call msg (.initialize_ init) →
      HederaTokenManagerFacet.initialize_ p init msg state = .ok (token, after) →
      relation state after)
    (sends : SendsKeep relation p) : relation state (next p state taken) := by
  cases taken with
  | outside later => exact same _ _ ⟨rfl, rfl, rfl, trivial⟩
  | call msg called =>
      apply kept_by_call same (services_keep_any p) writes state (fun init token after named => ?_)
        sends
      subst named
      exact initializes init token msg after rfl

end StablecoinStudio.Token.NestedCalls
