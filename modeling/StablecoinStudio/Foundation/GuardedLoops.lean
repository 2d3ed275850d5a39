import StablecoinStudio.Foundation.Runs
import StablecoinStudio.Foundation.Transaction

/-!
# Loops of guarded updates

A call that commits exactly where its guard holds, and then makes one update.
A loop of such calls commits exactly when the guards hold one after the other,
and leaves what the updates lead to; a loop of loops runs through all of them.
-/

namespace StablecoinStudio.Foundation.GuardedLoops

open StablecoinStudio.Foundation.Runs
open StablecoinStudio.Foundation.Transaction

set_option autoImplicit false

variable {env state error item event : Type} {environment : env}

def Performs (environment : env) (call : Tx env state error PUnit) (guard : state → Prop)
    (update : state → state) : Prop :=
  ∀ before after, call environment before = .ok ((), after) ↔ guard before ∧ after = update before

variable {guard : state → event → Prop} {update : state → event → state}

theorem performs_append {first : Tx env state error PUnit}
    {rest : PUnit → Tx env state error PUnit} {earlier later : List event}
    (now : Performs environment first (fun before => Along update guard before earlier)
      (fun before => run update before earlier))
    (next : Performs environment (rest ()) (fun before => Along update guard before later)
      (fun before => run update before later)) :
    Performs environment (first >>= rest)
      (fun before => Along update guard before (earlier ++ later))
      (fun before => run update before (earlier ++ later)) := by
  intro before after
  simp only [Tx.bind_ok, along_append, run_append]
  constructor
  · intro committed
    obtain ⟨_, middle, started, finished⟩ := committed
    obtain ⟨along, rfl⟩ := (now before middle).mp started
    obtain ⟨alongRest, same⟩ := (next _ after).mp finished
    exact ⟨⟨along, alongRest⟩, same⟩
  · intro described
    obtain ⟨⟨along, alongRest⟩, same⟩ := described
    exact ⟨(), _, (now before _).mpr ⟨along, rfl⟩, (next _ after).mpr ⟨alongRest, same⟩⟩

theorem performs_one {call : Tx env state error PUnit} {taken : event}
    (performs : Performs environment call (fun before => guard before taken)
      (fun before => update before taken)) :
    Performs environment call (fun before => Along update guard before [taken])
      (fun before => run update before [taken]) := by
  intro before after
  rw [performs before after]
  simp [Along]

/-- The rounds of a loop, each of which makes a list of guarded updates and asks
for something of its item. -/
theorem performs_for_each {items : List item} {body : item → Tx env state error PUnit}
    {fits : item → Prop} {events : item → List event}
    (round : ∀ each ∈ items, Performs environment (body each)
      (fun before => fits each ∧ Along update guard before (events each))
      (fun before => run update before (events each))) :
    Performs environment (items.forM body)
      (fun before => (∀ each ∈ items, fits each) ∧
        Along update guard before (items.flatMap events))
      (fun before => run update before (items.flatMap events)) := by
  intro before after
  induction items generalizing before with
  | nil =>
      rw [Tx.for_each_nil_ok]
      simp [Along, eq_comm]
  | cons head tail ih =>
      have first := round head (List.mem_cons_self ..)
      have later := fun middle =>
        ih (fun each member => round each (List.mem_cons_of_mem _ member)) middle
      rw [Tx.for_each_cons_ok]
      simp only [List.flatMap_cons, along_append, run_append]
      constructor
      · intro committed
        obtain ⟨middle, now, rest⟩ := committed
        obtain ⟨⟨fit, along⟩, rfl⟩ := (first before middle).mp now
        obtain ⟨⟨fits, alongRest⟩, same⟩ := (later _).mp rest
        exact ⟨⟨List.forall_mem_cons.mpr ⟨fit, fits⟩, along, alongRest⟩, same⟩
      · intro described
        obtain ⟨⟨fits, along, alongRest⟩, same⟩ := described
        obtain ⟨fit, others⟩ := List.forall_mem_cons.mp fits
        exact ⟨_, (first before _).mpr ⟨⟨fit, along⟩, rfl⟩, (later _).mpr ⟨⟨others, alongRest⟩, same⟩⟩

theorem performs_loop {items : List item} {body : item → Tx env state error PUnit}
    {events : item → event}
    (round : ∀ each ∈ items, Performs environment (body each)
      (fun before => guard before (events each)) (fun before => update before (events each))) :
    Performs environment (items.forM body)
      (fun before => Along update guard before (items.map events))
      (fun before => run update before (items.map events)) := by
  have rounds : Performs environment (items.forM body)
      (fun before => (∀ each ∈ items, True) ∧
        Along update guard before (items.flatMap fun each => [events each]))
      (fun before => run update before (items.flatMap fun each => [events each])) := by
    apply performs_for_each
    intro each member before after
    rw [round each member before after]
    simp [Along]
  have flat : items.flatMap (fun each => [events each]) = items.map events :=
    List.flatMap_pure_eq_map events items
  intro before after
  rw [rounds before after]
  simp only [flat, implies_true, true_and]

theorem performs_after_require {condition : Prop} [Decidable condition] {failure : error}
    {rest : PUnit → Tx env state error PUnit} {guard : state → Prop} {update : state → state}
    (performs : Performs environment (rest ()) guard update) :
    Performs environment (Tx.require condition failure >>= rest)
      (fun before => condition ∧ guard before) update := by
  intro before after
  simp only [Tx.bind_ok, Tx.require_ok]
  constructor
  · intro committed
    obtain ⟨_, _, ⟨holds, rfl⟩, later⟩ := committed
    obtain ⟨met, same⟩ := (performs before after).mp later
    exact ⟨⟨holds, met⟩, same⟩
  · intro described
    obtain ⟨⟨holds, met⟩, same⟩ := described
    exact ⟨(), before, ⟨holds, rfl⟩, (performs before after).mpr ⟨met, same⟩⟩

/-- Where no update gets in the way of a later guard, the guards are asked in
the state before. -/
theorem along_iff_of_apart {apart : event → event → Prop}
    (keeps : ∀ before first later, apart first later →
      (guard (update before first) later ↔ guard before later))
    {taken : List event} (different : taken.Pairwise apart) (before : state) :
    Along update guard before taken ↔ ∀ each ∈ taken, guard before each := by
  induction taken generalizing before with
  | nil => simp [Along]
  | cons first rest ih =>
      obtain ⟨fromFirst, differentRest⟩ := List.pairwise_cons.mp different
      rw [Along, ih differentRest, List.forall_mem_cons]
      apply and_congr_right
      intro _
      exact forall₂_congr fun later member => keeps before first later (fromFirst later member)

theorem made_once [DecidableEq item] {made : Type} {items : List item} (distinct : items.Nodup)
    (marked : item) (produce : List made) :
    (items.flatMap fun other => if other = marked then produce else []) =
      if marked ∈ items then produce else [] := by
  induction items with
  | nil => simp
  | cons first rest ih =>
      obtain ⟨fresh, distinctRest⟩ := List.nodup_cons.mp distinct
      rw [List.flatMap_cons, ih distinctRest]
      by_cases same : first = marked
      · subst same
        simp [fresh]
      · simp [same, Ne.symm same]

end StablecoinStudio.Foundation.GuardedLoops
