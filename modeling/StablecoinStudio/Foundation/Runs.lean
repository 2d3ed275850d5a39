import Mathlib.Algebra.Group.Defs
import Mathlib.Algebra.Group.Basic
import Mathlib.Algebra.BigOperators.Group.List.Basic
import Mathlib.Data.List.Induction
import Mathlib.Order.Lattice

/-!
# Runs of a deterministic labelled system

A run is the list of its labels; the states it reaches are those of its
prefixes. Conditions on the single steps, quantities gathered from them and
invariants of the states are all followed along the list.
-/

namespace StablecoinStudio.Foundation.Runs

set_option autoImplicit false

variable {state label : Type} (next : state → label → state)

/-- The state a list of labels leads to. -/
def run (start : state) (labels : List label) : state := labels.foldl next start

@[simp] theorem run_nil (start : state) : run next start [] = start := rfl

@[simp] theorem run_cons (start : state) (first : label) (rest : List label) :
    run next start (first :: rest) = run next (next start first) rest := rfl

theorem run_append (start : state) (first second : List label) :
    run next start (first ++ second) = run next (run next start first) second :=
  List.foldl_append ..

theorem run_snoc (start : state) (labels : List label) (last : label) :
    run next start (labels ++ [last]) = next (run next start labels) last := by
  rw [run_append, run_cons, run_nil]

/-- Every step of the run meets the condition in the state it is taken in. -/
def Along (condition : state → label → Prop) : state → List label → Prop
  | _, [] => True
  | start, first :: rest => condition start first ∧ Along condition (next start first) rest

theorem along_append {condition : state → label → Prop} {start : state}
    {first second : List label} :
    Along next condition start (first ++ second) ↔
      Along next condition start first ∧ Along next condition (run next start first) second := by
  induction first generalizing start with
  | nil => simp [Along]
  | cons head tail ih => simp [Along, ih, and_assoc]

theorem along_mono {weaker stronger : state → label → Prop}
    (implies : ∀ start step, stronger start step → weaker start step)
    {start : state} {labels : List label} (met : Along next stronger start labels) :
    Along next weaker start labels := by
  induction labels generalizing start with
  | nil => trivial
  | cons head tail ih => exact ⟨implies _ _ met.1, ih met.2⟩

/-- The invariant rule: what holds at the start and is kept by every step that
meets the condition holds at the end. -/
theorem invariant_of_steps {invariant : state → Prop} {condition : state → label → Prop}
    (step : ∀ start taken, invariant start → condition start taken →
      invariant (next start taken))
    {start : state} {labels : List label} (initial : invariant start)
    (met : Along next condition start labels) : invariant (run next start labels) := by
  induction labels generalizing start with
  | nil => exact initial
  | cons head tail ih => exact ih (step _ _ initial met.1) met.2

theorem invariant_of_every_step (invariant : state → Prop)
    (step : ∀ start taken, invariant start → invariant (next start taken)) {start : state}
    (labels : List label) (initial : invariant start) : invariant (run next start labels) := by
  induction labels generalizing start with
  | nil => exact initial
  | cons head tail ih => exact ih (step start head initial)

/-- What one label of the run brings about and every step that meets the
condition keeps holds at the end. -/
theorem brought_about {invariant goal : state → Prop} {condition : state → label → Prop}
    {taken : label}
    (step : ∀ start other, invariant start → condition start other → invariant (next start other))
    (kept : ∀ start other, invariant start → condition start other → goal start →
      goal (next start other))
    (brings : ∀ start, invariant start → goal (next start taken)) {start : state}
    {labels : List label} (initial : invariant start) (listed : taken ∈ labels)
    (met : Along next condition start labels) : goal (run next start labels) := by
  obtain ⟨before, rest, rfl⟩ := List.append_of_mem listed
  obtain ⟨metBefore, metTaken, metRest⟩ := (along_append next).mp met
  have sound := invariant_of_steps next step initial metBefore
  have both : ∀ state other, invariant state ∧ goal state → condition state other →
      invariant (next state other) ∧ goal (next state other) :=
    fun state other reached allowed =>
      ⟨step state other reached.1 allowed, kept state other reached.1 allowed reached.2⟩
  rw [run_append, run_cons]
  exact (invariant_of_steps next both ⟨step _ _ sound metTaken, brings _ sound⟩ metRest).2

theorem along_and {first second : state → label → Prop} {start : state} {labels : List label} :
    Along next (fun state step => first state step ∧ second state step) start labels ↔
      Along next first start labels ∧ Along next second start labels := by
  induction labels generalizing start with
  | nil => simp [Along]
  | cons head tail ih =>
      simp only [Along, ih]
      exact and_and_and_comm

theorem along_of_forall_mem {condition : state → label → Prop} {labels : List label}
    (met : ∀ step ∈ labels, ∀ start, condition start step) (start : state) :
    Along next condition start labels := by
  induction labels generalizing start with
  | nil => trivial
  | cons head tail ih =>
      exact ⟨met head (List.mem_cons_self ..) start,
        ih (fun step member => met step (List.mem_cons_of_mem _ member)) _⟩

theorem along_iff_at_cuts {condition : state → label → Prop} {start : state}
    {labels : List label} :
    Along next condition start labels ↔
      ∀ before taken rest, labels = before ++ taken :: rest →
        condition (run next start before) taken := by
  constructor
  · intro met before taken rest cut
    rw [cut, along_append] at met
    exact met.2.1
  · intro atCuts
    induction labels generalizing start with
    | nil => trivial
    | cons head tail ih =>
        refine ⟨atCuts [] head tail rfl, ih fun before taken rest cut => ?_⟩
        exact atCuts (head :: before) taken rest (by rw [cut, List.cons_append])

theorem along_of_invariant {invariant : state → Prop} {condition claim : state → label → Prop}
    (step : ∀ start taken, invariant start → condition start taken →
      invariant (next start taken))
    (local_ : ∀ start taken, invariant start → condition start taken → claim start taken)
    {start : state} {labels : List label} (initial : invariant start)
    (met : Along next condition start labels) : Along next claim start labels := by
  induction labels generalizing start with
  | nil => trivial
  | cons head tail ih =>
      exact ⟨local_ _ _ initial met.1, ih (step _ _ initial met.1) met.2⟩

/-- What an invariant makes exact step by step is exact over a run: the states
reached are all good when the steps all meet the condition, and only then. -/
theorem along_iff_of_steps {invariant good : state → Prop} {condition : state → label → Prop}
    (keeps : ∀ start taken, invariant start → invariant (next start taken))
    (exact_ : ∀ start taken, invariant start → good start →
      (good (next start taken) ↔ condition start taken))
    {start : state} {labels : List label} (initial : invariant start) (goodStart : good start) :
    Along next (fun state step => good (next state step)) start labels ↔
      Along next condition start labels := by
  induction labels generalizing start with
  | nil => exact Iff.rfl
  | cons head tail ih =>
      have now := exact_ start head initial goodStart
      constructor
      · intro met
        exact ⟨now.mp met.1, (ih (keeps _ _ initial) met.1).mp met.2⟩
      · intro met
        have later := now.mpr met.1
        exact ⟨later, (ih (keeps _ _ initial) later).mpr met.2⟩

theorem along_iff_of_allowed {invariant good : state → Prop}
    {allowed condition : state → label → Prop}
    (keeps : ∀ start taken, invariant start → allowed start taken → invariant (next start taken))
    (exact_ : ∀ start taken, invariant start → allowed start taken → good start →
      (good (next start taken) ↔ condition start taken))
    {start : state} {labels : List label} (initial : invariant start) (goodStart : good start)
    (met : Along next allowed start labels) :
    Along next (fun state step => good (next state step)) start labels ↔
      Along next condition start labels := by
  induction labels generalizing start with
  | nil => exact Iff.rfl
  | cons head tail ih =>
      have now := exact_ start head initial met.1 goodStart
      have later := keeps start head initial met.1
      constructor
      · intro good
        exact ⟨now.mp good.1, (ih later good.1 met.2).mp good.2⟩
      · intro taken
        have kept := now.mpr taken.1
        exact ⟨kept, (ih later kept met.2).mpr taken.2⟩

/-- A property that every step keeps exactly under a condition holds at the end
exactly when it holds at the start and the condition is met all along. -/
theorem holds_iff_along {invariant good : state → Prop} {allowed condition : state → label → Prop}
    (keeps : ∀ start taken, invariant start → allowed start taken → invariant (next start taken))
    (exact_ : ∀ start taken, invariant start → allowed start taken →
      (good (next start taken) ↔ good start ∧ condition start taken))
    {start : state} {labels : List label} (initial : invariant start)
    (met : Along next allowed start labels) :
    good (run next start labels) ↔ good start ∧ Along next condition start labels := by
  induction labels generalizing start with
  | nil => simp [Along]
  | cons head tail ih =>
      rw [run_cons, ih (keeps _ _ initial met.1) met.2, exact_ _ _ initial met.1, and_assoc]
      exact Iff.rfl

theorem fall_has_step {amount : Type} [LinearOrder amount] (quantity : state → amount)
    {start : state} {labels : List label}
    (lower : quantity (run next start labels) < quantity start) :
    ∃ before taken rest, labels = before ++ taken :: rest ∧
      quantity (next (run next start before) taken) < quantity (run next start before) := by
  induction labels generalizing start with
  | nil => exact (lt_irrefl _ lower).elim
  | cons head tail ih =>
      by_cases first : quantity (next start head) < quantity start
      · exact ⟨[], head, tail, rfl, first⟩
      · obtain ⟨before, taken, rest, rfl, fell⟩ := ih (lower.trans_le (not_lt.mp first))
        exact ⟨head :: before, taken, rest, rfl, fell⟩

section Since

def Somewhere (condition : state → label → Prop) : state → List label → Prop
  | _, [] => False
  | start, first :: rest => condition start first ∨ Somewhere condition (next start first) rest

theorem somewhere_snoc {condition : state → label → Prop} {start : state} {labels : List label}
    {last : label} :
    Somewhere next condition start (labels ++ [last]) ↔
      Somewhere next condition start labels ∨ condition (run next start labels) last := by
  induction labels generalizing start with
  | nil => simp [Somewhere]
  | cons head tail ih => simp only [List.cons_append, Somewhere, ih, run_cons, or_assoc]

/-- A marking step, the last one of the run, and after it a tainting step if
the run ends in a tainted state. -/
def SinceLast (marking tainting : state → label → Prop) (tainted : state → Prop) (start : state)
    (labels : List label) : Prop :=
  ∃ before last after, labels = before ++ last :: after ∧
    marking (run next start before) last ∧
    ¬ Somewhere next marking (run next start (before ++ [last])) after ∧
    (tainted (run next start labels) →
      Somewhere next tainting (run next start (before ++ [last])) after)

/-- The rule of the last mark: when only marking steps mark and only tainting
steps taint, and a marking step leaves no taint, a marked state was marked by
some last step and every taint on it is younger. -/
theorem since_last_of_steps {invariant marked tainted : state → Prop}
    {marking tainting : state → label → Prop}
    (keeps : ∀ start taken, invariant start → invariant (next start taken))
    (marks : ∀ start taken, invariant start → marked (next start taken) →
      marked start ∨ marking start taken)
    (taints : ∀ start taken, invariant start → tainted (next start taken) →
      tainted start ∨ tainting start taken)
    (clean : ∀ start taken, invariant start → marking start taken →
      ¬ tainted (next start taken))
    {start : state} (initial : invariant start) (unmarked : ¬ marked start) (labels : List label)
    (final : marked (run next start labels)) :
    SinceLast next marking tainting tainted start labels := by
  induction labels using List.reverseRecOn with
  | nil => exact (unmarked final).elim
  | append_singleton labels taken ih =>
      have invariantNow : invariant (run next start labels) :=
        invariant_of_every_step next invariant keeps labels initial
      rw [run_snoc] at final
      by_cases now : marking (run next start labels) taken
      · refine ⟨labels, taken, [], rfl, now, id, ?_⟩
        intro tainted
        rw [run_snoc] at tainted
        exact (clean _ _ invariantNow now tainted).elim
      · have earlier : marked (run next start labels) :=
          (marks _ _ invariantNow final).resolve_right now
        obtain ⟨before, last, after, rfl, marking, lastOne, younger⟩ := ih earlier
        have reached : run next (run next start (before ++ [last])) after =
            run next start (before ++ last :: after) := by
          rw [← run_append, List.append_assoc, List.singleton_append]
        refine ⟨before, last, after ++ [taken], by simp, marking, ?_, ?_⟩
        · rw [somewhere_snoc, reached]
          exact not_or.mpr ⟨lastOne, now⟩
        · intro tainted
          rw [run_snoc] at tainted
          rw [somewhere_snoc, reached]
          exact (taints _ _ invariantNow tainted).imp_left younger

end Since

section Tally

variable {amount : Type} [AddCommMonoid amount]

def tally (gain : state → label → amount) : state → List label → amount
  | _, [] => 0
  | start, first :: rest => gain start first + tally gain (next start first) rest

/-- The conservation rule: a quantity that every step changes by its income less
its expense changes over a run by the total income less the total expense. -/
theorem conserved_of_steps (quantity : state → amount) (income expense : state → label → amount)
    {condition : state → label → Prop}
    (step : ∀ start taken, condition start taken →
      quantity (next start taken) + expense start taken =
        quantity start + income start taken)
    {start : state} {labels : List label} (met : Along next condition start labels) :
    quantity (run next start labels) + tally next expense start labels =
      quantity start + tally next income start labels := by
  induction labels generalizing start with
  | nil => simp [tally]
  | cons head tail ih =>
      have later := ih met.2
      have now := step start head met.1
      simp only [run_cons, tally]
      calc
        quantity (run next (next start head) tail) +
              (expense start head + tally next expense (next start head) tail) =
            (quantity (run next (next start head) tail) +
              tally next expense (next start head) tail) + expense start head := by
          rw [add_comm (expense start head), add_assoc]
        _ = (quantity (next start head) + tally next income (next start head) tail) +
              expense start head := by rw [later]
        _ = (quantity (next start head) + expense start head) +
              tally next income (next start head) tail := by
          rw [add_right_comm]
        _ = quantity start + (income start head +
              tally next income (next start head) tail) := by
          rw [now, add_assoc]

theorem tally_of_labels (gain : label → amount) (start : state) (labels : List label) :
    tally next (fun _ step => gain step) start labels = (labels.map gain).sum := by
  induction labels generalizing start with
  | nil => rfl
  | cons head tail ih => rw [tally, ih, List.map_cons, List.sum_cons]

theorem tally_zero (start : state) (labels : List label) :
    tally next (fun _ _ => (0 : amount)) start labels = 0 := by
  induction labels generalizing start with
  | nil => rfl
  | cons head tail ih => rw [tally, ih, zero_add]

/-- The spending rule: the conservation rule without income. -/
theorem spent_of_steps (quantity : state → amount) (expense : state → label → amount)
    {condition : state → label → Prop}
    (step : ∀ start taken, condition start taken →
      quantity (next start taken) + expense start taken = quantity start)
    {start : state} {labels : List label} (met : Along next condition start labels) :
    quantity (run next start labels) + tally next expense start labels = quantity start := by
  have conserved := conserved_of_steps next quantity (fun _ _ => 0) expense
    (fun start taken met => by rw [step start taken met, add_zero]) met
  rw [conserved, tally_zero, add_zero]

end Tally

section Collect

variable {item : Type}

def collect (produced : state → label → List item) : state → List label → List item
  | _, [] => []
  | start, first :: rest => produced start first ++ collect produced (next start first) rest

theorem collect_append (produced : state → label → List item) (start : state)
    (first second : List label) :
    collect next produced start (first ++ second) =
      collect next produced start first ++
        collect next produced (run next start first) second := by
  induction first generalizing start with
  | nil => simp [collect]
  | cons head tail ih => simp [collect, ih]

theorem collect_of_labels (produced : label → List item) (start : state) (labels : List label) :
    collect next (fun _ step => produced step) start labels = labels.flatMap produced := by
  induction labels generalizing start with
  | nil => rfl
  | cons head tail ih => rw [collect, ih, List.flatMap_cons]

theorem collect_flat_map {reading : Type} (produced : state → label → List item)
    (read : item → List reading) (start : state) (labels : List label) :
    collect next (fun state label => (produced state label).flatMap read) start labels =
      (collect next produced start labels).flatMap read := by
  induction labels generalizing start with
  | nil => rfl
  | cons head tail ih => rw [collect, collect, ih, List.flatMap_append]

theorem forall_mem_collect {good : item → Prop} {produced : state → label → List item}
    (each : ∀ start taken, ∀ made ∈ produced start taken, good made) (start : state)
    (labels : List label) : ∀ made ∈ collect next produced start labels, good made := by
  induction labels generalizing start with
  | nil =>
      intro made listed
      exact absurd listed List.not_mem_nil
  | cons head tail ih =>
      intro made listed
      rcases List.mem_append.mp listed with now | later
      · exact each start head made now
      · exact ih _ made later

/-- The growing rule: a list that every allowed step extends by what it
produces is extended over a run by what the run produces. -/
theorem grown_along {invariant : state → Prop} {allowed : state → label → Prop}
    (listed : state → List item) (produced : state → label → List item)
    (step : ∀ start taken, invariant start → allowed start taken →
      invariant (next start taken) ∧
        listed (next start taken) = listed start ++ produced start taken)
    {start : state} {labels : List label} (initial : invariant start)
    (met : Along next allowed start labels) :
    listed (run next start labels) = listed start ++ collect next produced start labels := by
  induction labels generalizing start with
  | nil => simp [collect]
  | cons head tail ih =>
      obtain ⟨kept, grown⟩ := step start head initial met.1
      rw [run_cons, ih kept met.2, grown, collect, List.append_assoc]

theorem grown_of_steps (invariant : state → Prop) (listed : state → List item)
    (produced : state → label → List item)
    (step : ∀ start taken, invariant start →
      invariant (next start taken) ∧
        listed (next start taken) = listed start ++ produced start taken)
    {start : state} (labels : List label) (initial : invariant start) :
    listed (run next start labels) = listed start ++ collect next produced start labels :=
  grown_along next listed produced (fun start taken holds _ => step start taken holds) initial
    (along_of_forall_mem next (fun _ _ _ => trivial) start)

end Collect

section Embedding

variable {model : Type} (step : model → label → model) {embed : model → state}
  {invariant : model → Prop} {allowed : model → label → Prop}

/-- A system that takes the steps of a model runs as the model does. -/
theorem run_embed
    (keeps : ∀ start taken, invariant start → allowed start taken → invariant (step start taken))
    (matched : ∀ start taken, invariant start → allowed start taken →
      next (embed start) taken = embed (step start taken))
    {start : model} {labels : List label} (initial : invariant start)
    (met : Along step allowed start labels) :
    run next (embed start) labels = embed (run step start labels) := by
  induction labels generalizing start with
  | nil => rfl
  | cons head tail ih =>
      rw [run_cons, run_cons, matched _ _ initial met.1]
      exact ih (keeps _ _ initial met.1) met.2

theorem along_embed {condition : state → label → Prop} {modelled : model → label → Prop}
    (keeps : ∀ start taken, invariant start → allowed start taken → invariant (step start taken))
    (matched : ∀ start taken, invariant start → allowed start taken →
      next (embed start) taken = embed (step start taken))
    (same : ∀ start taken, invariant start → allowed start taken →
      (condition (embed start) taken ↔ modelled start taken))
    {start : model} {labels : List label} (initial : invariant start)
    (met : Along step allowed start labels) :
    Along next condition (embed start) labels ↔ Along step modelled start labels := by
  induction labels generalizing start with
  | nil => exact Iff.rfl
  | cons head tail ih =>
      simp only [Along]
      rw [matched _ _ initial met.1, same _ _ initial met.1,
        ih (keeps _ _ initial met.1) met.2]

end Embedding

section Simulation

variable {model event : Type} (step : model → event → model)

/-- The step is matched by the events it produces, and they are allowed. -/
structure Simulates (allowed : model → event → Prop) (abstraction : state → model)
    (produced : state → label → List event) (start : state) (taken : label) : Prop where
  along : Along step allowed (abstraction start) (produced start taken)
  reached : abstraction (next start taken) = run step (abstraction start) (produced start taken)

/-- The simulation rule: a run whose steps are matched is matched by the
events they produce. -/
theorem simulation_of_steps {allowed : model → event → Prop} {abstraction : state → model}
    {produced : state → label → List event} {start : state} {labels : List label}
    (matched : Along next (Simulates next step allowed abstraction produced) start labels) :
    Along step allowed (abstraction start) (collect next produced start labels) ∧
      abstraction (run next start labels) =
        run step (abstraction start) (collect next produced start labels) := by
  induction labels generalizing start with
  | nil => exact ⟨trivial, rfl⟩
  | cons head tail ih =>
      obtain ⟨now, later⟩ := matched
      obtain ⟨along, reached⟩ := ih later
      rw [now.reached] at along reached
      exact ⟨(along_append step).mpr ⟨now.along, along⟩, by rw [collect, run_append]; exact reached⟩

end Simulation

end StablecoinStudio.Foundation.Runs
