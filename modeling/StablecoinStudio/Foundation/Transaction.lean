import Mathlib.Logic.Relation

/-!
# Transactions that commit or revert

A call reads its environment, works on a state and either commits a value with
the new state or reverts with an error and leaves no state at all. The rules
below take a committed sequence apart into its committed steps, and carry a
reflexive and transitive relation between the state before and the state after
through sequences and loops.
-/

namespace StablecoinStudio.Foundation.Transaction

set_option autoImplicit false

/-- A call: its environment and the state in, a value and the state out, or an error. -/
def Tx (env state error value : Type) : Type :=
  env → state → Except error (value × state)

namespace Tx

variable {env state error value other : Type}

def commit (given : value) : Tx env state error value := fun _ current => .ok (given, current)

def sequence (first : Tx env state error value) (next : value → Tx env state error other) :
    Tx env state error other :=
  fun environment current => match first environment current with
    | .ok (produced, later) => next produced environment later
    | .error failure => .error failure

instance : Monad (Tx env state error) where
  pure := commit
  bind := sequence

def read : Tx env state error env := fun environment current => .ok (environment, current)

def get : Tx env state error state := fun _ current => .ok (current, current)

def modify (update : state → state) : Tx env state error Unit :=
  fun _ current => .ok ((), update current)

def revert (failure : error) : Tx env state error value := fun _ _ => .error failure

/-- `if (!condition) revert failure;` -/
def require (condition : Prop) [Decidable condition] (failure : error) :
    Tx env state error Unit :=
  fun _ current => if condition then .ok ((), current) else .error failure

def lift (result : Except error value) : Tx env state error value :=
  fun _ current => match result with
    | .ok computed => .ok (computed, current)
    | .error failure => .error failure

def ofOption (failure : error) (result : Option value) : Tx env state error value :=
  fun _ current => match result with
    | some computed => .ok (computed, current)
    | none => .error failure

/-- A call of a service that answers and changes the state. -/
def request (service : state → value × state) : Tx env state error value :=
  fun _ current => .ok (service current)

/-- A call that works on one part of the state. -/
def focus {piece : Type} (part : state → piece) (put : state → piece → state)
    (call : Tx env piece error value) : Tx env state error value :=
  fun environment current => match call environment (part current) with
    | .ok (result, changed) => .ok (result, put current changed)
    | .error failure => .error failure

section Committed

variable {environment : env} {before after : state} {failure : error}

@[simp] theorem bind_ok {first : Tx env state error value} {next : value → Tx env state error other}
    {result : other} :
    (first >>= next) environment before = .ok (result, after) ↔
      ∃ produced middle, first environment before = .ok (produced, middle) ∧
        next produced environment middle = .ok (result, after) := by
  change (match first environment before with
    | .ok (produced, middle) => next produced environment middle
    | .error failure => .error failure) = .ok (result, after) ↔ _
  cases step : first environment before with
  | ok pair =>
      rcases pair with ⟨produced, middle⟩
      constructor
      · intro committed
        exact ⟨produced, middle, rfl, committed⟩
      · rintro ⟨_, _, same, committed⟩
        cases same
        exact committed
  | error failure => simp

@[simp] theorem bind_error {first : Tx env state error value}
    {next : value → Tx env state error other} :
    (first >>= next) environment before = .error failure ↔
      first environment before = .error failure ∨
        ∃ produced middle, first environment before = .ok (produced, middle) ∧
          next produced environment middle = .error failure := by
  change (match first environment before with
    | .ok (produced, middle) => next produced environment middle
    | .error failure => .error failure) = .error failure ↔ _
  cases step : first environment before with
  | ok pair =>
      rcases pair with ⟨produced, middle⟩
      constructor
      · intro failed
        exact Or.inr ⟨produced, middle, rfl, failed⟩
      · rintro (impossible | ⟨_, _, same, failed⟩)
        · cases impossible
        · cases same
          exact failed
  | error failure => simp

/-- A committed first call leaves the second one. -/
theorem bind_of_ok {first : Tx env state error value} {next : value → Tx env state error other}
    {produced : value} {middle : state}
    (committed : first environment before = .ok (produced, middle)) :
    (first >>= next) environment before = next produced environment middle := by
  change (match first environment before with
    | .ok (produced, middle) => next produced environment middle
    | .error failure => .error failure) = _
  rw [committed]

/-- Two continuations that agree on what the first call commits. -/
theorem bind_congr {first : Tx env state error value} {next last : value → Tx env state error other}
    (agree : ∀ produced middle, first environment before = .ok (produced, middle) →
      next produced environment middle = last produced environment middle) :
    (first >>= next) environment before = (first >>= last) environment before := by
  change (match first environment before with
    | .ok (produced, middle) => next produced environment middle
    | .error failure => .error failure) = _
  cases step : first environment before with
  | ok pair =>
      rw [bind_of_ok step]
      exact agree pair.1 pair.2 step
  | error failure => exact (bind_error.mpr (Or.inl step)).symm

@[simp] theorem pure_ok {given result : value} :
    (pure given : Tx env state error value) environment before = .ok (result, after) ↔
      given = result ∧ before = after := by
  change Except.ok (given, before) = .ok (result, after) ↔ _
  simp

theorem dropped_ok {call : Tx env state error value} {result : Unit} :
    (do let _ ← call; return ()) environment before = .ok (result, after) ↔
      ∃ answer, call environment before = .ok (answer, after) := by
  simp only [bind_ok, pure_ok]
  constructor
  · intro committed
    obtain ⟨answer, _, called, _, rfl⟩ := committed
    exact ⟨answer, called⟩
  · intro committed
    obtain ⟨answer, called⟩ := committed
    exact ⟨answer, after, called, trivial, rfl⟩

@[simp] theorem pure_error {given : value} :
    (pure given : Tx env state error value) environment before = .error failure ↔ False := by
  change Except.ok (given, before) = .error failure ↔ _
  simp

@[simp] theorem read_ok {result : env} :
    (read : Tx env state error env) environment before = .ok (result, after) ↔
      environment = result ∧ before = after := by
  simp [read]

@[simp] theorem read_error :
    (read : Tx env state error env) environment before = .error failure ↔ False := by
  simp [read]

@[simp] theorem get_ok {result : state} :
    (get : Tx env state error state) environment before = .ok (result, after) ↔
      before = result ∧ before = after := by
  simp [get]

@[simp] theorem get_error :
    (get : Tx env state error state) environment before = .error failure ↔ False := by
  simp [get]

@[simp] theorem modify_ok {update : state → state} {result : Unit} :
    (modify update : Tx env state error Unit) environment before = .ok (result, after) ↔
      update before = after := by
  simp [modify]

@[simp] theorem modify_error {update : state → state} :
    (modify update : Tx env state error Unit) environment before = .error failure ↔ False := by
  simp [modify]

@[simp] theorem revert_ok {raised : error} {result : value} :
    (revert raised : Tx env state error value) environment before = .ok (result, after) ↔ False := by
  simp [revert]

@[simp] theorem require_ok {condition : Prop} [Decidable condition] {raised : error}
    {result : Unit} :
    (require condition raised : Tx env state error Unit) environment before =
        .ok (result, after) ↔
      condition ∧ before = after := by
  unfold require
  by_cases holds : condition <;> simp [holds]

@[simp] theorem require_error {condition : Prop} [Decidable condition] {raised : error} :
    (require condition raised : Tx env state error Unit) environment before = .error failure ↔
      ¬condition ∧ raised = failure := by
  unfold require
  by_cases holds : condition <;> simp [holds]

@[simp] theorem lift_ok {computed : Except error value} {result : value} :
    (lift computed : Tx env state error value) environment before = .ok (result, after) ↔
      computed = .ok result ∧ before = after := by
  cases computed <;> simp [lift]

@[simp] theorem of_option_ok {raised : error} {computed : Option value} {result : value} :
    (ofOption raised computed : Tx env state error value) environment before =
        .ok (result, after) ↔
      computed = some result ∧ before = after := by
  cases computed <;> simp [ofOption]

@[simp] theorem of_option_error {raised : error} {computed : Option value} :
    (ofOption raised computed : Tx env state error value) environment before = .error failure ↔
      computed = none ∧ raised = failure := by
  cases computed <;> simp [ofOption]

@[simp] theorem request_ok {service : state → value × state} {result : value} :
    (request service : Tx env state error value) environment before = .ok (result, after) ↔
      service before = (result, after) := by
  simp [request]

@[simp] theorem request_error {service : state → value × state} :
    (request service : Tx env state error value) environment before = .error failure ↔ False := by
  simp [request]

@[simp] theorem focus_ok {piece : Type} {part : state → piece} {put : state → piece → state}
    {call : Tx env piece error value} {result : value} :
    focus part put call environment before = .ok (result, after) ↔
      ∃ changed, call environment (part before) = .ok (result, changed) ∧
        put before changed = after := by
  unfold focus
  cases step : call environment (part before) with
  | ok pair =>
      rcases pair with ⟨produced, changed⟩
      simp [and_assoc]
  | error failure => simp

@[simp] theorem focus_error {piece : Type} {part : state → piece} {put : state → piece → state}
    {call : Tx env piece error value} :
    focus part put call environment before = .error failure ↔
      call environment (part before) = .error failure := by
  unfold focus
  cases step : call environment (part before) with
  | ok pair => simp
  | error raised => simp

@[simp] theorem for_each_nil_ok {body : value → Tx env state error PUnit} {result : PUnit} :
    ([] : List value).forM body environment before = .ok (result, after) ↔ before = after := by
  change (pure () : Tx env state error PUnit) environment before = .ok (result, after) ↔ _
  simp

@[simp] theorem for_each_cons_ok {item : value} {items : List value}
    {body : value → Tx env state error PUnit} {result : PUnit} :
    (item :: items).forM body environment before = .ok (result, after) ↔
      ∃ middle, body item environment before = .ok ((), middle) ∧
        items.forM body environment middle = .ok (result, after) := by
  change (body item >>= fun _ => items.forM body) environment before = .ok (result, after) ↔ _
  rw [bind_ok]
  constructor
  · intro committed
    obtain ⟨_, middle, first, rest⟩ := committed
    exact ⟨middle, first, rest⟩
  · intro described
    obtain ⟨middle, first, rest⟩ := described
    exact ⟨(), middle, first, rest⟩

theorem for_each_require_ok {items : List value} {condition : value → Prop}
    [DecidablePred condition] {raised : value → error} {result : PUnit} :
    items.forM (fun item => require (condition item) (raised item)) environment before =
        .ok (result, after) ↔
      (∀ item ∈ items, condition item) ∧ before = after := by
  induction items with
  | nil => simp
  | cons item items ih =>
      rw [for_each_cons_ok, List.forall_mem_cons]
      constructor
      · intro committed
        obtain ⟨middle, first, rest⟩ := committed
        obtain ⟨holds, rfl⟩ := require_ok.mp first
        obtain ⟨others, same⟩ := ih.mp rest
        exact ⟨⟨holds, others⟩, same⟩
      · intro described
        obtain ⟨⟨holds, others⟩, same⟩ := described
        exact ⟨before, require_ok.mpr ⟨holds, rfl⟩, ih.mpr ⟨others, same⟩⟩

end Committed

/-- Every committed run of the call relates the state before to the state after. -/
def Respects (relation : state → state → Prop) (call : Tx env state error value) : Prop :=
  ∀ environment before result after,
    call environment before = .ok (result, after) → relation before after

section Rules

variable {relation : state → state → Prop}

theorem Respects.mono {weaker : state → state → Prop} {call : Tx env state error value}
    (kept : call.Respects relation)
    (implies : ∀ before after, relation before after → weaker before after) :
    call.Respects weaker := by
  intro environment before result after committed
  exact implies before after (kept environment before result after committed)

theorem respects_bind [IsTrans state relation] {first : Tx env state error value}
    {next : value → Tx env state error other}
    (start : first.Respects relation) (rest : ∀ produced, (next produced).Respects relation) :
    (first >>= next).Respects relation := by
  intro environment before result after committed
  obtain ⟨produced, middle, firstStep, lastStep⟩ := bind_ok.mp committed
  exact trans_of relation (start _ _ _ _ firstStep) (rest produced _ _ _ _ lastStep)

theorem respects_pure [Std.Refl relation] (given : value) :
    (pure given : Tx env state error value).Respects relation := by
  intro environment before result after committed
  obtain ⟨_, rfl⟩ := pure_ok.mp committed
  exact refl_of relation before

/-- A call that leaves the state respects every reflexive relation. -/
theorem respects_of_same [Std.Refl relation] {call : Tx env state error value}
    (same : ∀ environment before result after,
      call environment before = .ok (result, after) → before = after) :
    call.Respects relation := by
  intro environment before result after committed
  rw [same _ _ _ _ committed]
  exact refl_of relation after

theorem respects_require [Std.Refl relation] {condition : Prop} [Decidable condition]
    {failure : error} : (require condition failure : Tx env state error Unit).Respects relation := by
  apply respects_of_same
  intro environment before result after committed
  exact (require_ok.mp committed).2

theorem respects_get [Std.Refl relation] :
    (get : Tx env state error state).Respects relation := by
  apply respects_of_same
  intro environment before result after committed
  exact (get_ok.mp committed).2

theorem respects_of_option [Std.Refl relation] {failure : error} {computed : Option value} :
    (ofOption failure computed : Tx env state error value).Respects relation := by
  apply respects_of_same
  intro environment before result after committed
  exact (of_option_ok.mp committed).2

theorem respects_guarded {condition : Prop} [Decidable condition] {failure : error}
    {body : Unit → Tx env state error value}
    (rest : condition → ∀ checked, (body checked).Respects relation) :
    (require condition failure >>= body).Respects relation := by
  intro environment before result after committed
  obtain ⟨checked, middle, first, last⟩ := bind_ok.mp committed
  obtain ⟨holds, rfl⟩ := require_ok.mp first
  exact rest holds checked _ _ _ _ last

theorem respects_for_each [IsTrans state relation] [Std.Refl relation]
    (items : List value) (body : value → Tx env state error PUnit)
    (round : ∀ item ∈ items, (body item).Respects relation) :
    (items.forM body).Respects relation := by
  induction items with
  | nil => exact respects_pure ()
  | cons item items ih =>
      change (body item >>= fun _ => items.forM body).Respects relation
      apply respects_bind (round item (by simp))
      intro _
      exact ih (fun other member => round other (by simp [member]))

end Rules

end Tx

end StablecoinStudio.Foundation.Transaction
