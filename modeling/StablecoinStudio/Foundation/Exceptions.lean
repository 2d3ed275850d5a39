import Mathlib.Data.List.Basic

/-!
# Exceptions

Code that throws where an answer is missing or a condition is met, and loops of
calls that may fail.
-/

namespace StablecoinStudio.Foundation.Exceptions

set_option autoImplicit false

variable {failure given later : Type}

def orThrow (failed : failure) : Option given → Except failure given
  | some answer => .ok answer
  | none => .error failed

def throwWhen (condition : Prop) [Decidable condition] (failed : failure) : Except failure Unit :=
  if condition then .error failed else .ok ()

theorem except_bind_ok {first : Except failure given} {rest : given → Except failure later}
    {value : later} :
    (first >>= rest) = .ok value ↔ ∃ between, first = .ok between ∧ rest between = .ok value := by
  cases first with
  | error failed =>
      constructor
      · intro impossible
        cases impossible
      · intro described
        cases described.choose_spec.1
  | ok between =>
      constructor
      · intro done
        exact ⟨between, rfl, done⟩
      · intro described
        obtain ⟨_, same, done⟩ := described
        rw [Except.ok.inj same]
        exact done

theorem or_throw_ok {failed : failure} {answer : Option given} {value : given} :
    orThrow failed answer = .ok value ↔ answer = some value := by
  cases answer with
  | none => simp [orThrow]
  | some held => simp [orThrow]

theorem or_throw_bind (failed : failure) (answer : Option given) (rest : given → Option later) :
    (orThrow failed answer >>= fun value => orThrow failed (rest value)) =
      orThrow failed (answer.bind rest) := by
  cases answer with
  | none => rfl
  | some value => rfl

theorem throw_when_ok {condition : Prop} [Decidable condition] {failed : failure} {result : Unit} :
    throwWhen condition failed = .ok result ↔ ¬condition := by
  unfold throwWhen
  split
  · next thrown => simp [thrown]
  · next passed => simp [passed]

theorem mapM_cons_ok {item : given} {items : List given} {call : given → Option later}
    {results : List later} :
    (item :: items).mapM call = some results ↔
      ∃ first rest, call item = some first ∧ items.mapM call = some rest ∧
        results = first :: rest := by
  rw [List.mapM_cons]
  constructor
  · intro mapped
    obtain ⟨first, answered, others⟩ := Option.bind_eq_some_iff.mp mapped
    obtain ⟨rest, mappedRest, same⟩ := Option.bind_eq_some_iff.mp others
    exact ⟨first, rest, answered, mappedRest, (Option.some.inj same).symm⟩
  · intro described
    obtain ⟨first, rest, answered, mappedRest, rfl⟩ := described
    rw [answered, mappedRest]
    rfl

theorem mem_of_mapM {items : List given} {call : given → Option later} {results : List later}
    (mapped : items.mapM call = some results) {result : later} :
    result ∈ results ↔ ∃ item ∈ items, call item = some result := by
  induction items generalizing results with
  | nil =>
      obtain rfl := Option.some.inj mapped
      simp
  | cons item items ih =>
      obtain ⟨first, rest, answered, mappedRest, rfl⟩ := mapM_cons_ok.mp mapped
      rw [List.mem_cons, ih mappedRest, List.exists_mem_cons_iff, answered, Option.some.injEq,
        eq_comm]

theorem some_of_mapM {items : List given} {call : given → Option later} {results : List later}
    (mapped : items.mapM call = some results) {item : given} (member : item ∈ items) :
    ∃ result, call item = some result := by
  induction items generalizing results with
  | nil => exact absurd member List.not_mem_nil
  | cons head items ih =>
      obtain ⟨first, rest, answered, mappedRest, rfl⟩ := mapM_cons_ok.mp mapped
      rcases List.mem_cons.mp member with rfl | inRest
      · exact ⟨first, answered⟩
      · exact ih mappedRest inRest

theorem nodup_of_mapM {items : List given} {call : given → Option later} {results : List later}
    (mapped : items.mapM call = some results) (distinct : items.Nodup)
    (apart : ∀ first ∈ items, ∀ second ∈ items, ∀ result, call first = some result →
      call second = some result → first = second) : results.Nodup := by
  induction items generalizing results with
  | nil =>
      obtain rfl := Option.some.inj mapped
      exact List.nodup_nil
  | cons item items ih =>
      obtain ⟨first, rest, answered, mappedRest, rfl⟩ := mapM_cons_ok.mp mapped
      obtain ⟨fresh, distinctRest⟩ := List.nodup_cons.mp distinct
      have apartRest := fun other member second memberSecond =>
        apart other (List.mem_cons_of_mem _ member) second (List.mem_cons_of_mem _ memberSecond)
      refine List.nodup_cons.mpr ⟨?_, ih mappedRest distinctRest apartRest⟩
      intro again
      obtain ⟨other, member, answeredAgain⟩ := (mem_of_mapM mappedRest).mp again
      rw [apart item (List.mem_cons_self ..) other (List.mem_cons_of_mem _ member) first answered
        answeredAgain] at fresh
      exact fresh member

theorem length_of_mapM {items : List given} {call : given → Option later} {results : List later}
    (mapped : items.mapM call = some results) : results.length = items.length := by
  induction items generalizing results with
  | nil =>
      obtain rfl := Option.some.inj mapped
      rfl
  | cons item items ih =>
      obtain ⟨first, rest, _, mappedRest, rfl⟩ := mapM_cons_ok.mp mapped
      rw [List.length_cons, List.length_cons, ih mappedRest]

theorem mapM_imp {items : List given} {call other : given → Option later} {results : List later}
    (mapped : items.mapM call = some results)
    (same : ∀ item ∈ items, ∀ result, call item = some result → other item = some result) :
    items.mapM other = some results := by
  induction items generalizing results with
  | nil => exact mapped
  | cons item items ih =>
      obtain ⟨first, rest, answered, mappedRest, rfl⟩ := mapM_cons_ok.mp mapped
      exact mapM_cons_ok.mpr ⟨first, rest, same item (List.mem_cons_self ..) first answered,
        ih mappedRest fun item member => same item (List.mem_cons_of_mem _ member), rfl⟩

/-- One loop after the other is one loop over both calls. -/
theorem mapM_then {last : Type} {items : List given} {call : given → Option later}
    {next : later → Option last} {results : List later} {final : List last}
    (mapped : items.mapM call = some results) (mappedAgain : results.mapM next = some final) :
    items.mapM (fun item => (call item).bind next) = some final := by
  induction items generalizing results final with
  | nil =>
      obtain rfl := Option.some.inj mapped
      exact mappedAgain
  | cons item items ih =>
      obtain ⟨first, rest, answered, mappedRest, rfl⟩ := mapM_cons_ok.mp mapped
      obtain ⟨firstFinal, restFinal, answeredAgain, mappedRestAgain, rfl⟩ :=
        mapM_cons_ok.mp mappedAgain
      refine mapM_cons_ok.mpr ⟨firstFinal, restFinal, ?_, ih mappedRest mappedRestAgain, rfl⟩
      rw [answered, Option.bind_some, answeredAgain]

/-- What is made of the results of a loop is made of its items. -/
theorem flatMap_mapM {made : Type} {items : List given} {call : given → Option later}
    {results : List later} {produce : later → List made} {produceItem : given → List made}
    (mapped : items.mapM call = some results)
    (same : ∀ item ∈ items, ∀ result, call item = some result →
      produce result = produceItem item) :
    results.flatMap produce = items.flatMap produceItem := by
  induction items generalizing results with
  | nil =>
      obtain rfl := Option.some.inj mapped
      rfl
  | cons item items ih =>
      obtain ⟨first, rest, answered, mappedRest, rfl⟩ := mapM_cons_ok.mp mapped
      rw [List.flatMap_cons, List.flatMap_cons, same item (List.mem_cons_self ..) first answered,
        ih mappedRest fun item member => same item (List.mem_cons_of_mem _ member)]

/-- What is made of the results of two loops side by side is made of their items. -/
theorem flatMap_zip_mapM {other last made : Type} {items : List given} {others : List other}
    {call : given → Option later} {callOther : other → Option last} {results : List later}
    {otherResults : List last} {produce : later × last → List made}
    {produceItem : given × other → List made}
    (mapped : items.mapM call = some results)
    (mappedOther : others.mapM callOther = some otherResults)
    (same : ∀ item ∈ items, ∀ second ∈ others, ∀ result otherResult, call item = some result →
      callOther second = some otherResult →
        produce (result, otherResult) = produceItem (item, second)) :
    (results.zip otherResults).flatMap produce = (items.zip others).flatMap produceItem := by
  induction items generalizing others results otherResults with
  | nil =>
      obtain rfl := Option.some.inj mapped
      rfl
  | cons item items ih =>
      obtain ⟨first, restResults, answered, mappedRest, rfl⟩ := mapM_cons_ok.mp mapped
      cases others with
      | nil =>
          obtain rfl := Option.some.inj mappedOther
          rfl
      | cons second others =>
          obtain ⟨firstOther, restOthers, answeredOther, mappedRestOther, rfl⟩ :=
            mapM_cons_ok.mp mappedOther
          rw [List.zip_cons_cons, List.zip_cons_cons, List.flatMap_cons, List.flatMap_cons,
            same item (List.mem_cons_self ..) second (List.mem_cons_self ..) first firstOther
              answered answeredOther,
            ih mappedRest mappedRestOther fun item member second memberOther =>
              same item (List.mem_cons_of_mem _ member) second
                (List.mem_cons_of_mem _ memberOther)]

theorem forall_zip_mapM {other last : Type} {items : List given} {others : List other}
    {call : given → Option later} {callOther : other → Option last} {results : List later}
    {otherResults : List last} {holds : later × last → Prop} {holdsItem : given × other → Prop}
    (mapped : items.mapM call = some results)
    (mappedOther : others.mapM callOther = some otherResults)
    (same : ∀ item ∈ items, ∀ second ∈ others, ∀ result otherResult, call item = some result →
      callOther second = some otherResult →
        (holds (result, otherResult) ↔ holdsItem (item, second))) :
    (∀ entry ∈ results.zip otherResults, holds entry) ↔
      ∀ entry ∈ items.zip others, holdsItem entry := by
  induction items generalizing others results otherResults with
  | nil =>
      obtain rfl := Option.some.inj mapped
      simp
  | cons item items ih =>
      obtain ⟨first, restResults, answered, mappedRest, rfl⟩ := mapM_cons_ok.mp mapped
      cases others with
      | nil =>
          obtain rfl := Option.some.inj mappedOther
          simp
      | cons second others =>
          obtain ⟨firstOther, restOthers, answeredOther, mappedRestOther, rfl⟩ :=
            mapM_cons_ok.mp mappedOther
          rw [List.zip_cons_cons, List.zip_cons_cons, List.forall_mem_cons, List.forall_mem_cons,
            same item (List.mem_cons_self ..) second (List.mem_cons_self ..) first firstOther
              answered answeredOther,
            ih mappedRest mappedRestOther fun item member second memberOther =>
              same item (List.mem_cons_of_mem _ member) second
                (List.mem_cons_of_mem _ memberOther)]

end StablecoinStudio.Foundation.Exceptions
