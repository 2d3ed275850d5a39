import Mathlib.Algebra.Order.Floor.Semiring
import Mathlib.Data.Rat.Floor
import StablecoinStudio.Foundation.DecimalTexts
import StablecoinStudio.Foundation.Runs

/-!
# Polling for the result of a contract call

Requests are sent at an interval until one of them is answered with a result.
None of them is awaited: whoever is answered pushes the words of the result to
one list, which is handed out when the polling ends and grows with every later
answer.
-/

namespace StablecoinStudio.Sdk.ContractResults

open StablecoinStudio.Foundation.DecimalTexts
open StablecoinStudio.Foundation.Runs

set_option autoImplicit false

/-- The digits of 32 bytes. -/
def BYTES_32_LENGTH : Nat := 64

inductive Answer where
  /-- The request fails. -/
  | rejected
  | response (status : Nat) (callResult : Option Text)

inductive Event where
  | answered (answer : Answer)
  /-- The delay after a request is over. -/
  | delayed

structure Polling where
  timeout : Int
  callOk : Bool
  numberOfResultItems : ℚ
  results : List Text
  /-- Requests without an answer. -/
  inFlight : Nat
  returned : Bool

/-- `data.slice(start, end)` after `0x`. -/
def word (data : Text) (i : Nat) : Text :=
  '0' :: 'x' :: (data.drop (2 + i * BYTES_32_LENGTH)).take BYTES_32_LENGTH

/-- The loop over the items; with a broken number of them the last one is short. -/
def words (numberOfResultItems : ℚ) (data : Text) : List Text :=
  (List.range ⌈numberOfResultItems⌉₊).map (word data)

def hasPrefix (data : Text) : Bool := ['0', 'x'].isPrefixOf data

def settle (state : Polling) : Answer → Polling
  | .rejected => state
  | .response _ none => state
  | .response status (some data) =>
      if status = 200 ∧ 2 < data.length then
        let numberOfResultItems :=
          if state.numberOfResultItems = 0 then ((data.length : ℚ) - 2) / BYTES_32_LENGTH
          else state.numberOfResultItems
        let found := { state with callOk := true, numberOfResultItems := numberOfResultItems }
        if hasPrefix data ∧ 2 + numberOfResultItems * BYTES_32_LENGTH ≤ data.length then
          { found with results := state.results ++ words numberOfResultItems data }
        else found
      else state

def poll (requestInterval : Int) (state : Polling) : Polling :=
  { state with
    timeout := state.timeout - requestInterval
    inFlight := state.inFlight + 1 }

def next (requestInterval : Int) (state : Polling) : Event → Polling
  | .answered answer => settle { state with inFlight := state.inFlight - 1 } answer
  | .delayed =>
      if 0 < state.timeout ∧ state.callOk = false then poll requestInterval state
      else { state with returned := true }

/-- `getContractResults`, up to the first delay. -/
def getContractResults (numberOfResultItems : Nat) (timeout requestInterval : Int) : Polling :=
  poll requestInterval
    { timeout := timeout
      callOk := false
      numberOfResultItems := numberOfResultItems
      results := []
      inFlight := 0
      returned := false }

/-- Only a request is answered, and the delays are those of the loop. -/
def Happens (state : Polling) : Event → Prop
  | .answered _ => 0 < state.inFlight
  | .delayed => state.returned = false

instance (state : Polling) : (event : Event) → Decidable (Happens state event)
  | .answered _ => inferInstanceAs (Decidable (_ < _))
  | .delayed => inferInstanceAs (Decidable (_ = _))

/-! ## What an answer adds -/

/-- A request that is answered with a result. -/
def bringsResult : Event → Bool
  | .answered (.response status (some data)) => status = 200 ∧ 2 < data.length
  | _ => false

/-- The result is the same for all. -/
def Serves (callResult : Text) : Event → Prop
  | .answered (.response status (some data)) => status = 200 → 2 < data.length → data = callResult
  | _ => True

section Answers

variable (count : Nat) (callResult : Text)

def items : ℚ :=
  if (count : ℚ) = 0 then ((callResult.length : ℚ) - 2) / BYTES_32_LENGTH else count

def HasWords : Prop :=
  hasPrefix callResult ∧ 2 + count * BYTES_32_LENGTH ≤ callResult.length

instance : Decidable (HasWords count callResult) := inferInstanceAs (Decidable (_ ∧ _))

def pushed : List Text :=
  if hasPrefix callResult ∧ 2 + items count callResult * BYTES_32_LENGTH ≤ callResult.length then
    words (items count callResult) callResult
  else []

/-- The number of items is as it was asked for, or as it was counted. -/
def Counted (state : Polling) : Prop :=
  state.numberOfResultItems = count ∨ state.numberOfResultItems = items count callResult

variable {count callResult} {state : Polling} {requestInterval : Int} {event : Event}

theorem counted_again (counted : Counted count callResult state) :
    (if state.numberOfResultItems = 0 then ((callResult.length : ℚ) - 2) / BYTES_32_LENGTH
      else state.numberOfResultItems) = items count callResult := by
  rcases counted with asked | once
  · rw [asked]
    rfl
  · rw [once]
    split
    · next none_ =>
        by_cases asked : (count : ℚ) = 0
        · rw [items, if_pos asked]
        · rw [items, if_neg asked] at none_
          exact absurd none_ asked
    · rfl

theorem settle_found (counted : Counted count callResult state) (long : 2 < callResult.length) :
    Counted count callResult (settle state (.response 200 (some callResult))) ∧
      (settle state (.response 200 (some callResult))).results =
        state.results ++ pushed count callResult := by
  have known := counted_again counted
  simp only [settle, long, and_self, if_true, known, pushed]
  split
  · exact ⟨Or.inr rfl, rfl⟩
  · exact ⟨Or.inr rfl, (List.append_nil _).symm⟩

theorem next_results (counted : Counted count callResult state) (served : Serves callResult event) :
    Counted count callResult (next requestInterval state event) ∧
      (next requestInterval state event).results =
        state.results ++ if bringsResult event then pushed count callResult else [] := by
  cases event with
  | delayed =>
      simp only [next]
      split
      · exact ⟨counted, (List.append_nil _).symm⟩
      · exact ⟨counted, (List.append_nil _).symm⟩
  | answered answer =>
      cases answer with
      | rejected => exact ⟨counted, (List.append_nil _).symm⟩
      | response status given =>
          cases given with
          | none => exact ⟨counted, (List.append_nil _).symm⟩
          | some data =>
              by_cases found : status = 200 ∧ 2 < data.length
              · obtain rfl := served found.1 found.2
                obtain ⟨rfl, long⟩ := found
                have brings : bringsResult (.answered (.response 200 (some data))) = true :=
                  decide_eq_true ⟨rfl, long⟩
                rw [brings, if_pos rfl]
                exact settle_found counted long
              · have silent : bringsResult (.answered (.response status (some data))) = false :=
                  decide_eq_false found
                have same : next requestInterval state (.answered (.response status (some data))) =
                    { state with inFlight := state.inFlight - 1 } := by
                  rw [next, settle, if_neg found]
                rw [silent, same]
                exact ⟨counted, (List.append_nil _).symm⟩

theorem two_le_length (prefixed : hasPrefix callResult = true) : 2 ≤ callResult.length :=
  (List.isPrefixOf_iff_prefix.mp prefixed).length_le

theorem items_of_pos (positive : 0 < count) : items count callResult = count := by
  have nonzero : (count : ℚ) ≠ 0 := Nat.cast_ne_zero.mpr (by omega)
  rw [items, if_neg nonzero]

theorem items_of_zero (prefixed : hasPrefix callResult = true) :
    items 0 callResult = ((callResult.length - 2 : Nat) : ℚ) / BYTES_32_LENGTH := by
  rw [items, Nat.cast_zero, if_pos rfl, Nat.cast_sub (two_le_length prefixed), Nat.cast_ofNat]

theorem pushed_eq : pushed count callResult =
    if HasWords count callResult then words (items count callResult) callResult else [] := by
  have same : (hasPrefix callResult ∧
      2 + items count callResult * BYTES_32_LENGTH ≤ callResult.length) ↔
        HasWords count callResult := by
    apply and_congr_right
    intro prefixed
    rcases Nat.eq_zero_or_pos count with rfl | positive
    · have long := two_le_length prefixed
      have whole : items 0 callResult * BYTES_32_LENGTH = ((callResult.length - 2 : Nat) : ℚ) := by
        rw [items_of_zero prefixed]
        exact div_mul_cancel₀ _ (by decide)
      rw [whole, Nat.cast_sub long, Nat.cast_ofNat]
      constructor
      · intro _
        omega
      · intro _
        linarith
    · rw [items_of_pos positive]
      exact_mod_cast Iff.rfl
  rw [pushed]
  exact if_congr same rfl rfl

/-- How many items an answer pushes: a last broken one counts. -/
theorem count_of_pushed (has : HasWords count callResult) :
    (0 < count → (pushed count callResult).length = count) ∧
    (count = 0 → callResult.length - 2 ≤ (pushed count callResult).length * BYTES_32_LENGTH ∧
      (pushed count callResult).length * BYTES_32_LENGTH <
        callResult.length - 2 + BYTES_32_LENGTH) := by
  have length : (pushed count callResult).length = ⌈items count callResult⌉₊ := by
    rw [pushed_eq, if_pos has, words, List.length_map, List.length_range]
  rw [length]
  constructor
  · intro positive
    rw [items_of_pos positive, Nat.ceil_natCast]
  · rintro rfl
    rw [items_of_zero has.1]
    have sixtyFour : (0 : ℚ) < BYTES_32_LENGTH := by unfold BYTES_32_LENGTH; norm_num
    have above := Nat.le_ceil (((callResult.length - 2 : Nat) : ℚ) / BYTES_32_LENGTH)
    have below := Nat.ceil_lt_add_one
      (div_nonneg (Nat.cast_nonneg (callResult.length - 2)) sixtyFour.le :
        (0 : ℚ) ≤ ((callResult.length - 2 : Nat) : ℚ) / BYTES_32_LENGTH)
    rw [div_le_iff₀ sixtyFour] at above
    rw [← sub_lt_iff_lt_add, lt_div_iff₀ sixtyFour, sub_mul, one_mul, sub_lt_iff_lt_add] at below
    exact ⟨by exact_mod_cast above, by exact_mod_cast below⟩

end Answers

/-! ## What the caller obtains -/

section Runs

variable {count : Nat} {callResult : Text} {timeout requestInterval : Int} {events : List Event}

def arrivals (events : List Event) : Nat := events.countP bringsResult

def promised (count : Nat) (callResult : Text) : List Text :=
  (List.range (if count = 0 then (callResult.length - 2) / BYTES_32_LENGTH else count)).map
    (word callResult)

theorem produced_by_arrivals (words : List Text) (events : List Event) :
    (events.flatMap fun event => if bringsResult event then words else []) =
      (List.replicate (arrivals events) words).flatten := by
  induction events with
  | nil => rfl
  | cons event events ih =>
      have counted : arrivals (event :: events) =
          arrivals events + if bringsResult event then 1 else 0 := List.countP_cons
      rw [List.flatMap_cons, ih, counted]
      cases bringsResult event with
      | false => rfl
      | true =>
          rw [if_pos rfl, if_pos rfl, List.replicate_succ, List.flatten_cons]

theorem results_of_run (served : ∀ event ∈ events, Serves callResult event) :
    (run (next requestInterval) (getContractResults count timeout requestInterval)
      events).results = (List.replicate (arrivals events) (pushed count callResult)).flatten := by
  have step : ∀ state event, Counted count callResult state → Serves callResult event →
      Counted count callResult (next requestInterval state event) ∧
        (next requestInterval state event).results =
          state.results ++ if bringsResult event then pushed count callResult else [] :=
    fun _ _ counted served => next_results counted served
  have start : Counted count callResult (getContractResults count timeout requestInterval) :=
    Or.inl rfl
  have along : Along (next requestInterval) (fun _ event => Serves callResult event)
      (getContractResults count timeout requestInterval) events :=
    along_of_forall_mem _ (fun event member _ => served event member) _
  rw [grown_along _ Polling.results _ step start along, collect_of_labels, produced_by_arrivals]
  exact List.nil_append _

theorem long_of_arrival (served : ∀ event ∈ events, Serves callResult event)
    (arrived : arrivals events ≠ 0) : 2 < callResult.length := by
  obtain ⟨event, member, brings⟩ := List.countP_pos_iff.mp (Nat.pos_of_ne_zero arrived)
  cases event with
  | delayed => cases brings
  | answered answer =>
      cases answer with
      | rejected => cases brings
      | response status given =>
          cases given with
          | none => cases brings
          | some data =>
              have found : status = 200 ∧ 2 < data.length := of_decide_eq_true brings
              rw [← served _ member found.1 found.2]
              exact found.2

theorem length_replicated (words : List Text) (copies : Nat) :
    (List.replicate copies words).flatten.length = copies * words.length := by
  rw [List.length_flatten, List.map_replicate, List.sum_replicate_nat]

theorem promised_of_pushed (has : HasWords count callResult)
    (whole : count = 0 → BYTES_32_LENGTH ∣ callResult.length - 2) :
    pushed count callResult = promised count callResult := by
  have counted := count_of_pushed has
  have known : pushed count callResult =
      (List.range (pushed count callResult).length).map (word callResult) := by
    rw [pushed_eq, if_pos has, words, List.length_map, List.length_range]
  rw [known, promised]
  congr 2
  split
  · next none_ =>
      obtain ⟨lower, upper⟩ := counted.2 none_
      obtain ⟨size, exact_⟩ := whole none_
      unfold BYTES_32_LENGTH at lower upper exact_ ⊢
      omega
  · next some_ => exact counted.1 (Nat.pos_of_ne_zero some_)

end Runs

/-- The list is empty when no result with the words has arrived, and else holds
the words, each once. -/
structure AsPromised (count : Nat) (callResult : Text) (arrived : Nat) (results : List Text) :
    Prop where
  empty : results = [] → arrived = 0 ∨ ¬HasWords count callResult
  full : results ≠ [] → results = promised count callResult

/-- One arrival at most, and whole words if all are asked for. -/
def ArrivesOnce (count : Nat) (callResult : Text) (arrived : Nat) : Prop :=
  arrived = 0 ∨ ¬HasWords count callResult ∨
    arrived = 1 ∧ (count = 0 → BYTES_32_LENGTH ∣ callResult.length - 2)

/-- In every run, and however late the list is read, it is as promised exactly
if the result arrived at most once. -/
theorem results_as_promised_iff (count : Nat) (callResult : Text) (timeout requestInterval : Int)
    (events : List Event) (served : ∀ event ∈ events, Serves callResult event) :
    AsPromised count callResult (arrivals events)
        (run (next requestInterval) (getContractResults count timeout requestInterval)
          events).results ↔
      ArrivesOnce count callResult (arrivals events) := by
  rw [results_of_run served]
  by_cases has : HasWords count callResult
  · have counted := count_of_pushed has
    rcases Nat.eq_zero_or_pos (arrivals events) with none_ | some_
    · rw [none_]
      exact ⟨fun _ => Or.inl rfl, fun _ => ⟨fun _ => Or.inl rfl, fun full => absurd rfl full⟩⟩
    · have long := long_of_arrival served (by omega)
      have pushes : 0 < (pushed count callResult).length := by
        rcases Nat.eq_zero_or_pos count with zero | positive
        · obtain ⟨lower, _⟩ := counted.2 zero
          unfold BYTES_32_LENGTH at lower
          omega
        · rw [counted.1 positive]
          exact positive
      have length := length_replicated (pushed count callResult) (arrivals events)
      have filled : (List.replicate (arrivals events) (pushed count callResult)).flatten ≠ [] := by
        rw [← List.length_pos_iff_ne_nil, length]
        exact Nat.mul_pos some_ pushes
      constructor
      · intro promise
        right; right
        have same := congrArg List.length (promise.full filled)
        rw [length, promised, List.length_map, List.length_range] at same
        have least : arrivals events * (pushed count callResult).length ≤
            (pushed count callResult).length := by
          rw [same]
          split
          · next zero =>
              obtain ⟨lower, _⟩ := counted.2 zero
              unfold BYTES_32_LENGTH at lower ⊢
              omega
          · next more => exact Nat.le_of_eq (counted.1 (Nat.pos_of_ne_zero more)).symm
        have one : arrivals events = 1 := by
          have most : arrivals events ≤ 1 :=
            Nat.le_of_mul_le_mul_right (least.trans (Nat.one_mul _).ge) pushes
          omega
        refine ⟨one, fun zero => ?_⟩
        obtain ⟨lower, _⟩ := counted.2 zero
        rw [one, Nat.one_mul, if_pos zero] at same
        unfold BYTES_32_LENGTH at lower same ⊢
        omega
      · intro once
        rcases once with none_ | noWords | ⟨one, whole⟩
        · omega
        · exact absurd has noWords
        · refine ⟨fun empty => absurd empty filled, fun _ => ?_⟩
          rw [one, List.replicate_one, List.flatten_singleton]
          exact promised_of_pushed has whole
  · have nothing : (List.replicate (arrivals events) (pushed count callResult)).flatten = [] := by
      rw [pushed_eq, if_neg has, List.flatten_replicate_nil]
    rw [nothing]
    exact ⟨fun _ => Or.inr (Or.inl has),
      fun _ => ⟨fun _ => Or.inr has, fun full => absurd rfl full⟩⟩

/-! ## Two answers -/

def oneWord : Text := '0' :: 'x' :: List.replicate 64 '1'

def found : Event := .answered (.response 200 (some oneWord))

/-- The first request is not answered within three seconds, and then both are. -/
def overlapping : List Event := [.delayed, found, found, .delayed]

theorem oneWord_served {events : List Event}
    (known : ∀ event ∈ events, event = .delayed ∨ event = found) :
    ∀ event ∈ events, Serves oneWord event := by
  intro event member
  rcases known event member with rfl | rfl
  · trivial
  · exact fun _ _ => rfl

theorem word_of_one_answer :
    AsPromised 1 oneWord (arrivals [found, .delayed])
      (run (next 3) (getContractResults 1 30 3) [found, .delayed]).results :=
  (results_as_promised_iff 1 oneWord 30 3 [found, .delayed]
    (oneWord_served (by simp))).mpr (Or.inr (Or.inr ⟨rfl, nofun⟩))

/-- The caller is handed the one word twice. -/
theorem word_twice :
    Along (next 3) Happens (getContractResults 1 30 3) overlapping ∧
      (run (next 3) (getContractResults 1 30 3) overlapping).returned = true ∧
      (run (next 3) (getContractResults 1 30 3) overlapping).results = [oneWord, oneWord] ∧
      ¬AsPromised 1 oneWord (arrivals overlapping)
        (run (next 3) (getContractResults 1 30 3) overlapping).results := by
  have twice : (run (next 3) (getContractResults 1 30 3) overlapping).results =
      [oneWord, oneWord] := by decide +kernel
  refine ⟨⟨by decide +kernel, by decide +kernel, by decide +kernel, by decide +kernel, trivial⟩,
    by decide +kernel, twice, fun promise => ?_⟩
  have full := promise.full (by rw [twice]; exact List.cons_ne_nil _ _)
  rw [twice] at full
  exact absurd full (by decide +kernel)

end StablecoinStudio.Sdk.ContractResults
