import Mathlib.Data.List.Basic
import Mathlib.Tactic.ByContra

/-!
# Regular expressions with backtracking

An expression is matched from a place in a text and hands the place it arrives
at to what is to be matched next; when that fails, another way is tried. What
an alternative or a further repetition matches may be looked back at, so the
ways are tried in their order.
-/

namespace StablecoinStudio.Foundation.RegularExpressions

set_option autoImplicit false

inductive Expression (symbol : Type) where
  | empty
  | one (accepts : symbol → Bool)
  | sequence (first second : Expression symbol)
  | either (first second : Expression symbol)
  | group (number : Nat) (inner : Expression symbol)
  | backreference (number : Nat)
  /-- The groups inside are those after `groupsBefore`, so many of them. -/
  | repeated (min : Nat) (max : Option Nat) (greedy : Bool) (groupsBefore groups : Nat)
      (inner : Expression symbol)
  | start
  | finish
  | boundary (isWord : symbol → Bool) (negated : Bool)
  | lookahead (negated : Bool) (inner : Expression symbol)
  | lookbehind (negated : Bool) (inner : Expression symbol)

structure Place where
  index : Nat
  captures : Nat → Option (Nat × Nat)

def Place.moved (place : Place) (index : Nat) : Place := { place with index := index }

def Place.captured (place : Place) (number low high : Nat) : Place :=
  { place with
    captures := fun other => if other = number then some (low, high) else place.captures other }

/-- The groups of another repetition have not matched yet. -/
def Place.forget (place : Place) (groupsBefore groups : Nat) : Place :=
  { place with
    captures := fun number =>
      if groupsBefore < number ∧ number ≤ groupsBefore + groups then none
      else place.captures number }

abbrev Continuation := Place → Option Place

/-- A repetition that is not required has to move on; `rounds` bounds their number. -/
def repeatMatch (inner : Place → Continuation → Option Place) (greedy : Bool)
    (groupsBefore groups : Nat) :
    (rounds min : Nat) → Option Nat → Place → Continuation → Option Place
  | 0, _, _, _, _ => none
  | rounds + 1, min, max, place, next =>
      if max = some 0 then next place
      else
        let again : Continuation := fun reached =>
          if min = 0 ∧ reached.index = place.index then none
          else
            repeatMatch inner greedy groupsBefore groups rounds (min - 1) (max.map (· - 1)) reached
              next
        let cleared := place.forget groupsBefore groups
        if min ≠ 0 then inner cleared again
        else if greedy then (inner cleared again).or (next place)
        else (next place).or (inner cleared again)

section Matching

variable {symbol : Type} [DecidableEq symbol] (text : List symbol)

def passed (forward : Bool) (index : Nat) : Option (symbol × Nat) :=
  if forward then text[index]?.map fun found => (found, index + 1)
  else if index = 0 then none
  else text[index - 1]?.map fun found => (found, index - 1)

/-- The end of a copy of what stands between two places. -/
def copied (forward : Bool) (low high index : Nat) : Option Nat :=
  let length := high - low
  if forward then
    if (text.drop index).take length = (text.drop low).take length then some (index + length)
    else none
  else if length ≤ index ∧
      (text.drop (index - length)).take length = (text.drop low).take length then
    some (index - length)
  else none

def isWordAt (isWord : symbol → Bool) (index : Nat) : Bool := text[index]?.any isWord

def Expression.match_ : Expression symbol → (forward : Bool) → Place → Continuation → Option Place
  | .empty, _, place, next => next place
  | .one accepts, forward, place, next =>
      match passed text forward place.index with
      | none => none
      | some (found, index) => if accepts found then next (place.moved index) else none
  | .sequence first second, forward, place, next =>
      if forward then
        first.match_ forward place fun between => second.match_ forward between next
      else second.match_ forward place fun between => first.match_ forward between next
  | .either first second, forward, place, next =>
      (first.match_ forward place next).or (second.match_ forward place next)
  | .group number inner, forward, place, next =>
      inner.match_ forward place fun reached =>
        next (if forward then reached.captured number place.index reached.index
          else reached.captured number reached.index place.index)
  | .backreference number, forward, place, next =>
      match place.captures number with
      | none => next place
      | some (low, high) =>
          match copied text forward low high place.index with
          | none => none
          | some index => next (place.moved index)
  | .repeated min max greedy groupsBefore groups inner, forward, place, next =>
      repeatMatch (inner.match_ forward) greedy groupsBefore groups (min + text.length + 1) min max
        place next
  | .start, _, place, next => if place.index = 0 then next place else none
  | .finish, _, place, next => if place.index = text.length then next place else none
  | .boundary isWord negated, _, place, next =>
      let before := decide (place.index ≠ 0) && isWordAt text isWord (place.index - 1)
      let after := isWordAt text isWord place.index
      if (before != after) != negated then next place else none
  | .lookahead negated inner, _, place, next =>
      match inner.match_ true place some with
      | none => if negated then next place else none
      | some seen => if negated then none else next (seen.moved place.index)
  | .lookbehind negated inner, _, place, next =>
      match inner.match_ false place some with
      | none => if negated then next place else none
      | some seen => if negated then none else next (seen.moved place.index)

/-- The expression matches somewhere in the text. -/
def Expression.test (expression : Expression symbol) : Bool :=
  (List.range (text.length + 1)).any fun index =>
    (expression.match_ text true ⟨index, fun _ => none⟩ some).isSome

end Matching

/-! ## Pieces of a text -/

section Pieces

variable {symbol : Type} [DecidableEq symbol] {text : List symbol} {accepts : symbol → Bool}
  {place : Place} {next : Continuation}

theorem forget_nothing (groupsBefore : Nat) : place.forget groupsBefore 0 = place := by
  have same : (place.forget groupsBefore 0).captures = place.captures := by
    funext number
    exact if_neg (by omega)
  cases place with
  | mk index captures => exact congrArg (Place.mk index) same

theorem match_one :
    ((Expression.one accepts).match_ text true place next).isSome ↔
      ∃ found rest, text.drop place.index = found :: rest ∧ accepts found = true ∧
        (next (place.moved (place.index + 1))).isSome := by
  rw [Expression.match_, passed, if_pos rfl]
  cases at_ : text[place.index]? with
  | none =>
    have nothing : text.drop place.index = [] :=
      List.drop_eq_nil_of_le (List.getElem?_eq_none_iff.mp at_)
    constructor
    · intro impossible
      cases impossible
    · intro ⟨found, rest, here, _⟩
      rw [nothing] at here
      cases here
  | some found =>
    obtain ⟨inside, is⟩ := List.getElem?_eq_some_iff.mp at_
    have here : text.drop place.index = found :: text.drop (place.index + 1) := by
      rw [← is]
      exact List.drop_eq_getElem_cons inside
    rw [here, Option.map_some]
    dsimp only
    cases accepted : accepts found with
    | false =>
      constructor
      · intro impossible
        cases impossible
      · intro ⟨other, rest, same, accepts_, _⟩
        rw [← (List.cons.inj same).1, accepted] at accepts_
        cases accepts_
    | true =>
      constructor
      · intro further
        exact ⟨found, _, rfl, accepted, further⟩
      · intro ⟨other, rest, same, accepts_, further⟩
        exact further

/-- A symbol may be repeated as far as it is accepted, whatever is tried first. -/
theorem repeat_one {groupsBefore rounds : Nat} {greedy : Bool}
    (enough : text.length + 1 ≤ rounds + place.index) (inside : place.index ≤ text.length) :
    (repeatMatch ((Expression.one accepts).match_ text true) greedy groupsBefore 0 rounds 0 none
        place next).isSome ↔
      ∃ front rest, text.drop place.index = front ++ rest ∧
        (∀ found ∈ front, accepts found = true) ∧
        (next (place.moved (place.index + front.length))).isSome := by
  induction rounds generalizing place with
  | zero => omega
  | succ rounds ih =>
    let again : Continuation := fun reached =>
      if 0 = 0 ∧ reached.index = place.index then none
      else
        repeatMatch ((Expression.one accepts).match_ text true) greedy groupsBefore 0 rounds 0 none
          reached next
    have either : (repeatMatch ((Expression.one accepts).match_ text true) greedy groupsBefore 0
        (rounds + 1) 0 none place next).isSome ↔
          (next place).isSome ∨ ((Expression.one accepts).match_ text true place again).isSome := by
      rw [repeatMatch, if_neg (by intro impossible; cases impossible)]
      dsimp only
      rw [forget_nothing, if_neg (not_not_intro rfl)]
      cases greedy
      · rw [if_neg Bool.false_ne_true, Option.isSome_or, Bool.or_eq_true]
        rfl
      · rw [if_pos rfl, Option.isSome_or, Bool.or_eq_true, Or.comm]
        rfl
    have onwards : ∀ found rest, text.drop place.index = found :: rest →
        ((again (place.moved (place.index + 1))).isSome ↔
          ∃ front after, rest = front ++ after ∧ (∀ other ∈ front, accepts other = true) ∧
            (next (place.moved (place.index + 1 + front.length))).isSome) := by
      intro found rest here
      have more : place.index < text.length := by
        by_contra beyond
        rw [List.drop_eq_nil_of_le (Nat.not_lt.mp beyond)] at here
        cases here
      have behind : text.drop (place.index + 1) = rest := by
        rw [← List.tail_drop, here, List.tail_cons]
      have moved : ¬(0 = 0 ∧ (place.moved (place.index + 1)).index = place.index) := fun stays =>
        absurd stays.2 (Nat.succ_ne_self _)
      have within : (place.moved (place.index + 1)).index ≤ text.length := more
      have fewer : text.length + 1 ≤ rounds + (place.moved (place.index + 1)).index := by
        show text.length + 1 ≤ rounds + (place.index + 1)
        omega
      have later := ih fewer within
      rw [← behind]
      show (if _ then _ else _ : Option Place).isSome ↔ _
      rw [if_neg moved]
      exact later
    rw [either, match_one]
    constructor
    · intro ways
      rcases ways with stop | ⟨found, rest, here, accepted, further⟩
      · exact ⟨[], _, rfl, by simp, stop⟩
      · obtain ⟨front, after, split_, all, reached⟩ := (onwards found rest here).mp further
        refine ⟨found :: front, after, by rw [here, split_, List.cons_append], ?_, ?_⟩
        · exact List.forall_mem_cons.mpr ⟨accepted, all⟩
        · rw [List.length_cons, Nat.add_comm front.length, ← Nat.add_assoc]
          exact reached
    · intro ⟨front, after, split_, all, reached⟩
      cases front with
      | nil => exact Or.inl reached
      | cons found front =>
        have parts := List.forall_mem_cons.mp all
        refine Or.inr ⟨found, front ++ after, split_, parts.1, ?_⟩
        rw [List.length_cons, Nat.add_comm front.length, ← Nat.add_assoc] at reached
        exact (onwards found _ split_).mpr ⟨front, after, rfl, parts.2, reached⟩

/-- One symbol, or as many as there are. -/
structure Piece (symbol : Type) where
  accepts : symbol → Bool
  starred : Bool

def Piece.expression (groupsBefore : Nat) (piece : Piece symbol) : Expression symbol :=
  if piece.starred then .repeated 0 none true groupsBefore 0 (.one piece.accepts)
  else .one piece.accepts

def chain (expressions : List (Expression symbol)) : Expression symbol :=
  expressions.foldr Expression.sequence Expression.empty

/-- The text falls into parts that the pieces accept. -/
def Fits : List (Piece symbol) → List symbol → Prop
  | [], text => text = []
  | piece :: pieces, text =>
      if piece.starred then
        ∃ front rest, text = front ++ rest ∧ (∀ found ∈ front, piece.accepts found = true) ∧
          Fits pieces rest
      else ∃ found rest, text = found :: rest ∧ piece.accepts found = true ∧ Fits pieces rest

theorem match_pieces (groupsBefore : Nat) (pieces : List (Piece symbol))
    (inside : place.index ≤ text.length) :
    ((chain (pieces.map (Piece.expression groupsBefore) ++ [.finish])).match_ text true place
        some).isSome ↔ Fits pieces (text.drop place.index) := by
  induction pieces generalizing place with
  | nil =>
    show (if place.index = text.length then some place else none).isSome ↔ _
    rw [Fits, List.drop_eq_nil_iff]
    by_cases ended : place.index = text.length
    · rw [if_pos ended]
      exact iff_of_true rfl (Nat.le_of_eq ended.symm)
    · rw [if_neg ended]
      exact iff_of_false Bool.false_ne_true (by omega)
  | cons piece pieces ih =>
    have sequence : (chain ((piece :: pieces).map (Piece.expression groupsBefore) ++
        [.finish])).match_ text true place some =
          (piece.expression groupsBefore).match_ text true place fun between =>
            (chain (pieces.map (Piece.expression groupsBefore) ++ [.finish])).match_ text true
              between some := rfl
    have onwards : ∀ front rest, text.drop place.index = front ++ rest →
        (((chain (pieces.map (Piece.expression groupsBefore) ++ [.finish])).match_ text true
          (place.moved (place.index + front.length)) some).isSome ↔ Fits pieces rest) := by
      intro front rest split_
      have length := congrArg List.length split_
      rw [List.length_drop, List.length_append] at length
      have behind : text.drop (place.index + front.length) = rest := by
        rw [← List.drop_drop, split_, List.drop_left]
      rw [← behind]
      have within : (place.moved (place.index + front.length)).index ≤ text.length := by
        show place.index + front.length ≤ _
        omega
      exact ih within
    rw [sequence, Fits]
    cases starred : piece.starred with
    | true =>
      rw [Piece.expression, if_pos starred, if_pos rfl, Expression.match_, repeat_one (by omega)
        inside]
      constructor
      · intro ⟨front, rest, split_, all, reached⟩
        exact ⟨front, rest, split_, all, (onwards front rest split_).mp reached⟩
      · intro ⟨front, rest, split_, all, fits⟩
        exact ⟨front, rest, split_, all, (onwards front rest split_).mpr fits⟩
    | false =>
      rw [Piece.expression, if_neg (by rw [starred]; exact Bool.false_ne_true),
        if_neg Bool.false_ne_true, match_one]
      constructor
      · intro ⟨found, rest, here, accepted, reached⟩
        exact ⟨found, rest, here, accepted, (onwards [found] rest here).mp reached⟩
      · intro ⟨found, rest, here, accepted, fits⟩
        exact ⟨found, rest, here, accepted, (onwards [found] rest here).mpr fits⟩

/-- Between both anchors the pieces have to be those of the whole text. -/
theorem test_pieces {groupsBefore : Nat} {pieces : List (Piece symbol)} :
    (chain (.start :: (pieces.map (Piece.expression groupsBefore) ++ [.finish]))).test text = true ↔
      Fits pieces text := by
  have inside : (⟨0, fun _ => none⟩ : Place).index ≤ text.length := Nat.zero_le _
  have first := match_pieces groupsBefore pieces inside
  rw [List.drop_zero] at first
  rw [← first, Expression.test, List.any_eq_true]
  constructor
  · intro ⟨index, _, matched⟩
    have anchored : ((if index = 0 then
        (chain (pieces.map (Piece.expression groupsBefore) ++ [.finish])).match_ text true
          ⟨index, fun _ => none⟩ some else none : Option Place)).isSome := matched
    by_cases zero : index = 0
    · rw [if_pos zero, zero] at anchored
      exact anchored
    · rw [if_neg zero] at anchored
      cases anchored
  · intro matched
    exact ⟨0, List.mem_range.mpr (Nat.succ_pos _), matched⟩

end Pieces

end StablecoinStudio.Foundation.RegularExpressions
