import Mathlib.Algebra.Order.Floor.Div
import Mathlib.Data.List.Basic

/-!
# Pages of a list

A list cut into pages of one length: the pages up to the last one give the
list again, and the later ones are empty. A page that is written item by item
is known by what stands in it so far. Pages that each say where the next one is
are followed until one names none.
-/

namespace StablecoinStudio.Foundation.Pages

set_option autoImplicit false

variable {item : Type}

/-- The items after those of the pages before, at most `length` of them. -/
def page (items : List item) (index length : Nat) : List item :=
  (items.drop (index * length)).take length

def pageCount (total length : Nat) : Nat := total ⌈/⌉ length

section Pages

variable {items : List item} {index length : Nat}

theorem page_of_length_zero : page items index 0 = [] := List.take_zero

theorem page_past_end (past : items.length ≤ index * length) : page items index length = [] := by
  rw [page, List.drop_eq_nil_of_le past, List.take_nil]

theorem length_page :
    (page items index length).length = min length (items.length - index * length) := by
  rw [page, List.length_take, List.length_drop]

theorem get_page {position : Nat} (inside : position < (page items index length).length) :
    items[index * length + position]? = some (page items index length)[position] := by
  have short : position < length := by
    rw [length_page] at inside
    omega
  rw [← List.getElem?_eq_getElem inside, page, List.getElem?_take_of_lt short, List.getElem?_drop]

/-- The pages before one of them hold the items before it. -/
theorem pages_before (items : List item) (length count : Nat) :
    (List.range count).flatMap (fun index => page items index length) =
      items.take (count * length) := by
  induction count with
  | zero => simp
  | succ count ih =>
      rw [List.range_succ, List.flatMap_append, ih, Nat.succ_mul, List.take_add]
      simp [page]

theorem page_count_covers (total : Nat) (positive : 0 < length) :
    total ≤ pageCount total length * length := by
  have covered : total ≤ length • pageCount total length := le_smul_ceilDiv positive
  rw [smul_eq_mul, Nat.mul_comm] at covered
  exact covered

/-- All pages together are the list. -/
theorem pages_cover (items : List item) (positive : 0 < length) :
    (List.range (pageCount items.length length)).flatMap (fun index => page items index length) =
      items := by
  rw [pages_before, List.take_of_length_le (page_count_covers items.length positive)]

end Pages

/-! ## Slices -/

/-- `for (let i = first; i < total; i += size)`: the values of the counter. A
size of zero is for empty lists, which take no round. -/
def starts (total size first : Nat) : List Nat :=
  if first < total ∧ 0 < size then first :: starts total size (first + size) else []
termination_by total - first

section Slices

variable {total size first : Nat}

theorem starts_of_past (past : total ≤ first) : starts total size first = [] := by
  rw [starts, if_neg]
  omega

theorem starts_of_before (before : first < total) (positive : 0 < size) :
    starts total size first = first :: starts total size (first + size) := by
  rw [starts, if_pos ⟨before, positive⟩]

theorem starts_last (positive : 0 < size) :
    starts total size (first + size) = [] ↔ total ≤ first + size := by
  constructor
  · intro ended
    by_contra more
    rw [starts_of_before (Nat.lt_of_not_le more) positive] at ended
    cases ended
  · exact starts_of_past

/-- The slices together are what the list has from the first one on. -/
theorem slices_cover (items : List item) (positive : 0 < size) (first : Nat) :
    (starts items.length size first).flatMap (fun start => (items.drop start).take size) =
      items.drop first := by
  induction left : items.length - first using Nat.strong_induction_on generalizing first with
  | _ left ih =>
      by_cases before : first < items.length
      · have rest := ih (items.length - (first + size)) (by omega) (first + size) rfl
        rw [starts_of_before before positive, List.flatMap_cons, rest, ← List.drop_drop]
        exact List.take_append_drop size (items.drop first)
      · rw [starts_of_past (Nat.le_of_not_lt before), List.drop_eq_nil_of_le
          (Nat.le_of_not_lt before)]
        rfl

theorem slice_not_empty {items : List item} (positive : 0 < size) (start : Nat)
    (within : start < items.length) : (items.drop start).take size ≠ [] := by
  rw [← List.length_pos_iff, List.length_take, List.length_drop]
  omega

theorem starts_below (start : Nat) (listed : start ∈ starts total size first) : start < total := by
  induction left : total - first using Nat.strong_induction_on generalizing first with
  | _ left ih =>
      by_cases before : first < total ∧ 0 < size
      · rw [starts_of_before before.1 before.2, List.mem_cons] at listed
        rcases listed with rfl | later
        · exact before.1
        · exact ih (total - (first + size)) (by omega) later rfl
      · rw [starts, if_neg before] at listed
        exact absurd listed List.not_mem_nil

end Slices

/-! ## Writing a page -/

/-- The first items of the target stand in the array. -/
structure Written (target array : List item) (count : Nat) : Prop where
  length : array.length = target.length
  first : array.take count = target.take count

namespace Written

variable {target array : List item} {count : Nat}

theorem start (zero : item) : Written target (List.replicate target.length zero) 0 :=
  ⟨List.length_replicate, by rw [List.take_zero, List.take_zero]⟩

theorem write (written : Written target array count) (inside : count < target.length) :
    Written target (array.set count target[count]) (count + 1) where
  length := by rw [List.length_set, written.length]
  first := by
    have room : count < array.length := by
      rw [written.length]
      exact inside
    rw [List.take_add_one, List.take_add_one, List.take_set_of_le (Nat.le_refl count),
      written.first, List.getElem?_set_self room, List.getElem?_eq_getElem inside]

theorem done (written : Written target array target.length) : array = target := by
  have first := written.first
  rw [List.take_length, ← written.length, List.take_length] at first
  exact first

end Written

/-! ## Linked pages -/

section Linked

variable {Address Content State ε : Type}

/-- What is read at an address and at those that follow it, up to the last. -/
inductive Chain (read : Address → Except ε (Content × Option Address)) :
    Address → List Content → Prop
  | last {address : Address} {content : Content}
      (reads : read address = .ok (content, none)) : Chain read address [content]
  | next {address following : Address} {content : Content} {rest : List Content}
      (reads : read address = .ok (content, some following))
      (linked : Chain read following rest) : Chain read address (content :: rest)

/-- A loop over the pages, or `none` when the rounds do not suffice for it. -/
def follow (read : Address → Except ε (Content × Option Address))
    (visit : State → Content → State) : Nat → Address → State → Option (Except ε State)
  | 0, _, _ => none
  | rounds + 1, address, state =>
      match read address with
      | .error failure => some (.error failure)
      | .ok (content, none) => some (.ok (visit state content))
      | .ok (content, some following) =>
          follow read visit rounds following (visit state content)

theorem chain_ne_nil {read : Address → Except ε (Content × Option Address)} {address : Address}
    {contents : List Content} (chain : Chain read address contents) : contents ≠ [] := by
  cases chain <;> simp

theorem follow_chain {read : Address → Except ε (Content × Option Address)} {address : Address}
    {contents : List Content} (visit : State → Content → State)
    (chain : Chain read address contents) {rounds : Nat} (enough : contents.length ≤ rounds)
    (state : State) :
    follow read visit rounds address state = some (.ok (contents.foldl visit state)) := by
  induction chain generalizing rounds state with
  | last reads =>
    cases rounds with
    | zero => exact absurd enough (by simp)
    | succ rounds => rw [follow, reads, List.foldl_cons, List.foldl_nil]
  | next reads _ further =>
    cases rounds with
    | zero => exact absurd enough (by simp)
    | succ rounds =>
      rw [follow, reads, List.foldl_cons]
      exact further (Nat.le_of_succ_le_succ enough) _

end Linked

end StablecoinStudio.Foundation.Pages
