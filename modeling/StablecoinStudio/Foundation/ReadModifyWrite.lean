import Mathlib.Data.List.Nodup
import Mathlib.Data.List.Perm.Subperm
import Mathlib.Logic.Function.Basic
import StablecoinStudio.Foundation.Runs

/-!
# Concurrent additions to one cell

A cell holds a list. Whoever adds an item reads the cell and later writes what
it read with its item behind it, and others may do so in between. Nothing is
lost exactly when every write finds the cell as its item read it.
-/

namespace StablecoinStudio.Foundation.ReadModifyWrite

open StablecoinStudio.Foundation.Runs

set_option autoImplicit false

inductive Access (item : Type) where
  | read (adder : item)
  | write (adder : item)

def Access.adder {item : Type} : Access item → item
  | .read adder => adder
  | .write adder => adder

structure Cell (item : Type) where
  content : List item
  /-- What an item has read and not yet written. -/
  taken : item → Option (List item)
  /-- The items that wrote, in order. -/
  written : List item

variable {item : Type} [DecidableEq item]

def untouched : Cell item := ⟨[], fun _ => none, []⟩

def access (cell : Cell item) : Access item → Cell item
  | .read adder => { cell with taken := Function.update cell.taken adder (some cell.content) }
  | .write adder =>
      match cell.taken adder with
      | some base =>
          ⟨base ++ [adder], Function.update cell.taken adder none, cell.written ++ [adder]⟩
      | none => cell

/-- Every waiting item reads once, and every item that has read writes once. -/
def Interleaved : (waiting reading : List item) → List (Access item) → Prop
  | waiting, reading, [] => waiting = [] ∧ reading = []
  | waiting, reading, .read adder :: rest =>
      adder ∈ waiting ∧ Interleaved (waiting.erase adder) (adder :: reading) rest
  | waiting, reading, .write adder :: rest =>
      adder ∈ reading ∧ Interleaved waiting (reading.erase adder) rest

/-- A write finds the cell as its item read it. -/
def Fresh (cell : Cell item) : Access item → Prop
  | .read _ => True
  | .write adder => cell.taken adder = some cell.content

/-- An item reads before it has written, and writes after it has read. -/
def InTurn (cell : Cell item) : Access item → Prop
  | .read adder => adder ∉ cell.written
  | .write adder => ∃ base, cell.taken adder = some base

/-! ## One access -/

/-- No item is in the cell twice or without having written, the last one to write
is in it, and what was read and is no longer the content is shorter than the
record of writes. -/
structure Sound (cell : Cell item) : Prop where
  distinct : cell.content.Nodup
  subset : cell.content ⊆ cell.written
  short : cell.content.length ≤ cell.written.length
  nonempty : cell.written ≠ [] → cell.content ≠ []
  reading : ∀ adder base, cell.taken adder = some base →
    adder ∉ cell.written ∧ base.Nodup ∧ base ⊆ cell.written ∧
      (base = cell.content ∨ base.length < cell.written.length)

variable {cell : Cell item} {taken : Access item}

omit [DecidableEq item] in
theorem sound_untouched : Sound (untouched : Cell item) where
  distinct := List.nodup_nil
  subset := List.nil_subset _
  short := Nat.le_refl 0
  nonempty := id
  reading _ _ read := by cases read

theorem sound_access (sound : Sound cell) (inTurn : InTurn cell taken) :
    Sound (access cell taken) := by
  cases taken with
  | read adder =>
      refine ⟨sound.distinct, sound.subset, sound.short, sound.nonempty, ?_⟩
      intro other base read
      by_cases same : other = adder
      · subst same
        have isContent : cell.content = base := by simpa [access] using read
        subst isContent
        exact ⟨inTurn, sound.distinct, sound.subset, Or.inl rfl⟩
      · apply sound.reading other base
        simpa [access, same] using read
  | write adder =>
      obtain ⟨base, read⟩ := inTurn
      obtain ⟨unwritten, distinct, subset, _⟩ := sound.reading adder base read
      have bound : base.length ≤ cell.written.length :=
        (List.subperm_of_subset distinct subset).length_le
      have after : access cell (.write adder) =
          ⟨base ++ [adder], Function.update cell.taken adder none, cell.written ++ [adder]⟩ := by
        simp only [access, read]
      rw [after]
      refine ⟨?_, ?_, ?_, by simp, ?_⟩
      · rw [← List.concat_eq_append]
        exact distinct.concat fun listed => unwritten (subset listed)
      · intro kept listed
        rcases List.mem_append.mp listed with old | new
        · exact List.mem_append_left _ (subset old)
        · exact List.mem_append_right _ new
      · simpa using bound
      · intro other earlier readEarlier
        have different : other ≠ adder := by
          intro same
          subst same
          simp at readEarlier
        have before : cell.taken other = some earlier := by simpa [different] using readEarlier
        obtain ⟨otherUnwritten, earlierDistinct, earlierSubset, _⟩ :=
          sound.reading other earlier before
        refine ⟨?_, earlierDistinct, fun kept listed => ?_, Or.inr ?_⟩
        · simp [otherUnwritten, different]
        · exact List.mem_append_left _ (earlierSubset listed)
        · have earlierBound := (List.subperm_of_subset earlierDistinct earlierSubset).length_le
          simp only [List.length_append, List.length_singleton]
          omega

def Complete (cell : Cell item) : Prop := cell.content.length = cell.written.length

theorem complete_access_iff (sound : Sound cell) (inTurn : InTurn cell taken) :
    Complete (access cell taken) ↔ Complete cell ∧ Fresh cell taken := by
  cases taken with
  | read adder => exact (and_true _).symm.to_iff
  | write adder =>
      obtain ⟨base, read⟩ := inTurn
      obtain ⟨_, _, _, current | shorter⟩ := sound.reading adder base read
      · subst current
        simp [Complete, access, Fresh, read]
      · simp only [Complete, access, Fresh, read, List.length_append, List.length_singleton,
          Option.some.injEq]
        constructor
        · intro whole
          omega
        · rintro ⟨whole, same⟩
          rw [same] at shorter
          omega

/-! ## Interleavings -/

/-- The items by what they have done so far. -/
structure Linked (waiting reading : List item) (cell : Cell item) : Prop where
  distinct : (cell.written ++ reading ++ waiting).Nodup
  busy : ∀ adder ∈ reading, ∃ base, cell.taken adder = some base

variable {waiting reading : List item} {accesses : List (Access item)}

theorem perm_read {written : List item} {adder : item} (listed : adder ∈ waiting) :
    (written ++ (adder :: reading) ++ waiting.erase adder).Perm
      (written ++ reading ++ waiting) := by
  simp only [List.append_assoc, List.cons_append]
  apply List.Perm.append_left
  exact List.perm_middle.symm.trans ((List.perm_cons_erase listed).symm.append_left reading)

theorem perm_write {written : List item} {adder : item} (listed : adder ∈ reading) :
    (written ++ [adder] ++ reading.erase adder ++ waiting).Perm
      (written ++ reading ++ waiting) := by
  apply List.Perm.append_right
  rw [List.append_assoc]
  apply List.Perm.append_left
  exact (List.perm_cons_erase listed).symm

theorem linked_read {adder : item} (linked : Linked waiting reading cell)
    (listed : adder ∈ waiting) :
    Linked (waiting.erase adder) (adder :: reading) (access cell (.read adder)) where
  distinct := by
    exact (perm_read listed).nodup_iff.mpr linked.distinct
  busy other member := by
    by_cases same : other = adder
    · subst same
      exact ⟨cell.content, Function.update_self ..⟩
    · have earlier : other ∈ reading := (List.mem_cons.mp member).resolve_left same
      obtain ⟨base, read⟩ := linked.busy other earlier
      exact ⟨base, by simp only [access, Function.update_of_ne same, read]⟩

theorem linked_write {adder : item} (linked : Linked waiting reading cell)
    (listed : adder ∈ reading) :
    Linked waiting (reading.erase adder) (access cell (.write adder)) := by
  obtain ⟨base, read⟩ := linked.busy adder listed
  have parts := List.nodup_append.mp (List.nodup_append.mp linked.distinct).1
  have after : access cell (.write adder) =
      ⟨base ++ [adder], Function.update cell.taken adder none, cell.written ++ [adder]⟩ := by
    simp only [access, read]
  rw [after]
  constructor
  · exact (perm_write listed).nodup_iff.mpr linked.distinct
  · intro other member
    have different : other ≠ adder := by
      intro same
      subst same
      exact parts.2.1.not_mem_erase member
    obtain ⟨otherBase, otherRead⟩ := linked.busy other (List.mem_of_mem_erase member)
    exact ⟨otherBase, by simp only [Function.update_of_ne different, otherRead]⟩

/-- In an interleaving every access is in turn, and in the end exactly the items
have written. -/
theorem interleaved_in_turn (interleaved : Interleaved waiting reading accesses)
    (linked : Linked waiting reading cell) :
    Along access InTurn cell accesses ∧
      (run access cell accesses).written.Perm (cell.written ++ reading ++ waiting) := by
  induction accesses generalizing waiting reading cell with
  | nil =>
      obtain ⟨rfl, rfl⟩ := interleaved
      simp [Along]
  | cons first rest ih =>
      cases first with
      | read adder =>
          obtain ⟨listed, later⟩ := interleaved
          obtain ⟨inTurn, all⟩ := ih later (linked_read linked listed)
          have unwritten : adder ∉ cell.written := by
            intro already
            have apart := (List.nodup_append.mp linked.distinct).2.2
            exact apart adder (List.mem_append_left _ already) adder listed rfl
          exact ⟨⟨unwritten, inTurn⟩, all.trans (perm_read listed)⟩
      | write adder =>
          obtain ⟨listed, later⟩ := interleaved
          obtain ⟨inTurn, all⟩ := ih later (linked_write linked listed)
          obtain ⟨base, read⟩ := linked.busy adder listed
          refine ⟨⟨⟨base, read⟩, inTurn⟩, all.trans ?_⟩
          simp only [access, read]
          exact perm_write listed

theorem interleaved_adders (interleaved : Interleaved waiting reading accesses) :
    ∀ taken ∈ accesses, taken.adder ∈ waiting ++ reading := by
  induction accesses generalizing waiting reading with
  | nil => simp
  | cons first rest ih =>
      rw [List.forall_mem_cons]
      cases first with
      | read adder =>
          obtain ⟨listed, later⟩ := interleaved
          refine ⟨List.mem_append_left _ listed, fun taken member => ?_⟩
          rcases List.mem_append.mp (ih later taken member) with waits | reads
          · exact List.mem_append_left _ (List.mem_of_mem_erase waits)
          · rcases List.mem_cons.mp reads with same | reads
            · rw [same]
              exact List.mem_append_left _ listed
            · exact List.mem_append_right _ reads
      | write adder =>
          obtain ⟨listed, later⟩ := interleaved
          refine ⟨List.mem_append_right _ listed, fun taken member => ?_⟩
          rcases List.mem_append.mp (ih later taken member) with waits | reads
          · exact List.mem_append_left _ waits
          · exact List.mem_append_right _ (List.mem_of_mem_erase reads)

theorem interleaved_from_start {items : List item} (distinct : items.Nodup)
    (interleaved : Interleaved items [] accesses) :
    Along access (fun cell taken => InTurn cell taken ∧ taken.adder ∈ items) untouched accesses ∧
      (run access untouched accesses).written.Perm items := by
  have linked : Linked items [] (untouched : Cell item) :=
    ⟨by simpa [untouched] using distinct, fun _ busy => (List.not_mem_nil busy).elim⟩
  obtain ⟨inTurn, all⟩ := interleaved_in_turn interleaved linked
  have members := interleaved_adders interleaved
  rw [List.append_nil] at members
  refine ⟨(along_and access).mpr ⟨inTurn, ?_⟩, by simpa [untouched] using all⟩
  exact along_of_forall_mem access (fun taken member _ => members taken member) untouched

/-- The rule of concurrent additions: every item is in the cell at the end
exactly when every write found the cell as its item had read it. -/
theorem nothing_lost_iff {items : List item} (distinct : items.Nodup)
    (interleaved : Interleaved items [] accesses) :
    (∀ adder ∈ items, adder ∈ (run access untouched accesses).content) ↔
      Along access Fresh untouched accesses := by
  obtain ⟨permitted, wrote⟩ := interleaved_from_start distinct interleaved
  have inTurn := ((along_and access).mp permitted).1
  have sound : Sound (run access untouched accesses) :=
    invariant_of_steps access (fun _ _ => sound_access) sound_untouched inTurn
  have whole : Complete (run access untouched accesses) ↔
      Along access Fresh untouched accesses := by
    rw [holds_iff_along access (fun _ _ => sound_access) (fun _ _ => complete_access_iff)
      sound_untouched inTurn, and_iff_right]
    rfl
  rw [← whole]
  constructor
  · intro present
    apply Nat.le_antisymm sound.short
    rw [wrote.length_eq]
    exact (List.subperm_of_subset distinct present).length_le
  · intro complete adder listed
    have same := (List.subperm_of_subset sound.distinct sound.subset).perm_of_length_le
      (Nat.le_of_eq (Eq.symm complete))
    exact same.symm.subset (wrote.symm.subset listed)

end StablecoinStudio.Foundation.ReadModifyWrite
