import Mathlib.Data.List.Nodup
import Mathlib.Data.List.Perm.Basic
import Mathlib.Logic.Function.Basic

/-!
# Tables of records with a key

The records stand in a fixed order and no two have the same key. Writing a
record replaces the one with its key in place, or adds it at the end. A list
that is searched for the first entry with a key gives the same in any order where
the entries with that key agree. A flat mapping whose keys have two parts is a
table of rows, one for every first part.
-/

namespace StablecoinStudio.Foundation.KeyedTables

set_option autoImplicit false

variable {key record : Type} {keyOf : record → key}

@[ext] structure KeyedTable (keyOf : record → key) where
  rows : List record
  distinct : (rows.map keyOf).Nodup

namespace KeyedTable

theorem nodup_added {rows : List record} {row : record} (distinct : (rows.map keyOf).Nodup)
    (absent : keyOf row ∉ rows.map keyOf) : ((rows ++ [row]).map keyOf).Nodup := by
  rw [List.map_append, List.nodup_append]
  refine ⟨distinct, List.nodup_singleton _, ?_⟩
  intro stored listed added isNew
  rw [List.map_singleton, List.mem_singleton] at isNew
  subst isNew
  exact fun same => absent (same ▸ listed)

variable [DecidableEq key]

def empty : KeyedTable keyOf := ⟨[], List.nodup_nil⟩

def find (table : KeyedTable keyOf) (wanted : key) : Option record :=
  table.rows.find? fun row => decide (keyOf row = wanted)

def replaced (keyOf : record → key) (rows : List record) (row : record) : List record :=
  rows.map fun stored => if keyOf stored = keyOf row then row else stored

theorem keys_replaced (rows : List record) (row : record) :
    (replaced keyOf rows row).map keyOf = rows.map keyOf := by
  rw [replaced, List.map_map]
  apply List.map_congr_left
  intro stored _
  by_cases same : keyOf stored = keyOf row
  · simp [same]
  · simp [same]

def put (table : KeyedTable keyOf) (row : record) : KeyedTable keyOf :=
  if present : keyOf row ∈ table.rows.map keyOf then
    ⟨replaced keyOf table.rows row, by rw [keys_replaced]; exact table.distinct⟩
  else
    ⟨table.rows ++ [row], nodup_added table.distinct present⟩

variable {table : KeyedTable keyOf} {row stored : record} {wanted : key}

theorem find_some : table.find wanted = some stored ↔
    stored ∈ table.rows ∧ keyOf stored = wanted := by
  obtain ⟨rows, distinct⟩ := table
  unfold find
  induction rows with
  | nil => simp
  | cons head tail ih =>
      have rest := List.nodup_cons.mp distinct
      by_cases same : keyOf head = wanted
      · simp only [List.find?_cons, same, decide_true, Option.some.injEq, List.mem_cons]
        constructor
        · rintro rfl
          exact ⟨Or.inl rfl, same⟩
        · rintro ⟨rfl | listed, sameKey⟩
          · rfl
          · refine absurd ?_ rest.1
            rw [same, ← sameKey]
            exact List.mem_map_of_mem listed
      · simp only [List.find?_cons, same, decide_false, ih rest.2, List.mem_cons]
        constructor
        · rintro ⟨listed, sameKey⟩
          exact ⟨Or.inr listed, sameKey⟩
        · rintro ⟨rfl | listed, sameKey⟩
          · exact (same sameKey).elim
          · exact ⟨listed, sameKey⟩

theorem find_none : table.find wanted = none ↔ wanted ∉ table.rows.map keyOf := by
  simp [find]

theorem find_of_mem (listed : stored ∈ table.rows) : table.find (keyOf stored) = some stored :=
  find_some.mpr ⟨listed, rfl⟩

theorem rows_put_of_found (found : table.find (keyOf row) = some stored) :
    (table.put row).rows = replaced keyOf table.rows row := by
  obtain ⟨listed, same⟩ := find_some.mp found
  have present : keyOf row ∈ table.rows.map keyOf := by
    rw [← same]
    exact List.mem_map_of_mem listed
  rw [put, dif_pos present]

theorem rows_put_of_absent (absent : table.find (keyOf row) = none) :
    (table.put row).rows = table.rows ++ [row] := by
  rw [put, dif_neg (find_none.mp absent)]

theorem mem_put : stored ∈ (table.put row).rows ↔
    stored = row ∨ (stored ∈ table.rows ∧ keyOf stored ≠ keyOf row) := by
  by_cases present : keyOf row ∈ table.rows.map keyOf
  · obtain ⟨old, listed, same⟩ := List.mem_map.mp present
    have changed : (table.put row).rows = replaced keyOf table.rows row := by
      rw [put, dif_pos present]
    rw [changed, replaced, List.mem_map]
    constructor
    · rintro ⟨kept, keptListed, rfl⟩
      by_cases sameKey : keyOf kept = keyOf row
      · simp [sameKey]
      · simp [sameKey, keptListed]
    · rintro (rfl | ⟨kept, other⟩)
      · exact ⟨old, listed, if_pos same⟩
      · exact ⟨stored, kept, if_neg other⟩
  · have changed : (table.put row).rows = table.rows ++ [row] := by
      rw [put, dif_neg present]
    rw [changed, List.mem_append, List.mem_singleton]
    constructor
    · rintro (kept | isNew)
      · refine Or.inr ⟨kept, ?_⟩
        intro same
        exact present (same ▸ List.mem_map_of_mem kept)
      · exact Or.inl isNew
    · rintro (isNew | ⟨kept, _⟩)
      · exact Or.inr isNew
      · exact Or.inl kept

@[simp] theorem find_put_self : (table.put row).find (keyOf row) = some row :=
  find_some.mpr ⟨mem_put.mpr (Or.inl rfl), rfl⟩

theorem find_put_of_ne (other : wanted ≠ keyOf row) :
    (table.put row).find wanted = table.find wanted := by
  apply Option.ext
  intro stored
  rw [find_some, find_some, mem_put]
  constructor
  · rintro ⟨rfl | ⟨listed, _⟩, rfl⟩
    · exact (other rfl).elim
    · exact ⟨listed, rfl⟩
  · rintro ⟨listed, rfl⟩
    exact ⟨Or.inr ⟨listed, other⟩, rfl⟩

theorem put_of_found (found : table.find (keyOf row) = some row) : table.put row = table := by
  apply KeyedTable.ext
  rw [rows_put_of_found found, replaced]
  have untouched : ∀ stored ∈ table.rows,
      (if keyOf stored = keyOf row then row else stored) = stored := by
    intro stored listed
    by_cases same : keyOf stored = keyOf row
    · rw [if_pos same]
      have again := find_of_mem listed
      rw [same, found] at again
      exact Option.some.inj again
    · rw [if_neg same]
  rw [List.map_congr_left untouched, List.map_id']

theorem put_put {later : record} (same : keyOf later = keyOf row) :
    (table.put row).put later = table.put later := by
  apply KeyedTable.ext
  have found : (table.put row).find (keyOf later) = some row := same ▸ find_put_self
  rw [rows_put_of_found found]
  have twice (rows : List record) :
      replaced keyOf (replaced keyOf rows row) later = replaced keyOf rows later := by
    simp only [replaced, List.map_map]
    apply List.map_congr_left
    intro stored _
    by_cases sameKey : keyOf stored = keyOf row
    · simp [sameKey, same]
    · simp [sameKey, same]
  cases before : table.find (keyOf row) with
  | some old =>
      rw [rows_put_of_found before, rows_put_of_found (same ▸ before), twice]
  | none =>
      have absent := find_none.mp before
      rw [rows_put_of_absent before, rows_put_of_absent (same ▸ before), replaced,
        List.map_append, List.map_singleton, if_pos same.symm]
      congr 1
      have untouched : ∀ stored ∈ table.rows, (if keyOf stored = keyOf later then later else
          stored) = stored := by
        intro stored listed
        rw [same, if_neg]
        intro sameKey
        exact absent (sameKey ▸ List.mem_map_of_mem listed)
      rw [List.map_congr_left untouched, List.map_id']

/-! ### Removing a record -/

def remove (table : KeyedTable keyOf) (wanted : key) : KeyedTable keyOf where
  rows := table.rows.filter fun row => decide (keyOf row ≠ wanted)
  distinct := table.distinct.sublist (List.filter_sublist.map keyOf)

theorem mem_remove : stored ∈ (table.remove wanted).rows ↔
    stored ∈ table.rows ∧ keyOf stored ≠ wanted := by
  simp [remove]

theorem find_remove_self : (table.remove wanted).find wanted = none := by
  rw [find_none]
  intro listed
  obtain ⟨stored, member, same⟩ := List.mem_map.mp listed
  exact (mem_remove.mp member).2 same

theorem find_remove_of_ne {other : key} (different : other ≠ wanted) :
    (table.remove wanted).find other = table.find other := by
  apply Option.ext
  intro stored
  rw [find_some, find_some, mem_remove]
  constructor
  · intro found
    exact ⟨found.1.1, found.2⟩
  · intro found
    refine ⟨⟨found.1, ?_⟩, found.2⟩
    rw [found.2]
    exact different

end KeyedTable

/-! ## First matches -/

section FirstMatches

variable {Entry Key Value : Type} (keyOf : Entry → Key) (valueOf : Entry → Value)

/-- The entries with that key agree. -/
def AgreeOn (entries : List Entry) (key : Key) : Prop :=
  ∀ first ∈ entries, ∀ second ∈ entries, keyOf first = key → keyOf second = key →
    valueOf first = valueOf second

variable {keyOf valueOf} {entries other : List Entry} {key : Key} {value : Value}

theorem AgreeOn.of_perm (agree : AgreeOn keyOf valueOf entries key) (same : other.Perm entries) :
    AgreeOn keyOf valueOf other key := by
  intro first firstMember second secondMember
  exact agree first (same.subset firstMember) second (same.subset secondMember)

variable [DecidableEq Key]

variable (keyOf valueOf) in
def firstMatch (entries : List Entry) (key : Key) : Option Value :=
  (entries.find? fun entry => keyOf entry = key).map valueOf

theorem first_match_none :
    firstMatch keyOf valueOf entries key = none ↔ ∀ entry ∈ entries, keyOf entry ≠ key := by
  simp [firstMatch]

theorem mem_of_first_match (found : firstMatch keyOf valueOf entries key = some value) :
    ∃ entry ∈ entries, keyOf entry = key ∧ valueOf entry = value := by
  obtain ⟨entry, matched, same⟩ := Option.map_eq_some_iff.mp found
  have hasKey := List.find?_some matched
  exact ⟨entry, List.mem_of_find?_eq_some matched, by simpa using hasKey, same⟩

theorem first_match_some (agree : AgreeOn keyOf valueOf entries key) (value : Value) :
    firstMatch keyOf valueOf entries key = some value ↔
      ∃ entry ∈ entries, keyOf entry = key ∧ valueOf entry = value := by
  constructor
  · exact mem_of_first_match
  · intro listed
    obtain ⟨entry, member, hasKey, same⟩ := listed
    cases given : firstMatch keyOf valueOf entries key with
    | none => exact absurd hasKey (first_match_none.mp given entry member)
    | some found =>
        obtain ⟨first, firstMember, firstKey, firstSame⟩ := mem_of_first_match given
        rw [← same, ← firstSame, agree first firstMember entry member firstKey hasKey]

theorem first_match_perm (agree : AgreeOn keyOf valueOf entries key) (same : other.Perm entries) :
    firstMatch keyOf valueOf other key = firstMatch keyOf valueOf entries key := by
  apply Option.ext
  intro value
  rw [first_match_some agree, first_match_some (agree.of_perm same)]
  constructor
  · intro listed
    obtain ⟨entry, member, found⟩ := listed
    exact ⟨entry, same.subset member, found⟩
  · intro listed
    obtain ⟨entry, member, found⟩ := listed
    exact ⟨entry, same.symm.subset member, found⟩

end FirstMatches

/-! ## Rows of a mapping with a compound key -/

section Rows

variable {outer inner value : Type}

def row (mapping : outer × inner → value) (key : outer) : inner → value :=
  fun place => mapping (key, place)

def setRow [DecidableEq outer] (mapping : outer × inner → value) (key : outer)
    (line : inner → value) : outer × inner → value :=
  fun place => if place.1 = key then line place.2 else mapping place

variable [DecidableEq outer] {mapping : outer × inner → value} {key other : outer}
  {line later : inner → value}

@[simp] theorem row_set_row : row (setRow mapping key line) key = line := by
  funext place
  simp [row, setRow]

@[simp] theorem row_set_row_of_ne (different : other ≠ key) :
    row (setRow mapping key line) other = row mapping other := by
  funext place
  simp [row, setRow, different]

@[simp] theorem set_row_row : setRow mapping key (row mapping key) = mapping := by
  funext place
  by_cases same : place.1 = key
  · rw [setRow, if_pos same, row, ← same]
  · rw [setRow, if_neg same]

@[simp] theorem set_row_set_row :
    setRow (setRow mapping key line) key later = setRow mapping key later := by
  funext place
  by_cases same : place.1 = key
  · simp [setRow, same]
  · simp [setRow, same]

/-- Writing one entry writes one place of its row. -/
theorem update_eq_set_row [DecidableEq inner] (mapping : outer × inner → value) (key : outer)
    (place : inner) (written : value) :
    Function.update mapping (key, place) written =
      setRow mapping key (Function.update (row mapping key) place written) := by
  funext any
  rcases any with ⟨keyOfAny, placeOfAny⟩
  by_cases sameKey : keyOfAny = key
  · subst sameKey
    by_cases samePlace : placeOfAny = place
    · subst samePlace
      simp [setRow]
    · simp [setRow, row, samePlace]
  · simp [setRow, sameKey]

end Rows

end StablecoinStudio.Foundation.KeyedTables
