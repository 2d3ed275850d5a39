import StablecoinStudio.Foundation.RegExpSyntax

/-!
# The origin guard

The configured origins are turned into regular expressions between two anchors,
with the first `*` of an entry replaced and nothing else changed. A request is
let through when one of the expressions matches its header. What an entry
without other syntax lets through is told from its text.
-/

namespace StablecoinStudio.Backend.OriginGuard

open StablecoinStudio.Foundation.RegExpSyntax
open StablecoinStudio.Foundation.RegularExpressions

set_option autoImplicit false

abbrev DOT : CodeUnit := unit '.'

abbrev STAR : CodeUnit := unit '*'

variable (identifiers : Identifiers)

/-! ## The guard -/

/-- `replace('*', '.*')`: the first one. -/
def replaceStar : List CodeUnit → List CodeUnit
  | [] => []
  | found :: rest => if found = STAR then DOT :: STAR :: rest else found :: replaceStar rest

def pattern (allowedOrigin : List CodeUnit) : List CodeUnit :=
  unit '^' :: (replaceStar allowedOrigin ++ [unit '$'])

/-- What `test` makes of a header, also of one that is not there. -/
def tested (origin : Option (List CodeUnit)) : List CodeUnit := origin.getD (units "undefined")

/-- `none` where the pattern is refused with an error. -/
def allows (origin : Option (List CodeUnit)) (allowedOrigin : List CodeUnit) : Option Bool :=
  (regExp identifiers (pattern allowedOrigin)).map fun expression => expression.test (tested origin)

/-- `some`: no entry is tried after one that matches or throws. -/
def someAllows (origin : Option (List CodeUnit)) : List (List CodeUnit) → Option Bool
  | [] => some false
  | allowedOrigin :: rest =>
      match allows identifiers origin allowedOrigin with
      | none => none
      | some true => some true
      | some false => someAllows origin rest

def allowedOrigins (config : List CodeUnit) : List (List CodeUnit) := config.splitOn (unit ',')

def canActivate (config : List CodeUnit) (origin : Option (List CodeUnit)) : Option Bool :=
  someAllows identifiers origin (allowedOrigins config)

/-! ## What is configured -/

/-- Each `*` stands for any text and everything else for itself. -/
def FitsLiterally : List CodeUnit → List CodeUnit → Prop
  | [], text => text = []
  | found :: entry, text =>
      if found = STAR then ∃ front rest, text = front ++ rest ∧ FitsLiterally entry rest
      else ∃ rest, text = found :: rest ∧ FitsLiterally entry rest

/-- Without a header there has to be an entry for every text. -/
def Configured (config : List CodeUnit) : Option (List CodeUnit) → Prop
  | some text => ∃ entry ∈ allowedOrigins config, FitsLiterally entry text
  | none => ∃ entry ∈ allowedOrigins config, ∀ text, FitsLiterally entry text

def AllowsConfigured (config : List CodeUnit) (origin : Option (List CodeUnit)) : Prop :=
  canActivate identifiers config origin = some true ↔ Configured config origin

/-! ## Entries as expressions -/

/-- The other characters with a meaning in a pattern. -/
def SYNTAX : List CodeUnit :=
  [unit '^', unit '$', BACKSLASH, unit '+', unit '?', unit '(', unit ')', unit '[', unit '|',
    unit '\x7b']

def Readable (entry : List CodeUnit) : Prop := ∀ found ∈ entry, found ∉ SYNTAX

instance (entry : List CodeUnit) : Decidable (Readable entry) :=
  List.decidableBAll (fun found => found ∉ SYNTAX) entry

def accepted (found : CodeUnit) : CodeUnit → Bool := if found = DOT then dot else (· == found)

/-- A character, perhaps repeated; there has to be one before a `*`. -/
def pieces : List CodeUnit → Option (List (Piece CodeUnit))
  | [] => some []
  | found :: rest =>
      if found = STAR then none
      else
        match rest with
        | [] => some [⟨accepted found, false⟩]
        | mark :: after =>
            if mark = STAR then (pieces after).map (⟨accepted found, true⟩ :: ·)
            else (pieces (mark :: after)).map (⟨accepted found, false⟩ :: ·)

section Syntax

variable {identifiers} {groups : Groups} {count fuel : Nat} {found : CodeUnit}
  {rest entry : List CodeUnit}

theorem readable_cons : Readable (found :: rest) ↔ found ∉ SYNTAX ∧ Readable rest :=
  List.forall_mem_cons

theorem scan_nothing (text : List CodeUnit)
    (plain : ∀ found ∈ text, found ≠ BACKSLASH ∧ found ≠ unit '[' ∧ found ≠ unit '(') :
    scanGroups identifiers false text = [] := by
  induction text with
  | nil => rfl
  | cons found rest ih =>
    obtain ⟨noEscape, noClass, noGroup⟩ := plain found (List.mem_cons_self ..)
    have later := ih fun other member => plain other (List.mem_cons_of_mem _ member)
    unfold scanGroups
    rw [if_neg noEscape, if_neg Bool.false_ne_true, if_neg noClass, if_neg noGroup, later]

theorem not_mem_syntax :
    found ∉ SYNTAX ↔ found ≠ unit '^' ∧ found ≠ unit '$' ∧ found ≠ BACKSLASH ∧
      found ≠ unit '+' ∧ found ≠ unit '?' ∧ found ≠ unit '(' ∧ found ≠ unit ')' ∧
      found ≠ unit '[' ∧ found ≠ unit '|' ∧ found ≠ unit '\x7b' := by
  simp only [SYNTAX, List.mem_cons, List.not_mem_nil, or_false, not_or, ne_eq]

theorem no_quantifier (plain : found ∉ SYNTAX) (noStar : found ≠ STAR) :
    quantifierPrefix (found :: rest) = none := by
  obtain ⟨_, _, _, noPlus, noQuestion, _, _, _, _, noBrace⟩ := not_mem_syntax.mp plain
  rw [quantifierPrefix, if_neg noStar, if_neg noPlus, if_neg noQuestion, if_neg noBrace]

theorem read_atom (plain : found ∉ SYNTAX) (noStar : found ≠ STAR) :
    readAtom groups count found rest = quantified count count (.one (accepted found)) rest := by
  have noQuantifier : (quantifierPrefix (found :: rest)).isSome = false := by
    rw [no_quantifier plain noStar]
    rfl
  obtain ⟨noCaret, noDollar, noEscape, _, _, _, _, noClass, _⟩ := not_mem_syntax.mp plain
  rw [readAtom, if_neg noCaret, if_neg noDollar, if_neg noEscape, if_neg noClass, accepted]
  by_cases point : found = DOT
  · rw [if_pos point, if_pos (point.trans rfl)]
  · rw [if_neg point, if_neg point, noQuantifier, if_neg Bool.false_ne_true]

theorem read_term {term : Pattern} {after : List CodeUnit}
    (inside : found ≠ unit '|' ∧ found ≠ unit ')' ∧ found ≠ unit '(')
    (read : readAtom groups count found rest = some (term, count, after)) :
    readAlternative (fuel + 1) groups count (found :: rest) =
      (readAlternative fuel groups count after).map fun later =>
        (.sequence term later.1, later.2.1, later.2.2) := by
  rw [readAlternative, if_neg (not_or_intro inside.1 inside.2.1), if_neg inside.2.2, read]
  show (readAlternative fuel groups count after).bind (fun later =>
    some (Expression.sequence term later.1, later.2.1, later.2.2)) = _
  rw [Option.map_eq_bind]
  rfl

theorem inside_alternative (plain : found ∉ SYNTAX) :
    found ≠ unit '|' ∧ found ≠ unit ')' ∧ found ≠ unit '(' := by
  obtain ⟨_, _, _, _, _, noOpen, noClose, _, noBar, _⟩ := not_mem_syntax.mp plain
  exact ⟨noBar, noClose, noOpen⟩

theorem read_anchor :
    readAlternative (fuel + 2) groups count [unit '$'] = some (chain [.finish], count, []) := by
  have anchor : readAtom groups count (unit '$') [] = some (.finish, count, []) := by
    rw [readAtom, if_neg (by decide), if_pos rfl]
  rw [read_term (by decide) anchor]
  rfl

theorem read_single {mark : CodeUnit} {after : List CodeUnit} (plain : found ∉ SYNTAX)
    (noStar : found ≠ STAR) (single : quantifierPrefix (mark :: after) = none) :
    readAlternative (fuel + 1) groups count (found :: mark :: after) =
      (readAlternative fuel groups count (mark :: after)).map fun later =>
        (.sequence (Piece.expression count ⟨accepted found, false⟩) later.1, later.2.1,
          later.2.2) := by
  apply read_term (inside_alternative plain)
  rw [read_atom plain noStar, quantified, single]
  rfl

theorem read_starred {after : List CodeUnit} (plain : found ∉ SYNTAX) (noStar : found ≠ STAR)
    (greedy : after.head? ≠ some (unit '?')) :
    readAlternative (fuel + 1) groups count (found :: STAR :: after) =
      (readAlternative fuel groups count after).map fun later =>
        (.sequence (Piece.expression count ⟨accepted found, true⟩) later.1, later.2.1,
          later.2.2) := by
  have star : quantifierPrefix (STAR :: after) = some (0, none, after) := by
    rw [quantifierPrefix, if_pos rfl]
  apply read_term (inside_alternative plain)
  rw [read_atom plain noStar, quantified, star]
  dsimp only
  rw [if_neg (by simp), if_neg greedy, decide_eq_false greedy, Nat.sub_self]
  rfl

theorem read_entry (text : List CodeUnit) (plain : Readable text)
    (enough : text.length + 2 ≤ fuel) :
    readAlternative fuel groups count (text ++ [unit '$']) =
      (pieces text).map fun read =>
        (chain (read.map (Piece.expression count) ++ [.finish]), count, []) := by
  induction text using pieces.induct generalizing fuel with
  | case1 =>
    obtain ⟨further, rfl⟩ := Nat.exists_eq_add_of_le' enough
    exact read_anchor
  | case2 rest =>
    obtain ⟨further, rfl⟩ := Nat.exists_eq_add_of_le' enough
    have refused : readAtom groups count STAR (rest ++ [unit '$']) = none := rfl
    have nothing : pieces (STAR :: rest) = none := by
      rw [pieces.eq_def]
      exact if_pos rfl
    rw [nothing, Option.map_none]
    show readAlternative _ groups count (STAR :: (rest ++ [unit '$'])) = none
    rw [← Nat.add_assoc, readAlternative, if_neg (by decide), if_neg (by decide), refused]
    rfl
  | case3 found noStar =>
    obtain ⟨further, rfl⟩ := Nat.exists_eq_add_of_le' enough
    have plainFound := (readable_cons.mp plain).1
    have single : quantifierPrefix [unit '$'] = none := rfl
    rw [pieces, if_neg noStar]
    show readAlternative (further + 2 + 1) groups count [found, unit '$'] = _
    rw [read_single plainFound noStar single, read_anchor]
    rfl
  | case4 found noStar after ih =>
    obtain ⟨plainFound, plainRest⟩ := readable_cons.mp plain
    have plainAfter := (readable_cons.mp plainRest).2
    obtain ⟨further, rfl⟩ := Nat.exists_eq_add_of_le' enough
    have greedy : (after ++ [unit '$']).head? ≠ some (unit '?') := by
      cases after with
      | nil => decide
      | cons next later =>
        intro lazily
        apply (readable_cons.mp plainAfter).1
        rw [Option.some.inj lazily]
        decide
    rw [pieces, if_neg noStar, if_pos rfl]
    show readAlternative _ groups count (found :: STAR :: (after ++ [unit '$'])) = _
    rw [← Nat.add_assoc, read_starred plainFound noStar greedy, ih plainAfter (by
      simp only [List.length_cons]
      omega), Option.map_map, Option.map_map]
    rfl
  | case5 found noStar mark after noMark ih =>
    obtain ⟨plainFound, plainRest⟩ := readable_cons.mp plain
    obtain ⟨further, rfl⟩ := Nat.exists_eq_add_of_le' enough
    have single : quantifierPrefix (mark :: (after ++ [unit '$'])) = none :=
      no_quantifier (readable_cons.mp plainRest).1 noMark
    rw [pieces, if_neg noStar, if_neg noMark]
    show readAlternative _ groups count (found :: mark :: (after ++ [unit '$'])) = _
    rw [← Nat.add_assoc, read_single plainFound noStar single, ← List.cons_append, ih plainRest (by
      simp only [List.length_cons]
      omega), Option.map_map, Option.map_map]
    rfl

theorem replaced_readable (plain : Readable entry) : Readable (replaceStar entry) := by
  induction entry with
  | nil => exact plain
  | cons found rest ih =>
    obtain ⟨plainFound, plainRest⟩ := readable_cons.mp plain
    rw [replaceStar]
    by_cases star : found = STAR
    · rw [if_pos star, readable_cons, readable_cons]
      exact ⟨by decide, by decide, plainRest⟩
    · rw [if_neg star, readable_cons]
      exact ⟨plainFound, ih plainRest⟩

theorem no_groups (plain : Readable entry) : scanGroups identifiers false (pattern entry) = [] := by
  apply scan_nothing
  intro found member
  rcases List.mem_cons.mp member with first | later
  · rw [first]
    decide
  · rcases List.mem_append.mp later with inside | last
    · have known := replaced_readable plain found inside
      obtain ⟨_, _, noEscape, _, _, noOpen, _, noClass, _⟩ := not_mem_syntax.mp known
      exact ⟨noEscape, noClass, noOpen⟩
    · rw [List.mem_singleton.mp last]
      decide

theorem read_pattern (plain : Readable entry) :
    regExp identifiers (pattern entry) = (pieces (replaceStar entry)).map fun read =>
      chain (.start :: (read.map (Piece.expression 0) ++ [.finish])) := by
  have length : (pattern entry).length = (replaceStar entry).length + 2 := by
    rw [pattern, List.length_cons, List.length_append]
    rfl
  have fuel : 4 * ((pattern entry).length + 1) = 4 * (replaceStar entry).length + 10 + 1 + 1 := by
    omega
  have anchor : readAtom ⟨identifiers, []⟩ 0 (unit '^') (replaceStar entry ++ [unit '$']) =
      some (.start, 0, replaceStar entry ++ [unit '$']) := rfl
  have inside : unit '^' ≠ unit '|' ∧ unit '^' ≠ unit ')' ∧ unit '^' ≠ unit '(' := by decide
  rw [regExp, no_groups plain, fuel, if_neg (by simp), readDisjunction, pattern,
    read_term inside anchor, read_entry _ (replaced_readable plain) (by omega)]
  cases pieces (replaceStar entry) with
  | none => rfl
  | some read => rfl

end Syntax

/-! ## What the guard lets through -/

/-- A `*` behind the first one repeats the character before it. -/
def IsPattern (entry : List CodeUnit) : Prop := (pieces (replaceStar entry)).isSome

def FitsPattern (entry text : List CodeUnit) : Prop :=
  ∃ read, pieces (replaceStar entry) = some read ∧ Fits read text

/-- The entries that a text gets to: those before are patterns that it does not fit. -/
def Tried (text : List CodeUnit) : List (List CodeUnit) → List CodeUnit → Prop
  | [], _ => False
  | first :: rest, entry =>
      entry = first ∨ (IsPattern first ∧ ¬FitsPattern first text) ∧ Tried text rest entry

/-- No entry that is tried has other syntax. -/
def Plain (config : List CodeUnit) (origin : Option (List CodeUnit)) : Prop :=
  ∀ entry, Tried (tested origin) (allowedOrigins config) entry → Readable entry

/-- What the header fits as a pattern and what it fits literally go together. -/
structure ReadAlike (config : List CodeUnit) (origin : Option (List CodeUnit)) : Prop where
  no_wider : ∀ entry, Tried (tested origin) (allowedOrigins config) entry →
    FitsPattern entry (tested origin) → Configured config origin
  no_narrower : Configured config origin → ∃ entry,
    Tried (tested origin) (allowedOrigins config) entry ∧ FitsPattern entry (tested origin)

section Guard

variable {config entry text : List CodeUnit} {origin : Option (List CodeUnit)}
  {entries : List (List CodeUnit)}

theorem allows_some (identifiers : Identifiers) (origin : Option (List CodeUnit))
    (plain : Readable entry) :
    (allows identifiers origin entry).isSome ↔ IsPattern entry := by
  rw [allows, Option.isSome_map, IsPattern, read_pattern plain, Option.isSome_map]

theorem allows_true (identifiers : Identifiers) (origin : Option (List CodeUnit))
    (plain : Readable entry) :
    allows identifiers origin entry = some true ↔ FitsPattern entry (tested origin) := by
  rw [allows, Option.map_eq_some_iff, FitsPattern, read_pattern plain]
  constructor
  · intro ⟨expression, is, matched⟩
    obtain ⟨read, known, built⟩ := Option.map_eq_some_iff.mp is
    rw [← built] at matched
    exact ⟨read, known, test_pieces.mp matched⟩
  · intro ⟨read, known, fits⟩
    exact ⟨_, by rw [known]; rfl, test_pieces.mpr fits⟩

/-- An entry that fits is accepted, one that is no pattern ends the search, and
behind every other one the search goes on. -/
theorem someAllows_true {identifiers : Identifiers}
    (plain : ∀ entry, Tried (tested origin) entries entry → Readable entry) :
    someAllows identifiers origin entries = some true ↔
      ∃ entry, Tried (tested origin) entries entry ∧ FitsPattern entry (tested origin) := by
  induction entries with
  | nil => simp [someAllows, Tried]
  | cons first rest ih =>
    have readable := plain first (Or.inl rfl)
    have isPattern := allows_some identifiers origin readable
    have fits := allows_true identifiers origin readable
    simp only [Tried, or_and_right, exists_or, exists_eq_left, someAllows]
    cases allowed : allows identifiers origin first with
    | none =>
      rw [allowed] at isPattern fits
      have refused : ¬IsPattern first := fun is => Bool.false_ne_true (isPattern.mpr is)
      have misses : ¬FitsPattern first (tested origin) := fun is => nomatch fits.mpr is
      simp [refused, misses]
    | some matched =>
      rw [allowed] at isPattern fits
      have valid : IsPattern first := isPattern.mp rfl
      cases matched with
      | true => simp [fits.mp rfl]
      | false =>
        have misses : ¬FitsPattern first (tested origin) := by
          intro is
          cases fits.mpr is
        have further : ∀ entry, Tried (tested origin) rest entry → Readable entry :=
          fun entry tried => plain entry (Or.inr ⟨⟨valid, misses⟩, tried⟩)
        simp only [ih further, valid, misses, not_false_eq_true, true_and, false_or]

theorem allowsConfigured_iff {identifiers : Identifiers} (plain : Plain config origin) :
    AllowsConfigured identifiers config origin ↔ ReadAlike config origin := by
  rw [AllowsConfigured, canActivate, someAllows_true plain]
  constructor
  · intro exactly
    exact ⟨fun entry tried fits => exactly.mp ⟨entry, tried, fits⟩, exactly.mpr⟩
  · intro alike
    constructor
    · intro ⟨entry, tried, fits⟩
      exact alike.no_wider entry tried fits
    · exact alike.no_narrower

theorem mem_of_tried (tried : Tried text entries entry) : entry ∈ entries := by
  induction entries with
  | nil => exact tried.elim
  | cons first rest ih =>
    rcases tried with same | ⟨_, later⟩
    · rw [same]
      exact List.mem_cons_self ..
    · exact List.mem_cons_of_mem _ (ih later)

theorem tried_of_fits (patterns : ∀ entry ∈ entries, IsPattern entry) (member : entry ∈ entries)
    (fits : FitsPattern entry text) :
    ∃ first, Tried text entries first ∧ FitsPattern first text := by
  induction entries with
  | nil => cases member
  | cons first rest ih =>
    by_cases already : FitsPattern first text
    · exact ⟨first, Or.inl rfl, already⟩
    · rcases List.mem_cons.mp member with same | later
      · rw [same] at fits
        exact absurd fits already
      · obtain ⟨found, tried, itFits⟩ :=
          ih (fun other listed => patterns other (List.mem_cons_of_mem _ listed)) later
        exact ⟨found, Or.inr ⟨⟨patterns first (List.mem_cons_self ..), already⟩, tried⟩, itFits⟩

end Guard

/-! ## Ordinary entries -/

/-- Nothing else with a meaning in a pattern, and at most one `*`. -/
def Ordinary (entry : List CodeUnit) : Prop := Readable entry ∧ entry.count STAR ≤ 1

/-- Besides the `*`, each `.` stands for any character. -/
def FitsLoosely : List CodeUnit → List CodeUnit → Prop
  | [], text => text = []
  | found :: entry, text =>
      if found = STAR then ∃ front rest, text = front ++ rest ∧ FitsLoosely entry rest
      else ∃ other rest, text = other :: rest ∧ (found = DOT ∨ other = found) ∧
        FitsLoosely entry rest

def OneLine (text : List CodeUnit) : Prop := ∀ found ∈ text, dot found = true

def piece (found : CodeUnit) : Piece CodeUnit :=
  if found = STAR then ⟨dot, true⟩ else ⟨accepted found, false⟩

section Entries

variable {config entry text : List CodeUnit} {origin : Option (List CodeUnit)}

theorem pieces_single {found : CodeUnit} {rest : List CodeUnit} (noStar : found ≠ STAR)
    (single : rest.head? ≠ some STAR) :
    pieces (found :: rest) = (pieces rest).map (piece found :: ·) := by
  have is : piece found = ⟨accepted found, false⟩ := if_neg noStar
  cases rest with
  | nil =>
    rw [pieces.eq_def]
    dsimp only
    rw [if_neg noStar, ← is]
    rfl
  | cons mark after =>
    have noMark : mark ≠ STAR := fun star => single (congrArg some star)
    rw [pieces, if_neg noStar, if_neg noMark, is]

theorem pieces_no_star (none_ : STAR ∉ entry) :
    pieces entry = some (entry.map piece) := by
  induction entry with
  | nil => rfl
  | cons found rest ih =>
    obtain ⟨noStar, noneRest⟩ := not_or.mp (mt List.mem_cons.mpr none_)
    have single : rest.head? ≠ some STAR := fun star => noneRest (List.mem_of_mem_head? star)
    rw [pieces_single (Ne.symm noStar) single, ih noneRest]
    rfl

theorem replaced_head (entry : List CodeUnit) : (replaceStar entry).head? ≠ some STAR := by
  cases entry with
  | nil => exact nofun
  | cons found rest =>
    rw [replaceStar]
    by_cases star : found = STAR
    · rw [if_pos star]
      exact fun same => absurd (Option.some.inj same) (by decide)
    · rw [if_neg star]
      exact fun same => star (Option.some.inj same)

theorem pieces_one_star (one : entry.count STAR ≤ 1) :
    pieces (replaceStar entry) = some (entry.map piece) := by
  induction entry with
  | nil => rfl
  | cons found rest ih =>
    rw [replaceStar]
    by_cases star : found = STAR
    · rw [star, List.count_cons_self] at one
      have none_ : STAR ∉ rest := List.count_eq_zero.mp (by omega)
      rw [if_pos star, pieces, if_neg (by decide), if_pos rfl, pieces_no_star none_, star]
      rfl
    · rw [List.count_cons_of_ne star] at one
      rw [if_neg star, pieces_single star (replaced_head rest), ih one]
      rfl

theorem accepted_loosely {found other : CodeUnit} (within : dot other = true) :
    accepted found other = true ↔ found = DOT ∨ other = found := by
  rw [accepted]
  by_cases point : found = DOT
  · rw [if_pos point]
    exact iff_of_true within (Or.inl point)
  · rw [if_neg point, beq_iff_eq]
    exact (or_iff_right point).symm

/-- A text on one line falls as the dots and the `*` let it. -/
theorem fits_pieces_loosely (oneLine : OneLine text) :
    Fits (entry.map piece) text ↔ FitsLoosely entry text := by
  induction entry generalizing text with
  | nil => rfl
  | cons found entry ih =>
    rw [List.map_cons, Fits, FitsLoosely, piece]
    by_cases star : found = STAR
    · rw [if_pos star, if_pos star, if_pos rfl]
      constructor
      · intro parted
        obtain ⟨front, rest, split_, _, fits⟩ := parted
        rw [split_] at oneLine
        have parts := List.forall_mem_append.mp oneLine
        exact ⟨front, rest, split_, (ih parts.2).mp fits⟩
      · intro parted
        obtain ⟨front, rest, split_, fits⟩ := parted
        rw [split_] at oneLine
        have parts := List.forall_mem_append.mp oneLine
        exact ⟨front, rest, split_, parts.1, (ih parts.2).mpr fits⟩
    · rw [if_neg star, if_neg star, if_neg Bool.false_ne_true]
      constructor
      · intro parted
        obtain ⟨other, rest, split_, accepts, fits⟩ := parted
        rw [split_] at oneLine
        have parts := List.forall_mem_cons.mp oneLine
        exact ⟨other, rest, split_, (accepted_loosely parts.1).mp accepts, (ih parts.2).mp fits⟩
      · intro parted
        obtain ⟨other, rest, split_, same, fits⟩ := parted
        rw [split_] at oneLine
        have parts := List.forall_mem_cons.mp oneLine
        exact ⟨other, rest, split_, (accepted_loosely parts.1).mpr same, (ih parts.2).mpr fits⟩

theorem ordinary_pattern (ordinary : Ordinary entry) : IsPattern entry := by
  rw [IsPattern, pieces_one_star ordinary.2]
  rfl

theorem ordinary_fits (ordinary : Ordinary entry) (oneLine : OneLine text) :
    FitsPattern entry text ↔ FitsLoosely entry text := by
  rw [FitsPattern, pieces_one_star ordinary.2, ← fits_pieces_loosely oneLine]
  constructor
  · intro ⟨read, known, fits⟩
    rw [← Option.some.inj known] at fits
    exact fits
  · intro fits
    exact ⟨_, rfl, fits⟩

theorem plain_of_ordinary (ordinary : ∀ entry ∈ allowedOrigins config, Ordinary entry) :
    Plain config origin :=
  fun entry tried => (ordinary entry (mem_of_tried tried)).1

theorem loosely_of_literally (fits : FitsLiterally entry text) : FitsLoosely entry text := by
  induction entry generalizing text with
  | nil => exact fits
  | cons found entry ih =>
    rw [FitsLiterally] at fits
    rw [FitsLoosely]
    by_cases star : found = STAR
    · rw [if_pos star] at fits ⊢
      obtain ⟨front, rest, split_, further⟩ := fits
      exact ⟨front, rest, split_, ih further⟩
    · rw [if_neg star] at fits ⊢
      obtain ⟨rest, split_, further⟩ := fits
      exact ⟨found, rest, split_, Or.inr rfl, ih further⟩

theorem fits_of_configured (configured : Configured config origin) :
    ∃ entry ∈ allowedOrigins config, FitsLiterally entry (tested origin) := by
  cases origin with
  | none =>
    obtain ⟨entry, member, all⟩ := configured
    exact ⟨entry, member, all _⟩
  | some text => exact configured

/-- Among ordinary entries only a `.` lets more through than is configured. -/
theorem readAlike_ordinary (ordinary : ∀ entry ∈ allowedOrigins config, Ordinary entry)
    (oneLine : OneLine (tested origin)) :
    ReadAlike config origin ↔
      ∀ entry ∈ allowedOrigins config, FitsLoosely entry (tested origin) →
        Configured config origin := by
  have patterns : ∀ entry ∈ allowedOrigins config, IsPattern entry :=
    fun entry member => ordinary_pattern (ordinary entry member)
  constructor
  · intro alike entry member loosely
    have fits := (ordinary_fits (ordinary entry member) oneLine).mpr loosely
    obtain ⟨first, tried, firstFits⟩ := tried_of_fits patterns member fits
    exact alike.no_wider first tried firstFits
  · intro narrow
    constructor
    · intro entry tried fits
      have member := mem_of_tried tried
      exact narrow entry member ((ordinary_fits (ordinary entry member) oneLine).mp fits)
    · intro configured
      obtain ⟨entry, member, literally⟩ := fits_of_configured configured
      exact tried_of_fits patterns member
        ((ordinary_fits (ordinary entry member) oneLine).mpr (loosely_of_literally literally))

theorem literally_no_star (none_ : STAR ∉ entry) : FitsLiterally entry text ↔ text = entry := by
  induction entry generalizing text with
  | nil => rfl
  | cons found entry ih =>
    obtain ⟨noStar, noneRest⟩ := not_or.mp (mt List.mem_cons.mpr none_)
    rw [FitsLiterally, if_neg (Ne.symm noStar)]
    constructor
    · intro ⟨rest, split_, fits⟩
      rw [split_, (ih noneRest).mp fits]
    · intro same
      exact ⟨entry, same, (ih noneRest).mpr rfl⟩

end Entries

/-- For every configuration and header. While no entry that is tried has other
syntax, the guard allows what is configured exactly when patterns and literal
texts go together for the header; among ordinary entries and for a header on one
line, exactly when no `.` lets it through. -/
theorem origins_allowed_as_configured (identifiers : Identifiers) (config : List CodeUnit)
    (origin : Option (List CodeUnit)) :
    (Plain config origin →
      (AllowsConfigured identifiers config origin ↔ ReadAlike config origin)) ∧
      ((∀ entry ∈ allowedOrigins config, Ordinary entry) → OneLine (tested origin) →
        (AllowsConfigured identifiers config origin ↔
          ∀ entry ∈ allowedOrigins config, FitsLoosely entry (tested origin) →
            Configured config origin)) := by
  constructor
  · exact allowsConfigured_iff
  · intro ordinary oneLine
    exact (allowsConfigured_iff (plain_of_ordinary ordinary)).trans
      (readAlike_ordinary ordinary oneLine)

/-- The identifiers without the other planes and blocks of Unicode. -/
def ASCII : Identifiers where
  start code := decide (code < 0x80) && isLetter code.toUInt16
  part code := decide (code < 0x80) && isWord code.toUInt16

def sampleConfig : List CodeUnit := units "http://localhost:3000,stablecoin.com"

theorem sample_entries : allowedOrigins sampleConfig =
    [units "http://localhost:3000", units "stablecoin.com"] := by decide +kernel

/-- A configured origin is let through. -/
theorem configured_origin_allowed :
    AllowsConfigured ASCII sampleConfig (some (units "stablecoin.com")) := by
  have noStars : ∀ entry ∈ [units "http://localhost:3000", units "stablecoin.com"],
      STAR ∉ entry := by decide +kernel
  have readable : ∀ entry ∈ [units "http://localhost:3000", units "stablecoin.com"],
      Readable entry := by
    intro entry member
    rcases List.mem_pair.mp member with rfl | rfl
    · decide +kernel
    · decide +kernel
  rw [← sample_entries] at noStars readable
  have configured : Configured sampleConfig (some (units "stablecoin.com")) := by
    refine ⟨units "stablecoin.com", ?_, ?_⟩
    · rw [sample_entries]
      exact List.mem_cons_of_mem _ (List.mem_singleton_self _)
    · have noStar : STAR ∉ units "stablecoin.com" := by decide +kernel
      exact (literally_no_star noStar).mpr rfl
  have allDots : (units "stablecoin.com").all dot = true := by decide +kernel
  have oneLine : OneLine (units "stablecoin.com") := List.all_eq_true.mp allDots
  apply ((origins_allowed_as_configured ASCII sampleConfig (some (units "stablecoin.com"))).2 ?_
    oneLine).mpr
  · exact fun _ _ _ => configured
  · intro entry member
    refine ⟨readable entry member, ?_⟩
    rw [List.count_eq_zero.mpr (noStars entry member)]
    exact Nat.zero_le 1

/-- The sample configuration lets a foreign origin through. -/
theorem foreign_origin_allowed :
    ¬AllowsConfigured ASCII sampleConfig (some (units "stablecoinxcom")) := by
  intro exactly
  have allowed : canActivate ASCII sampleConfig (some (units "stablecoinxcom")) = some true := by
    decide +kernel
  obtain ⟨entry, member, fits⟩ := exactly.mp allowed
  rw [sample_entries] at member
  have literally : ∀ entry ∈ [units "http://localhost:3000", units "stablecoin.com"],
      STAR ∉ entry ∧ units "stablecoinxcom" ≠ entry := by decide +kernel
  obtain ⟨noStar, other⟩ := literally entry member
  exact other ((literally_no_star noStar).mp fits)

end StablecoinStudio.Backend.OriginGuard
