import StablecoinStudio.Foundation.RegularExpressions

/-!
# The syntax of `RegExp`

A pattern without flags is read as an expression, over code units and with the
additions that web browsers need. What is no pattern is refused. Which code
points the name of a group is made of is left to the tables of Unicode.
-/

namespace StablecoinStudio.Foundation.RegExpSyntax

open StablecoinStudio.Foundation.RegularExpressions

set_option autoImplicit false

/-! ## Code units -/

abbrev CodeUnit := UInt16

def unit (character : Char) : CodeUnit := character.toNat.toUInt16

/-- The code units of a character; a pair for one beyond the first plane. -/
def codeUnits (character : Char) : List CodeUnit :=
  let code := character.toNat
  if code < 0x10000 then [code.toUInt16]
  else [(0xD800 + (code - 0x10000) / 0x400).toUInt16, (0xDC00 + (code - 0x10000) % 0x400).toUInt16]

def units (text : String) : List CodeUnit := text.toList.flatMap codeUnits

def BACKSLASH : CodeUnit := 0x5C

def between (low high : Char) (found : CodeUnit) : Bool :=
  decide (unit low ≤ found) && decide (found ≤ unit high)

def isDigit : CodeUnit → Bool := between '0' '9'

def isOctal : CodeUnit → Bool := between '0' '7'

def isLetter (found : CodeUnit) : Bool := between 'a' 'z' found || between 'A' 'Z' found

def isWord (found : CodeUnit) : Bool := isLetter found || isDigit found || found == unit '_'

def isLineTerminator (found : CodeUnit) : Bool :=
  found == 0x0A || found == 0x0D || found == 0x2028 || found == 0x2029

def isSpace (found : CodeUnit) : Bool :=
  isLineTerminator found || found ∈ ([0x09, 0x0B, 0x0C, 0x20, 0xA0, 0x1680, 0x202F, 0x205F, 0x3000,
    0xFEFF] : List CodeUnit) || (decide (0x2000 ≤ found) && decide (found ≤ 0x200A))

def dot (found : CodeUnit) : Bool := !isLineTerminator found

def classEscape (letter : CodeUnit) : Option (CodeUnit → Bool) :=
  if letter = unit 'd' then some isDigit
  else if letter = unit 'D' then some fun found => !isDigit found
  else if letter = unit 's' then some isSpace
  else if letter = unit 'S' then some fun found => !isSpace found
  else if letter = unit 'w' then some isWord
  else if letter = unit 'W' then some fun found => !isWord found
  else none

/-! ## Numbers and single characters -/

def digitValue (digit : CodeUnit) : Nat := digit.toNat - 48

def decimal (digits : List CodeUnit) : Nat :=
  digits.foldl (fun value digit => value * 10 + digitValue digit) 0

def readNumber (text : List CodeUnit) : Option (Nat × List CodeUnit) :=
  let digits := text.takeWhile isDigit
  if digits = [] then none else some (decimal digits, text.dropWhile isDigit)

def hexValue (digit : CodeUnit) : Option Nat :=
  if isDigit digit then some (digitValue digit)
  else if between 'a' 'f' digit then some (digit.toNat - 87)
  else if between 'A' 'F' digit then some (digit.toNat - 55)
  else none

def readHex : (count value : Nat) → List CodeUnit → Option (CodeUnit × List CodeUnit)
  | 0, value, text => some (value.toUInt16, text)
  | _ + 1, _, [] => none
  | count + 1, value, digit :: rest =>
      match hexValue digit with
      | none => none
      | some next => readHex count (value * 16 + next) rest

def readOctal (text : List CodeUnit) : CodeUnit × List CodeUnit :=
  let limit := if text.head?.any (between '0' '3') then 3 else 2
  let digits := (text.take limit).takeWhile isOctal
  let value := digits.foldl (fun value digit => value * 8 + digitValue digit) 0
  (value.toUInt16, text.drop digits.length)

def controlUnit (letter : CodeUnit) : CodeUnit := letter % 32

/-- What follows a backslash, inside a class and outside. -/
def characterEscape (named : Bool) : List CodeUnit → Option (CodeUnit × List CodeUnit)
  | [] => none
  | letter :: rest =>
      if letter = unit 't' then some (0x09, rest)
      else if letter = unit 'n' then some (0x0A, rest)
      else if letter = unit 'v' then some (0x0B, rest)
      else if letter = unit 'f' then some (0x0C, rest)
      else if letter = unit 'r' then some (0x0D, rest)
      else if letter = unit 'c' then
        match rest with
        | [] => none
        | control :: rest => if isLetter control then some (controlUnit control, rest) else none
      else if isOctal letter then some (readOctal (letter :: rest))
      else if letter = unit 'x' then some ((readHex 2 0 rest).getD (letter, rest))
      else if letter = unit 'u' then some ((readHex 4 0 rest).getD (letter, rest))
      else if letter = unit 'k' ∧ named = true then none
      else some (letter, rest)

/-! ## Classes -/

inductive ClassAtom where
  | single (found : CodeUnit)
  | set (accepts : CodeUnit → Bool)

def ClassAtom.accepts : ClassAtom → CodeUnit → Bool
  | .single found => fun other => other == found
  | .set accepts => accepts

/-- With a set on one side, the dash stands for itself. -/
def ClassAtom.range : ClassAtom → ClassAtom → Option (CodeUnit → Bool)
  | .single low, .single high =>
      if high < low then none
      else some fun found => decide (low ≤ found) && decide (found ≤ high)
  | first, second =>
      some fun found => first.accepts found || found == unit '-' || second.accepts found

def readClassAtom (named : Bool) : List CodeUnit → Option (ClassAtom × List CodeUnit)
  | [] => none
  | first :: rest =>
      if first ≠ BACKSLASH then some (.single first, rest)
      else
        match rest with
        | [] => none
        | letter :: after =>
            if letter = unit 'b' then some (.single 0x08, after)
            else
              match classEscape letter with
              | some accepts => some (.set accepts, after)
              | none =>
                  if letter = unit 'c' then
                    match after with
                    | [] => some (.single BACKSLASH, rest)
                    | control :: more =>
                        if isWord control then some (.single (controlUnit control), more)
                        else some (.single BACKSLASH, rest)
                  else (characterEscape named rest).map fun read => (.single read.1, read.2)

/-- The rest of a class, with what is accepted so far. -/
def readClass (named : Bool) :
    Nat → (CodeUnit → Bool) → List CodeUnit → Option ((CodeUnit → Bool) × List CodeUnit)
  | 0, _, _ => none
  | _ + 1, _, [] => none
  | fuel + 1, accepts, text@(head :: rest) =>
      if head = unit ']' then some (accepts, rest)
      else do
        let (first, after) ← readClassAtom named text
        match after with
        | [] => none
        | dash :: more =>
            if dash = unit '-' ∧ more.head? ≠ some (unit ']') then
              let (second, later) ← readClassAtom named more
              let range ← first.range second
              readClass named fuel (fun found => accepts found || range found) later
            else readClass named fuel (fun found => accepts found || first.accepts found) after

/-- What follows the opening bracket. -/
def readClassContents (named : Bool) (text : List CodeUnit) :
    Option ((CodeUnit → Bool) × List CodeUnit) :=
  match text with
  | [] => none
  | head :: rest =>
      if head = unit '^' then
        (readClass named (text.length + 1) (fun _ => false) rest).map fun read =>
          (fun found => !read.1 found, read.2)
      else readClass named (text.length + 1) (fun _ => false) text

/-! ## Quantifiers -/

/-- What follows an opening brace, if it is a quantifier. -/
def readBraces (text : List CodeUnit) : Option (Nat × Option Nat × List CodeUnit) := do
  let (min, rest) ← readNumber text
  match rest with
  | [] => none
  | mark :: rest =>
      if mark = unit '\x7d' then some (min, some min, rest)
      else if mark = unit ',' then
        match rest with
        | [] => none
        | close :: after =>
            if close = unit '\x7d' then some (min, none, after)
            else do
              let (max, rest) ← readNumber rest
              match rest with
              | [] => none
              | close :: after => if close = unit '\x7d' then some (min, some max, after) else none
      else none

def quantifierPrefix : List CodeUnit → Option (Nat × Option Nat × List CodeUnit)
  | [] => none
  | mark :: rest =>
      if mark = unit '*' then some (0, none, rest)
      else if mark = unit '+' then some (1, none, rest)
      else if mark = unit '?' then some (0, some 1, rest)
      else if mark = unit '\x7b' then readBraces rest
      else none

abbrev Pattern := Expression CodeUnit

/-- What is read, the groups up to there and the rest of the pattern. -/
abbrev Read := Option (Pattern × Nat × List CodeUnit)

/-- An atom with the groups before it and after it, and its quantifier. -/
def quantified (before after : Nat) (atom : Pattern) (rest : List CodeUnit) : Read :=
  match quantifierPrefix rest with
  | none => some (atom, after, rest)
  | some (min, max, rest) =>
      if max.any (· < min) then none
      else
        let lazily := rest.head? = some (unit '?')
        some (.repeated min max (!lazily) before (after - before) atom, after,
          if lazily then rest.drop 1 else rest)

/-! ## Groups -/

structure Identifiers where
  start : Nat → Bool
  part : Nat → Bool

abbrev Name := List Nat

def Identifiers.starts (identifiers : Identifiers) (code : Nat) : Bool :=
  identifiers.start code || code == 0x24 || code == 0x5F

/-- Also the two joiners. -/
def Identifiers.continues (identifiers : Identifiers) (code : Nat) : Bool :=
  identifiers.part code || code == 0x24 || code == 0x200C || code == 0x200D

def isLead (found : CodeUnit) : Bool := decide (0xD800 ≤ found) && decide (found ≤ 0xDBFF)

def isTrail (found : CodeUnit) : Bool := decide (0xDC00 ≤ found) && decide (found ≤ 0xDFFF)

def codePoint (lead : CodeUnit) : Option (CodeUnit × List CodeUnit) → List CodeUnit →
    Nat × List CodeUnit
  | none, rest => (lead.toNat, rest)
  | some (trail, after), rest =>
      if isLead lead && isTrail trail then
        (0x10000 + (lead.toNat - 0xD800) * 0x400 + (trail.toNat - 0xDC00), after)
      else (lead.toNat, rest)

/-- Four digits after a backslash and `u`. -/
def readEscapedUnit : List CodeUnit → Option (CodeUnit × List CodeUnit)
  | slash :: letter :: rest =>
      if slash = BACKSLASH ∧ letter = unit 'u' then readHex 4 0 rest else none
  | _ => none

/-- What follows a backslash, `u` and an opening brace. -/
def readBracedCode (text : List CodeUnit) : Option (Nat × List CodeUnit) :=
  let digits := text.takeWhile fun digit => (hexValue digit).isSome
  let value := digits.foldl (fun value digit => value * 16 + (hexValue digit).getD 0) 0
  let rest := text.drop digits.length
  if digits ≠ [] ∧ value ≤ 0x10FFFF ∧ rest.head? = some (unit '\x7d') then some (value, rest.tail)
  else none

/-- A code point of a name, which may be escaped. -/
def readNameCode : List CodeUnit → Option (Nat × List CodeUnit)
  | [] => none
  | head :: rest =>
      if head ≠ BACKSLASH then
        some (codePoint head (rest.head?.map fun trail => (trail, rest.tail)) rest)
      else if rest.take 2 = [unit 'u', unit '\x7b'] then readBracedCode (rest.drop 2)
      else (readEscapedUnit (head :: rest)).map fun read =>
        codePoint read.1 (readEscapedUnit read.2) read.2

/-- The rest of a name, up to the closing bracket. -/
def readNameFrom (identifiers : Identifiers) : Nat → Name → List CodeUnit →
    Option (Name × List CodeUnit)
  | 0, _, _ => none
  | fuel + 1, name, text =>
      if name ≠ [] ∧ text.head? = some (unit '>') then some (name, text.tail)
      else do
        let (code, rest) ← readNameCode text
        let fits := if name = [] then identifiers.starts code else identifiers.continues code
        if fits then readNameFrom identifiers fuel (name ++ [code]) rest else none

def readName (identifiers : Identifiers) (text : List CodeUnit) :
    Option (Name × List CodeUnit) :=
  readNameFrom identifiers (text.length + 1) [] text

inductive GroupKind where
  | capture (name : Option Name)
  | plain
  | ahead (negated : Bool)
  | behind (negated : Bool)

/-- What follows an opening parenthesis. -/
def groupKind (identifiers : Identifiers) (text : List CodeUnit) :
    Option (GroupKind × List CodeUnit) :=
  if text.head? ≠ some (unit '?') then some (.capture none, text)
  else
    match text.tail with
    | [] => none
    | mark :: rest =>
        if mark = unit ':' then some (.plain, rest)
        else if mark = unit '=' then some (.ahead false, rest)
        else if mark = unit '!' then some (.ahead true, rest)
        else if mark = unit '<' then
          if rest.head? = some (unit '=') then some (.behind false, rest.tail)
          else if rest.head? = some (unit '!') then some (.behind true, rest.tail)
          else (readName identifiers rest).map fun read => (.capture (some read.1), read.2)
        else none

/-- The capturing groups of a pattern in their order. -/
def scanGroups (identifiers : Identifiers) : (inClass : Bool) → List CodeUnit → List (Option Name)
  | _, [] => []
  | inClass, head :: rest =>
      if head = BACKSLASH then
        match rest with
        | [] => []
        | _ :: after => scanGroups identifiers inClass after
      else if inClass then scanGroups identifiers (head != unit ']') rest
      else if head = unit '[' then scanGroups identifiers true rest
      else if head = unit '(' then
        match groupKind identifiers rest with
        | some (.capture name, _) => name :: scanGroups identifiers false rest
        | _ => scanGroups identifiers false rest
      else scanGroups identifiers false rest

/-- The groups of the whole pattern, which an escape may refer to. -/
structure Groups where
  identifiers : Identifiers
  names : List (Option Name)

def Groups.named (groups : Groups) : Bool := groups.names.any Option.isSome

/-! ## Terms -/

def readEscape (groups : Groups) (count : Nat) : List CodeUnit → Read
  | [] => none
  | letter :: rest =>
      let reference := (readNumber (letter :: rest)).filter fun read =>
        between '1' '9' letter && decide (read.1 ≤ groups.names.length)
      if letter = unit 'b' then some (.boundary isWord false, count, rest)
      else if letter = unit 'B' then some (.boundary isWord true, count, rest)
      else
        match reference, classEscape letter with
        | some (number, after), _ => quantified count count (.backreference number) after
        | none, some accepts => quantified count count (.one accepts) rest
        | none, none =>
            if letter = unit 'k' ∧ groups.named = true then
              if rest.head? ≠ some (unit '<') then none
              else do
                let (name, after) ← readName groups.identifiers rest.tail
                let index ← groups.names.findIdx? (· == some name)
                quantified count count (.backreference (index + 1)) after
            else if letter = unit 'c' ∧ rest.head?.any isLetter = false then
              quantified count count (.one (· == BACKSLASH)) (letter :: rest)
            else do
              let (found, after) ← characterEscape groups.named (letter :: rest)
              quantified count count (.one (· == found)) after

/-- A term other than a group. -/
def readAtom (groups : Groups) (count : Nat) (head : CodeUnit) (rest : List CodeUnit) : Read :=
  if head = unit '^' then some (.start, count, rest)
  else if head = unit '$' then some (.finish, count, rest)
  else if head = BACKSLASH then readEscape groups count rest
  else if head = unit '[' then do
    let (accepts, after) ← readClassContents groups.named rest
    quantified count count (.one accepts) after
  else if head = unit '.' then quantified count count (.one dot) rest
  else if (quantifierPrefix (head :: rest)).isSome then none
  else quantified count count (.one (· == head)) rest

mutual

/-- Alternatives, up to a closing parenthesis. -/
def readDisjunction : Nat → Groups → Nat → List CodeUnit → Read
  | 0, _, _, _ => none
  | fuel + 1, groups, count, text => do
      let (first, count, rest) ← readAlternative fuel groups count text
      if rest.head? = some (unit '|') then
        let (second, count, rest) ← readDisjunction fuel groups count rest.tail
        return (.either first second, count, rest)
      else return (first, count, rest)

def readAlternative : Nat → Groups → Nat → List CodeUnit → Read
  | 0, _, _, _ => none
  | _ + 1, _, count, [] => some (.empty, count, [])
  | fuel + 1, groups, count, head :: rest =>
      if head = unit '|' ∨ head = unit ')' then some (.empty, count, head :: rest)
      else do
        let (term, count, rest) ←
          if head = unit '(' then readGroup fuel groups count rest
          else readAtom groups count head rest
        let (terms, count, rest) ← readAlternative fuel groups count rest
        return (.sequence term terms, count, rest)

/-- What follows an opening parenthesis, with the quantifier of the group. -/
def readGroup : Nat → Groups → Nat → List CodeUnit → Read
  | 0, _, _, _ => none
  | fuel + 1, groups, before, text => do
      let (kind, text) ← groupKind groups.identifiers text
      let opened := match kind with
        | .capture _ => before + 1
        | _ => before
      let (inner, after, rest) ← readDisjunction fuel groups opened text
      if rest.head? ≠ some (unit ')') then none
      else
        match kind with
        | .capture _ => quantified before after (.group (before + 1) inner) rest.tail
        | .plain => quantified before after inner rest.tail
        | .ahead negated => quantified before after (.lookahead negated inner) rest.tail
        | .behind negated => some (.lookbehind negated inner, after, rest.tail)

end

/-- `new RegExp(pattern)`. -/
def regExp (identifiers : Identifiers) (pattern : List CodeUnit) : Option Pattern :=
  let groups : Groups := ⟨identifiers, scanGroups identifiers false pattern⟩
  if ¬(groups.names.filterMap id).Nodup then none
  else
    match readDisjunction (4 * (pattern.length + 1)) groups 0 pattern with
    | some (expression, _, []) => some expression
    | _ => none

end StablecoinStudio.Foundation.RegExpSyntax
