import Emend.Pattern.Escape

/-!
# Bracketed classes

The sets of characters that a pattern writes in brackets: members, ranges, nested classes, and the
operators `&&`, `--` and `~~`, which bind from left to right and weaker than juxtaposition.

`readBracket` reads a class and reports, beside its set, how deep its brackets, unions and
operators are nested.
-/

namespace Emend

/-- A part of a class: its set and the depth of its nesting. -/
structure SetPart where
  set : CharSet
  depth : Nat := 0
  deriving Inhabited

/-- The operators between the parts of a class. -/
inductive SetOperator where
  | inter
  | diff
  | symmDiff
  deriving DecidableEq, Repr, Inhabited

/-- A class whose closing bracket has not been read. -/
structure Bracket where
  negated : Bool
  /-- The part before the last operator, and the operator. -/
  pending : Option (SetPart × SetOperator) := none
  /-- The members since the last operator, last first. -/
  members : List SetPart := []
  deriving Inhabited

namespace Bracket

/-- Adds a member. -/
def add (b : Bracket) (s : SetPart) : Bracket :=
  { b with members := s :: b.members }

/-- The members since the last operator as one part; a union of several is a level of its own. -/
def membersPart (b : Bracket) : SetPart :=
  match b.members.reverse with
  | [] => ⟨.empty, 0⟩
  | [s] => s
  | parts => ⟨.unionAll (parts.map (·.set)), 1 + (parts.map (·.depth)).foldl max 0⟩

/-- All that has been read of the class as one part. -/
def part (folding : Option Folding) (b : Bracket) : SetPart :=
  match b.pending with
  | none => b.membersPart
  | some (left, op) =>
    let right := b.membersPart
    let l := left.set.foldBy folding
    let r := right.set.foldBy folding
    let set := match op with
      | .inter => CharSet.inter l r
      | .diff => .diff l r
      | .symmDiff => .symmDiff l r
    ⟨set, 1 + max left.depth right.depth⟩

/-- Starts the part after an operator. -/
def operator (folding : Option Folding) (b : Bracket) (op : SetOperator) : Bracket :=
  { b with pending := some (b.part folding, op), members := [] }

/-- The finished class. Without `u` a complement, which would hold parts of characters, is
refused. -/
def close? (f : PatternFlags) (b : Bracket) : Option SetPart :=
  if b.negated && !f.unicode then none
  else
    let inner := b.part f.folding
    some ⟨.negateIf b.negated (.foldBy f.folding inner.set), 1 + inner.depth⟩

/-- Reads what follows an opening bracket: a circumflex that negates, then hyphens that are
members, or else a closing bracket that is one. -/
def opening? (extended : Bool) (text : List Char) : Option (Bracket × List Char) :=
  let (negated, text) :=
    match skipBlanks extended text with
    | '^' :: rest => (true, skipBlanks extended rest)
    | text => (false, text)
  let (hyphens, rest) := spanSpaced extended (· == '-') false text
  match hyphens, rest with
  | _, [] => none
  | [], ']' :: rest =>
    match skipBlanks extended rest with
    | [] => none
    | rest => some (⟨negated, none, [⟨.one ']', 0⟩]⟩, rest)
  | _, rest => some (⟨negated, none, hyphens.map fun c => ⟨.one c, 0⟩⟩, rest)

end Bracket

/-- Reads a class of plain characters, `[:name:]`, after its opening bracket. -/
def readAsciiClass? (f : PatternFlags) : List Char → Option (Option SetPart × List Char)
  | ':' :: text =>
    let (negated, text) :=
      match text with
      | '^' :: rest => (true, rest)
      | _ => (false, text)
    match text.span (· != ':') with
    | (name, ':' :: ']' :: rest) =>
      match Property.asciiClass? name with
      | none => none
      | some s =>
        if negated && !f.unicode then some (none, rest)
        else some (some ⟨.negateIf negated (.foldBy f.folding s), 0⟩, rest)
    | _ => none
  | _ => none

/-- A member of a class before it is known whether it begins a range. -/
inductive Member where
  | literal (c : Char)
  | set (s : CharSet)
  deriving Inhabited

/-- Reads a member: an escape or a character. Assertions are no members. -/
def readMember (f : PatternFlags) : List Char → Option (Member × List Char)
  | [] => none
  | '\\' :: text =>
    match readEscape f.extended text with
    | some (.literal c asByte, rest) =>
      if literalAllowed f c asByte && (f.unicode || Unicode.isAscii c) then some (.literal c, rest)
      else none
    | some (.letterClass kind negated, rest) =>
      (letterClassSet? f kind negated).map fun s => (.set s, rest)
    | some (.property s negated, rest) =>
      (propertyClassSet? f s negated).map fun s => (.set s, rest)
    | _ => none
  | c :: rest => if f.unicode || Unicode.isAscii c then some (.literal c, rest) else none

/-- A member by itself. -/
def Member.toSet : Member → CharSet
  | literal c => .one c
  | set s => s

/-- The next character that counts where blanks do not: past blanks, and past the first sharp
sign. -/
def peekPast (afterSharp : Bool) : List Char → Option Char
  | [] => none
  | c :: rest =>
    if Unicode.isWhiteSpace c then peekPast afterSharp rest
    else if !afterSharp && c == '#' then peekPast true rest
    else some c

/-- The character by which a hyphen is judged: the next one, past blanks if they do not count. -/
def peekSpaced (extended : Bool) (text : List Char) : Option Char :=
  if extended then peekPast false text <|> text.head? else text.head?

/-- Reads a member or a range. A hyphen begins the second half of a range unless a closing bracket
or another hyphen follows it. -/
def readRange (f : PatternFlags) (text : List Char) : Option (SetPart × List Char) := do
  let (first, rest) ← readMember f text
  match skipBlanks f.extended rest with
  | [] => none
  | '-' :: after =>
    let next := peekSpaced f.extended after
    if next == some ']' || next == some '-' then some (⟨first.toSet, 0⟩, '-' :: after)
    else
      match first, ← readMember f (skipBlanks f.extended after) with
      | .literal low, (.literal high, rest) =>
        if low ≤ high then some (⟨.range low high, 0⟩, rest) else none
      | _, _ => none
  | rest => some (⟨first.toSet, 0⟩, rest)

/-- Reads on in a class that stands inside the classes `outer`, up to the closing bracket of the
outermost one. Every round takes a character, so `rounds` is the length of the text. -/
def readMembers (f : PatternFlags) :
    (rounds : Nat) → Bracket → (outer : List Bracket) → List Char → Option (SetPart × List Char)
  | 0, _, _, _ => none
  | rounds + 1, b, outer, text =>
    match skipBlanks f.extended text with
    | [] => none
    | '[' :: rest =>
      match readAsciiClass? f rest with
      | some (some s, rest) => readMembers f rounds (b.add s) outer rest
      | some (none, _) => none
      | none =>
        match Bracket.opening? f.extended rest with
        | none => none
        | some (inner, rest) => readMembers f rounds inner (b :: outer) rest
    | ']' :: rest =>
      match b.close? f, outer with
      | none, _ => none
      | some s, [] => some (s, rest)
      | some s, b :: outer => readMembers f rounds (b.add s) outer rest
    | '&' :: '&' :: rest => readMembers f rounds (b.operator f.folding .inter) outer rest
    | '-' :: '-' :: rest => readMembers f rounds (b.operator f.folding .diff) outer rest
    | '~' :: '~' :: rest => readMembers f rounds (b.operator f.folding .symmDiff) outer rest
    | text =>
      match readRange f text with
      | none => none
      | some (s, rest) => readMembers f rounds (b.add s) outer rest

/-- Reads a bracketed class after its opening bracket. -/
def readBracket (f : PatternFlags) (text : List Char) : Option (SetPart × List Char) := do
  let (b, rest) ← Bracket.opening? f.extended text
  readMembers f (rest.length + 1) b [] rest

end Emend
