import Emend.Pattern.Bracket
import Emend.Text.Decimal

/-!
# Reading patterns

`readPattern` reads the text of a pattern into a regular expression. The reader goes through the
text once, one item a round, and keeps the groups that are still open on a stack.

- `Reading.step` reads one item;
- `readPattern` reads all of them and refuses a pattern that nests too deep.

An expression is at most `nestLimit` levels deep, where each group, repetition, class, sequence of
several items and choice between branches is a level.
-/

namespace Emend

/-- The deepest nesting that is accepted. -/
def nestLimit : Nat := 250

/-- An item of a pattern. -/
structure Item where
  regex : Regex
  /-- How deep the item is nested. -/
  depth : Nat := 0
  /-- Whether a repetition may follow; flags cannot be repeated. -/
  repeatable : Bool := true
  deriving Inhabited

/-- A group whose closing parenthesis has not been read: its index if it is captured, and what was
read before it, the flags included. -/
structure OpenGroup where
  index : Option Nat
  flags : PatternFlags
  items : List Item
  branches : List Item
  deriving Inhabited

/-- How far a pattern has been read. -/
structure Reading where
  rest : List Char
  flags : PatternFlags
  /-- The items of the present branch, last first. -/
  items : List Item := []
  /-- The finished branches of the present group, last first. -/
  branches : List Item := []
  /-- The open groups, innermost first. -/
  groups : List OpenGroup := []
  /-- The number of captured groups so far. -/
  captured : Nat := 0
  /-- The names of captured groups. -/
  names : List (String × Nat) := []
  deriving Inhabited

namespace Reading

/-- The items of a branch, last first, as one piece; several make a level. -/
def sequence (items : List Item) : Item :=
  match items.reverse with
  | [] => ⟨.empty, 0, true⟩
  | [p] => p
  | pieces => ⟨.seqAll (pieces.map (·.regex)), 1 + (pieces.map (·.depth)).foldl max 0, true⟩

/-- All branches of the present group as one piece; several make a level. -/
def choice (r : Reading) : Item :=
  match (sequence r.items :: r.branches).reverse with
  | [p] => p
  | pieces => ⟨.altAll (pieces.map (·.regex)), 1 + (pieces.map (·.depth)).foldl max 0, true⟩

/-- Adds an item to the present branch. -/
def push (r : Reading) (p : Item) (rest : List Char) : Reading :=
  { r with items := p :: r.items, rest }

/-- Ends the present branch. -/
def branch (r : Reading) (rest : List Char) : Reading :=
  { r with items := [], branches := sequence r.items :: r.branches, rest }

/-- Opens a group, under flags of its own. -/
def openGroup (r : Reading) (index : Option Nat) (inner : PatternFlags) (rest : List Char) :
    Reading :=
  { r with
    rest
    flags := inner
    items := []
    branches := []
    groups := ⟨index, r.flags, r.items, r.branches⟩ :: r.groups }

/-- Closes the innermost group and goes back to the flags before it. -/
def closeGroup? (r : Reading) (rest : List Char) : Option Reading :=
  match r.groups with
  | [] => none
  | g :: groups =>
    let inner := r.choice
    let regex := match g.index with
      | some index => Regex.group index inner.regex
      | none => inner.regex
    some { r with
      rest
      groups
      flags := g.flags
      items := ⟨regex, 1 + inner.depth, true⟩ :: g.items
      branches := g.branches }

/-! ## Groups and flags -/

/-- Reads flags up to a colon or a closing parenthesis: letters, none of them twice, with at most
one hyphen that switches the following ones off and is not the last. Returns the flags, whether
any were written, and the character that ends them. -/
def readFlags (on afterHyphen : Bool) (seen : List Char) (f : PatternFlags) :
    List Char → Option (PatternFlags × Bool × Char × List Char)
  | [] => none
  | c :: rest =>
    if c == ':' || c == ')' then
      if afterHyphen then none else some (f, !seen.isEmpty, c, rest)
    else if c == '-' then
      if on then readFlags false true seen f rest else none
    else if seen.contains c then none
    else
      match f.set? c on with
      | none => none
      | some f => readFlags on false (c :: seen) f rest

/-- Whether a character may begin a group's name. -/
def isNameStart (c : Char) : Bool := c == '_' || Unicode.isAlphabetic c

/-- Whether a character may go on with a group's name. -/
def isNameChar (c : Char) : Bool :=
  c == '_' || c == '.' || c == '[' || c == ']' || Unicode.isAlphanumeric c

/-- Reads the name of a group up to its angle bracket. -/
def readName (text : List Char) : Option (String × List Char) :=
  match text.span (· != '>') with
  | (c :: more, '>' :: rest) =>
    if isNameStart c && more.all isNameChar then some (.ofList (c :: more), rest) else none
  | _ => none

/-- Opens a captured group. -/
def openCaptured (r : Reading) (rest : List Char) : Reading :=
  { r.openGroup (some (r.captured + 1)) r.flags rest with captured := r.captured + 1 }

/-- Opens a captured group with a name, which no other group has. -/
def openNamed? (r : Reading) (text : List Char) : Option Reading := do
  let (name, rest) ← readName text
  if r.names.any (·.1 == name) then none
  else some { r.openCaptured rest with names := r.names ++ [(name, r.captured + 1)] }

/-- Reads what follows an opening parenthesis. Looking around is refused. -/
def readGroup? (r : Reading) (text : List Char) : Option Reading :=
  match skipBlanks r.flags.extended text with
  | '?' :: '=' :: _ | '?' :: '!' :: _ | '?' :: '<' :: '=' :: _ | '?' :: '<' :: '!' :: _ => none
  | '?' :: 'P' :: '<' :: rest => r.openNamed? rest
  | '?' :: '<' :: rest => r.openNamed? rest
  | '?' :: rest =>
    match readFlags true false [] r.flags rest with
    | none => none
    | some (f, _, ':', rest) => some (r.openGroup none f rest)
    | some (f, written, _, rest) =>
      if written then some { r.push ⟨.empty, 0, false⟩ rest with flags := f } else none
  | rest => some (r.openCaptured rest)

/-! ## Repetitions -/

/-- Puts a repetition in the place of the last item. -/
def repeatLast? (r : Reading) (least : Nat) (most : Option Nat) (short : Bool)
    (rest : List Char) : Option Reading :=
  match r.items with
  | p :: items =>
    if p.repeatable then
      let greedy := short == r.flags.swapGreed
      some { r with
        rest
        items := ⟨p.regex.repeated least most greedy, 1 + p.depth, true⟩ :: items }
    else none
  | [] => none

/-- Repeats the last item; a question mark right after the operator makes it short. -/
def repeatBySign? (r : Reading) (least : Nat) (most : Option Nat) (text : List Char) :
    Option Reading :=
  match text with
  | '?' :: rest => r.repeatLast? least most true rest
  | rest => r.repeatLast? least most false rest

/-- The least number that is too large for a count of repetitions, 2³². -/
def countBound : Nat := 0x100000000

/-- Reads a number between blanks: its value if there are digits. Too large a number is
refused. -/
def readCount (extended : Bool) (text : List Char) : Option (Option Nat × List Char) :=
  let (digits, rest) := spanSpaced extended Char.isDigit false (text.dropWhile Unicode.isWhiteSpace)
  let rest := rest.dropWhile Unicode.isWhiteSpace
  if digits.isEmpty then some (none, rest)
  else
    let n := Decimal.value digits
    if n < countBound then some (some n, rest) else none

/-- Reads a repetition in braces: a number, a number and more, or two numbers in order. -/
def repeatByCount? (r : Reading) (text : List Char) : Option Reading := do
  let x := r.flags.extended
  let (least, rest) ← readCount x (skipBlanks x text)
  let least ← least
  let (most, rest) ←
    match rest with
    | ',' :: rest =>
      match skipBlanks x rest with
      | '\x7d' :: rest => some (none, '\x7d' :: rest)
      | rest => do
        let (most, rest) ← readCount x rest
        some (some (← most), rest)
    | rest => some (some least, rest)
  if most.any (· < least) then none
  else
    match rest with
    | '\x7d' :: rest => r.repeatBySign? least most (skipBlanks x rest)
    | _ => none

/-! ## Single items -/

/-- A character under the flags. -/
def literal? (f : PatternFlags) (c : Char) (asByte : Bool) : Option Regex :=
  if literalAllowed f c asByte then some (.char (.ofChar f.folding c)) else none

/-- The expression of an escape. -/
def escape? (f : PatternFlags) : Escape → Option Regex
  | .literal c asByte => literal? f c asByte
  | .letterClass kind negated => (letterClassSet? f kind negated).map .char
  | .property s negated => (propertyClassSet? f s negated).map .char
  | .textStart => some (.assertion .textStart)
  | .textEnd => some (.assertion .textEnd)
  | .word rule => some (.assertion (.word rule f.unicode))

/-- The expression of a dot: any character but the ends of lines. Without `u` it would stand for
parts of characters and is refused. -/
def dot? (f : PatternFlags) : Option Regex :=
  if !f.unicode then none
  else if f.dotAll then some (.char .all)
  else if f.crlf then some (.char (.compl (.union (.one '\r') (.one '\n'))))
  else some (.char (.compl (.one '\n')))

/-- The expression of a circumflex. -/
def lineStart (f : PatternFlags) : Regex :=
  .assertion (if f.multiLine then .lineStart f.crlf else .textStart)

/-- The expression of a dollar sign. -/
def lineEnd (f : PatternFlags) : Regex :=
  .assertion (if f.multiLine then .lineEnd f.crlf else .textEnd)

/-- Reads one item, which starts with `c`. -/
def step (r : Reading) (c : Char) (rest : List Char) : Option Reading :=
  match c with
  | '(' => r.readGroup? rest
  | ')' => r.closeGroup? rest
  | '|' => some (r.branch rest)
  | '[' => (readBracket r.flags rest).map fun (s, rest) => r.push ⟨.char s.set, s.depth, true⟩ rest
  | '?' => r.repeatBySign? 0 (some 1) rest
  | '*' => r.repeatBySign? 0 none rest
  | '+' => r.repeatBySign? 1 none rest
  | '\x7b' => r.repeatByCount? rest
  | '.' => (dot? r.flags).map fun e => r.push ⟨e, 0, true⟩ rest
  | '^' => some (r.push ⟨lineStart r.flags, 0, true⟩ rest)
  | '$' => some (r.push ⟨lineEnd r.flags, 0, true⟩ rest)
  | '\\' => do
    let (e, rest) ← readEscape r.flags.extended rest
    some (r.push ⟨← escape? r.flags e, 0, true⟩ rest)
  | c => (literal? r.flags c false).map fun e => r.push ⟨e, 0, true⟩ rest

/-- Reads items up to the end of the text. Every round takes a character, so `rounds` is one more
than the length of the text. -/
def run : (rounds : Nat) → Reading → Option Reading
  | 0, _ => none
  | rounds + 1, r =>
    match skipBlanks r.flags.extended r.rest with
    | [] => some r
    | c :: rest => (r.step c rest).bind (run rounds)

end Reading

/-- A pattern that has been read: its expression, the number of its captured groups and their
names. -/
structure PatternText where
  regex : Regex
  captured : Nat
  names : List (String × Nat)
  deriving Inhabited

/-- Reads the text of a pattern. -/
def readPattern (flags : PatternFlags) (text : List Char) : Option PatternText := do
  let r ← Reading.run (text.length + 1) ⟨text, flags, [], [], [], 0, []⟩
  if r.groups.isEmpty && r.choice.depth ≤ nestLimit then
    some ⟨r.choice.regex, r.captured, r.names⟩
  else none

end Emend
