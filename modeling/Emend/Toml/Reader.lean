import Emend.Toml.Scalar

/-!
# Reading TOML

`Toml.parse` reads a whole text as one table: a line at a time, each of them blank, a comment, a
header, or a key and its value. A value may go on over several lines in brackets, braces and
triple quotes.

The syntax is that of TOML 1.1, with line ends `\n` and `\r\n`. A byte order mark at the start is
passed over.
-/

namespace Emend.Toml

/-- Reading from the start of a text: what was read, most often with the rest, or a fault. -/
abbrev Read := Except TomlFault

/-! ## Blanks and comments -/

/-- Leaves out blanks and tabs. -/
def skipBlanks (text : List Char) : List Char := text.dropWhile fun c => c == ' ' || c == '\t'

/-- Whether a character may stand in a comment, and in a text as it is. -/
def isPlain (c : Char) : Bool := c == '\t' || (0x20 ≤ c.toNat && c != '\x7f')

/-- Leaves out a comment up to the end of its line. -/
def skipComment : List Char → List Char
  | '#' :: rest => rest.dropWhile isPlain
  | text => text

/-- Takes the end of a line. -/
def takeNewline? : List Char → Option (List Char)
  | '\n' :: rest => some rest
  | '\r' :: '\n' :: rest => some rest
  | _ => none

/-- Takes what may stand between the end of an item and the next line. -/
def endLine (text : List Char) : Read (List Char) :=
  match skipComment (skipBlanks text) with
  | [] => .ok []
  | rest =>
    match takeNewline? rest with
    | some rest => .ok rest
    | none => .error .malformed

/-- Leaves out blanks, comments and line ends. Every round but the last ends a line. -/
def skipLines : (rounds : Nat) → List Char → List Char
  | 0, text => text
  | rounds + 1, text =>
    let rest := skipComment (skipBlanks text)
    match takeNewline? rest with
    | some rest => skipLines rounds rest
    | none => rest

/-- Leaves out blanks, comments and line ends. -/
def skipSpace (text : List Char) : List Char := skipLines text.length text

/-! ## Texts -/

/-- Reads what follows a backslash. -/
def readEscape : List Char → Read (Char × List Char)
  | 'b' :: rest => .ok ('\x08', rest)
  | 't' :: rest => .ok ('\t', rest)
  | 'n' :: rest => .ok ('\n', rest)
  | 'f' :: rest => .ok ('\x0c', rest)
  | 'r' :: rest => .ok ('\r', rest)
  | 'e' :: rest => .ok ('\x1b', rest)
  | '"' :: rest => .ok ('"', rest)
  | '\\' :: rest => .ok ('\\', rest)
  | 'x' :: rest => number 2 rest
  | 'u' :: rest => number 4 rest
  | 'U' :: rest => number 8 rest
  | _ => .error .malformed
where
  /-- Reads a character by a number of so many digits. -/
  number (width : Nat) (text : List Char) : Read (Char × List Char) :=
    match Hex.take? width text with
    | some (n, rest) =>
      match Hex.charOfCode? n with
      | some c => .ok (c, rest)
      | none => .error .malformed
    | none => .error .malformed

/-- Reads a text on one line after its opening quote. Only double quotes take escapes. Every round
takes a character. -/
def readLine (quote : Char) : (rounds : Nat) → List Char → Read (List Char × List Char)
  | 0, _ | _, [] => .error .malformed
  | rounds + 1, c :: rest =>
    if c = quote then .ok ([], rest)
    else if c = '\\' ∧ quote = '"' then do
      let (d, rest) ← readEscape rest
      let (more, rest) ← readLine quote rounds rest
      return (d :: more, rest)
    else if isPlain c then do
      let (more, rest) ← readLine quote rounds rest
      return (c :: more, rest)
    else .error .malformed

/-- Leaves out blanks and line ends after a backslash at the end of a line. -/
def skipFold : List Char → List Char
  | ' ' :: rest | '\t' :: rest | '\n' :: rest => skipFold rest
  | '\r' :: '\n' :: rest => skipFold rest
  | text => text

/-- Reads a text over several lines after its opening quotes. Three quotes end it; up to two more
right before them belong to the text. A backslash at the end of a line joins it to the next text.
Every round takes a character. -/
def readLongText (quote : Char) : (rounds : Nat) → List Char → Read (List Char × List Char)
  | 0, _ | _, [] => .error .malformed
  | rounds + 1, c :: rest =>
    if c = quote then
      match (c :: rest).span (· == quote) with
      | (quotes, after) =>
        if 3 ≤ quotes.length then
          if quotes.length ≤ 5 then .ok (quotes.drop 3, after) else .error .malformed
        else do
          let (more, rest) ← readLongText quote rounds rest
          return (c :: more, rest)
    else if c = '\\' ∧ quote = '"' then
      if (takeNewline? (skipBlanks rest)).isSome then readLongText quote rounds (skipFold rest)
      else do
        let (d, rest) ← readEscape rest
        let (more, rest) ← readLongText quote rounds rest
        return (d :: more, rest)
    else if isPlain c ∨ c = '\n' ∨ (c = '\r' ∧ rest.head? = some '\n') then do
      let (more, rest) ← readLongText quote rounds rest
      return (c :: more, rest)
    else .error .malformed

/-- Reads a text after its first quote. A line end right after three opening quotes does not
count. -/
def readText (quote : Char) (text : List Char) : Read (List Char × List Char) :=
  match text with
  | c :: d :: rest =>
    if c = quote ∧ d = quote then
      readLongText quote (rest.length + 1) ((takeNewline? rest).getD rest)
    else readLine quote (text.length + 1) text
  | text => readLine quote (text.length + 1) text

/-! ## Keys -/

/-- Whether a character can stand in a key without quotes. -/
def isBare (c : Char) : Bool := c.isAlphanum || c == '_' || c == '-'

/-- Reads one part of a key. A quoted part is on one line. -/
def readKeyPart : List Char → Read (String × List Char)
  | [] => .error .malformed
  | c :: rest =>
    if c = '"' ∨ c = '\'' then do
      let (key, rest) ← readLine c (rest.length + 1) rest
      return (.ofList key, rest)
    else
      match (c :: rest).span isBare with
      | ([], _) => .error .malformed
      | (key, rest) => .ok (.ofList key, rest)

/-- Reads the parts of a key between dots. Every round takes a part. -/
def readKey : (rounds : Nat) → List Char → Read (List String × List Char)
  | 0, _ => .error .malformed
  | rounds + 1, text => do
    let (key, rest) ← readKeyPart (skipBlanks text)
    match skipBlanks rest with
    | '.' :: rest =>
      let (more, rest) ← readKey rounds rest
      return (key :: more, rest)
    | rest => return ([key], rest)

/-- Splits off the last part of a key. -/
def splitKey (key : List String) : List String × String := (key.dropLast, key.getLast?.getD "")

/-! ## Values -/

/-- Whether a character can stand in a bare value. -/
def isScalarChar (c : Char) : Bool :=
  c.isAlphanum || c == '_' || c == '-' || c == '+' || c == '.' || c == ':'

/-- Takes the text of a bare value. A blank may stand between a date and a time. -/
def spanScalar (text : List Char) : List Char × List Char :=
  let (first, rest) := text.span isScalarChar
  match takeDate? first, rest with
  | some [], ' ' :: c :: more =>
    if c.isDigit then
      let (second, rest) := (c :: more).span isScalarChar
      (first ++ ' ' :: second, rest)
    else (first, rest)
  | _, _ => (first, rest)

/-- A value may stand inside at most this many arrays and tables in braces. -/
def depthLimit : Nat := 80

mutual

/-- Reads a value that may still nest `depth` levels. Every round takes a character. -/
def readValue (rounds depth : Nat) (text : List Char) : Read (Toml × List Char) :=
  match rounds with
  | 0 => .error .malformed
  | rounds + 1 =>
    match text with
    | '"' :: rest => do
      let (s, rest) ← readText '"' rest
      return (.string (.ofList s), rest)
    | '\'' :: rest => do
      let (s, rest) ← readText '\'' rest
      return (.string (.ofList s), rest)
    | '[' :: rest =>
      if depth = 0 then .error .nestedTooDeep
      else do
        let (items, rest) ← readItems rounds (depth - 1) rest
        return (.array items, rest)
    | '\x7b' :: rest =>
      if depth = 0 then .error .nestedTooDeep
      else do
        let (entries, rest) ← readEntries rounds (depth - 1) ⟨.inline, []⟩ rest
        return (entries.toToml, rest)
    | text =>
      let (bare, rest) := spanScalar text
      match scalar? bare with
      | some value => .ok (value, rest)
      | none => .error .malformed

/-- Reads the items of an array up to its closing bracket. A comma may follow the last one. -/
def readItems (rounds depth : Nat) (text : List Char) : Read (List Toml × List Char) :=
  match rounds with
  | 0 => .error .malformed
  | rounds + 1 =>
    match skipSpace text with
    | ']' :: rest => .ok ([], rest)
    | text => do
      let (item, rest) ← readValue rounds depth text
      match skipSpace rest with
      | ']' :: rest => return ([item], rest)
      | ',' :: rest =>
        let (items, rest) ← readItems rounds depth rest
        return (item :: items, rest)
      | _ => throw .malformed

/-- Reads the entries of a table up to its closing brace. A comma may follow the last one. -/
def readEntries (rounds depth : Nat) (entries : Growing) (text : List Char) :
    Read (Growing × List Char) :=
  match rounds with
  | 0 => .error .malformed
  | rounds + 1 =>
    match skipSpace text with
    | '\x7d' :: rest => .ok (entries, rest)
    | text => do
      let (key, rest) ← readKey (text.length + 1) text
      match rest with
      | '=' :: rest =>
        let (value, rest) ← readValue rounds depth (skipBlanks rest)
        let (path, last) := splitKey key
        let entries ← entries.define path last value
        match skipSpace rest with
        | '\x7d' :: rest => return (entries, rest)
        | ',' :: rest => readEntries rounds depth entries rest
        | _ => throw .malformed
      | _ => throw .malformed

end

/-! ## Documents -/

/-- The tables read so far, and the place of the one that a header has opened. -/
structure Document where
  root : Growing := ⟨.header, []⟩
  place : List String := []

namespace Document

/-- Reads a header after its opening bracket. -/
def readHeader (d : Document) (text : List Char) : Read (Document × List Char) := do
  match text with
  | '[' :: rest =>
    let (key, rest) ← readKey (rest.length + 1) rest
    match rest with
    | ']' :: ']' :: rest =>
      let (path, last) := splitKey key
      return (⟨← d.root.openItem path last, key⟩, rest)
    | _ => throw .malformed
  | text =>
    let (key, rest) ← readKey (text.length + 1) text
    match rest with
    | ']' :: rest =>
      let (path, last) := splitKey key
      return (⟨← d.root.openTable path last, key⟩, rest)
    | _ => throw .malformed

/-- Reads a key and its value. -/
def readEntry (d : Document) (text : List Char) : Read (Document × List Char) := do
  let (key, rest) ← readKey (text.length + 1) text
  match rest with
  | '=' :: rest =>
    let (value, rest) ← readValue (rest.length + 1) depthLimit (skipBlanks rest)
    let (path, last) := splitKey key
    return ({ d with root := ← d.root.change false (·.define path last value) d.place }, rest)
  | _ => throw .malformed

/-- Reads lines up to the end of the text. Every round takes a line. -/
def readLines : (rounds : Nat) → Document → List Char → Except TomlFault Document
  | 0, _, _ => .error .malformed
  | rounds + 1, d, text =>
    match skipSpace text with
    | [] => .ok d
    | '[' :: rest => do
      let (d, rest) ← d.readHeader rest
      readLines rounds d (← endLine rest)
    | text => do
      let (d, rest) ← d.readEntry text
      readLines rounds d (← endLine rest)

end Document

/-- Reads a text as one table. -/
def parse (source : String) : Except TomlFault Toml := do
  let text := match source.toList with
    | '\uFEFF' :: rest => rest
    | text => text
  let d ← Document.readLines (text.length + 1) {} text
  return d.root.toToml

end Emend.Toml
