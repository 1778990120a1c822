import Emend.Pattern.Property
import Emend.Pattern.Regex

/-!
# Escapes in patterns

What a backslash begins in a pattern, and the flags that decide what characters mean.

- `readEscape` reads the text after a backslash;
- `PatternFlags` are the settings that a pattern can change for a group or for the rest of one.
-/

namespace Emend

/-- The settings under which a part of a pattern is read. -/
structure PatternFlags where
  /-- `i`: case does not count. -/
  caseInsensitive : Bool := false
  /-- `m`: `^` and `$` hold at line boundaries. -/
  multiLine : Bool := false
  /-- `s`: a dot stands for line ends too. -/
  dotAll : Bool := false
  /-- `U`: repetitions are short unless a question mark follows them. -/
  swapGreed : Bool := false
  /-- `R`: a carriage return ends a line too. -/
  crlf : Bool := false
  /-- `u`: classes hold characters of all scripts. -/
  unicode : Bool := true
  /-- `x`: blanks and comments are left out. -/
  extended : Bool := false
  deriving DecidableEq, Repr, Inhabited

namespace PatternFlags

/-- The folding under which characters are compared, if case does not count. -/
def folding (f : PatternFlags) : Option Folding :=
  if f.caseInsensitive then some (if f.unicode then .full else .ascii) else none

/-- Switches the flag of a letter on or off. -/
def set? (f : PatternFlags) (letter : Char) (on : Bool) : Option PatternFlags :=
  match letter with
  | 'i' => some { f with caseInsensitive := on }
  | 'm' => some { f with multiLine := on }
  | 's' => some { f with dotAll := on }
  | 'U' => some { f with swapGreed := on }
  | 'R' => some { f with crlf := on }
  | 'u' => some { f with unicode := on }
  | 'x' => some { f with extended := on }
  | _ => none

end PatternFlags

/-! ## Blanks and comments -/

/-- Drops blanks and comments; `inComment` says that the text starts inside a comment, which goes
on to the end of the line. -/
def dropBlanks (inComment : Bool) : List Char → List Char
  | [] => []
  | c :: rest =>
    if inComment then dropBlanks (c != '\n') rest
    else if Unicode.isWhiteSpace c then dropBlanks false rest
    else if c == '#' then dropBlanks true rest
    else c :: rest

/-- Drops blanks and comments where they do not count. -/
def skipBlanks (extended : Bool) (text : List Char) : List Char :=
  if extended then dropBlanks false text else text

/-- The longest beginning of characters that `p` accepts, and the rest. Where blanks and comments
do not count they may stand between the characters and are left out. -/
def spanSpaced (extended : Bool) (p : Char → Bool) (inComment : Bool) :
    List Char → List Char × List Char
  | [] => ([], [])
  | c :: rest =>
    if inComment then spanSpaced extended p (c != '\n') rest
    else if extended && Unicode.isWhiteSpace c then spanSpaced extended p false rest
    else if extended && c == '#' then spanSpaced extended p true rest
    else if p c then
      let (taken, rest) := spanSpaced extended p false rest
      (c :: taken, rest)
    else ([], c :: rest)

/-! ## Escapes -/

/-- The classes that a single letter names. -/
inductive LetterClass where
  | digit
  | space
  | word
  deriving DecidableEq, Repr, Inhabited

/-- What a backslash can begin. -/
inductive Escape where
  /-- A character; `asByte` says that it was written as a byte, in two hexadecimal digits. -/
  | literal (c : Char) (asByte : Bool)
  | letterClass (kind : LetterClass) (negated : Bool)
  | property (s : CharSet) (negated : Bool)
  | textStart
  | textEnd
  | word (rule : WordRule)
  deriving Inhabited

/-- Takes a number of hexadecimal digits. -/
def takeHex (extended : Bool) : Nat → List Char → Option (List Char × List Char)
  | 0, text => some ([], text)
  | n + 1, text =>
    match skipBlanks extended text with
    | [] => none
    | c :: rest =>
      if (Hex.digit? c).isSome then do
        let (digits, rest) ← takeHex extended n rest
        some (c :: digits, rest)
      else none

/-- Reads a code point: a fixed number of digits, or any positive number of them in braces. -/
def readCodePoint (extended : Bool) (width : Nat) (text : List Char) :
    Option (Escape × List Char) := do
  match skipBlanks extended text with
  | '\x7b' :: inner =>
    let (digits, rest) := spanSpaced extended (· != '\x7d') false inner
    if digits.isEmpty || rest.isEmpty then none
    else
      let c ← Hex.char? digits
      some (.literal c false, rest.drop 1)
  | text =>
    let (digits, rest) ← takeHex extended width text
    let c ← Hex.char? digits
    some (.literal c (width == 2), rest)

/-- Cuts a text before and after the first occurrence of a mark. -/
def cutAt? (mark : List Char) : List Char → Option (List Char × List Char)
  | [] => none
  | c :: rest =>
    if mark.isPrefixOf (c :: rest) then some ([], (c :: rest).drop mark.length)
    else (cutAt? mark rest).map fun (before, after) => (c :: before, after)

/-- The set of a property as it stands in braces: a name, or a name and a value joined by `!=`,
`:` or `=`. The first of these negates. -/
def propertySet? (negated : Bool) (text : List Char) : Option Escape :=
  match cutAt? ['!', '='] text with
  | some (name, value) => (Property.byValue? name value).map (.property · (!negated))
  | none =>
    match cutAt? [':'] text <|> cutAt? ['='] text with
    | some (name, value) => (Property.byValue? name value).map (.property · negated)
    | none => (Property.byName? text).map (.property · negated)

/-- Reads a property: one letter, or a text in braces. -/
def readProperty (extended negated : Bool) (text : List Char) : Option (Escape × List Char) := do
  match skipBlanks extended text with
  | [] => none
  | '\\' :: _ => none
  | '\x7b' :: inner =>
    let (name, rest) := spanSpaced extended (· != '\x7d') false inner
    if rest.isEmpty then none else some (← propertySet? negated name, rest.drop 1)
  | c :: rest => some (.property (← Property.byName? [c]) negated, rest)

/-- The rule on words that stands in braces. -/
def wordRule? (name : List Char) : Option WordRule :=
  match String.ofList name with
  | "start" => some .start
  | "end" => some .stop
  | "start-half" => some .startHalf
  | "end-half" => some .stopHalf
  | _ => none

/-- Reads what follows a word boundary: a rule in braces, unless the braces do not begin like a
name, in which case they are left for a repetition. -/
def readWordRule (extended : Bool) (text : List Char) : Option (Escape × List Char) :=
  let isNameChar := fun c : Char => c.isAlpha || c == '-'
  match text with
  | '\x7b' :: inner =>
    match skipBlanks extended inner with
    | [] => none
    | c :: _ =>
      if isNameChar c then
        let (name, rest) := spanSpaced extended isNameChar false inner
        match rest with
        | '\x7d' :: rest => (wordRule? name).map fun rule => (.word rule, rest)
        | _ => none
      else some (.word .boundary, text)
  | _ => some (.word .boundary, text)

/-- Reads the text after a backslash. Every plain character that is neither a letter nor a digit
nor an angle bracket stands for itself; digits and all other letters are refused. -/
def readEscape (extended : Bool) : List Char → Option (Escape × List Char)
  | [] => none
  | c :: rest =>
    match c with
    | 'x' => readCodePoint extended 2 rest
    | 'u' => readCodePoint extended 4 rest
    | 'U' => readCodePoint extended 8 rest
    | 'p' => readProperty extended false rest
    | 'P' => readProperty extended true rest
    | 'd' => some (.letterClass .digit false, rest)
    | 'D' => some (.letterClass .digit true, rest)
    | 's' => some (.letterClass .space false, rest)
    | 'S' => some (.letterClass .space true, rest)
    | 'w' => some (.letterClass .word false, rest)
    | 'W' => some (.letterClass .word true, rest)
    | 'a' => some (.literal '\x07' false, rest)
    | 'f' => some (.literal '\x0c' false, rest)
    | 't' => some (.literal '\t' false, rest)
    | 'n' => some (.literal '\n' false, rest)
    | 'r' => some (.literal '\r' false, rest)
    | 'v' => some (.literal '\x0b' false, rest)
    | 'A' => some (.textStart, rest)
    | 'z' => some (.textEnd, rest)
    | 'b' => readWordRule extended rest
    | 'B' => some (.word .notBoundary, rest)
    | '<' => some (.word .start, rest)
    | '>' => some (.word .stop, rest)
    | _ =>
      if Unicode.isAscii c && !c.isAlphanum then some (.literal c false, rest) else none

/-! ## What classes mean under the flags -/

/-- The set of a letter class. Without `u` it holds plain characters only, and its complement,
which would hold parts of characters, is refused. -/
def letterClassSet? (f : PatternFlags) (kind : LetterClass) (negated : Bool) : Option CharSet :=
  if f.unicode then
    some <| .negateIf negated <|
      match kind with
      | .digit => .table Unicode.digitTable
      | .space => .table Unicode.whiteSpaceTable
      | .word => .table Unicode.wordTable
  else if negated then none
  else
    match kind with
    | .digit => Property.asciiClass? "digit".toList
    | .space => some (.union (.range '\t' '\r') (.one ' '))
    | .word => Property.asciiClass? "word".toList

/-- The set of a property. It needs `u`. -/
def propertyClassSet? (f : PatternFlags) (s : CharSet) (negated : Bool) : Option CharSet :=
  if f.unicode then some (.negateIf negated (.foldBy f.folding s)) else none

/-- Whether a character may be written under the flags: a byte beyond the first 128 is no
character by itself. -/
def literalAllowed (f : PatternFlags) (c : Char) (asByte : Bool) : Bool :=
  f.unicode || !asByte || Unicode.isAscii c

end Emend
