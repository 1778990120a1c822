import Emend.Text.Decimal
import Emend.Text.Hexadecimal

/-!
# JSON

The values of JSON and their reader, which takes the grammar strictly: no comments, no trailing
commas, no byte order mark, no characters below the blank in texts.

- `Json.parse?` reads a whole text as one value;
- `Json.get?` looks up a member of an object; of several members with one name the last one counts.

Numbers are read but their value is not kept, since nothing here asks for it; a number that no
double can hold is refused, and so is a value that nests deeper than `Json.depthLimit`.
-/

namespace Emend

/-- A value. -/
inductive Json where
  | null
  | boolean (b : Bool)
  | number
  | string (s : String)
  | array (items : List Json)
  | object (members : List (String × Json))
  deriving Inhabited, Repr

namespace Json

/-- The member of an object with a name. -/
def get? (name : String) : Json → Option Json
  | object members => members.reverse.lookup name
  | _ => none

/-- The text of a string. -/
def string? : Json → Option String
  | string s => some s
  | _ => none

/-- A value may stand inside fewer than this many arrays and objects, itself included. -/
def depthLimit : Nat := 128

/-- Leaves out the blanks at the start. -/
def skipBlanks (text : List Char) : List Char :=
  text.dropWhile fun c => c == ' ' || c == '\n' || c == '\t' || c == '\r'

/-! ## Texts -/

/-- Reads what follows a backslash. A character beyond the basic plane is written as two escapes,
of which neither may stand alone. -/
def readEscape? : List Char → Option (Char × List Char)
  | '"' :: rest => some ('"', rest)
  | '\\' :: rest => some ('\\', rest)
  | '/' :: rest => some ('/', rest)
  | 'b' :: rest => some ('\x08', rest)
  | 'f' :: rest => some ('\x0c', rest)
  | 'n' :: rest => some ('\n', rest)
  | 'r' :: rest => some ('\r', rest)
  | 't' :: rest => some ('\t', rest)
  | 'u' :: text => do
    let (n, rest) ← Hex.take? 4 text
    if 0xD800 ≤ n ∧ n < 0xDC00 then
      match rest with
      | '\\' :: 'u' :: more => do
        let (m, rest) ← Hex.take? 4 more
        if 0xDC00 ≤ m ∧ m < 0xE000 then
          some (← Hex.charOfCode? (0x10000 + (n - 0xD800) * 0x400 + (m - 0xDC00)), rest)
        else none
      | _ => none
    else some (← Hex.charOfCode? n, rest)
  | _ => none

/-- Reads a text after its opening quote. Every round takes a character, so `rounds` is more than
the number of characters. -/
def readString? : (rounds : Nat) → List Char → Option (List Char × List Char)
  | 0, _ | _, [] => none
  | _ + 1, '"' :: rest => some ([], rest)
  | rounds + 1, '\\' :: text => do
    let (c, rest) ← readEscape? text
    let (more, rest) ← readString? rounds rest
    some (c :: more, rest)
  | rounds + 1, c :: rest =>
    if c.toNat < 0x20 then none
    else do
      let (more, rest) ← readString? rounds rest
      some (c :: more, rest)

/-! ## Numbers -/

/-- Reads the digits after a point, if there is one. There is at least one. -/
def readFraction? : List Char → Option (List Char × List Char)
  | '.' :: text =>
    let (digits, rest) := text.span Char.isDigit
    if digits.isEmpty then none else some (digits, rest)
  | text => some ([], text)

/-- Reads an exponent, if there is one: `e`, a sign that may be left out, and digits. -/
def readExponent? : List Char → Option (Int × List Char)
  | [] => some (0, [])
  | c :: text =>
    if c == 'e' || c == 'E' then
      let (negative, text) := match text with
        | '-' :: rest => (true, rest)
        | '+' :: rest => (false, rest)
        | rest => (false, rest)
      let (digits, rest) := text.span Char.isDigit
      if digits.isEmpty then none
      else
        let n : Int := Decimal.value digits
        some (if negative then -n else n, rest)
    else some (0, c :: text)

/-- Reads a number and returns the rest of the text. -/
def readNumber? (text : List Char) : Option (List Char) := do
  let text := match text with
    | '-' :: rest => rest
    | rest => rest
  let (whole, rest) := text.span Char.isDigit
  match whole with
  | [] => none
  | '0' :: _ :: _ => none
  | whole =>
    let (fraction, rest) ← readFraction? rest
    let (exponent, rest) ← readExponent? rest
    if Decimal.exceedsDouble (Decimal.value (whole ++ fraction)) (exponent - fraction.length) then
      none
    else some rest

/-! ## Values -/

/-- Takes a word from the start of a text. -/
def takeWord? (word : String) (text : List Char) : Option (List Char) :=
  if word.toList.isPrefixOf text then some (text.drop word.length) else none

mutual

/-- Reads a value that may still nest `depth` levels. Every round takes a character, so `rounds`
is more than the number of characters. -/
def readValue? (rounds depth : Nat) (text : List Char) : Option (Json × List Char) :=
  match rounds with
  | 0 => none
  | rounds + 1 =>
    match skipBlanks text with
    | [] => none
    | '"' :: rest => (readString? rounds rest).map fun (s, rest) => (string (.ofList s), rest)
    | '[' :: rest =>
      if depth ≤ 1 then none
      else
        match skipBlanks rest with
        | ']' :: rest => some (array [], rest)
        | rest => (readItems? rounds (depth - 1) rest).map fun (items, rest) => (array items, rest)
    | '\x7b' :: rest =>
      if depth ≤ 1 then none
      else
        match skipBlanks rest with
        | '\x7d' :: rest => some (object [], rest)
        | rest =>
          (readMembers? rounds (depth - 1) rest).map fun (members, rest) => (object members, rest)
    | 't' :: rest => (takeWord? "rue" rest).map (boolean true, ·)
    | 'f' :: rest => (takeWord? "alse" rest).map (boolean false, ·)
    | 'n' :: rest => (takeWord? "ull" rest).map (null, ·)
    | text => (readNumber? text).map (number, ·)

/-- Reads the items of an array up to its closing bracket. -/
def readItems? (rounds depth : Nat) (text : List Char) : Option (List Json × List Char) :=
  match rounds with
  | 0 => none
  | rounds + 1 => do
    let (item, rest) ← readValue? rounds depth text
    match skipBlanks rest with
    | ']' :: rest => some ([item], rest)
    | ',' :: rest =>
      let (items, rest) ← readItems? rounds depth rest
      some (item :: items, rest)
    | _ => none

/-- Reads the members of an object up to its closing brace. -/
def readMembers? (rounds depth : Nat) (text : List Char) :
    Option (List (String × Json) × List Char) :=
  match rounds with
  | 0 => none
  | rounds + 1 =>
    match skipBlanks text with
    | '"' :: rest => do
      let (name, rest) ← readString? rounds rest
      match skipBlanks rest with
      | ':' :: rest => do
        let (value, rest) ← readValue? rounds depth rest
        match skipBlanks rest with
        | '\x7d' :: rest => some ([(.ofList name, value)], rest)
        | ',' :: rest =>
          let (members, rest) ← readMembers? rounds depth rest
          some ((.ofList name, value) :: members, rest)
        | _ => none
      | _ => none
    | _ => none

end

/-- Reads a text as one value. -/
def parse? (source : String) : Option Json :=
  let text := source.toList
  match readValue? (text.length + 1) depthLimit text with
  | some (value, rest) => if (skipBlanks rest).isEmpty then some value else none
  | none => none

end Json

end Emend
