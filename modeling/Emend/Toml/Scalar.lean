import Emend.Text.Decimal
import Emend.Text.Hexadecimal
import Emend.Toml.Value

/-!
# Bare TOML values

A value that stands without quotes and brackets is a truth value, a number, or a date or time.
`Toml.scalar?` decides which one a text writes, if any.

- An integer lies between −2⁶³ and 2⁶³ − 1; a float is no greater than the greatest double;
- a date exists in the calendar; a time may have 60 seconds or leave them out.
-/

namespace Emend.Toml

/-- Takes digits of a radix from the start, with single underscores between digits. There is at
least one digit. -/
def takeDigits? (isDigit : Char → Bool) : List Char → Option (List Char × List Char)
  | [] => none
  | c :: '_' :: rest =>
    if isDigit c then (takeDigits? isDigit rest).map fun (digits, rest) => (c :: digits, rest)
    else none
  | c :: rest =>
    if isDigit c then
      if rest.head?.any isDigit then
        (takeDigits? isDigit rest).map fun (digits, rest) => (c :: digits, rest)
      else some ([c], rest)
    else none

/-- Whether digits start with a zero that they could do without. -/
def hasLeadingZero : List Char → Bool
  | '0' :: _ :: _ => true
  | _ => false

/-- The value of digits under a radix. -/
def radixValue (radix : Nat) (digits : List Char) : Nat :=
  digits.foldl (fun n c => n * radix + (Hex.digit? c).getD 0) 0

/-- The least number that is too large for an integer, 2⁶³. -/
def integerBound : Nat := 0x8000000000000000

/-- A whole text of digits of a radix, for a number that is not too large. -/
def radixInteger? (radix : Nat) (text : List Char) : Option Toml := do
  let (digits, rest) ← takeDigits? (fun c => (Hex.digit? c).any (· < radix)) text
  if rest.isEmpty && radixValue radix digits < integerBound then some (.scalar .integer) else none

/-- Takes a sign. -/
def takeSign : List Char → Bool × List Char
  | '-' :: rest => (true, rest)
  | '+' :: rest => (false, rest)
  | text => (false, text)

/-- What follows the whole digits of a float: digits after a point and an exponent, of which at
least one is there. Returns the digits and the exponent. -/
def floatTail? (text : List Char) : Option (List Char × Int) := do
  let (fraction, rest) ←
    match text with
    | '.' :: rest => takeDigits? Char.isDigit rest
    | rest => some ([], rest)
  match rest with
  | [] => some (fraction, 0)
  | c :: rest =>
    if c == 'e' || c == 'E' then
      let (negative, rest) := takeSign rest
      let (digits, rest) ← takeDigits? Char.isDigit rest
      if rest.isEmpty then
        let n : Int := Decimal.value digits
        some (fraction, if negative then -n else n)
      else none
    else none

/-- A decimal number. -/
def number? (text : List Char) : Option Toml := do
  let (negative, text) := takeSign text
  if text = "inf".toList ∨ text = "nan".toList then some (.scalar .float)
  else
    let (whole, rest) ← takeDigits? Char.isDigit text
    if hasLeadingZero whole then none
    else if rest.isEmpty then
      let bound := if negative then integerBound else integerBound - 1
      if Decimal.value whole ≤ bound then some (.scalar .integer) else none
    else
      let (fraction, exponent) ← floatTail? rest
      if Decimal.exceedsDouble (Decimal.value (whole ++ fraction)) (exponent - fraction.length) then
        none
      else some (.scalar .float)

/-! ## Dates and times -/

/-- Takes a number of a fixed count of digits, more than which must not follow. -/
def takeFixed? (count : Nat) (text : List Char) : Option (Nat × List Char) :=
  let (digits, rest) := text.span Char.isDigit
  if digits.length = count then some (Decimal.value digits, rest) else none

/-- Takes a character. -/
def takeChar? (c : Char) : List Char → Option (List Char)
  | [] => none
  | d :: rest => if c == d then some rest else none

/-- The number of days of a month. -/
def daysIn (year month : Nat) : Nat :=
  if month = 2 then
    if year % 4 = 0 ∧ (year % 100 ≠ 0 ∨ year % 400 = 0) then 29 else 28
  else if month = 4 ∨ month = 6 ∨ month = 9 ∨ month = 11 then 30
  else 31

/-- Takes a date that exists. -/
def takeDate? (text : List Char) : Option (List Char) := do
  let (year, rest) ← takeFixed? 4 text
  let (month, rest) ← takeFixed? 2 (← takeChar? '-' rest)
  let (day, rest) ← takeFixed? 2 (← takeChar? '-' rest)
  if 1 ≤ month ∧ month ≤ 12 ∧ 1 ≤ day ∧ day ≤ daysIn year month then some rest else none

/-- Takes a fraction of a second, if there is one. -/
def takeFraction? : List Char → Option (List Char)
  | '.' :: text =>
    let (digits, rest) := text.span Char.isDigit
    if digits.isEmpty then none else some rest
  | text => some text

/-- Takes a time of day. -/
def takeTime? (text : List Char) : Option (List Char) := do
  let (hour, rest) ← takeFixed? 2 text
  let (minute, rest) ← takeFixed? 2 (← takeChar? ':' rest)
  if 23 < hour ∨ 59 < minute then none
  else
    match rest with
    | ':' :: rest =>
      let (second, rest) ← takeFixed? 2 rest
      if 60 < second then none else takeFraction? rest
    | rest => some rest

/-- Whether a text is an offset from universal time, or empty. -/
def isOffset : List Char → Bool
  | [] => true
  | ['Z'] | ['z'] => true
  | c :: text =>
    (c == '+' || c == '-') &&
      match (do
        let (hours, rest) ← takeFixed? 2 text
        let (minutes, rest) ← takeFixed? 2 (← takeChar? ':' rest)
        some (hours ≤ 23 && minutes ≤ 59 && rest.isEmpty)) with
      | some ok => ok
      | none => false

/-- A date, a time, or both with an offset or without. -/
def dateTime? (text : List Char) : Option Toml :=
  match takeDate? text with
  | some [] => some (.scalar .dateTime)
  | some (c :: rest) =>
    if c == 'T' || c == 't' || c == ' ' then
      match takeTime? rest with
      | some rest => if isOffset rest then some (.scalar .dateTime) else none
      | none => none
    else none
  | none =>
    match takeTime? text with
    | some [] => some (.scalar .dateTime)
    | _ => none

/-- The value that a bare text writes. -/
def scalar? (text : List Char) : Option Toml :=
  match text with
  | '0' :: 'x' :: digits => radixInteger? 16 digits
  | '0' :: 'o' :: digits => radixInteger? 8 digits
  | '0' :: 'b' :: digits => radixInteger? 2 digits
  | text =>
    if text = "true".toList then some (.boolean true)
    else if text = "false".toList then some (.boolean false)
    else number? text <|> dateTime? text

end Emend.Toml
