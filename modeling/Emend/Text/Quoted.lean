import Emend.Unicode.Classes

/-!
# Quoted text

How a message shows a text or a character so that its ends and its invisible parts can be seen.

- `Quoted.text` puts a text between double quotes;
- `Quoted.char` puts a character between single quotes.

Only the quote that encloses is escaped. Characters that do not print, or that would combine with
the quote before them, are written by their number.
-/

namespace Emend.Quoted

/-- The hexadecimal digits of a number, without leading zeros. -/
def hexDigits (n : Nat) : List Char := Nat.toDigits 16 n

/-- A character by its number. -/
def byNumber (c : Char) : List Char :=
  ['\\', 'u', '\x7b'] ++ hexDigits c.toNat ++ ['\x7d']

/-- A character inside quotes of the kind `quote`. -/
def escape (quote c : Char) : List Char :=
  if c == '\x00' then ['\\', '0']
  else if c == '\t' then ['\\', 't']
  else if c == '\r' then ['\\', 'r']
  else if c == '\n' then ['\\', 'n']
  else if c == '\\' || c == quote then ['\\', c]
  else if Unicode.isGraphemeExtend c || !Unicode.isPrintable c then byNumber c
  else [c]

/-- A text between double quotes. -/
def text (s : String) : String :=
  .ofList ('"' :: s.toList.flatMap (escape '"') ++ ['"'])

/-- A character between single quotes. -/
def char (c : Char) : String := .ofList ('\'' :: escape '\'' c ++ ['\''])

end Emend.Quoted
