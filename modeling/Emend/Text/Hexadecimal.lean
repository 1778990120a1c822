/-!
# Hexadecimal numbers

Digits of both cases, the numbers that they write, and the characters with those numbers.
-/

namespace Emend.Hex

/-- The value of a hexadecimal digit. -/
def digit? (c : Char) : Option Nat :=
  if '0' ≤ c ∧ c ≤ '9' then some (c.toNat - '0'.toNat)
  else if 'a' ≤ c ∧ c ≤ 'f' then some (c.toNat - 'a'.toNat + 10)
  else if 'A' ≤ c ∧ c ≤ 'F' then some (c.toNat - 'A'.toNat + 10)
  else none

/-- The number that hexadecimal digits write. -/
def value? (digits : List Char) : Option Nat :=
  digits.foldlM (fun n c => (digit? c).map (n * 16 + ·)) 0

/-- The character with a code point, if there is one. -/
def charOfCode? (n : Nat) : Option Char :=
  if n.isValidChar then some (Char.ofNat n) else none

/-- The character whose code point hexadecimal digits write. -/
def char? (digits : List Char) : Option Char := (value? digits).bind charOfCode?

/-- Takes a fixed number of hexadecimal digits from the start of a text: their number and the
rest. -/
def take? (count : Nat) (text : List Char) : Option (Nat × List Char) :=
  if count ≤ text.length then (value? (text.take count)).map (·, text.drop count) else none

end Emend.Hex
