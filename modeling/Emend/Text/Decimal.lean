/-!
# Decimal numbers

- `Decimal.value` is the number that a text of decimal digits writes;
- `Decimal.exceedsDouble` says whether a decimal fraction is too large for a double, that is, would
  be rounded to infinity.
-/

namespace Emend.Decimal

/-- The value of a decimal digit. -/
def digitValue (c : Char) : Nat := c.toNat - '0'.toNat

/-- The number that digits write, the first one counting most. -/
def value (digits : List Char) : Nat := digits.foldl (fun n c => 10 * n + digitValue c) 0

/-- The least number that is rounded to infinity: half a step above the greatest double. -/
def doubleBound : Nat := Nat.pow 2 1024 - Nat.pow 2 970

/-- Whether `mantissa * 10 ^ exponent` is rounded to infinity. A number of more than 400 digits
before the point is, one of less than 300 is not, whatever its digits. -/
def exceedsDouble (mantissa : Nat) (exponent : Int) : Bool :=
  let length : Int := (Nat.toDigits 10 mantissa).length + exponent
  if mantissa = 0 ∨ length < 300 then false
  else if 400 < length then true
  else if exponent < 0 then doubleBound * Nat.pow 10 exponent.natAbs ≤ mantissa
  else doubleBound ≤ mantissa * Nat.pow 10 exponent.natAbs

end Emend.Decimal
