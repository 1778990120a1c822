import Emend.Text.Hexadecimal

/-!
# Tables of character ranges

A property of characters is kept as a sorted table of code point ranges. The tables of this
library are written as text: hexadecimal code points and ranges, separated by blanks, as in
`"41-5a 61-7a aa"`.

- `RangeTable.ofText` reads such a text;
- `RangeTable.contains` decides membership by halving the table, so that a class with many hundred
  ranges costs about ten comparisons per character.
-/

namespace Emend.Unicode

/-- A sorted sequence of disjoint ranges of code points, both ends included. -/
structure RangeTable where
  ranges : Array (Nat × Nat)
  deriving Inhabited, Repr, DecidableEq

/-- A class of characters under its names, the ranges still written as text. The names are in
normal form. -/
structure NamedRanges where
  names : List String
  ranges : String

namespace RangeTable

/-- What has been read of a written table: the finished ranges, the lower end of a range whose
upper end is still to come, and the number that is being read. -/
structure Reading where
  finished : Array (Nat × Nat)
  low : Option Nat
  number : Option Nat

/-- Ends the number that is being read and with it its range. -/
def Reading.flush (r : Reading) : Reading :=
  match r.low, r.number with
  | some a, some b => ⟨r.finished.push (a, b), none, none⟩
  | none, some b => ⟨r.finished.push (b, b), none, none⟩
  | _, none => r

/-- Reads one more character: a digit goes on with the number, a hyphen makes it the lower end of
a range, anything else ends the range. -/
def Reading.step (r : Reading) (c : Char) : Reading :=
  match Hex.digit? c with
  | some d => { r with number := some (r.number.getD 0 * 16 + d) }
  | none => if c = '-' then { r with low := r.number, number := none } else r.flush

/-- The table that a text writes down. -/
def ofText (text : String) : RangeTable :=
  ⟨(text.foldl Reading.step ⟨#[], none, none⟩).flush.finished⟩

/-- Whether `c` lies in one of the ranges with an index from `low` up to but not including
`high`. -/
def search (t : RangeTable) (c low high : Nat) : Bool :=
  if low < high then
    let middle := low + (high - low) / 2
    match t.ranges[middle]? with
    | none => false
    | some (a, b) =>
      if c < a then t.search c low middle
      else if b < c then t.search c (middle + 1) high
      else true
  else false
termination_by high - low
decreasing_by all_goals omega

/-- Whether the table holds the character. -/
def contains (t : RangeTable) (c : Char) : Bool :=
  t.search c.toNat 0 t.ranges.size

end RangeTable

end Emend.Unicode
