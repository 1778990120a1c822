import Emend.Unicode.RangeTable
import Emend.Unicode.CaseFolding

/-!
# Sets of characters

What one place of a pattern accepts is a set of characters. A set is kept as it was put together,
from ranges and tables by the operations of set algebra, and is asked for one character at a time:
`CharSet.contains` follows the shape of the set, so each operation has the membership law that its
name says.
-/

namespace Emend

/-- Which characters count as differing only in case: all mates, or plain letters only. -/
inductive Folding where
  | full
  | ascii
  deriving DecidableEq, Repr, Inhabited

/-- The characters that a folding takes for the same as `c`. -/
def Folding.mates : Folding → Char → List Char
  | .full, c => Unicode.caseMates c
  | .ascii, c => Unicode.asciiCaseMates c

/-- A set of characters. -/
inductive CharSet where
  /-- No character. -/
  | empty
  /-- One character. -/
  | one (c : Char)
  /-- The characters from `low` to `high`, both included. -/
  | range (low high : Char)
  /-- The characters of a table. -/
  | table (t : Unicode.RangeTable)
  /-- The characters outside a set. -/
  | compl (s : CharSet)
  | union (s t : CharSet)
  | inter (s t : CharSet)
  /-- The characters of the first set that are not in the second. -/
  | diff (s t : CharSet)
  /-- The characters of exactly one of the two sets. -/
  | symmDiff (s t : CharSet)
  /-- The characters of a set and their mates. -/
  | folded (f : Folding) (s : CharSet)
  deriving Inhabited, Repr, DecidableEq

namespace CharSet

/-- Whether a set holds a character. -/
def contains : CharSet → Char → Bool
  | empty, _ => false
  | one d, c => c == d
  | range low high, c => low ≤ c && c ≤ high
  | table t, c => t.contains c
  | compl s, c => !s.contains c
  | union s t, c => s.contains c || t.contains c
  | inter s t, c => s.contains c && t.contains c
  | diff s t, c => s.contains c && !t.contains c
  | symmDiff s t, c => s.contains c != t.contains c
  | folded f s, c => s.contains c || (f.mates c).any s.contains

/-- All characters. -/
def all : CharSet := compl empty

/-- The characters of any of the sets. -/
def unionAll : List CharSet → CharSet
  | [] => empty
  | [s] => s
  | s :: t :: rest => s.union (unionAll (t :: rest))

/-- A character, and its mates if case is not to count. -/
def ofChar (folding : Option Folding) (c : Char) : CharSet :=
  match folding with
  | none => one c
  | some f => unionAll (one c :: (f.mates c).map one)

/-- Closes a set under case if case is not to count. -/
def foldBy (folding : Option Folding) (s : CharSet) : CharSet :=
  match folding with
  | none => s
  | some f => s.folded f

/-- Complements a set if asked to. -/
def negateIf (negated : Bool) (s : CharSet) : CharSet :=
  if negated then s.compl else s

/-- Whether a set is closed under case somewhere. -/
def hasFolding : CharSet → Bool
  | folded .. => true
  | compl s => s.hasFolding
  | union s t | inter s t | diff s t | symmDiff s t => s.hasFolding || t.hasFolding
  | empty | one _ | range .. | table _ => false

/-- About how many bytes a compiled pattern spends on the ranges of a set, if case counts. -/
def plainWeight : CharSet → Nat
  | empty => 32
  | one c => 32 * c.utf8Size
  | range low high => if high.toNat < 0x80 then 40 else if low = high then 128 else 160
  | table t => 200 + 80 * t.ranges.size
  | compl s => 500 + s.plainWeight
  | union s t | inter s t | diff s t | symmDiff s t => s.plainWeight + t.plainWeight
  | folded _ s => s.plainWeight

/-- The greatest weight of a set: even sets of many ranges share most of their states. -/
def weightBound : Nat := 100000

/-- About how many bytes a compiled pattern spends on one place that accepts the set: a plain
character costs one state, a class beyond the first 128 characters a few states for each range.
Closing a set under case doubles its ranges, but only once. -/
def weight (s : CharSet) : Nat :=
  min weightBound (if s.hasFolding then 2 * s.plainWeight else s.plainWeight)

end CharSet

end Emend
