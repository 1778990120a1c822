/-!
# Middle snakes

Two lists span a grid: a path from its first corner to its last deletes an item of the first list by
a step to the right, inserts one of the second by a step down, and keeps an item that both have by a
diagonal step. A run of diagonal steps is a snake.

Paths with the fewest edits are looked for from both corners at once, one edit more in each round.
Of the paths with the same number of edits, the one that gets furthest on each diagonal is kept. A
path is found when one from the first corner meets one from the last, and `Snake.middle` is the
point where a snake in the middle of it starts.
-/

namespace Emend.Snake

/-- How far paths get on each diagonal, counted in items of the first list. -/
structure Frontier where
  reach : Array Nat
  /-- The index of diagonal zero. -/
  centre : Nat
  deriving Repr, Inhabited

namespace Frontier

/-- Paths that have not started yet. No more than a number of edits are made. -/
def start (edits : Nat) : Frontier := ⟨Array.replicate (2 * edits + 3) 0, edits + 1⟩

/-- How far a path gets on a diagonal. -/
def onDiagonal (f : Frontier) (k : Int) : Nat := f.reach.getD (k + f.centre).toNat 0

/-- Notes how far a path gets on a diagonal. -/
def note (f : Frontier) (k : Int) (x : Nat) : Frontier :=
  { f with reach := f.reach.setIfInBounds (k + f.centre).toNat x }

/-- Where the best path of a number of edits enters a diagonal: from above or from the left. -/
def entry (f : Frontier) (edits : Nat) (k : Int) : Nat :=
  if k == -(edits : Int) || (k != edits && f.onDiagonal (k - 1) < f.onDiagonal (k + 1)) then
    f.onDiagonal (k + 1)
  else f.onDiagonal (k - 1) + 1

end Frontier

/-- The diagonals that paths of a number of edits can end on, from the right. -/
def diagonals (edits : Nat) : List Int :=
  (List.range (edits + 1)).map fun (i : Nat) => (edits : Int) - 2 * (i : Int)

variable {α : Type} [DecidableEq α]

/-- The number of items that two lists share from two places on. -/
def runLength (a b : Array α) (x y : Nat) : Nat :=
  if h : x < a.size ∧ y < b.size then
    if a[x] = b[y] then runLength a b (x + 1) (y + 1) + 1 else 0
  else 0
termination_by a.size - x

/-- A point of the grid, as a path enters a diagonal and after its snake. -/
structure Meeting where
  entry : Nat × Nat
  exit : Nat × Nat
  deriving DecidableEq, Repr, Inhabited

/-- Makes one edit more on each of some diagonals, until a path meets one from the other corner. A
meeting counts on diagonals near enough to the other corner's. -/
def advance (a b : Array α) (edits : Nat) (other : Frontier) (near : Int → Bool) :
    List Int → Frontier → Option Meeting × Frontier
  | [], f => (none, f)
  | k :: rest, f =>
    let x := f.entry edits k
    let y := ((x : Int) - k).toNat
    let run := runLength a b x y
    let f := f.note k (x + run)
    let opposite := (a.size : Int) - b.size - k
    if near k && a.size ≤ x + run + other.onDiagonal opposite then
      (some ⟨(x, y), (x + run, y + run)⟩, f)
    else advance a b edits other near rest f

/-- Goes on with one edit more in each round. The paths from the last corner are paths from the
first corner for the reversed lists. -/
def rounds (a b aReversed bReversed : Array α) :
    (remaining edits : Nat) → (forward backward : Frontier) → Option (Nat × Nat)
  | 0, _, _, _ => none
  | remaining + 1, edits, forward, backward =>
    let delta := (a.size : Int) - b.size
    let distance (k : Int) : Nat := (k - delta).natAbs
    let nearForward k := delta % 2 != 0 && distance k < edits
    let nearBackward k := delta % 2 == 0 && distance k ≤ edits
    match advance a b edits backward nearForward (diagonals edits) forward with
    | (some meeting, _) => some meeting.entry
    | (none, forward) =>
      match advance aReversed bReversed edits forward nearBackward (diagonals edits) backward with
      | (some meeting, _) => some (a.size - meeting.exit.1, b.size - meeting.exit.2)
      | (none, backward) => rounds a b aReversed bReversed remaining (edits + 1) forward backward

/-- The point where a snake in the middle of a best path starts. -/
def middle (a b : List α) : Option (Nat × Nat) :=
  let edits := (a.length + b.length + 1) / 2 + 1
  rounds a.toArray b.toArray a.reverse.toArray b.reverse.toArray edits 0 (.start edits)
    (.start edits)

end Emend.Snake
