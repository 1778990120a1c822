import Emend.Pattern.Program

/-!
# Searching

A search tries the places of a text from left to right and, at each, the ways through a program in
their order of preference. The first way that reaches the end is the match.

- `Program.explore` follows the ways from one place. A way that comes to a node at a place where
  another has been is given up: what failed once fails again, and what did not is preferred. So
  each pair of a node and a place is worked on once;
- `Program.search?` finds the first match at or after a place;
- `Program.allMatches` lists the matches of a text that do not overlap. An empty match right at the
  end of the match before it is passed over, and the search goes on one character further.
-/

namespace Emend

/-- A place in a text: the number of characters before it, the last of them, and the rest. -/
structure Cursor where
  position : Nat
  before : Option Char
  rest : List Char
  deriving DecidableEq, Repr, Inhabited

namespace Cursor

/-- The start of a text. -/
def start (text : List Char) : Cursor := ⟨0, none, text⟩

/-- The place after the next character. -/
def next? : Cursor → Option Cursor
  | ⟨_, _, []⟩ => none
  | ⟨n, _, c :: rest⟩ => some ⟨n + 1, some c, rest⟩

/-- The text from one place up to another. -/
def textTo (a b : Cursor) : List Char := a.rest.take (b.position - a.position)

end Cursor

/-- The pairs of a node and a place that have been worked on: for each place, counted from the
start of the search, a number whose binary digits say which nodes. -/
structure Visited where
  rows : Array Nat := #[]
  deriving Inhabited

namespace Visited

/-- Whether a node has been worked on at a place. -/
def contains (v : Visited) (node place : Nat) : Bool :=
  (v.rows[place]?.getD 0).testBit node

/-- Adds rows so that there is one for a place. -/
def growTo (rows : Array Nat) (place : Nat) : Array Nat :=
  if place < rows.size then rows else rows ++ Array.replicate (place + 1 - rows.size) 0

/-- Adds a node at a place. -/
def insert (v : Visited) (node place : Nat) : Visited :=
  ⟨(growTo v.rows place).modify place (· ||| (1 <<< node))⟩

end Visited

/-- A way through a program: the node it has come to, the place, and the places it has marked,
last first. -/
structure Way where
  node : Nat
  place : Cursor
  marks : List (Nat × Cursor)
  deriving Inhabited

/-- The place last marked in a slot. -/
def Way.mark? (w : Way) (slot : Nat) : Option Cursor := w.marks.lookup slot

namespace Program

/-- The ways that lead on from a way, the preferred one first. -/
def onward (p : Program) (w : Way) : List Way :=
  match p.node w.node with
  | some (.eat s next) =>
    match w.place with
    | ⟨n, _, c :: rest⟩ => if s.contains c then [⟨next, ⟨n + 1, some c, rest⟩, w.marks⟩] else []
    | _ => []
  | some (.look a next) =>
    if a.holds w.place.before w.place.rest.head? then [{ w with node := next }] else []
  | some (.mark slot next) => [⟨next, w.place, (slot, w.place) :: w.marks⟩]
  | some (.fork first second) => [{ w with node := first }, { w with node := second }]
  | some .accept | none => []

/-- Whether a way has come to the end. -/
def accepts (p : Program) (w : Way) : Bool := p.node w.node == some .accept

/-- Follows the ways on a stack, in order, until one comes to the end. Places count from `origin`.
Every round takes a way off the stack. -/
def explore (p : Program) (origin : Nat) :
    (rounds : Nat) → List Way → Visited → Option Way × Visited
  | 0, _, visited => (none, visited)
  | _, [], visited => (none, visited)
  | rounds + 1, w :: stack, visited =>
    let place := w.place.position - origin
    if visited.contains w.node place then p.explore origin rounds stack visited
    else if p.accepts w then (some w, visited)
    else p.explore origin rounds (p.onward w ++ stack) (visited.insert w.node place)

/-- Enough rounds for a text: each pair of a node and a place is worked on once and puts at most
two ways on the stack. -/
def enoughRounds (p : Program) (length : Nat) : Nat :=
  2 * p.nodes.size * (length + 1) + 2

/-- Tries the places of the rest of a text from left to right. -/
def searchFrom (p : Program) (origin rounds : Nat) (visited : Visited) (position : Nat)
    (before : Option Char) : (rest : List Char) → Option Way
  | [] => (p.explore origin rounds [⟨p.start, ⟨position, before, []⟩, []⟩] visited).1
  | c :: rest =>
    match p.explore origin rounds [⟨p.start, ⟨position, before, c :: rest⟩, []⟩] visited with
    | (some w, _) => some w
    | (none, visited) => searchFrom p origin rounds visited (position + 1) (some c) rest

end Program

/-- A match: where it starts and ends, and the way that found it. -/
structure Match where
  start : Cursor
  stop : Cursor
  way : Way
  deriving Inhabited

namespace Match

/-- The text of a group, if it took part in the match. Group 0 is the whole match. -/
def group? (m : Match) (index : Nat) : Option (List Char) := do
  let a ← m.way.mark? (2 * index)
  let b ← m.way.mark? (2 * index + 1)
  some (a.textTo b)

/-- Whether the match is empty. -/
def isEmpty (m : Match) : Bool := m.start.position == m.stop.position

end Match

namespace Program

/-- The first match that starts at or after a place. -/
def search? (p : Program) (c : Cursor) : Option Match := do
  let w ← p.searchFrom c.position (p.enoughRounds c.rest.length) {} c.position c.before c.rest
  some ⟨← w.mark? 0, w.place, w⟩

/-- The first match at or after a place that is not empty at the end of the match before. -/
def searchPast? (p : Program) (lastEnd : Option Nat) (c : Cursor) : Option Match := do
  let m ← p.search? c
  if m.isEmpty && lastEnd == some m.stop.position then p.search? (← c.next?) else some m

/-- The matches at and after a place. Each starts further on than the one before it, so `rounds`
is one more than the number of places left. -/
def matchesFrom (p : Program) : (rounds : Nat) → (lastEnd : Option Nat) → Cursor → List Match
  | 0, _, _ => []
  | rounds + 1, lastEnd, c =>
    match p.searchPast? lastEnd c with
    | none => []
    | some m => m :: p.matchesFrom rounds (some m.stop.position) m.stop

/-- The matches of a text, from left to right. -/
def allMatches (p : Program) (text : List Char) : List Match :=
  p.matchesFrom (text.length + 2) none (.start text)

end Program

end Emend
