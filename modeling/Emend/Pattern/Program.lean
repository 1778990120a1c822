import Emend.Pattern.Regex

/-!
# Programs that match

A regular expression is run as a program: a table of nodes, each of which says what to do at a
place of the text and where to go on. Nodes are laid down from the end of an expression to its
start, so that each knows the one that follows it; only a loop has to refer to a node that is laid
down before its body and filled in after it.

`Program.ofRegex` lays an expression down between two marks of slots 0 and 1, which say where the
whole match starts and ends.
-/

namespace Emend

/-- A node of a program. -/
inductive Node where
  /-- Takes a character of a set. -/
  | eat (s : CharSet) (next : Nat)
  /-- Goes on if an assertion holds. -/
  | look (a : Assertion) (next : Nat)
  /-- Notes the present place in a slot. -/
  | mark (slot next : Nat)
  /-- Tries two ways, the first one preferred. -/
  | fork (first second : Nat)
  /-- Ends a match. -/
  | accept
  deriving DecidableEq, Repr, Inhabited

/-- A fork that prefers its body if greedy, and the way past it if not. -/
def Node.choice (greedy : Bool) (body past : Nat) : Node :=
  if greedy then fork body past else fork past body

/-- A table of nodes and the node at which to start. -/
structure Program where
  nodes : Array Node
  start : Nat
  deriving Repr, Inhabited

/-- A way to lay down nodes in front of a given one: the node to start at and the longer table. -/
abbrev Layout := (next : Nat) → Array Node → Nat × Array Node

namespace Layout

/-- Lays down one node. -/
def one (n : Nat → Node) : Layout := fun next nodes => (nodes.size, nodes.push (n next))

/-- The layout of what stands first in front of what stands second. -/
def before (first second : Layout) : Layout := fun next nodes =>
  let (middle, nodes) := second next nodes
  first middle nodes

/-- A number of copies, one in front of the other. -/
def copies (body : Layout) : Nat → Layout
  | 0 => fun next nodes => (next, nodes)
  | n + 1 => (body.copies n).before body

/-- The body, any number of times from once on. -/
def atLeastOnce (greedy : Bool) (body : Layout) : Layout := fun next nodes =>
  let loop := nodes.size
  let (entry, nodes) := body loop (nodes.push .accept)
  (entry, nodes.setIfInBounds loop (.choice greedy entry next))

/-- The body, any number of times. One fork both enters and repeats it, which prefers the right
way only if the body takes at least a character each time. -/
def loop (greedy : Bool) (body : Layout) : Layout := fun next nodes =>
  let loop := nodes.size
  let (entry, nodes) := body loop (nodes.push .accept)
  (loop, nodes.setIfInBounds loop (.choice greedy entry next))

/-- The body or nothing; nothing leads to the node `past`. -/
def orPast (greedy : Bool) (past : Nat) (body : Layout) : Layout := fun next nodes =>
  let (entry, nodes) := body next nodes
  (nodes.size, nodes.push (.choice greedy entry past))

/-- The body at most a number of times. -/
def atMost (greedy : Bool) (body : Layout) (n : Nat) : Layout := fun next nodes =>
  (body.orPast greedy next).copies n next nodes

/-- Either of two. -/
def either (first second : Layout) : Layout := fun next nodes =>
  let (b, nodes) := second next nodes
  let (a, nodes) := first next nodes
  (nodes.size, nodes.push (.fork a b))

end Layout

/-- The layout of an expression. A body that may be empty is repeated from nothing on as a loop
that may be left out, so that an empty round ends the loop without losing a preferred way. -/
def Regex.layout : Regex → Layout
  | empty => fun next nodes => (next, nodes)
  | char s => .one (.eat s)
  | assertion a => .one (.look a)
  | seq r s => r.layout.before s.layout
  | alt r s => r.layout.either s.layout
  | group index r =>
    (Layout.one (.mark (2 * index))).before (r.layout.before (.one (.mark (2 * index + 1))))
  | times 0 none greedy r =>
    if r.maybeEmpty then fun next nodes =>
      (r.layout.atLeastOnce greedy).orPast greedy next next nodes
    else r.layout.loop greedy
  | times (least + 1) none greedy r => (r.layout.copies least).before (r.layout.atLeastOnce greedy)
  | times least (some most) greedy r =>
    (r.layout.copies least).before (r.layout.atMost greedy (most - least))

/-- The program of an expression. -/
def Program.ofRegex (r : Regex) : Program :=
  let (start, nodes) := (Regex.group 0 r).layout 0 #[.accept]
  ⟨nodes, start⟩

/-- The node with a number; a number outside the table would end nothing. -/
def Program.node (p : Program) (n : Nat) : Option Node := p.nodes[n]?

end Emend
