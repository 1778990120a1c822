import Emend.Tree.Basic

/-!
# Changes to a tree

- `Tree.modify` changes the file at a location;
- `Tree.create` and `Tree.remove` put a file where nothing stands and take it away;
- `Tree.vacantIn` is a place for a temporary file.
-/

namespace Emend

namespace Tree

/-- Changes the file at a location, if one stands there. -/
def modify (t : Tree) (l : Location) (g : File → File) : Tree :=
  match t.fileAt? l with
  | some f => t.replace l (g f)
  | none => t

/-- Puts a file at a location where nothing stands. -/
def create (t : Tree) (l : Location) (f : File) : Tree :=
  { t with entries := t.entries ++ [(l, .file f)] }

/-- Takes away what stands at a location. -/
def remove (t : Tree) (l : Location) : Tree :=
  { t with entries := t.entries.filter fun entry => entry.1 ≠ l }

/-- Moves a file to the place of another one. -/
def rename (t : Tree) (l place : Location) : Tree :=
  match t.fileAt? l with
  | some f => (t.remove l).replace place f
  | none => t

/-- Places in a directory for a temporary file, more than there are entries in the tree. -/
def temporaries (t : Tree) (directory : Location) : List Location :=
  (List.range (t.entries.length + 1)).map fun n =>
    directory ++ [".tmp" ++ String.ofList (List.replicate n 'x')]

/-- A place in a directory where nothing stands. -/
def vacantIn (t : Tree) (directory : Location) : Location :=
  ((t.temporaries directory).find? fun l => (t.at? l).isNone).getD []

end Tree

end Emend
