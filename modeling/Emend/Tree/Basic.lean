import Emend.Tree.Path

/-!
# Trees of files

A tree says what stands at each location: a regular file, a directory or a link. The top is a
directory. A tree also knows the directory from which relative paths start.

- `Tree.at?` looks a location up;
- `Tree.children` lists a directory;
- `Tree.replace` gives a file a new content and keeps all else.
-/

namespace Emend

/-- A regular file: its bytes, its permissions, and whether it was written since someone last
looked. -/
structure File where
  content : ByteArray
  mode : Nat := 0o644
  written : Bool := false
  deriving Inhabited

/-- Files are compared byte by byte. -/
instance : DecidableEq File := fun f g =>
  decidable_of_iff
    (f.content.data = g.content.data ∧ f.mode = g.mode ∧ f.written = g.written) <| by
      cases f
      cases g
      simp [ByteArray.ext_iff]

namespace File

/-- The text of a file, if its bytes are one. -/
def text? (f : File) : Option String := String.fromUTF8? f.content

/-- Whether nobody may write to the file. -/
def isReadOnly (f : File) : Bool := f.mode &&& 0o222 == 0

/-- The file with another text in it. -/
def withText (f : File) (text : String) : File :=
  { f with content := text.toUTF8, written := true }

end File

/-- What stands at a location. -/
inductive Entry where
  | file (f : File)
  | directory
  /-- A link to the place that a path names, seen from the directory of the link. -/
  | link (target : Path)
  deriving Inhabited, DecidableEq

/-- A tree of files. -/
structure Tree where
  entries : List (Location × Entry)
  /-- The directory from which relative paths start. -/
  here : Location := []
  deriving Inhabited, DecidableEq

namespace Tree

/-- What stands at a location. -/
def at? (t : Tree) (l : Location) : Option Entry :=
  if l.isEmpty then some .directory else t.entries.lookup l

/-- Whether a directory stands at a location. -/
def isDirectoryAt (t : Tree) (l : Location) : Bool :=
  match t.at? l with
  | some .directory => true
  | _ => false

/-- The file at a location. -/
def fileAt? (t : Tree) (l : Location) : Option File :=
  match t.at? l with
  | some (.file f) => some f
  | _ => none

/-- The names and entries of a directory. -/
def children (t : Tree) (l : Location) : List (String × Entry) :=
  t.entries.filterMap fun (k, e) =>
    match k.getLast? with
    | some name => if k.dropLast = l then some (name, e) else none
    | none => none

/-- Puts a file in the place of what stands at a location. -/
def replace (t : Tree) (l : Location) (f : File) : Tree :=
  { t with entries := t.entries.map fun entry => if entry.1 = l then (l, .file f) else entry }

end Tree

end Emend
