/-!
# Paths

A path is a text that names a place in a tree of files: names between slashes. It is absolute if it
starts with a slash.

- `Path.components` lists what is to be walked through, in order;
- `Path.join` puts a path below another;
- `Path.fileName?`, `Path.parent?`, `Path.stem?` and `Path.extension?` take a path apart without
  asking the tree.

A `Location` is the list of names that lead from the top of a tree to a place in it, through no
links.
-/

namespace Emend

/-- The text that names a place. -/
abbrev Path := String

/-- The names from the top of a tree down to a place. -/
abbrev Location := List String

/-- The absolute path of a location. -/
def Location.path (l : Location) : Path :=
  if l.isEmpty then "/" else String.join (l.map ("/" ++ ·))

namespace Path

/-- The pieces of a text between slashes; there is one more of them than there are slashes. -/
def pieces : List Char → List (List Char)
  | [] => [[]]
  | c :: rest =>
    if c = '/' then [] :: pieces rest
    else
      match pieces rest with
      | [] => [[c]]
      | p :: more => (c :: p) :: more

/-- Whether a path starts at the top. -/
def isAbsolute (p : Path) : Bool := p.toList.head? == some '/'

/-- Whether a path ends in a slash. -/
def endsInSlash (p : Path) : Bool := p.toList.getLast? == some '/'

/-- What a path walks through: its names, and at the end of a path with a slash there a dot, since
what is named like this has to be a directory. -/
def components (p : Path) : List String :=
  ((pieces p.toList).filter (!·.isEmpty)).map .ofList ++ if endsInSlash p then ["."] else []

/-- A path below another. An absolute path stays as it is. -/
def join (base p : Path) : Path :=
  if isAbsolute p then p
  else if base.isEmpty || endsInSlash base then base ++ p
  else base ++ "/" ++ p

/-! ## Taking a path apart -/

/-- What stands before the names of a path: the slash of an absolute path, or the dot at the start
of a relative one. -/
inductive Lead where
  | top
  | here
  | nothing
  deriving DecidableEq, Repr, Inhabited

/-- The text of a lead. -/
def Lead.text : Lead → String
  | top => "/"
  | here => "."
  | nothing => ""

/-- Splits off the lead. The pieces after it may be empty or dots, which do not count. -/
def split (p : Path) : Lead × List String :=
  match p.toList with
  | '/' :: rest => (.top, (pieces rest).map .ofList)
  | '.' :: '/' :: rest => (.here, "" :: (pieces rest).map .ofList)
  | ['.'] => (.here, [])
  | text => (.nothing, (pieces text).map .ofList)

/-- Leaves out pieces that do not count from the end. -/
def trimPieces (ps : List String) : List String :=
  (ps.reverse.dropWhile fun p => p.isEmpty || p == ".").reverse

/-- The name at the end of a path. There is none if the path ends at the top, or with a step up. -/
def fileName? (p : Path) : Option String :=
  match (trimPieces (split p).2).getLast? with
  | some name => if name == ".." then none else some name
  | none => none

/-- The path without its last component, if it has one. -/
def parent? (p : Path) : Option Path :=
  let (lead, ps) := split p
  match trimPieces ps with
  | [] => if lead == .here then some "" else none
  | ps => some (lead.text ++ "/".intercalate (trimPieces ps.dropLast))

/-- A name before and after its last dot. A dot at the start does not count. -/
def splitName (name : String) : String × Option String :=
  match name.toList.reverse.span (· != '.') with
  | (_, []) | (_, [_]) => (name, none)
  | (after, _ :: before) =>
    if name == ".." then (name, none) else (.ofList before.reverse, some (.ofList after.reverse))

/-- The name at the end of a path without what follows its last dot. -/
def stem? (p : Path) : Option String := (fileName? p).map fun name => (splitName name).1

/-- What follows the last dot of the name at the end of a path. -/
def extension? (p : Path) : Option String := (fileName? p).bind fun name => (splitName name).2

end Path

end Emend
