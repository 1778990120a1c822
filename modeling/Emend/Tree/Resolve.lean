import Emend.Tree.Basic

/-!
# Where paths lead

A path is followed through directories and links to the location that it names, or it leads nowhere
for a reason. At most `linkLimit` links are followed. There are two ways to ask:

- `Tree.find` hands the path to the system as it is written. So do all other questions about paths
  (`exists`, `isFile`, `isDirectory`, `read`, `readText`, `list`, `fileNames`).
- `Tree.canonicalize` builds the path of the location name by name, and hands to the system what it
  has got so far. The path may be as long as it likes, but not that of a location on the way.
-/

namespace Emend

/-- Why the system refuses to do something with a path. -/
inductive SystemFault where
  | notFound
  | notDirectory
  | isDirectory
  | nameTooLong
  | tooManyLinks
  /-- The path holds a character that no path can hold. -/
  | nulByte
  /-- The bytes of a file are no text. -/
  | notText
  | readOnly
  /-- The file or its directory is not for this user. -/
  | denied
  | notPermitted
  /-- Any other reason, in the words of the system. -/
  | other (message : String)
  deriving DecidableEq, Repr, Inhabited

/-- What the system says of it. -/
def SystemFault.message : SystemFault → String
  | notFound => "No such file or directory (os error 2)"
  | notDirectory => "Not a directory (os error 20)"
  | isDirectory => "Is a directory (os error 21)"
  | nameTooLong => "File name too long (os error 36)"
  | tooManyLinks => "Too many levels of symbolic links (os error 40)"
  | nulByte => "file name contained an unexpected NUL byte"
  | notText => "stream did not contain valid UTF-8"
  | readOnly => "target is read-only"
  | denied => "Permission denied (os error 13)"
  | notPermitted => "Operation not permitted (os error 1)"
  | other message => message

/-- The greatest number of links on a way. -/
def linkLimit : Nat := 40

/-- The greatest number of bytes in a name. -/
def nameLimit : Nat := 255

/-- One byte more than a path may have that is handed to the system. -/
def pathLimit : Nat := 4096

/-- Whether a path may be handed to the system. -/
def Path.fits (p : Path) : Bool := p.utf8ByteSize < pathLimit

/-- How far a walk has come. -/
inductive Walk where
  | arrived (l : Location)
  | failed (fault : SystemFault)
  /-- A link was met in a directory, with names still to go. -/
  | met (directory : Location) (target : Path) (pending : List String)

/-- The path by which a step is asked for: that of the place below, or that of the directory itself
with a slash after it. -/
def Location.step (l : Location) (name : String) : Path :=
  if name = "." || name = ".." then l.path ++ "/" else Location.path (l ++ [name])

namespace Tree

/-- Walks on from a location up to the first link. Each step starts from a directory, and it is
taken if the path fits by which it would be asked for (`Location.step`). -/
def walk (t : Tree) (fits : Path → Bool) (l : Location) : List String → Walk
  | [] => .arrived l
  | name :: rest =>
    if !fits (l.step name) then .failed .nameTooLong
    else if !t.isDirectoryAt l then .failed .notDirectory
    else if name = "." then t.walk fits l rest
    else if name = ".." then t.walk fits l.dropLast rest
    else if nameLimit < name.utf8ByteSize then .failed .nameTooLong
    else
      match t.at? (l ++ [name]) with
      | none => .failed .notFound
      | some (.link target) => .met l target rest
      | some _ => t.walk fits (l ++ [name]) rest

/-- Where a path starts, seen from a directory. -/
def startOf (directory : Location) (p : Path) : Location :=
  if Path.isAbsolute p then [] else directory

/-- Walks on from a location, through at most `links` links. -/
def follow (t : Tree) (fits : Path → Bool) (links : Nat) (l : Location) (pending : List String) :
    Except SystemFault Location :=
  match t.walk fits l pending with
  | .arrived l => .ok l
  | .failed fault => .error fault
  | .met directory target rest =>
    match links with
    | 0 => .error .tooManyLinks
    | links + 1 =>
      follow t fits links (startOf directory target) (Path.components target ++ rest)

/-- The location to which a path leads, if all fits that is asked for on the way. -/
def locate (t : Tree) (fits : Path → Bool) (p : Path) : Except SystemFault Location :=
  if p.toList.contains '\x00' then .error .nulByte
  else if p.isEmpty then .error .notFound
  else t.follow fits linkLimit (startOf t.here p) (Path.components p)

/-- The location that a path names, with a path that the system takes at each step on the way. -/
def canonicalize (t : Tree) (p : Path) : Except SystemFault Location :=
  t.locate Path.fits p

/-- The location that the system finds for a path. -/
def find (t : Tree) (p : Path) : Except SystemFault Location :=
  if !Path.fits p && !p.toList.contains '\x00' then .error .nameTooLong
  else t.locate (fun _ => true) p

/-- Whether a path names anything. -/
def «exists» (t : Tree) (p : Path) : Bool := (t.find p).isOk

/-- Whether a path names a regular file. -/
def isFile (t : Tree) (p : Path) : Bool :=
  match t.find p with
  | .ok l => (t.fileAt? l).isSome
  | .error _ => false

/-- Whether a path names a directory. -/
def isDirectory (t : Tree) (p : Path) : Bool :=
  match t.find p with
  | .ok l => t.isDirectoryAt l
  | .error _ => false

/-- The file that a path names. -/
def read (t : Tree) (p : Path) : Except SystemFault File := do
  match t.fileAt? (← t.find p) with
  | some f => return f
  | none => throw .isDirectory

/-- The text of the file that a path names. -/
def readText (t : Tree) (p : Path) : Except SystemFault String := do
  match (← t.read p).text? with
  | some text => return text
  | none => throw .notText

/-- The names and entries of the directory that a path names. -/
def list (t : Tree) (p : Path) : Except SystemFault (List (String × Entry)) := do
  let l ← t.find p
  if t.isDirectoryAt l then return t.children l else throw .notDirectory

/-- The names of the regular files of a directory. Links do not count. -/
def fileNames (t : Tree) (directory : Path) : List String :=
  match t.list directory with
  | .ok entries => entries.filterMap fun (name, e) =>
      match e with
      | .file _ => some name
      | _ => none
  | .error _ => []

end Tree

end Emend
