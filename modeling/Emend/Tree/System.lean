import Emend.Text.Quoted
import Emend.Tree.Edit
import Emend.Tree.Resolve

/-!
# What the system lets through

A text is put in the place of a file by several calls to the system (`Call`), and the system may
refuse each of them: the file is somebody else's, or its directory is, or the disk is full. A
`System` says what is refused.

- `System.attempt` makes calls in order, until one is refused.
- `System.rewrite` puts a text in the place of a file. It is written to a temporary file beside it,
  which then takes its place, so that the file has its new text or its old one. Only if the directory
  is not for this user and takes no temporary file, the text is written over the old one.
- `System.superuser` is the system for a user to whom everything belongs.
-/

namespace Emend

/-- Which file a call is about: the one in the place, or the temporary one beside it. -/
inductive Spot where
  | place
  | temporary
  deriving DecidableEq, Repr, Inhabited

/-- A call to the system on the way to a new text in the place of a file. -/
inductive Call where
  | read
  /-- Opens the file in the place to be written, and leaves it as it is. -/
  | openFile
  /-- Makes the temporary file, empty and for its owner only. -/
  | create
  /-- Opens the file in the place to be written from its start, with nothing in it. -/
  | truncate
  | write (spot : Spot) (text : String)
  /-- Waits until a file is on the disk. -/
  | sync (spot : Spot)
  /-- Gives the temporary file a mode. -/
  | setMode (mode : Nat)
  /-- Moves the temporary file to the place. -/
  | rename
  /-- Makes the file in the place count as written now. -/
  | touch
  deriving DecidableEq, Repr, Inhabited

/-- The refusal of a call. -/
structure Refusal where
  fault : SystemFault
  /-- How many bytes had been written, if the call is to write a text. -/
  written : Nat := 0
  deriving DecidableEq, Repr, Inhabited

/-- What the system refuses. It looks at the place and at the call, and the rest of the tree makes no
difference. -/
structure System where
  refuses : Location → Call → Option Refusal

/-- Whether the system says that something is not for this user. -/
def SystemFault.isDenial : SystemFault → Bool
  | readOnly | denied | notPermitted => true
  | _ => false

/-- The file with other bytes in it. -/
def File.withContent (f : File) (content : ByteArray) : File :=
  { f with content, written := true }

/-- The bytes of a text that have been written when a call breaks off. -/
def Refusal.cut (r : Refusal) (text : String) : ByteArray := text.toUTF8.extract 0 r.written

/-- Where a call finds its file. -/
def Spot.location (temporary place : Location) : Spot → Location
  | .place => place
  | .temporary => temporary

namespace Tree

/-- Does what a call does. -/
def perform (t : Tree) (temporary place : Location) : Call → Tree
  | .read | .openFile | .sync _ => t
  | .create => t.create temporary { content := .empty, mode := 0o600, written := true }
  | .truncate => t.modify place (·.withContent .empty)
  | .write spot text => t.modify (spot.location temporary place) (·.withText text)
  | .setMode mode => t.modify temporary ({ · with mode })
  | .rename => t.rename temporary place
  | .touch => t.modify place ({ · with written := true })

/-- Does what a call has done that was refused. -/
def breakOff (t : Tree) (temporary place : Location) (r : Refusal) : Call → Tree
  | .write spot text => t.modify (spot.location temporary place) (·.withContent (r.cut text))
  | _ => t

end Tree

namespace System

/-- Makes calls in order. If one is refused, those after it are not made. -/
def attempt (s : System) (temporary place : Location) : Tree → List Call → Option SystemFault × Tree
  | t, [] => (none, t)
  | t, call :: rest =>
    match s.refuses place call with
    | some r => (some r.fault, t.breakOff temporary place r call)
    | none => s.attempt temporary place (t.perform temporary place call) rest

/-- The calls that put a text into a new file and that in its place. The mode of the file carries
over. -/
def replacing (mode : Nat) (text : String) : List Call :=
  [.create, .write .temporary text, .sync .temporary, .setMode mode, .rename]

/-- The calls that write a text over the one in the place. -/
def overwriting (text : String) : List Call :=
  [.truncate, .write .place text, .sync .place, .touch]

/-- Puts a text in the place of a file, or fails. A temporary file that does not get there is taken
away. -/
def rewrite (s : System) (t : Tree) (place : Location) (mode : Nat) (text : String) :
    Option SystemFault × Tree :=
  let temporary := t.vacantIn place.dropLast
  match s.refuses place .openFile, s.refuses place .create with
  | some r, _ => (some r.fault, t)
  | none, some r =>
    if r.fault.isDenial then s.attempt temporary place t (overwriting text) else (some r.fault, t)
  | none, none =>
    match s.attempt temporary place t (replacing mode text) with
    | (some fault, t) => (some fault, t.remove temporary)
    | (none, t) => s.attempt temporary place t [.touch]

/-- The name of a temporary file, as long as any. -/
def temporaryName : String := ".tmpXXXXXX"

/-- The path of the temporary file for a place. -/
def temporaryPath (place : Location) : Path := Location.path (place.dropLast ++ [temporaryName])

/-- The system for a user to whom everything belongs, with room on its disks. Only the path of a
temporary file may be too long, since it can be longer than that of the file in the place. -/
def superuser : System where
  refuses
    | place, .create =>
      let path := temporaryPath place
      if Path.fits path then none
      else
        let message := SystemFault.nameTooLong.message ++ " at path " ++ Quoted.text path
        some { fault := .other message }
    | _, _ => none

instance : Inhabited System := ⟨superuser⟩

end System

end Emend
