import Emend.Patch.Workspace
import Emend.Plan.Basic
import Emend.Tree.System

/-!
# Making fixes

An engine makes one fix at a time: it finds the file, reads it once, applies the rules to its text
and writes the text back, even if nothing has changed. A fix that fails leaves the tree as it was,
unless the text was being written over the old one (`System.rewrite`).

- `Engine.ofRoot` makes an engine that is confined to the workspace at a root;
- `Engine.resolve` finds the place of a target;
- `Engine.apply` makes a fix and reports on it.
-/

namespace Emend

/-- Why a fix fails. -/
inductive PatchFault where
  | definition (fault : DefinitionFault)
  | fileNotFound (path : Path)
  | system (path : Path) (fault : SystemFault)
  /-- The bytes of the file are no text. -/
  | encoding (path : Path)
  | safety (fault : SafetyFault)
  deriving DecidableEq, Repr, Inhabited

/-- The kinds of failure that users are told. -/
inductive FaultKind where
  | definition
  | fileNotFound
  | system
  | outsideWorkspace
  deriving DecidableEq, Repr, Inhabited

/-- The name of a kind. -/
def FaultKind.name : FaultKind → String
  | definition => "DefinitionError"
  | fileNotFound => "FileNotFound"
  | system => "IOError"
  | outsideWorkspace => "OutsideWorkspace"

namespace PatchFault

/-- The kind of a failure. -/
def kind : PatchFault → FaultKind
  | definition _ => .definition
  | fileNotFound _ => .fileNotFound
  | system .. | encoding _ | safety (.unresolved _) => .system
  | safety _ => .outsideWorkspace

/-- What is said of a failure. -/
def message : PatchFault → String
  | definition fault => "invalid rule: " ++ fault.message
  | fileNotFound path => "file not found: " ++ path
  | system path fault => "I/O error on " ++ path ++ ": " ++ fault.message
  | encoding path => "file is not valid UTF-8: " ++ path
  | safety fault => fault.message

/-- The path that a failure is about, if it is about one. -/
def path? : PatchFault → Option Path
  | fileNotFound path | system path _ | encoding path => some path
  | safety (.outside place _) | safety (.forbidden place _) => some place.path
  | definition _ | safety (.unresolved _) => none

/-- A failure of the system at a path. -/
def ofSystem (path : Path) : SystemFault → PatchFault
  | .notFound => fileNotFound path
  | fault => system path fault

end PatchFault

/-- The text of a file before and after a fix. -/
structure ContentChange where
  before : String
  after : String
  deriving DecidableEq, Repr, Inhabited

/-- What a fix has done. -/
structure FixSuccess where
  changed : Bool
  /-- The number of matches of all rules. -/
  matchCount : Nat
  /-- The texts, if the engine keeps them. -/
  diff : Option ContentChange
  deriving DecidableEq, Repr, Inhabited

/-- The report on a fix. -/
structure FixResult where
  /-- The path as the fix names it. -/
  target : Path
  /-- The number of matches of each rule, as far as rules were applied. -/
  tried : List Nat
  outcome : Except PatchFault FixSuccess
  deriving Inhabited

namespace FixResult

/-- Whether the fix was made. -/
def succeeded (r : FixResult) : Bool := r.outcome.isOk

/-- Why the fix failed, if it did. -/
def fault? (r : FixResult) : Option PatchFault :=
  match r.outcome with
  | .error fault => some fault
  | .ok _ => none

/-- Whether the fix changed the text. -/
def changed (r : FixResult) : Bool :=
  match r.outcome with
  | .ok s => s.changed
  | .error _ => false

/-- The number of matches that the fix replaced. -/
def matchCount (r : FixResult) : Nat :=
  match r.outcome with
  | .ok s => s.matchCount
  | .error _ => 0

/-- The texts before and after the fix, if they were kept. -/
def diff (r : FixResult) : Option ContentChange :=
  match r.outcome with
  | .ok s => s.diff
  | .error _ => none

/-- How a report is shown. -/
def shown (r : FixResult) : String :=
  match r.outcome with
  | .ok _ => "Fixed: " ++ r.target
  | .error fault => "Failed: " ++ r.target ++ " (" ++ fault.kind.name ++ "): " ++ fault.message

end FixResult

/-- Whether fixed texts are written back. -/
inductive WriteMode where
  | write
  | dryRun
  deriving DecidableEq, Repr, Inhabited

/-- Makes fixes below a root. With a workspace, only in it, and its root is the root. -/
structure Engine where
  root : Path
  workspace : Option Workspace := none
  mode : WriteMode := .write
  captureDiff : Bool := false
  /-- The system that the engine has to do with. -/
  system : System := .superuser
  deriving Inhabited

namespace Engine

/-- Confines an engine to a workspace. -/
def confine (e : Engine) (w : Workspace) : Engine :=
  { e with root := w.root.path, workspace := some w }

/-- The engine for the project at a root, confined to the workspace there. -/
def ofRoot (t : Tree) (root : Path) (mode : WriteMode) (captureDiff : Bool)
    (system : System := .superuser) : Except SafetyFault Engine :=
  (Workspace.ofRoot t root).map ({ root, mode, captureDiff, system } : Engine).confine

/-- The place of a target. A relative target starts at the root. -/
def resolve (e : Engine) (t : Tree) (target : Path) : Except PatchFault Location :=
  let path := Path.join e.root target
  if !t.exists path then .error (.fileNotFound path)
  else
    match e.workspace with
    | some w => (w.validate t path).mapError .safety
    | none => (t.canonicalize path).mapError (.ofSystem path)

/-- The file at a place and its text. -/
def readAt (e : Engine) (t : Tree) (place : Location) : Except PatchFault (File × String) :=
  match e.system.refuses place .read, t.fileAt? place with
  | some r, _ => .error (.ofSystem place.path r.fault)
  | none, none => .error (.system place.path .isDirectory)
  | none, some f =>
    match f.text? with
    | none => .error (.encoding place.path)
    | some text => .ok (f, text)

/-- Writes the new text of the file at a place, or says why not. Whether the file is read-only is
asked before anything is changed. -/
def writeAt (e : Engine) (t : Tree) (place : Location) (f : File) (text : String) :
    Option PatchFault × Tree :=
  match e.mode with
  | .dryRun => (none, t)
  | .write =>
    if f.isReadOnly then (some (.system place.path .readOnly), t)
    else
      let (fault, t) := e.system.rewrite t place f.mode text
      (fault.map (.ofSystem place.path), t)

/-- Makes a fix in a tree. -/
def apply (e : Engine) (t : Tree) (fix : Fix) : FixResult × Tree :=
  match e.resolve t fix.target with
  | .error fault => (⟨fix.target, [], .error fault⟩, t)
  | .ok place =>
    match e.readAt t place with
    | .error fault => (⟨fix.target, [], .error fault⟩, t)
    | .ok (f, content) =>
      let (fixed, counts) := RuleSet.applyEach fix.rules.rules content
      match e.writeAt t place f fixed with
      | (some fault, t) => (⟨fix.target, counts, .error fault⟩, t)
      | (none, t) =>
        let success := {
          changed := content != fixed
          matchCount := RuleSet.totalCount counts
          diff := if e.captureDiff then some ⟨content, fixed⟩ else none }
        (⟨fix.target, counts, .ok success⟩, t)

end Engine

end Emend
