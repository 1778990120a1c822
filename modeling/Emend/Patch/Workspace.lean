import Emend.Tree.Resolve

/-!
# Workspaces

A workspace is the part of a tree that fixes may change: all below a root, except what is below a
protected directory. Both are kept as locations, through no links, so that a path that leads out of
the workspace by a link or by steps up is found out.

- `Workspace.ofRoot` opens the workspace at a root;
- `Workspace.validate` says where a path leads, if that may be changed.
-/

namespace Emend

/-- A root and the protected locations that existed when the workspace was opened. -/
structure Workspace where
  root : Location
  protectedPlaces : List Location
  deriving DecidableEq, Repr, Inhabited

/-- Why a path may not be changed. -/
inductive SafetyFault where
  | outside (place root : Location)
  | forbidden (place directory : Location)
  | unresolved (fault : SystemFault)
  deriving DecidableEq, Repr, Inhabited

/-- What is said of it. -/
def SafetyFault.message : SafetyFault → String
  | outside place root =>
    "Path is outside workspace: " ++ place.path ++ " (workspace: " ++ root.path ++ ")"
  | forbidden place directory =>
    "Path is in forbidden directory: " ++ place.path ++ " (forbidden: " ++ directory.path ++ ")"
  | unresolved fault => "Failed to canonicalize path: " ++ fault.message

namespace Workspace

/-- The names at the root that are protected: the data of version control, dependencies, and what
is built. -/
def protectedNames : List String := [".git", "node_modules", "target"]

/-- Opens the workspace at a root. -/
def ofRoot (t : Tree) (root : Path) : Except SafetyFault Workspace := do
  let root ← (t.canonicalize root).mapError .unresolved
  let places := protectedNames.filterMap fun name =>
    (t.canonicalize (Path.join root.path name)).toOption
  return ⟨root, places⟩

/-- Whether a location may be changed. -/
def check (w : Workspace) (place : Location) : Except SafetyFault Unit :=
  if !w.root.isPrefixOf place then .error (.outside place w.root)
  else
    match w.protectedPlaces.find? (·.isPrefixOf place) with
    | some directory => .error (.forbidden place directory)
    | none => .ok ()

/-- The location that a path names, if it may be changed. A relative path starts at the root. -/
def validate (w : Workspace) (t : Tree) (p : Path) : Except SafetyFault Location := do
  let place ← (t.canonicalize (Path.join w.root.path p)).mapError .unresolved
  w.check place
  return place

end Workspace

end Emend
