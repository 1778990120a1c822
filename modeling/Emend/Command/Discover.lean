import Emend.Plan.Load
import Emend.Tree.Resolve

/-!
# Finding plans

Plans are looked for in the directory `fixes` at the root of a project, and if none is there, in the
one below the directory from which relative paths start. The names of their files end in `.toml`;
they are taken in the order of their names.

- `planFiles` lists the plan files of a directory;
- `discoverPlans` lists those of the first directory that has any.
-/

namespace Emend

/-- Whether a name is that of a plan file. -/
def isPlanName (name : String) : Bool := Path.extension? name == some "toml"

/-- The names of the plan files of a directory, in order. Links and directories are no plan
files. -/
def planNames (t : Tree) (directory : Path) : List String :=
  ((t.fileNames directory).filter isPlanName).mergeSort fun a b => a ≤ b

/-- The plan files of a directory, in the order of their names. -/
def planFiles (t : Tree) (directory : Path) : List Path :=
  (planNames t directory).map (Path.join directory)

/-- The directory for plans below another. -/
def planDirectory (l : Location) : Path := Path.join l.path "fixes"

/-- The plan files for the project at a root, if there are any. -/
def discoverPlans (t : Tree) (root : Location) : Option (List Path) :=
  ([root, t.here].map fun l => planFiles t (planDirectory l)).find? (!·.isEmpty)

end Emend
