import Emend.Plan.Reader

/-!
# Loading plans

`Plan.ofText` loads a plan from the text of its definition and `Plan.ofFile` from a file. Both do
the same with the text; a plan without a name takes the one of its file. `LoadedPlan.ofFiles` loads
the plans of several files, up to the first that cannot be loaded.
-/

namespace Emend

/-- Reads the definition of a plan from a file. A plan without a name is named after the file. -/
def PlanDefinition.ofFile (t : Tree) (path : Path) : Except PlanFault PlanDefinition := do
  let source ← (t.readText path).mapError (.unreadable path)
  let d ← (PlanDefinition.parse source).mapError (.within path)
  return d.named (Path.stem? path)

namespace Plan

/-- Loads a plan from the text of its definition. -/
def ofText (source : String) : Except PlanFault Plan := do
  (← PlanDefinition.parse source).build

/-- Loads a plan from a file. -/
def ofFile (t : Tree) (path : Path) : Except PlanFault Plan := do
  (← PlanDefinition.ofFile t path).build.mapError (.within path)

end Plan

/-- A plan and the file that it comes from. -/
structure LoadedPlan where
  file : Path
  plan : Plan
  deriving Inhabited

namespace LoadedPlan

/-- Loads the plans of files, in order. -/
def ofFiles (t : Tree) (files : List Path) : Except PlanFault (List LoadedPlan) :=
  files.mapM fun file => return ⟨file, ← Plan.ofFile t file⟩

/-- The rules that are built when the plans of files are loaded, in order. -/
def rulesBuilt (t : Tree) : (files : List Path) → List Rule
  | [] => []
  | file :: rest =>
    match PlanDefinition.ofFile t file with
    | .error _ => []
    | .ok d => d.rulesBuilt ++ if d.build.isOk then rulesBuilt t rest else []

end LoadedPlan

end Emend
