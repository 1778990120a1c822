import Emend.Command.Gate
import Emend.Console.Transcript
import Emend.Patch.Workspace

/-!
# Failures of commands

Why a command ends before it has done anything to a file.
-/

namespace Emend

/-- Why a command cannot begin. -/
inductive Failure where
  | noRoot (path : Path) (fault : SystemFault)
  /-- The root that is set is there, and yet it has no path of its own. -/
  | unresolvedRoot (fault : SystemFault)
  | noPlans (root : Path)
  | plan (fault : PlanFault)
  | gate (root : Path) (fault : GateFault)
  | workspace (fault : SafetyFault)
  deriving DecidableEq, Repr, Inhabited

namespace Failure

/-- What is said of a failure. -/
def message : Failure → String
  | noRoot path _ => "project root does not exist: " ++ path
  | unresolvedRoot fault => fault.message
  | noPlans root => "No .toml plan files found in either " ++ root ++ "/fixes or ./fixes"
  | plan fault => fault.message
  | gate root (.unknownVersion fault) => fault.message root
  | gate _ (.range fault) => fault.message
  | workspace fault => fault.message

/-- What lies behind a failure, if it is told separately. -/
def cause? : Failure → Option String
  | noRoot _ fault => some fault.message
  | plan fault => some fault.cause
  | workspace (.unresolved fault) => some fault.message
  | unresolvedRoot _ | noPlans _ | gate .. | workspace _ => none

/-- How a failure is reported. -/
def report (f : Failure) : String :=
  "Error: " ++ f.message ++
    match f.cause? with
    | some cause => "\n\nCaused by:\n    " ++ cause.replace "\n" "\n    "
    | none => ""

end Failure

end Emend
