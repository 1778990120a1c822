import Emend.Command.Arguments
import Emend.Command.Session

/-!
# Commands

`execute` does what a command line asks for. The outcome is the tree after it, what was printed, and
the exit code:

- 0 if all went well;
- 1 if the command could not begin, or if a fix failed, or, for `check`, if a fix would change its
  file;
- 2 if the command line is not understood.
-/

namespace Emend

/-- What a command leaves behind. -/
structure Outcome where
  exitCode : Nat
  tree : Tree
  printed : Transcript
  deriving Inhabited

namespace Outcome

/-- The outcome of a command that could not begin. -/
def ofFailure (t : Tree) (known : Transcript) (f : Failure) : Outcome :=
  ⟨1, t, known.complain f.report⟩

/-- The exit code that says whether all went well. -/
def exitCodeOf (good : Bool) : Nat := if good then 0 else 1

end Outcome

namespace ApplyOptions

/-- Whether files are written. -/
def mode (o : ApplyOptions) : WriteMode := if o.dryRun then .dryRun else .write

/-- What is done after a failure. -/
def policy (o : ApplyOptions) : FailurePolicy := if o.keepGoing then .continueOnError else .failFast

end ApplyOptions

namespace Session

/-- What `apply` does before the first fix. -/
def prepareApply (s : Session) (t : Tree) (o : ApplyOptions) : Step (Engine × List LoadedPlan) := do
  let root ← s.root t o.root
  s.say ("Root: " ++ root.path)
  let plans ← s.gated t root (← s.plans t root o.plan)
  let engine ← s.engine t root o.mode o.diff
  if o.dryRun then s.say (s.paint .cyan "[DRY RUN - no files will be written]")
  s.say ""
  return (engine, plans)

/-- Makes the fixes of all plans. -/
def apply (s : Session) (t : Tree) (o : ApplyOptions) (known : Transcript) : Outcome :=
  match (s.prepareApply t o).run known with
  | (.error f, known) => .ofFailure t known f
  | (.ok (engine, plans), known) =>
    let watch := s.reporter.applying o.policy o.mode o.diff
    let (summary, t, known) := engine.runAll o.policy watch plans t known
    ⟨Outcome.exitCodeOf summary.isSuccess, t, s.reporter.appliedAll summary known⟩

/-- What `check` does before the first fix. -/
def prepareCheck (s : Session) (t : Tree) (o : PlanOptions) : Step (Engine × List LoadedPlan) := do
  let root ← s.root t o.root
  let plans ← s.gated t root (← s.plans t root o.plan)
  let engine ← s.engine t root .dryRun false
  s.say (s.paint .bold "Fix Status Report")
  s.say ("Root: " ++ root.path)
  s.say ""
  return (engine, plans)

/-- Tells which files the plans would change. -/
def check (s : Session) (t : Tree) (o : PlanOptions) (known : Transcript) : Outcome :=
  match (s.prepareCheck t o).run known with
  | (.error f, known) => .ofFailure t known f
  | (.ok (engine, plans), known) =>
    let watch := s.reporter.checking .continueOnError
    let (summary, t, known) := engine.runAll .continueOnError watch plans t known
    ⟨Outcome.exitCodeOf summary.isClean, t, s.reporter.checkedAll summary known⟩

/-- The plans that `list` tells about. -/
def prepareList (s : Session) (t : Tree) (o : PlanOptions) : Step (List LoadedPlan) := do
  s.plans t (← s.root t o.root) o.plan

/-- Tells what the plans are. -/
def list (s : Session) (t : Tree) (o : PlanOptions) (known : Transcript) : Outcome :=
  match (s.prepareList t o).run known with
  | (.error f, known) => .ofFailure t known f
  | (.ok plans, known) => ⟨0, t, plans.foldl s.reporter.listed known⟩

/-- Does what a command says. -/
def execute (s : Session) (t : Tree) (known : Transcript) : Command → Outcome
  | .apply o => s.apply t o known
  | .check o => s.check t o known
  | .list o => s.list t o known

end Session

/-- Does what a command line asks for. -/
def execute (e : Environment) (t : Tree) (arguments : List String)
    (system : System := .superuser) : Outcome :=
  match Request.ofArguments arguments with
  | .error f => ⟨2, t, { err := f.message }⟩
  | .ok (.help text) => ⟨0, t, { out := text }⟩
  | .ok .version => ⟨0, t, { out := versionText ++ "\n" }⟩
  | .ok (.run verbosity command) =>
    let (s, known) := Session.start e verbosity system
    s.execute t known command

end Emend
