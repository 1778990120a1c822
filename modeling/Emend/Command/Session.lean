import Emend.Command.Discover
import Emend.Command.Failure
import Emend.Console.Report

/-!
# Sessions

A session is what all commands share: how to report, where the project is, and which plans there are
for it. The steps before a run, of type `Step`, look at the tree but cannot change it.
-/

namespace Emend

/-- The settings of the surroundings, each as it is written if it is there at all. -/
structure Environment where
  projectRoot : Option String := none
  log : Option String := none
  logStyle : Option String := none
  noColour : Option String := none
  forceColour : Option String := none
  deriving DecidableEq, Repr, Inhabited

namespace Environment

/-- Looks the settings up by the names of their variables. -/
def read [Monad m] (get? : String → m (Option String)) : m Environment := do
  return {
    projectRoot := ← get? "RULEFIX_ROOT"
    log := ← get? "RUST_LOG"
    logStyle := ← get? "RUST_LOG_STYLE"
    noColour := ← get? "NO_COLOR"
    forceColour := ← get? "CLICOLOR_FORCE" }

/-- Whether a setting is there and not empty. -/
def holds (setting : Option String) : Bool := setting.any (!·.isEmpty)

/-- The palette for reports: coloured if colours are forced by anything but `0`. -/
def palette (e : Environment) : Palette := ⟨e.forceColour.any (· != "0")⟩

/-- The palette for the log: as it is asked for, or else coloured if colours are forced and not
unwanted. -/
def logPalette (e : Environment) : Palette :=
  match e.logStyle with
  | some "always" => ⟨true⟩
  | some "never" => ⟨false⟩
  | _ => ⟨holds e.forceColour && !holds e.noColour⟩

/-- The last level that is logged if no filter is given. -/
def defaultLevel (verbosity : Nat) : LogLevel :=
  match verbosity with
  | 0 => .warn
  | 1 => .debug
  | _ => .trace

/-- The filter of the log, and what is wrong with it. -/
def logFilter (e : Environment) (verbosity : Nat) : LogFilter × List LogFilterFault :=
  match e.log with
  | some text => LogFilter.parse text
  | none => (.upTo (defaultLevel verbosity), [])

end Environment

/-- What a command works with. -/
structure Session where
  projectRoot : Option String
  reporter : Reporter
  system : System
  deriving Inhabited

/-- A step that reads and reports, and may find that the command cannot go on. -/
abbrev Step := ExceptT Failure (StateM Transcript)

namespace Step

/-- Reports something. -/
def tell (f : Transcript → Transcript) : Step Unit := modify f

/-- Takes a result, or fails. -/
def ofExcept (wrap : ε → Failure) : Except ε α → Step α
  | .ok a => return a
  | .error e => throw (wrap e)

end Step

namespace Session

/-- Starts a session. What is wrong with the filter of the log is reported. -/
def start (e : Environment) (verbosity : Nat) (system : System := .superuser) :
    Session × Transcript :=
  let (filter, faults) := e.logFilter verbosity
  let known := faults.foldl (fun (known : Transcript) fault =>
    known.complain ("warning: " ++ fault.message ++ ", ignoring it")) {}
  (⟨e.projectRoot, ⟨e.palette, ⟨filter, e.logPalette⟩⟩, system⟩, known)

/-- Paints a text. -/
def paint (s : Session) (style : Style) (text : String) : String := s.reporter.palette.paint style text

/-- Prints a line. -/
def say (_ : Session) (line : String) : Step Unit := Step.tell (·.say line)

/-- The root of the project: the one that is given, or the one that is set, or the directory from
which relative paths start. A root that is set and not there is passed over with a warning. -/
def root (s : Session) (t : Tree) (given : Option Path) : Step Location := do
  match given with
  | some path => Step.ofExcept (.noRoot path) (t.canonicalize path)
  | none =>
    match s.projectRoot with
    | none => return t.here
    | some path =>
      if t.exists path then Step.ofExcept .unresolvedRoot (t.canonicalize path)
      else
        Step.tell (·.complain (s.paint .yellow
          ("Warning: RULEFIX_ROOT is set but path doesn't exist: " ++ path)))
        return t.here

/-- The files of the plans: the one that is given, or all that are found. -/
def files (_ : Session) (t : Tree) (root : Location) (given : Option Path) : Step (List Path) :=
  match given with
  | some file => return [file]
  | none =>
    match discoverPlans t root with
    | some files => return files
    | none => throw (.noPlans root.path)

/-- Loads plans, all before anything else is done with one of them. -/
def plans (s : Session) (t : Tree) (root : Location) (given : Option Path) :
    Step (List LoadedPlan) := do
  let files ← s.files t root given
  if s.reporter.logsRules then
    Step.tell (s.reporter.logRules (LoadedPlan.rulesBuilt t files))
  Step.ofExcept .plan (LoadedPlan.ofFiles t files)

/-- How a notice is shown. -/
def notice (s : Session) : GateNotice → String
  | .version version => "Version: " ++ version
  | .skipped plan version range =>
    s.paint .cyan "⊘" ++ " " ++ plan ++ ": Skipped (version " ++ version ++ " does not satisfy " ++
      range ++ ")"

/-- Leaves plans out that are not for the version of the project. -/
def gated (s : Session) (t : Tree) (root : Location) (plans : List LoadedPlan) :
    Step (List LoadedPlan) := do
  let g := gate t root.path plans
  Step.tell fun known => g.notices.foldl (fun known n => known.say (s.notice n)) known
  Step.ofExcept (.gate root.path) g.kept

/-- An engine for the project at a root. -/
def engine (s : Session) (t : Tree) (root : Location) (mode : WriteMode) (captureDiff : Bool) :
    Step Engine :=
  Step.ofExcept .workspace (Engine.ofRoot t root.path mode captureDiff s.system)

end Session

end Emend
