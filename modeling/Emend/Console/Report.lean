import Emend.Console.Log
import Emend.Diff.Lines
import Emend.Patch.Run
import Emend.Suggestion.Basic

/-!
# Reports on fixes

What is printed about plans and fixes: the lines that users see, and the log beside them.
-/

namespace Emend

/-- How reports are printed. -/
structure Reporter where
  palette : Palette
  logger : Logger
  deriving Inhabited

namespace FailurePolicy

/-- The name of a policy. -/
def name : FailurePolicy → String
  | failFast => "FailFast"
  | continueOnError => "ContinueOnError"

end FailurePolicy

/-! ### The log -/

/-- The topic of messages about rules. -/
def ruleTopic : String := "rulefix::rule"

/-- The topic of messages about single fixes. -/
def fixTopic : String := "rulefix::engine"

/-- The topic of messages about plans. -/
def planTopic : String := "rulefix::runner"

namespace Reporter

/-- Logs which rules have been built. -/
def logRules (r : Reporter) (rules : List Rule) (known : Transcript) : Transcript :=
  rules.foldl (fun known rule =>
    r.logger.record .trace ruleTopic
      ("compiled rule `" ++ rule.pattern.source ++ "` [" ++ rule.flags.shown ++ "]") known) known

/-- Whether rules that have been built are logged. -/
def logsRules (r : Reporter) : Bool := r.logger.filter.shows .trace ruleTopic

/-- Logs that a plan is about to be run. -/
def logStart (r : Reporter) (policy : FailurePolicy) (p : Plan) : Transcript → Transcript :=
  r.logger.record .debug planTopic
    ("running plan '" ++ p.name ++ "': " ++ toString p.fixes.length ++ " fix(es), " ++
      toString p.ruleCount ++ " rule(s), policy " ++ policy.name)

/-- Logs how often the rules of a fix have matched; the first one has the number `number`. -/
def logMatches (r : Reporter) : (number : Nat) → List Rule → List Nat → Transcript → Transcript
  | number, rule :: rules, count :: counts, known =>
    let result := if count = 0 then "nothing" else toString count ++ " time(s)"
    r.logMatches (number + 1) rules counts
      (r.logger.record .debug ruleTopic
        ("rule #" ++ toString number ++ " matched " ++ result ++ ": " ++ rule.shown) known)
  | _, _, _, known => known

/-- Logs what came of a fix. -/
def logFix (r : Reporter) (fix : Fix) (result : FixResult) (known : Transcript) : Transcript :=
  let outcome := match result.outcome with
    | .ok s => toString s.matchCount ++ " match(es), changed=" ++ toString s.changed
    | .error fault => fault.message
  r.logger.record .debug fixTopic (fix.target ++ ": " ++ outcome)
    (r.logMatches 1 fix.rules.rules result.tried known)

/-- Logs how many fixes of a plan have not been tried. -/
def logEnd (r : Reporter) (p : Plan) (s : Summary) (known : Transcript) : Transcript :=
  if s.skipped.isEmpty then known
  else
    r.logger.record .warn planTopic
      ("plan '" ++ p.name ++ "' stopped early; " ++ toString s.skipped.length ++
        " fix(es) not attempted") known

/-! ### Results of fixes -/

/-- How a line of a difference is shown. -/
def diffLine (r : Reporter) : ChunkKind × String → String
  | (.keep, line) => " " ++ Text.closed line
  | (.delete, line) => r.palette.paint .red ("-" ++ Text.closed line)
  | (.insert, line) => r.palette.paint .green ("+" ++ Text.closed line)

/-- How the difference of a file is shown. -/
def diff (r : Reporter) (target : Path) (change : ContentChange) : String :=
  "\n" ++ r.palette.paint .dimmed ("--- " ++ target ++ " (original)") ++ "\n" ++
    r.palette.paint .dimmed ("+++ " ++ target ++ " (patched)") ++ "\n" ++
    String.join ((lineDiff change.before change.after).map r.diffLine)

/-- Reports on a fix that has failed. For a file that is not there, one that is may be suggested. -/
def failed (r : Reporter) (t : Tree) (result : FixResult) (known : Transcript) : Transcript :=
  let known := known.complain (r.palette.paint .red "✗" ++ " " ++ result.shown)
  match result.fault? with
  | some (.fileNotFound path) =>
    match t.suggest? nameMeasure path with
    | some other => known.complain ("  Did you mean " ++ other ++ "?")
    | none => known
  | _ => known

/-- Reports on a fix that has been made, or would have been. -/
def applied (r : Reporter) (mode : WriteMode) (showDiff : Bool) (t : Tree) (result : FixResult)
    (known : Transcript) : Transcript :=
  if !result.succeeded then r.failed t result known
  else
    let note := if result.changed then "(" ++ toString result.matchCount ++ " match(es))"
      else "(no changes)"
    let deed := match mode with
      | .dryRun => "Would fix: " ++ result.target
      | .write => result.shown
    let known := known.say
      (r.palette.paint .green "✓" ++ " " ++ deed ++ " " ++ r.palette.paint .dimmed note)
    match result.diff with
    | some change =>
      if showDiff && result.changed then known.print (r.diff result.target change) else known
    | none => known

/-- Reports whether a fix would change its file. -/
def checked (r : Reporter) (t : Tree) (result : FixResult) (known : Transcript) : Transcript :=
  if !result.succeeded then r.failed t result known
  else if result.changed then
    known.say (r.palette.paint .yellow "⊙" ++ " " ++ result.target ++ ": would change (" ++
      toString result.matchCount ++ " match(es))")
  else known.say (r.palette.paint .green "✓" ++ " " ++ result.target ++ ": clean")

/-! ### Plans -/

/-- A line with a number in a summary. -/
def tally (r : Reporter) (style : Style) (n : Nat) (what : String) (known : Transcript) :
    Transcript :=
  known.say ("  " ++ r.palette.paint style (toString n) ++ " " ++ what)

/-- Watches a run that fixes files, or would fix them. -/
def applying (r : Reporter) (policy : FailurePolicy) (mode : WriteMode) (showDiff : Bool) :
    Observer Transcript where
  starts p known :=
    r.logStart policy p.plan <| known.say ("Applying " ++ r.palette.paint .bold p.plan.name ++ " (" ++
      toString p.plan.fixes.length ++ " file(s), " ++ toString p.plan.ruleCount ++
      " rule(s)) from " ++ p.file ++ "...")
  tried t fix result known := r.applied mode showDiff t result (r.logFix fix result known)
  ends p s known := (r.logEnd p.plan s known).say ""

/-- Watches a run that checks files. -/
def checking (r : Reporter) (policy : FailurePolicy) : Observer Transcript where
  starts p known := r.logStart policy p.plan (known.say (r.palette.paint .bold p.plan.name))
  tried t fix result known := r.checked t result (r.logFix fix result known)
  ends p s known := (r.logEnd p.plan s known).say ""

/-- Sums up a run that has fixed files, or would have. -/
def appliedAll (r : Reporter) (s : Summary) (known : Transcript) : Transcript :=
  let known := (known.say "").say (r.palette.paint .bold "Summary:" ++ " " ++ s.shown)
  let known := r.tally .green s.succeeded "fixed" known
  let known := r.tally .green s.changed "changed" known
  let known := r.tally .red s.failed "failed" known
  r.tally .cyan s.skipped.length "skipped" known

/-- Sums up a run that has checked files. -/
def checkedAll (r : Reporter) (s : Summary) (known : Transcript) : Transcript :=
  let known := known.say (r.palette.paint .bold "Summary:")
  let known := r.tally .green s.clean "clean" known
  let known := r.tally .yellow s.changed "would change" known
  r.tally .red s.failed "failed" known

/-- Tells what a plan is about. -/
def listed (r : Reporter) (known : Transcript) (p : LoadedPlan) : Transcript :=
  let known := known.say (r.palette.paint .bold p.plan.name ++ " (" ++ p.file ++ ")")
  let known := match p.plan.description with
    | some description => known.say ("  " ++ r.palette.paint .dimmed description)
    | none => known
  let known := match p.plan.versionRange with
    | some range => known.say ("  versions: " ++ range)
    | none => known
  let known := p.plan.fixes.foldl (fun known fix =>
    fix.rules.rules.foldl (fun known rule =>
      known.say ("    - " ++ rule.shown ++ " [" ++ rule.flags.shown ++ "]"))
      (known.say ("  " ++ fix.target))) known
  known.say ""

end Reporter

end Emend
