import Emend.Patch.Engine
import Emend.Plan.Load

/-!
# Running plans

A run makes the fixes of a plan in order and sums up what came of them. Under `failFast` it stops
after the first fix that fails, and the targets of the rest are skipped.

- `Engine.run` runs one plan, and `Engine.runAll` one plan after the other;
- an `Observer` is told of each plan and of each result as soon as it is there, together with the
  tree of that moment.
-/

namespace Emend

/-- What a run does after a failure. -/
inductive FailurePolicy where
  | failFast
  | continueOnError
  deriving DecidableEq, Repr, Inhabited

/-- What came of a run: the results in order, and the targets that were not tried. -/
structure Summary where
  results : List FixResult := []
  skipped : List Path := []
  deriving Inhabited

namespace Summary

/-- The number of fixes made. -/
def succeeded (s : Summary) : Nat := s.results.countP (·.succeeded)

/-- The number of fixes that failed. -/
def failed (s : Summary) : Nat := s.results.countP (!·.succeeded)

/-- The number of fixes that changed their file. -/
def changed (s : Summary) : Nat := s.results.countP fun r => r.succeeded && r.changed

/-- The number of fixes made that changed nothing. -/
def clean (s : Summary) : Nat := s.succeeded - s.changed

/-- Whether no fix failed and none changed anything. -/
def isClean (s : Summary) : Bool := s.changed == 0 && s.failed == 0

/-- Whether all fixes were tried and made. -/
def isSuccess (s : Summary) : Bool := s.failed == 0 && s.skipped.isEmpty

/-- The first result of a fix that failed. -/
def firstFailure? (s : Summary) : Option FixResult := s.results.find? (!·.succeeded)

/-- The summary of two runs, one after the other. -/
def merge (s t : Summary) : Summary := ⟨s.results ++ t.results, s.skipped ++ t.skipped⟩

/-- How a summary is shown. -/
def shown (s : Summary) : String :=
  toString s.succeeded ++ " fixed, " ++ toString s.failed ++ " failed, " ++
    toString s.skipped.length ++ " skipped"

end Summary

/-- Who watches a run, and keeps what it needs to know in a value of its own. -/
structure Observer (σ : Type) where
  /-- A plan is about to be run. -/
  starts : LoadedPlan → σ → σ := fun _ known => known
  /-- A fix has been tried, and the tree is as it leaves it. -/
  tried : Tree → Fix → FixResult → σ → σ
  /-- A plan has been run. -/
  ends : LoadedPlan → Summary → σ → σ := fun _ _ known => known

namespace Engine

variable {σ : Type}

/-- Makes fixes in order. -/
def runFixes (e : Engine) (policy : FailurePolicy) (watch : Observer σ) :
    List Fix → Tree → σ → Summary × Tree × σ
  | [], t, known => ({}, t, known)
  | fix :: rest, t, known =>
    let (result, t) := e.apply t fix
    let known := watch.tried t fix result known
    if !result.succeeded && policy == .failFast then
      (⟨[result], rest.map (·.target)⟩, t, known)
    else
      let (summary, t, known) := e.runFixes policy watch rest t known
      ({ summary with results := result :: summary.results }, t, known)

/-- Makes the fixes of a plan. -/
def run (e : Engine) (policy : FailurePolicy) (watch : Observer σ) (p : Plan) (t : Tree)
    (known : σ) : Summary × Tree × σ :=
  e.runFixes policy watch p.fixes t known

/-- Makes the fixes of plans in order. Under `failFast` no plan is begun after one that has failed,
and its targets are skipped. -/
def runAll (e : Engine) (policy : FailurePolicy) (watch : Observer σ) :
    List LoadedPlan → Tree → σ → Summary × Tree × σ
  | [], t, known => ({}, t, known)
  | p :: rest, t, known =>
    let known := watch.starts p known
    let (summary, t, known) := e.run policy watch p.plan t known
    let known := watch.ends p summary known
    if !summary.isSuccess && policy == .failFast then
      let unreached := rest.flatMap (·.plan.targets)
      ({ summary with skipped := summary.skipped ++ unreached }, t, known)
    else
      let (more, t, known) := e.runAll policy watch rest t known
      (summary.merge more, t, known)

end Engine

end Emend
