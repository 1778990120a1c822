import Emend.Plan.Load
import Emend.Version.Project

/-!
# Gating plans

A plan may say which versions of the project it is for. `gate` keeps the plans that are for the
version at hand, in their order. The version is read when the first plan asks for it, and not again.
A version that cannot be read, or a range that is none, is a fault, and no plan is kept.

What is to be told on the way is listed as `GateNotice`s; those before a fault are there as well.
-/

namespace Emend

/-- What users are told while plans are gated. -/
inductive GateNotice where
  | version (version : String)
  /-- A plan is left out: its range does not hold the version. -/
  | skipped (plan version range : String)
  deriving DecidableEq, Repr, Inhabited

/-- Why plans cannot be gated. -/
inductive GateFault where
  | unknownVersion (fault : ManifestFault)
  | range (fault : VersionFault)
  deriving DecidableEq, Repr, Inhabited

/-- The plans that are kept, or why that is not known, and what is to be told. -/
structure Gated where
  notices : List GateNotice := []
  kept : Except GateFault (List LoadedPlan)
  deriving Inhabited

namespace Gated

/-- What is told before the rest. -/
def telling (notices : List GateNotice) (g : Gated) : Gated :=
  { g with notices := notices ++ g.notices }

/-- Keeps one plan more, before the rest. -/
def keeping (p : LoadedPlan) (g : Gated) : Gated := { g with kept := g.kept.map (p :: ·) }

end Gated

/-- Gates plans. The version is `known` if a plan before has asked for it. -/
def gateFrom (t : Tree) (root : Path) : (known : Option String) → List LoadedPlan → Gated
  | _, [] => ⟨[], .ok []⟩
  | known, p :: rest =>
    match p.plan.versionRange with
    | none => (gateFrom t root known rest).keeping p
    | some range =>
      let read : Except ManifestFault (String × List GateNotice) :=
        match known with
        | some version => .ok (version, [])
        | none => (projectVersion t root).map fun version => (version, [.version version])
      match read with
      | .error fault => ⟨[], .error (.unknownVersion fault)⟩
      | .ok (version, told) =>
        match p.plan.appliesTo version with
        | .error fault => ⟨told, .error (.range fault)⟩
        | .ok true => ((gateFrom t root (some version) rest).keeping p).telling told
        | .ok false =>
          (gateFrom t root (some version) rest).telling
            (told ++ [.skipped p.plan.name version range])

/-- The plans for the version of the project at a root. -/
def gate (t : Tree) (root : Path) (plans : List LoadedPlan) : Gated := gateFrom t root none plans

end Emend
