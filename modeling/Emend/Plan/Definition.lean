import Emend.Plan.Basic
import Emend.Plan.Fault
import Emend.Text.Trim

/-!
# Plan definitions

What the author of a plan writes down, before its rules are built.

- `PlanDefinition.issues` lists all that is wrong with the structure of a definition;
- `PlanDefinition.build` builds the rules of all fixes, up to the first that is faulty.
-/

namespace Emend

/-- What is said about a plan as a whole. -/
structure PlanMetadata where
  name : String := ""
  description : Option String := none
  versionRange : Option String := none
  multiline : Bool := false
  dotMatchesNewLine : Bool := false
  deriving DecidableEq, Repr, Inhabited

/-- A rule as it is written. -/
structure RuleDefinition where
  description : Option String := none
  pattern : String
  replacement : String
  multiline : Option Bool := none
  dotMatchesNewLine : Option Bool := none
  deriving DecidableEq, Repr, Inhabited

/-- A fix as it is written. -/
structure FixDefinition where
  file : String
  rules : List RuleDefinition := []
  deriving DecidableEq, Repr, Inhabited

/-- A plan as it is written. -/
structure PlanDefinition where
  about : PlanMetadata := {}
  fixes : List FixDefinition := []
  deriving DecidableEq, Repr, Inhabited

namespace PlanMetadata

/-- The flags of rules that set none themselves. -/
def defaultFlags (m : PlanMetadata) : RuleFlags := ⟨m.multiline, m.dotMatchesNewLine⟩

end PlanMetadata

namespace RuleDefinition

/-- The flags of a rule: each its own, or else the one of the plan. -/
def flags (d : RuleDefinition) (defaults : RuleFlags) : RuleFlags :=
  ⟨d.multiline.getD defaults.multiline, d.dotMatchesNewLine.getD defaults.dotMatchesNewLine⟩

/-- Builds a rule. -/
def build (d : RuleDefinition) (defaults : RuleFlags) : Except DefinitionFault Rule :=
  (Rule.build d.pattern d.replacement (d.flags defaults)).map (·.describe d.description)

end RuleDefinition

namespace FixDefinition

/-- What is wrong with the fix of a number. -/
def issues (number : Nat) (d : FixDefinition) : List PlanIssue :=
  (if Text.isBlank d.file then [.missingFile number] else []) ++
    if d.rules.isEmpty then [.noRules d.file] else []

/-- Builds rules, numbered from a number on, up to the first that is faulty. -/
def buildRules (file : String) (defaults : RuleFlags) :
    (number : Nat) → List RuleDefinition → Except PlanFault (List Rule)
  | _, [] => .ok []
  | number, d :: rest => do
    let rule ← (d.build defaults).mapError (.definition none file number)
    return rule :: (← buildRules file defaults (number + 1) rest)

/-- Builds a fix. -/
def build (d : FixDefinition) (defaults : RuleFlags) : Except PlanFault Fix := do
  return ⟨d.file, ⟨← buildRules d.file defaults 1 d.rules⟩⟩

end FixDefinition

namespace PlanDefinition

/-- The issues of fixes, numbered from a number on. -/
def issuesFrom : (number : Nat) → List FixDefinition → List PlanIssue
  | _, [] => []
  | number, d :: rest => d.issues number ++ issuesFrom (number + 1) rest

/-- All that is wrong with the structure of a definition, in the order of the fixes. -/
def issues (d : PlanDefinition) : List PlanIssue :=
  (if d.fixes.isEmpty then [.noFixes] else []) ++ issuesFrom 1 d.fixes

/-- Builds a plan. -/
def build (d : PlanDefinition) : Except PlanFault Plan := do
  let fixes ← d.fixes.mapM (·.build d.about.defaultFlags)
  return ⟨d.about.name, d.about.description, d.about.versionRange, fixes⟩

/-- The rules that are built before one is met that is faulty. -/
def rulesBuilt (d : PlanDefinition) : List Rule :=
  let rules := d.fixes.flatMap fun fix => fix.rules.map (·.build d.about.defaultFlags)
  (rules.takeWhile (·.isOk)).filterMap (·.toOption)

/-- Names a plan that has no name, unless `name` is missing too. -/
def named (name : Option String) (d : PlanDefinition) : PlanDefinition :=
  if Text.isBlank d.about.name then
    { d with about := { d.about with name := name.getD d.about.name } }
  else d

end PlanDefinition

end Emend
