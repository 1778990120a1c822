import Emend.Rule.Basic
import Emend.Tree.Path
import Emend.Version.Reader

/-!
# Plans

A plan is a list of fixes in the order in which they are made. A fix names a file and the rules to
apply to it. The same file may be named more than once; a later fix works on what an earlier one
has made of it.
-/

namespace Emend

/-- A file to change and how. -/
structure Fix where
  target : Path
  rules : RuleSet
  deriving Inhabited

/-- A list of fixes. -/
structure Plan where
  name : String
  description : Option String := none
  /-- The project versions that the plan is for; without it, all. -/
  versionRange : Option String := none
  fixes : List Fix
  deriving Inhabited

namespace Plan

/-- The number of rules of all fixes. -/
def ruleCount (p : Plan) : Nat := p.fixes.foldr (fun fix n => fix.rules.rules.length + n) 0

/-- The targets of all fixes, in order. -/
def targets (p : Plan) : List Path := p.fixes.map (·.target)

/-- Whether a plan is for a version of the project. -/
def appliesTo (p : Plan) (version : String) : Except VersionFault Bool :=
  meetsRequirement version p.versionRange

end Plan

end Emend
