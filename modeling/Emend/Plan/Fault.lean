import Emend.Rule.Basic
import Emend.Toml.Value
import Emend.Tree.Resolve

/-!
# Faults of plans

Why a plan cannot be loaded: its file cannot be read, its text defines no plan, the structure of
the definition is not sound, or one of its rules cannot be built.
-/

namespace Emend

/-- What is wrong with the structure of a definition. -/
inductive PlanIssue where
  | noFixes
  /-- The fix with a number names no file. -/
  | missingFile (fix : Nat)
  /-- The fix for a file has no rules. -/
  | noRules (file : String)
  deriving DecidableEq, Repr, Inhabited

/-- What is said of an issue. -/
def PlanIssue.message : PlanIssue → String
  | noFixes => "plan contains no fixes"
  | missingFile fix => "fix #" ++ toString fix ++ " missing required field 'file'"
  | noRules file => "fix for '" ++ file ++ "' has no rules"

/-- Why a text defines no plan. -/
inductive PlanTextFault where
  | toml (fault : TomlFault)
  /-- A field is missing or has a value of the wrong kind. -/
  | wrongShape
  deriving DecidableEq, Repr, Inhabited

/-- What is said of it. -/
def PlanTextFault.message : PlanTextFault → String
  | toml .malformed => "TOML parse error at a place that breaks the syntax"
  | toml .nestedTooDeep => "TOML parse error at a value that nests too deep"
  | toml (.duplicateKey key) => "TOML parse error at `" ++ key ++ "`: duplicate key"
  | toml (.notExtensible key) => "TOML parse error at `" ++ key ++ "`: cannot be extended"
  | wrongShape => "TOML parse error at a field that is missing or of the wrong kind"

/-- Why a plan cannot be loaded. The path is there if the plan comes from a file. -/
inductive PlanFault where
  | unreadable (path : Path) (fault : SystemFault)
  | text (path : Option Path) (fault : PlanTextFault)
  | invalid (path : Option Path) (issues : List PlanIssue)
  /-- The rule with a number, of the fix for a file. -/
  | definition (path : Option Path) (file : String) (rule : Nat) (fault : DefinitionFault)
  deriving DecidableEq, Repr, Inhabited

namespace PlanFault

/-- The path of a plan in brackets, after a blank. -/
def inBrackets : Option Path → String
  | some path => " (" ++ path ++ ")"
  | none => ""

/-- What lies behind a fault, in words. -/
def cause : PlanFault → String
  | unreadable _ fault => fault.message
  | text _ fault => fault.message
  | invalid _ issues => "\n".intercalate (issues.map (·.message))
  | definition _ _ _ fault => fault.message

/-- What is said of a fault; the cause comes last. -/
def message (fault : PlanFault) : String :=
  let heading := match fault with
    | unreadable path _ => "failed to read plan from " ++ path
    | text path _ => "failed to parse plan TOML" ++ inBrackets path
    | invalid path _ => "invalid plan" ++ inBrackets path
    | definition path file rule _ =>
      "invalid rule #" ++ toString rule ++ " for '" ++ file ++ "'" ++ inBrackets path
  heading ++ ": " ++ fault.cause

/-- The fault, in a plan that comes from a file. -/
def within (path : Path) : PlanFault → PlanFault
  | text none fault => text (some path) fault
  | invalid none issues => invalid (some path) issues
  | definition none file rule fault => definition (some path) file rule fault
  | fault => fault

end PlanFault

end Emend
