import Emend.Plan.Definition
import Emend.Toml.Reader

/-!
# Reading plan definitions

`PlanDefinition.parse` reads a definition from TOML and makes sure that its structure is sound.

A record may be written as a table or as an array of its fields in order. Fields that are not known
are passed over.
-/

namespace Emend

namespace Toml

/-- The fields of a record. The first key is that of the first item of an array. A date is a record
of a field that nobody asks for. -/
def fields? (keys : List String) : Toml → Option (List (Option Toml))
  | table _ entries => some (keys.map fun key => entries.lookup key)
  | array items | tables items => some ((List.range keys.length).map (items[·]?))
  | scalar .dateTime => some (keys.map fun _ => none)
  | _ => none

/-- The truth value of a value. -/
def boolean? : Toml → Option Bool
  | boolean b => some b
  | _ => none

/-- The items of a list. -/
def items? : Toml → Option (List Toml)
  | array items | tables items => some items
  | _ => none

/-- Reads a field that may be missing. -/
def optional (read : Toml → Option α) : Option Toml → Option (Option α)
  | none => some none
  | some value => (read value).map some

end Toml

namespace PlanMetadata

/-- Reads the table of metadata. -/
def ofToml? (value : Toml) : Option PlanMetadata := do
  let keys := ["name", "description", "version_range", "multiline", "dot_matches_new_line"]
  match ← value.fields? keys with
  | [name, description, versionRange, multiline, dotMatchesNewLine] =>
    some {
      name := (← Toml.optional Toml.string? name).getD ""
      description := ← Toml.optional Toml.string? description
      versionRange := ← Toml.optional Toml.string? versionRange
      multiline := (← Toml.optional Toml.boolean? multiline).getD false
      dotMatchesNewLine := (← Toml.optional Toml.boolean? dotMatchesNewLine).getD false }
  | _ => none

end PlanMetadata

namespace RuleDefinition

/-- Reads the table of a rule. -/
def ofToml? (value : Toml) : Option RuleDefinition := do
  let keys := ["description", "pattern", "replacement", "multiline", "dot_matches_new_line"]
  match ← value.fields? keys with
  | [description, pattern, replacement, multiline, dotMatchesNewLine] =>
    some {
      description := ← Toml.optional Toml.string? description
      pattern := ← (← pattern).string?
      replacement := ← (← replacement).string?
      multiline := ← Toml.optional Toml.boolean? multiline
      dotMatchesNewLine := ← Toml.optional Toml.boolean? dotMatchesNewLine }
  | _ => none

end RuleDefinition

namespace FixDefinition

/-- Reads the table of a fix. -/
def ofToml? (value : Toml) : Option FixDefinition := do
  match ← value.fields? ["file", "rules"] with
  | [file, rules] =>
    let file ← (← file).string?
    match rules with
    | none => some ⟨file, []⟩
    | some rules => some ⟨file, ← (← rules.items?).mapM RuleDefinition.ofToml?⟩
  | _ => none

end FixDefinition

namespace PlanDefinition

/-- Reads the table of a plan. -/
def ofToml? (value : Toml) : Option PlanDefinition := do
  match ← value.fields? ["meta", "fixes"] with
  | [metadata, fixes] =>
    let about := (← Toml.optional PlanMetadata.ofToml? metadata).getD {}
    match fixes with
    | none => some ⟨about, []⟩
    | some fixes => some ⟨about, ← (← fixes.items?).mapM FixDefinition.ofToml?⟩
  | _ => none

/-- Reads a definition whose structure is sound. -/
def parse (source : String) : Except PlanFault PlanDefinition := do
  let value ← (Toml.parse source).mapError fun fault => .text none (.toml fault)
  match ofToml? value with
  | none => throw (.text none .wrongShape)
  | some d => if d.issues.isEmpty then return d else throw (.invalid none d.issues)

end PlanDefinition

end Emend
