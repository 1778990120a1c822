import Emend.Pattern.Reader
import Emend.Pattern.Search

/-!
# Patterns

A pattern is a text that has been read and laid down as a program. `Pattern.compile` is the only
way to one, so a pattern that exists can be searched for.
-/

namespace Emend

/-- The largest program that is laid down, in bytes. -/
def sizeLimit : Nat := 10 * 1024 * 1024

/-- Why a text is no pattern. -/
inductive PatternFault where
  | malformed
  | tooLarge
  deriving DecidableEq, Repr, Inhabited

/-- What is said of a faulty pattern. -/
def PatternFault.message : PatternFault → String
  | malformed => "regex parse error: the pattern is malformed"
  | tooLarge => s!"Compiled regex exceeds size limit of {sizeLimit} bytes."

/-- A compiled pattern. -/
structure Pattern where
  source : String
  program : Program
  /-- The number of captured groups, not counting the whole match. -/
  groupCount : Nat
  /-- The names of captured groups and their indices. -/
  names : List (String × Nat)
  deriving Inhabited

namespace Pattern

/-- Reads and compiles a pattern. Groups that a repetition of zero times leaves out do not count,
unless a group after them does. -/
def compile (flags : PatternFlags) (source : String) : Except PatternFault Pattern :=
  match readPattern flags source.toList with
  | none => .error .malformed
  | some read =>
    if read.regex.weight > sizeLimit then .error .tooLarge
    else
      let indices := read.regex.groupIndices
      .ok {
        source
        program := .ofRegex read.regex
        groupCount := indices.foldl max 0
        names := read.names.filter fun (_, index) => indices.contains index }

/-- A pattern that compiles is the one that has been read, and is not too large. -/
theorem compile_eq_ok {flags : PatternFlags} {source : String} {p : Pattern} :
    compile flags source = .ok p ↔ ∃ read, readPattern flags source.toList = some read ∧
      read.regex.weight ≤ sizeLimit ∧ {
        source
        program := .ofRegex read.regex
        groupCount := read.regex.groupIndices.foldl max 0
        names := read.names.filter fun (_, index) => read.regex.groupIndices.contains index } =
        p := by
  rw [compile]
  cases readPattern flags source.toList with
  | none => exact ⟨nofun, nofun⟩
  | some read =>
    simp only [Option.some.injEq, exists_eq_left']
    split
    · next large => exact ⟨nofun, fun h => absurd h.1 (Nat.not_le_of_gt large)⟩
    · next fits => exact ⟨fun h => ⟨Nat.le_of_not_gt fits, Except.ok.inj h⟩, fun h => h.2 ▸ rfl⟩

/-- The index of a named group. -/
def groupIndex? (p : Pattern) (name : String) : Option Nat := p.names.lookup name

/-- The matches of a text, from left to right. -/
def allMatches (p : Pattern) (text : List Char) : List Match := p.program.allMatches text

end Pattern

end Emend
