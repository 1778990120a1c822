import Emend.Rule.Template
import Emend.Text.Quoted

/-!
# Rules

A rule puts a filled-in template in the place of each match of a pattern. A rule that exists has a
pattern that compiles and a template that refers only to groups of that pattern.

- `Rule.build` makes a rule or says what is wrong with its definition;
- `Rule.apply` puts the template in the place of the matches of a text and counts them;
- `RuleSet.apply` lets each rule of a list work on what the rules before it have made.
-/

namespace Emend

/-- The settings under which the pattern of a rule is read. -/
structure RuleFlags where
  /-- Line boundaries count as `^` and `$`. -/
  multiline : Bool := false
  /-- A dot stands for a newline too. -/
  dotMatchesNewLine : Bool := false
  deriving DecidableEq, Repr, Inhabited

namespace RuleFlags

/-- How flags are written: a letter for each that is set, or a hyphen. -/
def shown : RuleFlags → String
  | ⟨false, false⟩ => "-"
  | ⟨true, false⟩ => "m"
  | ⟨false, true⟩ => "s"
  | ⟨true, true⟩ => "ms"

/-- The flags that the pattern starts with. -/
def patternFlags (f : RuleFlags) : PatternFlags :=
  { multiLine := f.multiline, dotAll := f.dotMatchesNewLine }

end RuleFlags

/-- What is wrong with the definition of a rule. -/
inductive DefinitionFault where
  | emptyPattern
  | invalidPattern (pattern : String) (fault : PatternFault)
  | unknownGroup (pattern group : String) (available : Nat)
  | invalidTemplate (template : String) (fault : TemplateFault)
  deriving DecidableEq, Repr, Inhabited

/-- What is said of a faulty definition. -/
def DefinitionFault.message : DefinitionFault → String
  | emptyPattern => "pattern is empty"
  | invalidPattern pattern fault => "invalid pattern `" ++ pattern ++ "`: " ++ fault.message
  | unknownGroup pattern group available =>
    "replacement references group " ++ group ++ " but pattern `" ++ pattern ++ "` defines " ++
      toString available ++ " group(s)"
  | invalidTemplate template fault =>
    "invalid replacement template `" ++ template ++ "` at byte " ++ toString fault.offset ++ ": " ++
      fault.fault.message

/-- A rule. -/
structure Rule where
  pattern : Pattern
  flags : RuleFlags
  template : Template
  description : Option String := none
  deriving Inhabited

/-- A text in which matches have been replaced, and their number. -/
structure Substitution where
  text : String
  count : Nat
  /-- Whether the text is the one that was given, handed back as it is, and not a new one. -/
  borrowed : Bool := false
  deriving DecidableEq, Repr, Inhabited

/-- The text to go on with. A text that was handed back stays as it is; a new one replaces it. -/
def Substitution.inPlaceOf (s : Substitution) (content : String) : String :=
  if s.borrowed then content else s.text

namespace Rule

/-- Makes a rule. The pattern is looked at first, then the template by itself, then the groups that
the template refers to. -/
def build (pattern replacement : String) (flags : RuleFlags) : Except DefinitionFault Rule := do
  if pattern.isEmpty then throw .emptyPattern
  let compiled ← (Pattern.compile flags.patternFlags pattern).mapError (.invalidPattern pattern)
  let template ← (Template.parse replacement).mapError (.invalidTemplate replacement)
  match template.unknownGroup? compiled with
  | some group => throw (.unknownGroup pattern group compiled.groupCount)
  | none => return { pattern := compiled, flags, template }

/-- Adds a description. -/
def describe (r : Rule) (description : Option String) : Rule := { r with description }

/-- How a rule is shown: its description, or its pattern, flags and replacement. -/
def shown (r : Rule) : String :=
  match r.description with
  | some description => description
  | none =>
    "/" ++ r.pattern.source ++ "/" ++ r.flags.shown ++ " -> " ++ Quoted.text r.template.source

/-- The text from a place on, with other texts in the place of matches. -/
def splice (expand : Match → List Char) (here : Cursor) : List Match → List Char
  | [] => here.rest
  | m :: rest => here.textTo m.start ++ expand m ++ splice expand m.stop rest

/-- Replaces all matches of a text. A text without a match stays as it is. -/
def apply (r : Rule) (content : String) : Substitution :=
  match r.pattern.allMatches content.toList with
  | [] => { text := content, count := 0, borrowed := true }
  | found => {
    text := .ofList (splice (r.template.expand r.pattern) (.start content.toList) found)
    count := found.length }

end Rule

/-- Rules in the order in which they are applied. -/
structure RuleSet where
  rules : List Rule := []
  deriving Inhabited

namespace RuleSet

/-- Makes a rule of each pair of a pattern and a replacement, up to the first that is faulty. -/
def ofPairs (flags : RuleFlags) (pairs : List (String × String)) :
    Except DefinitionFault RuleSet := do
  return ⟨← pairs.mapM fun (pattern, replacement) => Rule.build pattern replacement flags⟩

/-- Adds a rule at the end. -/
def push (s : RuleSet) (r : Rule) : RuleSet := ⟨s.rules ++ [r]⟩

/-- Lets each rule work on what the rules before it have made. Returns the last text and how many
matches each rule had. -/
def applyEach : List Rule → String → String × List Nat
  | [], content => (content, [])
  | r :: rest, content =>
    let first := r.apply content
    let (text, counts) := applyEach rest (first.inPlaceOf content)
    (text, first.count :: counts)

/-- The sum of the numbers of matches. -/
def totalCount : List Nat → Nat
  | [] => 0
  | count :: rest => count + totalCount rest

/-- Applies all rules in order. -/
def apply (s : RuleSet) (content : String) : Substitution :=
  let (text, counts) := applyEach s.rules content
  { text, count := totalCount counts }

end RuleSet

end Emend
