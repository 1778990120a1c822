/-!
# Options of the command line

The commands, their options, and the texts that tell of them.

- `Scope.options` lists the options that are known in a place of the command line;
- `Scope.help` is the help on the program or on one of its commands.
-/

namespace Emend

/-- What the program can be asked to do with plans. -/
inductive Verb where
  | apply
  | check
  | list
  deriving DecidableEq, Repr, Inhabited

namespace Verb

/-- All verbs, in the order in which help lists them. -/
def all : List Verb := [apply, check, list]

/-- The word for a verb. -/
def name : Verb → String
  | apply => "apply"
  | check => "check"
  | list => "list"

/-- What is said of a verb. -/
def about : Verb → String
  | apply => "Apply fix plans to a project"
  | check => "Report which files the plans would still change, without writing"
  | list => "List plans, their target files and rules"

/-- The verb of a word. -/
def ofName? (word : String) : Option Verb := all.find? (·.name == word)

/-- The form of a verb for what the program does. -/
def thirdPerson : Verb → String
  | apply => "applies"
  | check => "checks"
  | list => "lists"

end Verb

/-- An option. -/
inductive Flag where
  | root
  | verbose
  | plan
  | dryRun
  | diff
  | keepGoing
  | help
  | version
  deriving DecidableEq, Repr, Inhabited

/-- A place of the command line: before the verb or after it. -/
inductive Scope where
  | program
  | verb (v : Verb)
  deriving DecidableEq, Repr, Inhabited

namespace Flag

/-- The short name of an option. -/
def letter : Flag → Char
  | root => 'r'
  | verbose => 'v'
  | plan => 'p'
  | dryRun => 'n'
  | diff => 'd'
  | keepGoing => 'k'
  | help => 'h'
  | version => 'V'

/-- The long name of an option. -/
def name : Flag → String
  | root => "root"
  | verbose => "verbose"
  | plan => "plan"
  | dryRun => "dry-run"
  | diff => "diff"
  | keepGoing => "keep-going"
  | help => "help"
  | version => "version"

/-- What follows the name where an option is shown: the name of its value, or dots if the option
counts. -/
def tail : Flag → String
  | root => " <ROOT>"
  | plan => " <PLAN>"
  | verbose => "..."
  | _ => ""

/-- How an option is shown. -/
def shown (f : Flag) : String := "--" ++ f.name ++ f.tail

/-- Whether an option has a value. -/
def takesValue : Flag → Bool
  | root | plan => true
  | _ => false

/-- What is said of an option. -/
def about : Flag → Scope → String
  | root, _ => "Project root (defaults to RULEFIX_ROOT, then the current directory)"
  | verbose, _ => "Increase log verbosity (-v debug, -vv trace)"
  | plan, .verb v =>
    "Specific plan file to " ++ v.name ++ " (otherwise " ++ v.thirdPerson ++ " all in fixes/)"
  | plan, .program => "Specific plan file"
  | dryRun, _ => "Dry run - compute changes without modifying files"
  | diff, _ => "Show unified diff of changes"
  | keepGoing, _ => "Keep applying after a failed file instead of stopping"
  | help, _ => "Print help"
  | version, _ => "Print version"

end Flag

/-- The name of the program. -/
def programName : String := "rulefix"

/-- The name and the version of the program. -/
def versionText : String := programName ++ " 0.1.0"

/-- What is said of the program. -/
def programAbout : String := "Apply ordered regex fix rules to source files in place"

/-- The word that asks for help. -/
def helpWord : String := "help"

/-- What is said of this word. -/
def helpAbout : String := "Print this message or the help of the given subcommand(s)"

namespace Scope

/-- The options that are known in a place, in the order in which help lists them. -/
def options : Scope → List Flag
  | program => [.verbose, .help, .version]
  | verb .apply => [.root, .verbose, .plan, .dryRun, .diff, .keepGoing, .help]
  | verb .check | verb .list => [.root, .verbose, .plan, .help]

/-- The option with a short name. -/
def ofLetter? (s : Scope) (c : Char) : Option Flag := s.options.find? (·.letter == c)

/-- The option with a long name. -/
def ofName? (s : Scope) (name : String) : Option Flag := s.options.find? (·.name == name)

/-- Two columns, the second two blanks after the longest entry of the first. -/
def table (rows : List (String × String)) : String :=
  let width := (rows.map (·.1.length)).foldl max 0
  String.join (rows.map fun (left, right) =>
    "  " ++ left ++ String.ofList (List.replicate (width - left.length + 2) ' ') ++ right ++ "\n")

/-- The list of options. -/
def optionTable (s : Scope) : String :=
  "Options:\n" ++
    table (s.options.map fun f => ("-" ++ f.letter.toString ++ ", " ++ f.shown, f.about s))

/-- The help on what is known in a place. -/
def help : Scope → String
  | program =>
    programAbout ++ "\n\nUsage: " ++ programName ++ " [OPTIONS] <COMMAND>\n\nCommands:\n" ++
      table (Verb.all.map (fun v => (v.name, v.about)) ++ [(helpWord, helpAbout)]) ++ "\n" ++
      program.optionTable
  | verb v =>
    v.about ++ "\n\nUsage: " ++ programName ++ " " ++ v.name ++ " [OPTIONS]\n\n" ++
      (verb v).optionTable

/-- The help on asking for help. -/
def helpOnHelp : String :=
  helpAbout ++ "\n\nUsage: " ++ programName ++ " " ++ helpWord ++
    " [COMMAND]...\n\nArguments:\n" ++ table [("[COMMAND]...", "Print help for the subcommand(s)")]

end Scope

end Emend
