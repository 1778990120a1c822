import Emend.Console.Style
import Emend.Console.Transcript
import Emend.Pattern.Basic
import Emend.Text.Trim

/-!
# Logs

A log tells what goes on, on the channel for complaints. Each message has a level and a topic. A
`LogFilter` decides which messages are shown; `LogFilter.parse` reads it from a text such as
`warn,topic=debug/pattern`.

- `LogFilter.level` is the level for a topic: that of the directive with the longest name at the
  beginning of the topic;
- `Logger.record` puts a message on a transcript, if it is to be shown.
-/

namespace Emend

/-- How much a message matters, the most urgent first. -/
inductive LogLevel where
  | error
  | warn
  | info
  | debug
  | trace
  deriving DecidableEq, Repr, Inhabited

namespace LogLevel

/-- The place of a level among all levels. -/
def rank : LogLevel → Nat
  | error => 1
  | warn => 2
  | info => 3
  | debug => 4
  | trace => 5

/-- How a level is shown; all levels are shown with the same length. -/
def label : LogLevel → String
  | error => "ERROR"
  | warn => "WARN "
  | info => "INFO "
  | debug => "DEBUG"
  | trace => "TRACE"

/-- The style of the label of a level. -/
def style : LogLevel → Style
  | error => .red
  | warn => .yellow
  | info => .green
  | debug => .blue
  | trace => .cyan

end LogLevel

/-- The last level to be shown; without it, none is. -/
abbrev Verbosity := Option LogLevel

/-- Whether messages of a level are shown. -/
def Verbosity.shows (v : Verbosity) (level : LogLevel) : Bool :=
  match v with
  | some last => level.rank ≤ last.rank
  | none => false

/-- Reads the name of a verbosity, in capitals or not. -/
def Verbosity.ofName? (name : String) : Option Verbosity :=
  match name.toLower with
  | "off" => some none
  | "error" => some (some .error)
  | "warn" => some (some .warn)
  | "info" => some (some .info)
  | "debug" => some (some .debug)
  | "trace" => some (some .trace)
  | _ => none

/-- The verbosity for the topics that begin with a name, or for all. -/
structure LogDirective where
  name : Option String
  verbosity : Verbosity
  deriving DecidableEq, Repr, Inhabited

/-- Whether a directive is for a topic. -/
def LogDirective.isFor (d : LogDirective) (topic : String) : Bool :=
  match d.name with
  | some name => topic.startsWith name
  | none => true

/-- The length of the name of a directive. -/
def LogDirective.length (d : LogDirective) : Nat := (d.name.map (·.utf8ByteSize)).getD 0

/-- What is wrong with the text of a filter. -/
inductive LogFilterFault where
  | tooManyParts (text : String)
  | malformed (directive : String)
  | pattern (fault : PatternFault)
  deriving DecidableEq, Repr, Inhabited

/-- What is said of it. -/
def LogFilterFault.message : LogFilterFault → String
  | tooManyParts text => "invalid logging spec '" ++ text ++ "' (too many '/'s)"
  | malformed directive => "invalid logging spec '" ++ directive ++ "'"
  | pattern fault => "invalid regex filter - " ++ fault.message

/-- Which messages are shown. -/
structure LogFilter where
  directives : List LogDirective := []
  /-- What a message has to match. -/
  pattern : Option Pattern := none
  deriving Inhabited

namespace LogFilter

/-- Adds a directive, in the place of one with the same name. -/
def add (directives : List LogDirective) (d : LogDirective) : List LogDirective :=
  if directives.any (·.name == d.name) then
    directives.map fun other => if other.name == d.name then d else other
  else directives ++ [d]

/-- Reads a directive: a level, a name, or both with an equals sign between them. -/
def readDirective (text : String) : Except LogFilterFault LogDirective :=
  match text.splitOn "=" with
  | [word] =>
    match Verbosity.ofName? word with
    | some verbosity => .ok ⟨none, verbosity⟩
    | none => .ok ⟨some word, some .trace⟩
  | [name, level] =>
    let level := Text.trim level
    if level.isEmpty then .ok ⟨some name, some .trace⟩
    else
      match Verbosity.ofName? level with
      | some verbosity => .ok ⟨some name, verbosity⟩
      | none => .error (.malformed level)
  | _ => .error (.malformed text)

/-- Reads directives, and leaves out those that are faulty. -/
def readDirectives (texts : List String) : List LogDirective × List LogFilterFault :=
  texts.foldl (fun (directives, faults) text =>
    match readDirective text with
    | .ok d => (add directives d, faults)
    | .error fault => (directives, faults ++ [fault])) ([], [])

/-- Reads a filter: directives with commas between them, and a pattern after a slash. What is faulty
is left out. -/
def parse (text : String) : LogFilter × List LogFilterFault :=
  let directivesOf (part : String) :=
    readDirectives (((part.splitOn ",").map Text.trim).filter (!·.isEmpty))
  match text.splitOn "/" with
  | [part] =>
    let (directives, faults) := directivesOf part
    ({ directives }, faults)
  | [part, source] =>
    let (directives, faults) := directivesOf part
    match Pattern.compile {} source with
    | .ok pattern => ({ directives, pattern }, faults)
    | .error fault => ({ directives }, faults ++ [.pattern fault])
  | _ => ({}, [.tooManyParts text])

/-- A filter that shows messages of all topics up to a level. -/
def upTo (level : LogLevel) : LogFilter := ⟨[⟨none, some level⟩], none⟩

/-- The more special one of two directives for a topic, and the second if they are equally so. -/
def moreSpecial (d : Option LogDirective) (e : LogDirective) : Option LogDirective :=
  match d with
  | some d => if e.length < d.length then some d else some e
  | none => some e

/-- The verbosity for a topic. Without any directives, only errors are shown. -/
def verbosity (f : LogFilter) (topic : String) : Verbosity :=
  if f.directives.isEmpty then some .error
  else
    match (f.directives.filter (·.isFor topic)).foldl moreSpecial none with
    | some d => d.verbosity
    | none => none

/-- Whether messages of a level and a topic may be shown. -/
def shows (f : LogFilter) (level : LogLevel) (topic : String) : Bool :=
  (f.verbosity topic).shows level

/-- Whether a message has in it what the filter looks for. -/
def accepts (f : LogFilter) (message : String) : Bool :=
  match f.pattern with
  | some pattern => !(pattern.allMatches message.toList).isEmpty
  | none => true

end LogFilter

/-- Writes a log. -/
structure Logger where
  filter : LogFilter
  palette : Palette := {}
  deriving Inhabited

namespace Logger

/-- How a message is shown. Lines after the first are indented. -/
def line (l : Logger) (level : LogLevel) (topic message : String) : String :=
  let paint := l.palette.paint
  paint .grey "[" ++ paint level.style level.label ++ " " ++ topic ++ paint .grey "]" ++ " " ++
    message.replace "\n" "\n    "

/-- Puts a message on a transcript, if it is to be shown. -/
def record (l : Logger) (level : LogLevel) (topic message : String) (t : Transcript) : Transcript :=
  if l.filter.shows level topic && l.filter.accepts message then
    t.complain (l.line level topic message)
  else t

end Logger

end Emend
