import Emend.Version.Requirement
import Emend.Text.Decimal
import Emend.Text.Quoted
import Emend.Text.Trim

/-!
# Reading versions and requirements

- `Version.parse` reads a version;
- `Requirement.parse` reads a requirement: a lone wildcard or comparators between commas;
- `meetsRequirement` decides whether the text of a version meets the text of a requirement.

Reading goes from left to right and the first fault is reported, with the last field begun.
-/

namespace Emend

/-- A field of a version. -/
inductive VersionField where
  | major
  | minor
  | patch
  | prerelease
  | build
  deriving DecidableEq, Repr, Inhabited

/-- The name of a field in messages. -/
def VersionField.name : VersionField → String
  | major => "major version number"
  | minor => "minor version number"
  | patch => "patch version number"
  | prerelease => "pre-release identifier"
  | build => "build metadata"

/-- Why a text is no version or no requirement. -/
inductive VersionSyntaxFault where
  | empty
  | unexpectedEnd (field : VersionField)
  | unexpectedChar (field : VersionField) (c : Char)
  | unexpectedCharAfter (field : VersionField) (c : Char)
  | expectedComma (field : VersionField) (c : Char)
  | leadingZero (field : VersionField)
  | overflow (field : VersionField)
  | emptySegment (field : VersionField)
  | wildcardNotAlone (c : Char)
  | afterWildcard
  | tooManyComparators
  deriving DecidableEq, Repr, Inhabited

/-- What is said of a fault. -/
def VersionSyntaxFault.message : VersionSyntaxFault → String
  | empty => "empty string, expected a semver version"
  | unexpectedEnd field => "unexpected end of input while parsing " ++ field.name
  | unexpectedChar field c =>
    "unexpected character " ++ Quoted.char c ++ " while parsing " ++ field.name
  | unexpectedCharAfter field c => "unexpected character " ++ Quoted.char c ++ " after " ++ field.name
  | expectedComma field c => "expected comma after " ++ field.name ++ ", found " ++ Quoted.char c
  | leadingZero field => "invalid leading zero in " ++ field.name
  | overflow field => "value of " ++ field.name ++ " exceeds u64::MAX"
  | emptySegment field => "empty identifier segment in " ++ field.name
  | wildcardNotAlone c =>
    "wildcard req (" ++ c.toString ++ ") must be the only comparator in the version req"
  | afterWildcard => "unexpected character after wildcard in version req"
  | tooManyComparators => "excessive number of version comparators"

/-- Reading from the start of a text: what was read, most often with the rest of the text, or a
fault. -/
abbrev VersionRead := Except VersionSyntaxFault

namespace Version

/-- The least number that is too large for a version, 2⁶⁴. -/
def numberBound : Nat := 0x10000000000000000

/-- Reads a number without leading zeros. -/
def readNumber (field : VersionField) (text : List Char) : VersionRead (Nat × List Char) :=
  let digits := text.takeWhile Char.isDigit
  let rest := text.dropWhile Char.isDigit
  match digits, rest with
  | [], [] => .error (.unexpectedEnd field)
  | [], c :: _ => .error (.unexpectedChar field c)
  | '0' :: _ :: _, _ => .error (.leadingZero field)
  | digits, rest =>
    if Decimal.value digits < numberBound then .ok (Decimal.value digits, rest)
    else .error (.overflow field)

/-- Takes the dot after a field. -/
def readDot (field : VersionField) : List Char → VersionRead (List Char)
  | '.' :: rest => .ok rest
  | c :: _ => .error (.unexpectedCharAfter field c)
  | [] => .error (.unexpectedEnd field)

/-- Whether a character can stand in an identifier. -/
def isIdentifierChar (c : Char) : Bool := c.isAlphanum || c == '-'

/-- Closes a segment, given last character first. In a pre-release tag a number has no leading
zeros. -/
def closeSegment (field : VersionField) (segment : List Char) : VersionRead (List Char) :=
  match segment.reverse with
  | [] => .error (.emptySegment field)
  | '0' :: c :: more =>
    if field == .prerelease && (c :: more).all Char.isDigit then .error (.leadingZero field)
    else .ok ('0' :: c :: more)
  | text => .ok text

/-- Reads segments between dots; `segment` is the present one, last character first. -/
def readSegments (field : VersionField) (segment : List Char) :
    List Char → VersionRead (List (List Char) × List Char)
  | [] => do
    let closed ← closeSegment field segment
    return ([closed], [])
  | c :: rest =>
    if isIdentifierChar c then readSegments field (c :: segment) rest
    else do
      let closed ← closeSegment field segment
      if c == '.' then
        let (more, rest) ← readSegments field [] rest
        return (closed :: more, rest)
      else return ([closed], c :: rest)

/-- The identifier that a segment writes. -/
def identifier (segment : List Char) : Identifier :=
  if segment.all Char.isDigit then .number (Decimal.value segment) else .word (.ofList segment)

/-- Reads a pre-release tag if a hyphen starts one. -/
def readPrerelease : List Char → VersionRead (Option Prerelease × List Char)
  | '-' :: text => do
    let (segments, rest) ← readSegments .prerelease [] text
    return (some (segments.map identifier), rest)
  | text => return (none, text)

/-- Reads build metadata if a plus sign starts it. -/
def readBuild : List Char → VersionRead (Option (List String) × List Char)
  | '+' :: text => do
    let (segments, rest) ← readSegments .build [] text
    return (some (segments.map String.ofList), rest)
  | text => return (none, text)

/-- The last field begun when tag and metadata are optional. -/
def lastField (before : VersionField) (tag : Option Prerelease) (build : Option (List String)) :
    VersionField :=
  if build.isSome then .build else if tag.isSome then .prerelease else before

/-- Reads a version. -/
def parse (source : String) : VersionRead Version := do
  if source.isEmpty then throw .empty
  let (major, text) ← readNumber .major source.toList
  let (minor, text) ← readNumber .minor (← readDot .major text)
  let (patch, text) ← readNumber .patch (← readDot .minor text)
  let (tag, text) ← readPrerelease text
  let (build, text) ← readBuild text
  match text with
  | [] => return ⟨major, minor, patch, tag.getD [], build.getD []⟩
  | c :: _ => throw (.unexpectedCharAfter (lastField .patch tag build) c)

end Version

namespace Requirement

/-- Leaves out the spaces at the start. No other character counts as one here. -/
def skipSpaces (text : List Char) : List Char := text.dropWhile (· == ' ')

/-- Takes a wildcard from the start. -/
def readWildcard? : List Char → Option (Char × List Char)
  | c :: rest => if c == '*' || c == 'x' || c == 'X' then some (c, rest) else none
  | [] => none

/-- Takes an operator from the start, if one is written. -/
def readOp : List Char → Option ComparatorOp × List Char
  | '=' :: rest => (some .exact, rest)
  | '>' :: '=' :: rest => (some .greaterEq, rest)
  | '>' :: rest => (some .greater, rest)
  | '<' :: '=' :: rest => (some .lessEq, rest)
  | '<' :: rest => (some .less, rest)
  | '~' :: rest => (some .tilde, rest)
  | '^' :: rest => (some .caret, rest)
  | text => (none, text)

/-- A number of a comparator that may be left out or written as a wildcard. -/
inductive Part where
  | absent
  | wildcard
  | number (n : Nat)
  deriving DecidableEq, Repr, Inhabited

namespace Part

/-- The number, if there is one. -/
def number? : Part → Option Nat
  | number n => some n
  | _ => none

end Part

/-- Reads the number after a dot, if there is a dot. -/
def readPart (field : VersionField) (afterWildcard : Bool) : List Char → VersionRead (Part × List Char)
  | '.' :: text =>
    match readWildcard? text with
    | some (_, rest) => return (.wildcard, rest)
    | none => do
      if afterWildcard then throw .afterWildcard
      let (n, rest) ← Version.readNumber field text
      return (.number n, rest)
  | text => return (.absent, text)

/-- Reads a comparator and the spaces after it, and says which field was begun last. -/
def readComparator (text : List Char) : VersionRead ((Comparator × VersionField) × List Char) := do
  let (op, text) := readOp text
  let (major, text) ← Version.readNumber .major (skipSpaces text)
  let (minor, text) ← readPart .minor false text
  let (patch, text) ← readPart .patch (minor == .wildcard) text
  let (tag, text) ← if patch.number?.isSome then Version.readPrerelease text else pure (none, text)
  let (build, text) ← if patch.number?.isSome then Version.readBuild text else pure (none, text)
  let wild := minor == .wildcard || patch == .wildcard
  let comparator := {
    op := op.getD (if wild then .wildcard else .caret)
    major
    minor := minor.number?
    patch := patch.number?
    prerelease := tag.getD [] }
  let field : VersionField :=
    if patch != .absent then .patch else if minor != .absent then .minor else .major
  return ((comparator, Version.lastField field tag build), skipSpaces text)

/-- Replaces a fault by the one of a wildcard that is not alone, if that is what stands there. -/
def blameWildcard (text : List Char) (fault : VersionSyntaxFault) : VersionSyntaxFault :=
  match readWildcard? text with
  | some (c, rest) =>
    match skipSpaces rest with
    | [] | ',' :: _ => .wildcardNotAlone c
    | _ => fault
  | none => fault

/-- Reads comparators between commas, at most `room` of them. -/
def readComparators : (room : Nat) → List Char → VersionRead (List Comparator)
  | 0, _ => .error .tooManyComparators
  | room + 1, text => do
    let ((comparator, field), rest) ← (readComparator text).mapError (blameWildcard text)
    match rest with
    | [] => return [comparator]
    | ',' :: rest => return comparator :: (← readComparators room (skipSpaces rest))
    | c :: _ => throw (.expectedComma field c)

/-- The greatest number of comparators. -/
def maxComparators : Nat := 32

/-- Reads a requirement. -/
def parse (source : String) : VersionRead Requirement :=
  let text := skipSpaces source.toList
  match readWildcard? text with
  | some (c, rest) =>
    match skipSpaces rest with
    | [] => .ok ⟨[]⟩
    | ',' :: _ => .error (.wildcardNotAlone c)
    | _ => .error .afterWildcard
  | none => (readComparators maxComparators text).map (⟨·⟩)

end Requirement

/-- Why it cannot be said whether a version meets a requirement. -/
inductive VersionFault where
  | invalidVersion (value : String) (fault : VersionSyntaxFault)
  | invalidRequirement (value : String) (fault : VersionSyntaxFault)
  deriving DecidableEq, Repr, Inhabited

/-- What is said of it. -/
def VersionFault.message : VersionFault → String
  | invalidVersion value fault => "invalid version '" ++ value ++ "': " ++ fault.message
  | invalidRequirement value fault =>
    "invalid version requirement '" ++ value ++ "': " ++ fault.message

/-- Whether the text of a version meets the text of a requirement. A blank requirement, or none, is
met by every text. -/
def meetsRequirement (version : String) (requirement : Option String) :
    Except VersionFault Bool := do
  let wanted := Text.trim (requirement.getD "")
  if wanted.isEmpty then return true
  let version ← (Version.parse (Text.trim version)).mapError (.invalidVersion version)
  let requirement ← (Requirement.parse wanted).mapError (.invalidRequirement wanted)
  return requirement.admits version

end Emend
