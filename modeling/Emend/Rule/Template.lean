import Emend.Pattern.Basic
import Emend.Text.Decimal

/-!
# Replacement templates

What stands in the place of a match: plain text, and the texts of the groups of the match.

- `Template.readEscape` reads what follows a backslash;
- `Template.parse` reads a whole template, or says where the first faulty escape begins;
- `Template.expand` fills a template in for a match.

Only the backslash is special, so that dollar signs and braces stay as they are.
-/

namespace Emend

/-- A part of a template. -/
inductive Template.Piece where
  | literal (text : List Char)
  | group (index : Nat)
  | named (name : String)
  deriving DecidableEq, Repr, Inhabited

/-- A template: its text and its parts. -/
structure Template where
  source : String
  pieces : List Template.Piece
  deriving DecidableEq, Repr, Inhabited

/-- What is wrong with an escape. -/
inductive EscapeFault where
  | trailingBackslash
  | zero
  | noBracket
  | unterminated
  | badName
  | unknown
  deriving DecidableEq, Repr, Inhabited

/-- What is said of a faulty escape. -/
def EscapeFault.message : EscapeFault → String
  | trailingBackslash => "trailing backslash"
  | zero => "use \\g<0> to insert the whole match"
  | noBracket => "expected `<` after \\g"
  | unterminated => "unterminated group reference"
  | badName => "bad group name"
  | unknown => "unknown escape"

/-- A faulty escape and the byte at which its backslash stands. -/
structure TemplateFault where
  offset : Nat
  fault : EscapeFault
  deriving DecidableEq, Repr, Inhabited

namespace Template

/-- The least number that is too large for a group, 2⁶⁴. -/
def groupBound : Nat := 0x10000000000000000

/-- Reads the number of a group: digits after an optional plus sign. -/
def groupNumber? (text : List Char) : Option Nat :=
  let digits := match text with
    | '+' :: rest => rest
    | _ => text
  if !digits.isEmpty && digits.all Char.isDigit && Decimal.value digits < groupBound then
    some (Decimal.value digits)
  else none

/-- Whether a text can name a group: it begins with a letter or an underscore and goes on with
letters, digits and underscores. -/
def isGroupName : List Char → Bool
  | [] => false
  | c :: rest =>
    (Unicode.isAlphabetic c || c == '_') && rest.all fun c => Unicode.isAlphanumeric c || c == '_'

/-- Reads the text between angle brackets: a number or a name. -/
def reference (body : List Char) : Except EscapeFault Piece :=
  match groupNumber? body with
  | some n => .ok (.group n)
  | none => if isGroupName body then .ok (.named (.ofList body)) else .error .badName

/-- Reads what follows a backslash: one part and the rest of the template. -/
def readEscape : List Char → Except EscapeFault (Piece × List Char)
  | [] => .error .trailingBackslash
  | 'n' :: rest => .ok (.literal ['\n'], rest)
  | 't' :: rest => .ok (.literal ['\t'], rest)
  | 'r' :: rest => .ok (.literal ['\r'], rest)
  | '0' :: _ => .error .zero
  | 'g' :: '<' :: rest =>
    match rest.dropWhile (· != '>') with
    | [] => .error .unterminated
    | _ :: after => (reference (rest.takeWhile (· != '>'))).map (·, after)
  | 'g' :: _ => .error .noBracket
  | c :: rest =>
    if c.isDigit then
      match rest with
      | d :: more =>
        if d.isDigit then .ok (.group (Decimal.value [c, d]), more)
        else .ok (.group (Decimal.value [c]), rest)
      | [] => .ok (.group (Decimal.value [c]), [])
    else if Unicode.isAlphanumeric c then .error .unknown
    else .ok (.literal [c], rest)

/-- An escape takes at least one character. -/
theorem readEscape_length {text rest : List Char} {p : Piece}
    (h : readEscape text = .ok (p, rest)) : rest.length < text.length := by
  unfold readEscape at h
  split at h
  all_goals try (simp at h; done)
  · obtain ⟨-, rfl⟩ := by simpa using h
    simp
  · obtain ⟨-, rfl⟩ := by simpa using h
    simp
  · obtain ⟨-, rfl⟩ := by simpa using h
    simp
  · rename_i inner
    split at h
    · simp at h
    · rename_i after hd
      cases hr : reference (inner.takeWhile (· != '>')) with
      | error e => simp [hr, Except.map] at h
      | ok q =>
        simp only [hr, Except.map, Except.ok.injEq, Prod.mk.injEq] at h
        have := (List.dropWhile_sublist (l := inner) (· != '>')).length_le
        rw [hd] at this
        simp only [List.length_cons] at this ⊢
        rw [← h.2]
        omega
  · split at h
    · split at h
      · split at h <;> (obtain ⟨-, rfl⟩ := by simpa using h) <;> (simp only [List.length_cons]; omega)
      · obtain ⟨-, rfl⟩ := by simpa using h
        simp
    · split at h
      · simp at h
      · obtain ⟨-, rfl⟩ := by simpa using h
        simp

/-- Puts a part in front of others. Literal texts that meet become one. -/
def glue : Piece → List Piece → List Piece
  | .literal s, .literal t :: rest => .literal (s ++ t) :: rest
  | p, rest => p :: rest

/-- The number of bytes that a text takes. -/
def byteLength : List Char → Nat
  | [] => 0
  | c :: text => c.utf8Size + byteLength text

/-- Reads the parts of a template from a place on, which is `offset` bytes from the start. -/
def parseFrom (offset : Nat) : List Char → Except TemplateFault (List Piece)
  | [] => .ok []
  | c :: text =>
    if c = '\\' then
      match h : readEscape text with
      | .error fault => .error ⟨offset, fault⟩
      | .ok (p, rest) =>
        have := readEscape_length h
        (parseFrom (offset + byteLength (c :: text) - byteLength rest) rest).map (glue p)
    else (parseFrom (offset + c.utf8Size) text).map (glue (.literal [c]))
termination_by text => text.length

/-- Reads a template. -/
def parse (source : String) : Except TemplateFault Template :=
  (parseFrom 0 source.toList).map (⟨source, ·⟩)

/-- Whether a template refers to no group. -/
def isLiteral (t : Template) : Bool :=
  t.pieces.all fun
    | .literal _ => true
    | _ => false

/-- Fills in a part. A group that took no part in the match is empty. -/
def Piece.expand (pattern : Pattern) (m : Match) : Piece → List Char
  | literal text => text
  | group index => (m.group? index).getD []
  | named name => ((pattern.groupIndex? name).bind m.group?).getD []

/-- Fills in a template. -/
def expand (t : Template) (pattern : Pattern) (m : Match) : List Char :=
  t.pieces.flatMap (·.expand pattern m)

/-- The first group that a template refers to and a pattern does not have, as it is written. -/
def unknownGroup? (t : Template) (pattern : Pattern) : Option String :=
  t.pieces.findSome? fun
    | .literal _ => none
    | .group index => if index ≤ pattern.groupCount then none else some (toString index)
    | .named name => if (pattern.groupIndex? name).isSome then none else some name

end Template

end Emend
