import Emend.Pattern.CharSet
import Emend.Unicode.Classes

/-!
# Regular expressions

The meaning of a pattern: characters, assertions about a place in the text, sequences,
alternatives, captured groups and repetitions.

- `Assertion.holds` decides an assertion from the characters on both sides of a place;
- `Regex.repeated` is the repetition that a pattern writes. It leaves out what cannot matter: an
  expression that matches only the empty text is not repeated more than once, nothing is repeated
  zero times, and once is the expression itself;
- `Regex.weight` estimates the size of the compiled expression.
-/

namespace Emend

/-- What an assertion says of words around a place. -/
inductive WordRule where
  /-- A word starts or ends here. -/
  | boundary
  /-- No word starts or ends here. -/
  | notBoundary
  /-- A word starts here. -/
  | start
  /-- A word ends here. -/
  | stop
  /-- No word reaches here from before. -/
  | startHalf
  /-- No word goes on from here. -/
  | stopHalf
  deriving DecidableEq, Repr, Inhabited

/-- A condition on a place in the text. -/
inductive Assertion where
  | textStart
  | textEnd
  /-- A line starts here; with `crlf` a carriage return ends a line, alone or before a newline. -/
  | lineStart (crlf : Bool)
  | lineEnd (crlf : Bool)
  /-- A condition on words; `full` says whether words are made of the word characters of all
  scripts or of plain ones only. -/
  | word (rule : WordRule) (full : Bool)
  deriving DecidableEq, Repr, Inhabited

/-- Whether there is a character and it belongs to words. -/
def isWordAt (full : Bool) : Option Char → Bool
  | none => false
  | some c => if full then Unicode.isWord c else Unicode.isAsciiWord c

/-- Decides a condition on words from whether there is a word character before and after. -/
def WordRule.holds : WordRule → Bool → Bool → Bool
  | boundary, before, after => before != after
  | notBoundary, before, after => before == after
  | start, before, after => !before && after
  | stop, before, after => before && !after
  | startHalf, before, _ => !before
  | stopHalf, _, after => !after

/-- Decides an assertion from the characters before and after the place, if any. -/
def Assertion.holds : Assertion → Option Char → Option Char → Bool
  | textStart, before, _ => before.isNone
  | textEnd, _, after => after.isNone
  | lineStart false, before, _ => before.isNone || before == some '\n'
  | lineStart true, before, after =>
    before.isNone || before == some '\n' || (before == some '\r' && after != some '\n')
  | lineEnd false, _, after => after.isNone || after == some '\n'
  | lineEnd true, before, after =>
    after.isNone || after == some '\r' || (after == some '\n' && before != some '\r')
  | word rule full, before, after => rule.holds (isWordAt full before) (isWordAt full after)

/-- A regular expression. -/
inductive Regex where
  /-- The empty text. -/
  | empty
  /-- One character of a set. -/
  | char (s : CharSet)
  | assertion (a : Assertion)
  | seq (r s : Regex)
  /-- The first expression, or else the second. -/
  | alt (r s : Regex)
  /-- The `index`-th captured group. -/
  | group (index : Nat) (r : Regex)
  /-- At least `least` times and at most `most` times, if there is a most; as often as possible if
  `greedy`, else as seldom as possible. -/
  | times (least : Nat) (most : Option Nat) (greedy : Bool) (r : Regex)
  deriving Inhabited, Repr, DecidableEq

namespace Regex

/-- Whether the expression matches at most the empty text. -/
def onlyEmpty : Regex → Bool
  | empty | assertion _ => true
  | char _ => false
  | seq r s | alt r s => r.onlyEmpty && s.onlyEmpty
  | group _ r => r.onlyEmpty
  | times _ most _ r => r.onlyEmpty && most.isSome

/-- Whether the expression may match the empty text. -/
def maybeEmpty : Regex → Bool
  | empty | assertion _ => true
  | char _ => false
  | seq r s => r.maybeEmpty && s.maybeEmpty
  | alt r s => r.maybeEmpty || s.maybeEmpty
  | group _ r => r.maybeEmpty
  | times least _ _ r => least == 0 || r.maybeEmpty

/-- The repetition of an expression. -/
def repeated (least : Nat) (most : Option Nat) (greedy : Bool) (r : Regex) : Regex :=
  let (least, most) :=
    if r.onlyEmpty then (min least 1, some (min (most.getD 1) 1)) else (least, most)
  if least = 0 ∧ most = some 0 then empty
  else if least = 1 ∧ most = some 1 then r
  else times least most greedy r

/-- The sequence of a list of expressions. -/
def seqAll : List Regex → Regex
  | [] => empty
  | [r] => r
  | r :: s :: rest => r.seq (seqAll (s :: rest))

/-- The alternatives of a list of expressions, the first preferred. -/
def altAll : List Regex → Regex
  | [] => empty
  | [r] => r
  | r :: s :: rest => r.alt (altAll (s :: rest))

/-- About how many bytes the compiled expression takes. -/
def weight : Regex → Nat
  | empty | assertion _ => 32
  | char s => s.weight
  | seq r s => r.weight + s.weight
  | alt r s => 40 + r.weight + s.weight
  | group _ r => 64 + r.weight
  | times least none _ r => 80 + (max least 1) * r.weight
  | times least (some most) _ r => 64 + least * r.weight + (most - least) * (r.weight + 40)

/-- The indices of the captured groups, from left to right. -/
def groupIndices : Regex → List Nat
  | empty | char _ | assertion _ => []
  | seq r s | alt r s => r.groupIndices ++ s.groupIndices
  | group index r => index :: r.groupIndices
  | times _ _ _ r => r.groupIndices

end Regex

end Emend
