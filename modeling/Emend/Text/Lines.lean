/-!
# Lines

A line of a text goes to the end of its line break. A line break is a line feed, a carriage return,
or both in this order. Only the last line may have none. The lines of a text, put together, are the
text.
-/

namespace Emend.Text

/-- Whether a character ends a line, given what comes next. -/
def endsLine (c : Char) (rest : List Char) : Bool :=
  c == '\n' || (c == '\r' && rest.head? != some '\n')

/-- The lines of a text, as characters. -/
def charLines : List Char → List (List Char)
  | [] => []
  | c :: rest =>
    if endsLine c rest then [c] :: charLines rest
    else
      match charLines rest with
      | [] => [[c]]
      | line :: lines => (c :: line) :: lines

/-- The lines of a text. -/
def lines (s : String) : List String := (charLines s.toList).map String.ofList

/-- A line as it is printed by itself, that is, with a line break at its end. -/
def closed (line : String) : String :=
  if line.toList.getLast? == some '\n' || line.toList.getLast? == some '\r' then line
  else line ++ "\n"

end Emend.Text
