/-!
# Styles of text

A terminal shows text in a style that starts with a code and ends with the code for no style.
`Palette.paint` puts the codes around a text, or leaves it as it is if the palette is plain.
-/

namespace Emend

/-- A style of text. -/
inductive Style where
  | bold
  | dimmed
  | red
  | green
  | yellow
  | blue
  | cyan
  | grey
  deriving DecidableEq, Repr, Inhabited

namespace Style

/-- The number of a style. -/
def number : Style → String
  | bold => "1"
  | dimmed => "2"
  | red => "31"
  | green => "32"
  | yellow => "33"
  | blue => "34"
  | cyan => "36"
  | grey => "90"

/-- The code with a number. -/
def code (number : String) : String := "\x1b[" ++ number ++ "m"

/-- The code that starts a style. -/
def opening (s : Style) : String := code s.number

/-- The code that ends all styles. -/
def closing : String := code "0"

end Style

/-- Whether texts are painted. -/
structure Palette where
  coloured : Bool := false
  deriving DecidableEq, Repr, Inhabited

namespace Palette

/-- Shows a text in a style. Where a style ends inside of the text, this one starts again. -/
def paint (p : Palette) (style : Style) (text : String) : String :=
  if p.coloured then
    style.opening ++ text.replace Style.closing (Style.closing ++ style.opening) ++ Style.closing
  else text

end Palette

end Emend
