import Emend.Unicode.Classes

/-!
# Blanks around a text

A blank is a character that Unicode counts as white space. A text is blank if it holds nothing
else; `Text.trim` leaves out the blanks at both ends.
-/

namespace Emend.Text

/-- Leaves out the blanks at the start. -/
def trimStart (s : List Char) : List Char := s.dropWhile Unicode.isWhiteSpace

/-- Leaves out the blanks at the end. -/
def trimEnd (s : List Char) : List Char := (trimStart s.reverse).reverse

/-- Leaves out the blanks at both ends. -/
def trim (s : String) : String := .ofList (trimEnd (trimStart s.toList))

/-- Whether a text holds nothing but blanks. -/
def isBlank (s : String) : Bool := s.toList.all Unicode.isWhiteSpace

end Emend.Text
