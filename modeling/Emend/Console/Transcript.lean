/-!
# Transcripts

What a command prints, on its two channels: what it was asked for, and what it complains about. A
transcript grows at its end.
-/

namespace Emend

/-- What is printed on each channel. -/
structure Transcript where
  out : String := ""
  err : String := ""
  deriving DecidableEq, Repr, Inhabited

namespace Transcript

/-- Prints a text. -/
def print (t : Transcript) (text : String) : Transcript := { t with out := t.out ++ text }

/-- Prints a line. -/
def say (t : Transcript) (line : String) : Transcript := t.print (line ++ "\n")

/-- Prints a line of complaint. -/
def complain (t : Transcript) (line : String) : Transcript := { t with err := t.err ++ line ++ "\n" }

end Transcript

end Emend
