import Emend.Diff.Compaction
import Emend.Text.Lines

/-!
# The difference of two texts

`lineDiff` lists the lines of two texts, each as kept, deleted or inserted.
-/

namespace Emend

/-- How the lines of one text become those of another. -/
def lineScript (before after : String) : Script String :=
  (Script.between (Text.lines before) (Text.lines after)).compact.inBlocks

/-- The lines of two texts with what becomes of each. -/
def lineDiff (before after : String) : List (ChunkKind × String) :=
  (lineScript before after).flatMap Chunk.marked

end Emend
