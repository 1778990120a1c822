import Emend.Suggestion.JaroWinkler
import Emend.Tree.Resolve

/-!
# Suggestions

What may have been meant by a path that names nothing: the file in the same directory whose name is
most similar. `Tree.suggest?` finds it, for any measure of similarity.
-/

namespace Emend

/-- A measure of similarity: a score for each pair of names, an order of scores, and the least score
that counts as similar. -/
structure Measure (α : Type) where
  score : String → String → α
  le : α → α → Bool
  threshold : α

/-- The measure of names of files. Its scores are numbers, so the order of all doubles is that of
numbers for them, the threshold included. -/
def nameMeasure : Measure Float where
  score := Similarity.jaroWinkler
  le a b := Similarity.rank a ≤ Similarity.rank b
  threshold := 0.85

namespace Measure

variable {α : Type}

/-- The element with the greatest score, the last one of several. -/
def best? (le : α → α → Bool) : List (α × String) → Option (α × String)
  | [] => none
  | x :: rest =>
    match best? le rest with
    | none => some x
    | some y => if le x.1 y.1 then some y else some x

/-- The names that are similar to a wanted one, with their scores. -/
def similar (m : Measure α) (wanted : String) (names : List String) : List (α × String) :=
  (names.map fun name => (m.score wanted name, name)).filter fun x => m.le m.threshold x.1

/-- The most similar name. -/
def closest? (m : Measure α) (wanted : String) (names : List String) : Option String :=
  (best? m.le (m.similar wanted names)).map (·.2)

end Measure

/-- The directory in which a path looks for its last name. -/
def Path.directory (p : Path) : Path :=
  match Path.parent? p with
  | some parent => if parent.isEmpty then "." else parent
  | none => "."

/-- The file in the directory of a path whose name is most similar to that of the path. -/
def Tree.suggest? (t : Tree) {α : Type} (m : Measure α) (missing : Path) : Option Path := do
  let wanted ← Path.fileName? missing
  let directory := Path.directory missing
  let name ← m.closest? wanted (t.fileNames directory)
  some (Path.join directory name)

end Emend
