import Emend.Diff.Script
import Emend.Diff.Snake

/-!
# The script between two lists

`Script.between` finds a short script: what two lists have in common at their ends is kept, and the
rest is divided at a middle snake. However the rest is divided, the script leads from the one list
to the other.
-/

namespace Emend

variable {α : Type} [DecidableEq α]

/-- What two lists have in common at an end, and the rest of each. -/
structure Common (α : Type) where
  shared : List α
  left : List α
  right : List α
  deriving Repr, Inhabited

/-- What two lists have in common at their beginnings. -/
def commonStart : List α → List α → Common α
  | x :: xs, y :: ys =>
    if x = y then
      let c := commonStart xs ys
      { c with shared := x :: c.shared }
    else ⟨[], x :: xs, y :: ys⟩
  | xs, ys => ⟨[], xs, ys⟩

/-- What two lists have in common at their ends. -/
def commonEnd (xs ys : List α) : Common α :=
  let c := commonStart xs.reverse ys.reverse
  ⟨c.shared.reverse, c.left.reverse, c.right.reverse⟩

theorem shared_append_left : ∀ xs ys : List α,
    (commonStart xs ys).shared ++ (commonStart xs ys).left = xs
  | [], _ => by simp [commonStart]
  | _ :: _, [] => by simp [commonStart]
  | x :: xs, y :: ys => by
    unfold commonStart
    split
    · simp [shared_append_left xs ys]
    · rfl

theorem shared_append_right : ∀ xs ys : List α,
    (commonStart xs ys).shared ++ (commonStart xs ys).right = ys
  | [], _ => by simp [commonStart]
  | _ :: _, [] => by simp [commonStart]
  | x :: xs, y :: ys => by
    unfold commonStart
    split
    · next h => simp [shared_append_right xs ys, h]
    · rfl

theorem left_append_shared (xs ys : List α) :
    (commonEnd xs ys).left ++ (commonEnd xs ys).shared = xs := by
  have h := congrArg List.reverse (shared_append_left xs.reverse ys.reverse)
  simpa [commonEnd] using h

theorem right_append_shared (xs ys : List α) :
    (commonEnd xs ys).right ++ (commonEnd xs ys).shared = ys := by
  have h := congrArg List.reverse (shared_append_right xs.reverse ys.reverse)
  simpa [commonEnd] using h

namespace Script

/-- A script that makes one list of another. -/
def between (xs ys : List α) : Script α :=
  let start := commonStart xs ys
  let finish := commonEnd start.left start.right
  let inner :=
    if finish.left.isEmpty || finish.right.isEmpty then replacement finish.left finish.right
    else
      match Snake.middle finish.left finish.right with
      | none => replacement finish.left finish.right
      | some (x, y) =>
        if _shorter : (finish.left.take x).length + (finish.right.take y).length < xs.length + ys.length ∧
            (finish.left.drop x).length + (finish.right.drop y).length < xs.length + ys.length then
          between (finish.left.take x) (finish.right.take y) ++
            between (finish.left.drop x) (finish.right.drop y)
        else replacement finish.left finish.right
  single .keep start.shared ++ inner ++ single .keep finish.shared
termination_by xs.length + ys.length
decreasing_by
  · exact _shorter.1
  · exact _shorter.2

end Script

end Emend
