import Emend.Diff.Between

/-!
# Compacting scripts

A script of fewer and larger chunks is easier to read. Each chunk of edits is shifted up as far as
it goes and then down as far as it goes, and joined with the chunks of its kind that it meets.

- A deletion and an insertion pass each other.
- An insertion passes items that are kept if it ends, or starts, with the same items.
- A deletion passes nothing that is kept.
-/

namespace Emend

variable {α : Type} [DecidableEq α]

namespace Script

/-- A script that is opened at one of its chunks. -/
structure Opened (α : Type) where
  /-- The chunks above, from the nearest on. -/
  above : Script α
  chunk : Chunk α
  below : Script α
  deriving Repr, Inhabited

/-- The whole of an opened script. -/
def Opened.closed (o : Opened α) : Script α := o.above.reverse ++ o.chunk :: o.below

/-- Puts kept items before a script. -/
def keepBefore (items : List α) : Script α → Script α
  | [] => [⟨.keep, items⟩]
  | c :: rest => if c.kind = .keep then ⟨.keep, items ++ c.items⟩ :: rest else ⟨.keep, items⟩ :: c :: rest

/-- Puts kept items after the script whose chunks are given from the last on. -/
def keepAfter (items : List α) : Script α → Script α
  | [] => [⟨.keep, items⟩]
  | c :: rest => if c.kind = .keep then ⟨.keep, c.items ++ items⟩ :: rest else ⟨.keep, items⟩ :: c :: rest

/-- What a chunk and the kept items above it have in common at their ends, if the chunk may pass. -/
def passingUp (kept : List α) (c : Chunk α) : Common α :=
  if c.kind = .insert then commonEnd kept c.items else ⟨[], kept, c.items⟩

/-- What a chunk and the kept items below it have in common at their beginnings, if the chunk may
pass. -/
def passingDown (kept : List α) (c : Chunk α) : Common α :=
  if c.kind = .insert then commonStart kept c.items else ⟨[], kept, c.items⟩

theorem length_passingUp (kept : List α) (c : Chunk α) :
    (passingUp kept c).left.length + (passingUp kept c).shared.length = kept.length := by
  unfold passingUp
  split
  · rw [← List.length_append, left_append_shared]
  · simp

theorem length_passingDown (kept : List α) (c : Chunk α) :
    (passingDown kept c).left.length + (passingDown kept c).shared.length = kept.length := by
  unfold passingDown
  split
  · rw [Nat.add_comm, ← List.length_append, shared_append_left]
  · simp

/-- Shifts a chunk of edits up. -/
def shiftUp : (above : Script α) → (chunk : Chunk α) → (below : Script α) → Opened α
  | [], c, below => ⟨[], c, below⟩
  | next :: above, c, below =>
    if next.kind = .keep then
      let common := passingUp next.items c
      if common.left.isEmpty then
        shiftUp above ⟨c.kind, common.shared ++ common.right⟩
          (if common.shared.isEmpty then below else keepBefore common.shared below)
      else if common.shared.isEmpty then ⟨next :: above, c, below⟩
      else
        shiftUp (⟨.keep, common.left⟩ :: above) ⟨c.kind, common.shared ++ common.right⟩
          (keepBefore common.shared below)
    else if next.kind = c.kind then shiftUp above ⟨c.kind, next.items ++ c.items⟩ below
    else shiftUp above c (next :: below)
termination_by above => weight above
decreasing_by
  · simp [weight]
  · have h := length_passingUp next.items c
    have : (passingUp next.items c).shared ≠ [] := by simpa [common] using ‹¬common.shared.isEmpty = true›
    have := List.length_pos_iff.mpr this
    simp [weight]
    omega
  · simp [weight]
  · simp [weight]

/-- Shifts a chunk of edits down. -/
def shiftDown : (below : Script α) → (chunk : Chunk α) → (above : Script α) → Opened α
  | [], c, above => ⟨above, c, []⟩
  | next :: below, c, above =>
    if next.kind = .keep then
      let common := passingDown next.items c
      if common.left.isEmpty then
        shiftDown below ⟨c.kind, common.right ++ common.shared⟩
          (if common.shared.isEmpty then above else keepAfter common.shared above)
      else if common.shared.isEmpty then ⟨above, c, next :: below⟩
      else
        shiftDown (⟨.keep, common.left⟩ :: below) ⟨c.kind, common.right ++ common.shared⟩
          (keepAfter common.shared above)
    else if next.kind = c.kind then shiftDown below ⟨c.kind, c.items ++ next.items⟩ above
    else shiftDown below c (next :: above)
termination_by below => weight below
decreasing_by
  · simp [weight]
  · have h := length_passingDown next.items c
    have : (passingDown next.items c).shared ≠ [] := by simpa [common] using ‹¬common.shared.isEmpty = true›
    have := List.length_pos_iff.mpr this
    simp [weight]
    omega
  · simp [weight]
  · simp [weight]

/-- Shifts the chunks of a kind, one after the other. No chunk comes to rest above the place it had,
so the steps are no more than the weight of the script. -/
def settle (kind : ChunkKind) : (steps : Nat) → (above : Script α) → (below : Script α) → Script α
  | 0, above, below => above.reverse ++ below
  | _, above, [] => above.reverse
  | steps + 1, above, c :: below =>
    if c.kind = kind then
      let up := shiftUp above c below
      let down := shiftDown up.below up.chunk up.above
      settle kind steps (down.chunk :: down.above) down.below
    else settle kind steps (c :: above) below

/-- A script with its deletions, and then its insertions, shifted together. -/
def compact (s : Script α) : Script α :=
  let s := settle .delete s.weight [] s
  settle .insert s.weight [] s

end Script

end Emend
