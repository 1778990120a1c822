/-!
# Edit scripts

An edit script says how one list becomes another: a list of chunks to keep, delete or insert, in
order. `Script.before` and `Script.after` are the two lists; all that is done to scripts here keeps
them, but for the order in which deleted and inserted chunks stand beside each other.

- `Script.single` does one thing to all of a list, and `Script.replacement` puts one list in the place
  of another;
- `Script.inBlocks` puts deletions before the insertions beside them.
-/

namespace Emend

/-- What becomes of a chunk. -/
inductive ChunkKind where
  | keep
  | delete
  | insert
  deriving DecidableEq, Repr, Inhabited

/-- Items that stand together and have the same fate. -/
structure Chunk (α : Type) where
  kind : ChunkKind
  items : List α
  deriving DecidableEq, Repr, Inhabited

/-- How one list becomes another. -/
abbrev Script (α : Type) := List (Chunk α)

variable {α : Type}

namespace Chunk

/-- What a chunk has of the list to change. -/
def before (c : Chunk α) : List α :=
  match c.kind with
  | .keep | .delete => c.items
  | .insert => []

/-- What a chunk has of the changed list. -/
def after (c : Chunk α) : List α :=
  match c.kind with
  | .keep | .insert => c.items
  | .delete => []

/-- The items of a chunk, each with its fate. -/
def marked (c : Chunk α) : List (ChunkKind × α) := c.items.map (c.kind, ·)

end Chunk

namespace Script

/-- The list to change. -/
def before (s : Script α) : List α := s.flatMap Chunk.before

/-- The changed list. -/
def after (s : Script α) : List α := s.flatMap Chunk.after

/-- A script of one chunk, or of none if there are no items. -/
def single (kind : ChunkKind) : List α → Script α
  | [] => []
  | items => [⟨kind, items⟩]

/-- The script that deletes a list and inserts another. -/
def replacement (deleted inserted : List α) : Script α :=
  single .delete deleted ++ single .insert inserted

/-- The size of a script, which counts its chunks and their items. -/
def weight : Script α → Nat
  | [] => 0
  | c :: rest => c.items.length + 1 + weight rest

/-- Puts the deletions and insertions that stand beside each other into one block, deletions first.
Before the script come deletions and insertions that are not yet written. -/
def blocksAfter (deleted inserted : List α) : Script α → Script α
  | [] => replacement deleted inserted
  | c :: rest =>
    match c.kind with
    | .keep => replacement deleted inserted ++ c :: blocksAfter [] [] rest
    | .delete => blocksAfter (deleted ++ c.items) inserted rest
    | .insert => blocksAfter deleted (inserted ++ c.items) rest

/-- A script with the deletions of each block before its insertions. -/
def inBlocks (s : Script α) : Script α := blocksAfter [] [] s

end Script

end Emend
