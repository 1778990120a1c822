import Emend.Proofs.Tree.Edit
import Emend.Tree.System

/-!
# How a try to write ends

A text is put in the place of a file by several calls, and each may be refused. Only three things can
come of it (`Ending`), whichever call it is: the file has its new text, or it is as it was, or it was
changed and yet the last calls are refused. Which of them it is depends on the place, the mode and the
text (`System.ending`), and the tree is changed in this place or not at all (`System.rewrite_eq`).

By way of a temporary file, the text is written whole or not at all (`System.attempt_replacing`): it
takes the place of the old one in one call. If the text is written over the old one there is no such
call (`System.attempt_overwriting`).
-/

namespace Emend

/-- What can come of a try to put a text in the place of a file. -/
inductive Ending where
  | made
  /-- The try is refused, and the file is as it was. -/
  | kept (fault : SystemFault)
  /-- The try is refused when the file has been changed, and these are its bytes then. -/
  | spoilt (fault : SystemFault) (content : ByteArray)

namespace Ending

/-- Why a try is refused, if it is. -/
def fault? : Ending → Option SystemFault
  | made => none
  | kept fault | spoilt fault _ => some fault

/-- The tree that a try leaves. -/
def tree (t : Tree) (place : Location) (f : File) (text : String) : Ending → Tree
  | made => t.replace place (f.withText text)
  | kept _ => t
  | spoilt _ content => t.replace place (f.withContent content)

end Ending

namespace System

variable {s : System} {t : Tree} {temporary place : Location} {f : File} {mode : Nat}
  {text : String} {call : Call} {calls : List Call} {r : Refusal}

/-! ### How it ends -/

/-- The first refusal of calls that are made in order. -/
def firstRefusal? (s : System) (place : Location) (calls : List Call) : Option Refusal :=
  calls.findSome? (s.refuses place)

/-- How it ends to write a text over the one in a place. -/
def endingOver (s : System) (place : Location) (text : String) : Ending :=
  match s.refuses place .truncate, s.refuses place (.write .place text),
    s.firstRefusal? place [.sync .place, .touch] with
  | some r, _, _ => .kept r.fault
  | none, some r, _ => .spoilt r.fault (r.cut text)
  | none, none, some r => .spoilt r.fault text.toUTF8
  | none, none, none => .made

/-- How it ends to put a text in a place by way of a temporary file. -/
def endingBeside (s : System) (place : Location) (mode : Nat) (text : String) : Ending :=
  match s.firstRefusal? place
      [.write .temporary text, .sync .temporary, .setMode mode, .rename],
    s.refuses place .touch with
  | some r, _ => .kept r.fault
  | none, some r => .spoilt r.fault text.toUTF8
  | none, none => .made

/-- How it ends to put a text in the place of a file with a mode. -/
def ending (s : System) (place : Location) (mode : Nat) (text : String) : Ending :=
  match s.refuses place .openFile, s.refuses place .create with
  | some r, _ => .kept r.fault
  | none, some r => if r.fault.isDenial then s.endingOver place text else .kept r.fault
  | none, none => s.endingBeside place mode text

/-! ### Calls in order -/

theorem attempt_cons_of_none (h : s.refuses place call = none) (t : Tree) (calls : List Call) :
    s.attempt temporary place t (call :: calls) =
      s.attempt temporary place (t.perform temporary place call) calls := by
  rw [attempt, h]

theorem attempt_cons_of_some (h : s.refuses place call = some r) (t : Tree) (calls : List Call) :
    s.attempt temporary place t (call :: calls) =
      (some r.fault, t.breakOff temporary place r call) := by
  rw [attempt, h]

theorem firstRefusal?_cons_of_none (h : s.refuses place call = none) (calls : List Call) :
    s.firstRefusal? place (call :: calls) = s.firstRefusal? place calls := by
  rw [firstRefusal?, List.findSome?_cons, h]
  rfl

theorem firstRefusal?_cons_of_some (h : s.refuses place call = some r) (calls : List Call) :
    s.firstRefusal? place (call :: calls) = some r := by
  rw [firstRefusal?, List.findSome?_cons, h]

/-- **A text is written whole or not at all**, by way of a temporary file. If all calls are let
through, a new file is in the place, with the old mode and nothing else beside it. If one of them is
refused, the tree has at most the temporary file besides what it had. -/
theorem attempt_replacing (vacant : t.at? temporary = none) (creates : s.refuses place .create = none)
    (mode : Nat) (text : String) :
    match s.firstRefusal? place
        [.write .temporary text, .sync .temporary, .setMode mode, .rename] with
    | some r => ∃ f, s.attempt temporary place t (replacing mode text) =
        (some r.fault, t.create temporary f)
    | none => s.attempt temporary place t (replacing mode text) =
        (none, t.replace place { content := text.toUTF8, mode, written := true }) := by
  rw [replacing, attempt_cons_of_none creates, Tree.perform]
  -- From now on there is a temporary file, until it is moved.
  cases writes : s.refuses place (.write .temporary text) with
  | some r =>
    rw [firstRefusal?_cons_of_some writes, attempt_cons_of_some writes, Tree.breakOff, Spot.location,
      Tree.modify_create vacant]
    exact ⟨_, rfl⟩
  | none =>
  rw [firstRefusal?_cons_of_none writes, attempt_cons_of_none writes, Tree.perform, Spot.location,
    Tree.modify_create vacant]
  cases syncs : s.refuses place (.sync .temporary) with
  | some r =>
    rw [firstRefusal?_cons_of_some syncs, attempt_cons_of_some syncs]
    exact ⟨_, rfl⟩
  | none =>
  rw [firstRefusal?_cons_of_none syncs, attempt_cons_of_none syncs, Tree.perform]
  cases sets : s.refuses place (.setMode mode) with
  | some r =>
    rw [firstRefusal?_cons_of_some sets, attempt_cons_of_some sets]
    exact ⟨_, rfl⟩
  | none =>
  rw [firstRefusal?_cons_of_none sets, attempt_cons_of_none sets, Tree.perform,
    Tree.modify_create vacant]
  cases renames : s.refuses place .rename with
  | some r =>
    rw [firstRefusal?_cons_of_some renames, attempt_cons_of_some renames]
    exact ⟨_, rfl⟩
  | none =>
    rw [firstRefusal?_cons_of_none renames, attempt_cons_of_none renames, Tree.perform,
      Tree.rename_create vacant]
    rfl

/-- A text that is written over the one in the place is there whole, in part, or not at all. -/
theorem attempt_overwriting (stands : t.at? place = some (.file f)) (text : String) :
    s.attempt temporary place t (overwriting text) =
      ((s.endingOver place text).fault?, (s.endingOver place text).tree t place f text) := by
  rw [overwriting, endingOver]
  cases truncates : s.refuses place .truncate with
  | some r => exact attempt_cons_of_some truncates ..
  | none =>
  rw [attempt_cons_of_none truncates, Tree.perform, Tree.modify_of_file stands]
  cases writes : s.refuses place (.write .place text) with
  | some r =>
    rw [attempt_cons_of_some writes, Tree.breakOff, Spot.location, Tree.modify_replace stands]
    rfl
  | none =>
  rw [attempt_cons_of_none writes, Tree.perform, Spot.location, Tree.modify_replace stands]
  cases syncs : s.refuses place (.sync .place) with
  | some r =>
    rw [firstRefusal?_cons_of_some syncs, attempt_cons_of_some syncs]
    rfl
  | none =>
  rw [firstRefusal?_cons_of_none syncs, attempt_cons_of_none syncs, Tree.perform]
  cases touches : s.refuses place .touch with
  | some r =>
    rw [firstRefusal?_cons_of_some touches, attempt_cons_of_some touches]
    rfl
  | none =>
    rw [firstRefusal?_cons_of_none touches, attempt_cons_of_none touches, Tree.perform,
      Tree.modify_replace stands]
    rfl

/-- Putting a text in the place of a file ends as the calls do, and there is no other trace of it. -/
theorem rewrite_eq (s : System) (stands : t.at? place = some (.file f)) (text : String) :
    s.rewrite t place f.mode text =
      ((s.ending place f.mode text).fault?, (s.ending place f.mode text).tree t place f text) := by
  rw [rewrite, ending]
  cases opens : s.refuses place .openFile with
  | some r => rfl
  | none =>
  cases creates : s.refuses place .create with
  | some r =>
    dsimp only
    split
    · exact attempt_overwriting stands text
    · rfl
  | none =>
    have vacant := t.at?_vacantIn place.dropLast
    have replaced := attempt_replacing vacant creates f.mode text
    dsimp only
    rw [endingBeside]
    cases refusal : s.firstRefusal? place
        [.write .temporary text, .sync .temporary, .setMode f.mode, .rename] with
    | some r =>
      -- The temporary file is taken away, and the tree is what it was.
      rw [refusal] at replaced
      obtain ⟨g, heq⟩ := replaced
      rw [heq]
      dsimp only
      rw [Tree.remove_create vacant]
      rfl
    | none =>
      rw [refusal] at replaced
      rw [replaced]
      dsimp only
      cases touches : s.refuses place .touch with
      | some r => exact attempt_cons_of_some touches ..
      | none =>
        rw [attempt_cons_of_none touches, Tree.perform, Tree.modify_replace stands]
        rfl

/-! ### What is spoilt -/

/-- Whether no try to write in a place is refused after the file has been changed. -/
def Steady (s : System) (place : Location) : Prop :=
  ∀ mode text fault content, s.ending place mode text ≠ .spoilt fault content

/-- Whether in a place a text is written whole if the file is changed at all. -/
def Whole (s : System) (place : Location) : Prop :=
  ∀ mode text fault content, s.ending place mode text = .spoilt fault content →
    content = text.toUTF8

theorem Steady.whole (h : s.Steady place) : s.Whole place :=
  fun mode text fault content spoilt => absurd spoilt (h mode text fault content)

/-- The system for a user who may write to files, but to whom neither they nor their directories
belong. -/
def guest : System where
  refuses
    | _, .create => some { fault := .denied }
    | _, .touch => some { fault := .notPermitted }
    | _, _ => none

/-- A guest writes the whole text over the old one, and is refused then. -/
theorem ending_guest (place : Location) (mode : Nat) (text : String) :
    guest.ending place mode text = .spoilt .notPermitted text.toUTF8 := rfl

/-! ### The system for a superuser -/

/-- A superuser is refused nothing but a temporary file with a path that is too long. -/
theorem ending_superuser (place : Location) (mode : Nat) (text : String) :
    superuser.ending place mode text =
      if Path.fits (temporaryPath place) then .made
      else .kept (.other (SystemFault.nameTooLong.message ++ " at path " ++
        Quoted.text (temporaryPath place))) := by
  have creates : superuser.refuses place .create =
      if Path.fits (temporaryPath place) then none
      else some ⟨.other (SystemFault.nameTooLong.message ++ " at path " ++
        Quoted.text (temporaryPath place)), 0⟩ := rfl
  rw [ending, creates]
  cases Path.fits (temporaryPath place) <;> rfl

theorem steady_superuser (place : Location) : superuser.Steady place := by
  intro mode text fault content spoilt
  rw [ending_superuser] at spoilt
  split at spoilt <;> cases spoilt

end System

end Emend
