import Emend.Proofs.Except
import Emend.Proofs.Tree.Shape

/-!
# What is read from a tree

A path holds a text (`Tree.Holds`) if it leads to a file whose bytes encode this text. It is the
only one that it holds, and what is read there (`Tree.readText_eq_ok`). If a file stands there and yet
no text is read, its bytes are to blame (`Tree.readText_eq_error_of_isFile`).
-/

namespace Emend

/-! ### The text of a file -/

namespace File

/-- A file has a text if its bytes encode it. -/
theorem text?_eq_some {f : File} {text : String} :
    f.text? = some text ↔ f.content = text.toUTF8 := by
  unfold text? String.fromUTF8?
  constructor
  · intro h
    split at h
    · obtain rfl := Option.some.inj h
      rfl
    · cases h
  · intro h
    rw [h, String.toUTF8_eq_toByteArray, dif_pos text.isValidUTF8]
    rfl

/-- A text that has been put into a file is read back as it is. -/
@[simp] theorem text?_withText (f : File) (text : String) : (f.withText text).text? = some text :=
  text?_eq_some.mpr rfl

@[simp] theorem mode_withText (f : File) (text : String) : (f.withText text).mode = f.mode := rfl

@[simp] theorem written_withText (f : File) (text : String) :
    (f.withText text).written = true := rfl

@[simp] theorem content_withText (f : File) (text : String) :
    (f.withText text).content = text.toUTF8 := rfl

end File

/-! ### What paths hold -/

namespace Tree

variable {t : Tree} {p : Path} {f : File} {text : String} {fault : SystemFault}

/-- Whether a path leads to a file with a text in it. -/
def Holds (t : Tree) (p : Path) (text : String) : Prop :=
  ∃ place f, t.find p = .ok place ∧ t.at? place = some (.file f) ∧ f.content = text.toUTF8

theorem read_eq_ok :
    t.read p = .ok f ↔ ∃ place, t.find p = .ok place ∧ t.at? place = some (.file f) := by
  simp only [read, Except.bind_eq_ok, ← fileAt?_eq_some]
  refine exists_congr fun place => and_congr_right fun _ => ?_
  cases t.fileAt? place with
  | none => simp [Except.throw_ne_ok]
  | some g => simp [Except.pure_eq_ok]

/-- What is read is what the path holds. -/
theorem readText_eq_ok : t.readText p = .ok text ↔ t.Holds p text := by
  simp only [readText, Except.bind_eq_ok, read_eq_ok]
  constructor
  · rintro ⟨f, ⟨place, leads, stands⟩, h⟩
    split at h
    · next text' encodes =>
      obtain rfl := Except.pure_eq_ok.mp h
      exact ⟨place, f, leads, stands, File.text?_eq_some.mp encodes⟩
    · exact absurd h Except.throw_ne_ok
  · rintro ⟨place, f, leads, stands, encodes⟩
    refine ⟨f, ⟨place, leads, stands⟩, ?_⟩
    rw [File.text?_eq_some.mpr encodes]
    rfl

theorem isFile_iff : t.isFile p = true ↔ ∃ f, t.read p = .ok f := by
  simp only [read_eq_ok, isFile, ← fileAt?_eq_some]
  cases t.find p with
  | error => simp
  | ok place => simp [Option.isSome_iff_exists]

theorem Holds.isFile (h : t.Holds p text) : t.isFile p = true := by
  obtain ⟨place, f, leads, stands, -⟩ := h
  exact isFile_iff.mpr ⟨f, read_eq_ok.mpr ⟨place, leads, stands⟩⟩

/-- The only reason why a file cannot be read is that its bytes are no text. -/
theorem readText_eq_error_of_isFile (h : t.isFile p = true) (unread : t.readText p = .error fault) :
    fault = .notText := by
  obtain ⟨f, hread⟩ := isFile_iff.mp h
  rw [readText, hread, Except.ok_bind] at unread
  split at unread
  · exact absurd unread Except.pure_ne_error
  · exact (Except.error.inj unread).symm

end Tree

end Emend
