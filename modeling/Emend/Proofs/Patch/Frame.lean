import Emend.Proofs.Patch.Rewriting

/-!
# All that a fix changes

A fix changes the bytes of one file at most, and keeps all else (`Tree.Receives`): the mode of the
file, every other file, every directory and every link, the one that the fix was aimed at too. One
that is made and written puts the fixed text there. One that fails leaves no trace where the system is
steady, neither in the tree nor in its report, even if its rules have found matches. All this is
`Engine.apply_frame`; that the tree has the same places afterwards says that the temporary file is
gone (`System.rewrite_eq`).

Where the system is not steady, a fix that fails may have changed its file
(`Engine.apply_frame_unsteady`).
-/

namespace Emend

/-! ### Bytes received -/

/-- Whether a tree comes from another one by putting bytes in the place of a file. -/
structure Tree.Receives (t : Tree) (place : Location) (f : File) (content : ByteArray) (u : Tree) :
    Prop where
  here : u.here = t.here
  /-- No place is new and none is gone. -/
  places : u.entries.map (·.1) = t.entries.map (·.1)
  stood : t.at? place = some (.file f)
  /-- The mode is kept. -/
  stands : u.at? place = some (.file { content, mode := f.mode, written := true })
  elsewhere : ∀ l, l ≠ place → u.at? l = t.at? l

namespace Tree

variable {t u : Tree} {place : Location} {f : File} {content : ByteArray}

theorem receives_replace (stood : t.at? place = some (.file f)) (content : ByteArray) :
    t.Receives place f content (t.replace place (f.withContent content)) where
  here := rfl
  places := keys_replace ..
  stood := stood
  stands := by
    rw [at?_replace stood, if_pos rfl]
    rfl
  elsewhere l hl := by rw [at?_replace stood, if_neg hl]

/-- What is no file stays, wherever it stands. -/
theorem Receives.at?_of_ne_file (h : t.Receives place f content u) {l : Location}
    (other : ∀ g, t.at? l ≠ some (.file g)) : u.at? l = t.at? l := by
  refine h.elsewhere l ?_
  rintro rfl
  exact other f h.stood

end Tree

namespace Engine

variable {e : Engine} {t : Tree} {fix : Fix}

/-- A fix that fails reports no effect, and has none unless it spoils a file. -/
theorem apply_of_failed (h : (e.apply t fix).1.succeeded = false) :
    (e.apply t fix).1.changed = false ∧ (e.apply t fix).1.matchCount = 0 ∧
      (e.apply t fix).1.diff = none ∧
      ((e.apply t fix).2 = t ∨ ∃ place f content, e.Spoils t fix place f content ∧
        t.Receives place f content (e.apply t fix).2) := by
  have applied := e.applied t fix
  generalize e.apply t fix = out at applied h ⊢
  cases applied with
  | failed => exact ⟨rfl, rfl, rfl, .inl rfl⟩
  | spoilt _ spoils =>
    exact ⟨rfl, rfl, rfl, .inr ⟨_, _, _, spoils, Tree.receives_replace spoils.stands _⟩⟩
  | made => cases h

/-- A fix that fails has no effect where the system is steady. -/
theorem tree_of_failed (h : (e.apply t fix).1.succeeded = false) (steady : e.Steady t fix.target) :
    (e.apply t fix).2 = t := by
  obtain ⟨-, -, -, heq | ⟨place, f, content, spoils, -⟩⟩ := apply_of_failed h
  · exact heq
  · exact absurd spoils steady.not_spoils

/-- A fix that is made and written puts the fixed text in the place where its target leads. -/
theorem receives_of_made (h : (e.apply t fix).1.succeeded = true) (write : e.mode = .write) :
    ∃ place f text, t.canonicalize (e.pathOf fix.target) = .ok place ∧ f.text? = some text ∧
      t.Receives place f (RuleSet.fold fix.rules.rules text).toUTF8 (e.apply t fix).2 := by
  obtain ⟨place, f, text, ready⟩ := succeeded_apply_iff.mp h
  refine ⟨place, f, text, (resolve_eq_ok.mp ready.resolved).2.1, ready.readable, ?_⟩
  rw [apply_of_ready ready, treeWith, write]
  exact Tree.receives_replace ready.stands _

/-- A fix of any outcome, written or not, keeps what is no file. -/
theorem at?_apply_of_ne_file (e : Engine) (fix : Fix) {l : Location}
    (other : ∀ g, t.at? l ≠ some (.file g)) : (e.apply t fix).2.at? l = t.at? l := by
  rcases e.tree_apply t fix with heq | ⟨place, f, content, -, -, stands, heq⟩
  · rw [heq]
  · rw [heq]
    exact (Tree.receives_replace stands content).at?_of_ne_file other

/-- **All that a fix changes.** If it fails, the report tells of no change, no matches and no texts,
and the tree is the one from before, where the system is steady; elsewhere the fix may have spoilt the
file to which its target leads, and nothing else. If it is made and written, then the place where its
target leads receives what the rules make of the text there, whether they match or not, and nothing
else changes. A link stays the link it was, also if it is the target. -/
theorem apply_frame (e : Engine) (t : Tree) (fix : Fix) :
    ((e.apply t fix).1.succeeded = false →
      (e.apply t fix).1.changed = false ∧ (e.apply t fix).1.matchCount = 0 ∧
        (e.apply t fix).1.diff = none ∧
        ((e.apply t fix).2 = t ∨ ∃ place f content, e.Spoils t fix place f content ∧
          t.Receives place f content (e.apply t fix).2)) ∧
    ((e.apply t fix).1.succeeded = false → e.Steady t fix.target → (e.apply t fix).2 = t) ∧
    ((e.apply t fix).1.succeeded = true → e.mode = .write →
      ∃ place f text, t.canonicalize (e.pathOf fix.target) = .ok place ∧ f.text? = some text ∧
        t.Receives place f (RuleSet.fold fix.rules.rules text).toUTF8 (e.apply t fix).2) ∧
    ∀ l target, t.at? l = some (.link target) → (e.apply t fix).2.at? l = some (.link target) := by
  refine ⟨apply_of_failed, tree_of_failed, receives_of_made, fun l target link => ?_⟩
  rw [at?_apply_of_ne_file e fix, link]
  intro g file
  rw [link] at file
  cases file

/-! ### A fix that is refused, and one without matches -/

/-- An engine that keeps the texts. -/
def diffEngine : Engine := { root := "/w", captureDiff := true }

/-- A fix of a file that may not be written, after its rule has found a match. -/
def lockedFix : FixResult × Tree := diffEngine.apply sampleTree (sampleFix "b" "a" "b")

/-- A fix through a link, whose rule finds no match. -/
def idleFix : FixResult × Tree := diffEngine.apply sampleTree (sampleFix "l" "z" "y")

theorem apply_frame_sampleTree :
    (lockedFix.1.tried = [1] ∧ lockedFix.2 = sampleTree ∧ lockedFix.1.matchCount = 0 ∧
      lockedFix.1.diff = none) ∧
    (idleFix.1.matchCount = 0 ∧ idleFix.1.diff = some ⟨"xa", "xa"⟩ ∧
      idleFix.2.fileAt? ["w", "a"] = some { content := "xa".toUTF8, written := true } ∧
      idleFix.2.at? ["w", "l"] = some (.link "a")) := by
  obtain ⟨refused, untouched, -, -⟩ := apply_frame diffEngine sampleTree (sampleFix "b" "a" "b")
  obtain ⟨-, -, -, links⟩ := apply_frame diffEngine sampleTree (sampleFix "l" "z" "y")
  have fails : lockedFix.1.succeeded = false := by decide +kernel
  obtain ⟨-, uncounted, untold, -⟩ := refused fails
  exact ⟨⟨by decide +kernel, untouched fails fun _ _ => System.steady_superuser _, uncounted, untold⟩,
    by decide +kernel, by decide +kernel, by decide +kernel, links _ _ (by decide +kernel)⟩

/-- A fix of a file that belongs to somebody else, in a directory that takes no new files. -/
def guestFix : FixResult × Tree :=
  Engine.apply { root := "/w", system := .guest } sampleTree (sampleFix "a" "a" "b")

/-- The fix fails, and still there is another text in the file, which counts as written. -/
theorem apply_frame_unsteady :
    guestFix.1.fault? = some (.system "/w/a" .notPermitted) ∧
      sampleTree.fileAt? ["w", "a"] = some { content := "xa".toUTF8 } ∧
      guestFix.2.fileAt? ["w", "a"] = some { content := "xb".toUTF8, written := true } := by
  decide +kernel

end Engine

end Emend
