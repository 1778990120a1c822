import Emend.Patch.Engine
import Emend.Proofs.Rule.Fold
import Emend.Proofs.Tree.Reading
import Emend.Proofs.Tree.System

/-!
# What one fix can do

`Engine.Course` lists the courses that a fix can take, each with its cause and with all that comes of
it: the report in full, and the tree. It is `Engine.apply` said as a relation (`Engine.course_iff`).
What is said of fixes and runs is derived from this list; nothing else opens `Engine.apply`.

Often only success and the tree count. `Engine.Finds` says that a target leads to a file with a text,
and `Engine.Ready` that the fixed text can be written there besides. Then `Engine.Applied` says that a
fix was not ready and fails, and either leaves the tree as it is or spoils the file; or that it was
ready and the fixed text stands in its place (`Engine.applied`). A file is spoilt by no fix that is
tried where the system is steady (`Engine.Steady`).

Resolving a target asks for the shape of the tree only (`Engine.resolve_congr`), which a fix keeps
(`Engine.sameShape_apply`).
-/

namespace Emend

/-! ### Where a target leads -/

/-- A path is valid if it names a location that may be changed. -/
theorem Workspace.validate_eq_ok {w : Workspace} {t : Tree} {p : Path} {place : Location} :
    w.validate t p = .ok place ↔
      t.canonicalize (Path.join w.root.path p) = .ok place ∧ w.check place = .ok () := by
  simp only [validate, Except.bind_eq_ok, Except.mapError_eq_ok, Except.pure_eq_ok]
  constructor
  · rintro ⟨l, hl, ⟨⟩, hc, rfl⟩
    exact ⟨hl, hc⟩
  · rintro ⟨hl, hc⟩
    exact ⟨place, hl, (), hc, rfl⟩

/-- A fault of the system is not blamed on a definition. -/
theorem PatchFault.kind_ofSystem (path : Path) (fault : SystemFault) :
    (ofSystem path fault).kind ≠ .definition := by
  cases fault <;> exact nofun

namespace Engine

/-- The path of a target as it is handed to the system. -/
def pathOf (e : Engine) (target : Path) : Path :=
  match e.workspace with
  | none => Path.join e.root target
  | some w => Path.join w.root.path (Path.join e.root target)

/-- A target resolves to the location that its path names, if the workspace allows it. -/
theorem resolve_eq_ok {e : Engine} {t : Tree} {target : Path} {place : Location} :
    e.resolve t target = .ok place ↔
      t.exists (Path.join e.root target) = true ∧ t.canonicalize (e.pathOf target) = .ok place ∧
        ∀ w, e.workspace = some w → w.check place = .ok () := by
  rw [resolve, pathOf]
  cases t.exists (Path.join e.root target) with
  | false => simp
  | true =>
    cases e.workspace with
    | none => simp [Except.mapError_eq_ok]
    | some w => simp [Except.mapError_eq_ok, Workspace.validate_eq_ok]

/-- Trees of the same shape resolve targets in the same way. -/
theorem resolve_congr {t u : Tree} (h : t.SameShape u) (e : Engine) (target : Path) :
    e.resolve t target = e.resolve u target := by
  simp only [resolve, Workspace.validate, h.exists_eq, h.canonicalize_eq]

/-! ### What a fix comes to -/

/-- How a try to write the fixed text of a file ends. Without writing, it ends well. -/
def ending (e : Engine) (place : Location) (f : File) (text : String) : Ending :=
  match e.mode with
  | .dryRun => .made
  | .write => if f.isReadOnly then .kept .readOnly else e.system.ending place f.mode text

/-- Whether a target leads to a file with a text. -/
structure Finds (e : Engine) (t : Tree) (target : Path) (place : Location) (f : File)
    (text : String) : Prop where
  resolved : e.resolve t target = .ok place
  reads : e.readAt t place = .ok (f, text)

/-- What a fix needs: its target leads to a file with a text, and what the rules make of it can be
written there, if it is to be. -/
structure Ready (e : Engine) (t : Tree) (fix : Fix) (place : Location) (f : File)
    (text : String) : Prop extends Finds e t fix.target place f text where
  writes : e.ending place f (RuleSet.fold fix.rules.rules text) = .made

/-- The report on a fix that was made. -/
def success (e : Engine) (fix : Fix) (text : String) : FixResult :=
  ⟨fix.target, (RuleSet.applyEach fix.rules.rules text).2, .ok {
    changed := text != RuleSet.fold fix.rules.rules text
    matchCount := RuleSet.totalCount (RuleSet.applyEach fix.rules.rules text).2
    diff := if e.captureDiff then some ⟨text, RuleSet.fold fix.rules.rules text⟩ else none }⟩

/-- The report on a fix whose text the system refuses. -/
def refusal (fix : Fix) (place : Location) (text : String) (fault : SystemFault) : FixResult :=
  ⟨fix.target, (RuleSet.applyEach fix.rules.rules text).2, .error (.ofSystem place.path fault)⟩

/-- The tree after a fixed text has been put in its place. -/
def treeWith (e : Engine) (t : Tree) (place : Location) (f : File) (text : String) : Tree :=
  match e.mode with
  | .dryRun => t
  | .write => t.replace place (f.withText text)

/-- The courses that a fix can take. -/
inductive Course (e : Engine) (t : Tree) (fix : Fix) : FixResult × Tree → Prop
  /-- The target leads nowhere, or to where nothing may be changed. -/
  | astray {fault : PatchFault} (fails : e.resolve t fix.target = .error fault) :
      Course e t fix (⟨fix.target, [], .error fault⟩, t)
  /-- No text stands where the target leads, or none is to be read there. -/
  | unread {place : Location} {fault : PatchFault} (resolved : e.resolve t fix.target = .ok place)
      (fails : e.readAt t place = .error fault) :
      Course e t fix (⟨fix.target, [], .error fault⟩, t)
  /-- The rules have been applied, but their text is not written. -/
  | refused {place : Location} {f : File} {text : String} {fault : SystemFault}
      (finds : e.Finds t fix.target place f text)
      (kept : e.ending place f (RuleSet.fold fix.rules.rules text) = .kept fault) :
      Course e t fix (refusal fix place text fault, t)
  /-- It was being written when the system refused to go on. -/
  | spoilt {place : Location} {f : File} {text : String} {fault : SystemFault} {content : ByteArray}
      (finds : e.Finds t fix.target place f text)
      (spoilt : e.ending place f (RuleSet.fold fix.rules.rules text) = .spoilt fault content) :
      Course e t fix (refusal fix place text fault, t.replace place (f.withContent content))
  | made {place : Location} {f : File} {text : String} (ready : e.Ready t fix place f text) :
      Course e t fix
        (e.success fix text, e.treeWith t place f (RuleSet.fold fix.rules.rules text))

/-- Whether a fix changes the file to which its target leads and fails. -/
structure Spoils (e : Engine) (t : Tree) (fix : Fix) (place : Location) (f : File)
    (content : ByteArray) : Prop where
  resolved : e.resolve t fix.target = .ok place
  stands : t.at? place = some (.file f)
  write : e.mode = .write
  spoilt : ∃ text fault, f.text? = some text ∧
    e.system.ending place f.mode (RuleSet.fold fix.rules.rules text) = .spoilt fault content

/-- All that a fix can come to. -/
inductive Applied (e : Engine) (t : Tree) (fix : Fix) : FixResult × Tree → Prop
  /-- It was not ready. Rules that were applied have changed nothing. -/
  | failed {tried : List Nat} {fault : PatchFault}
      (unready : ∀ place f text, ¬ e.Ready t fix place f text) :
      Applied e t fix (⟨fix.target, tried, .error fault⟩, t)
  | spoilt {tried : List Nat} {fault : PatchFault} {place : Location} {f : File}
      {content : ByteArray} (unready : ∀ place f text, ¬ e.Ready t fix place f text)
      (spoils : e.Spoils t fix place f content) :
      Applied e t fix (⟨fix.target, tried, .error fault⟩, t.replace place (f.withContent content))
  | made {place : Location} {f : File} {text : String} (ready : e.Ready t fix place f text) :
      Applied e t fix
        (e.success fix text, e.treeWith t place f (RuleSet.fold fix.rules.rules text))

section Apply

variable {e : Engine} {t : Tree} {fix : Fix} {target : Path} {place : Location} {f g : File}
  {text text' : String} {fault : SystemFault} {content : ByteArray}

theorem readAt_eq_ok : e.readAt t place = .ok (f, text) ↔
    e.system.refuses place .read = none ∧ t.at? place = some (.file f) ∧ f.text? = some text := by
  rw [readAt, ← Tree.fileAt?_eq_some]
  rcases e.system.refuses place .read with _ | r
  · rcases t.fileAt? place with _ | g
    · simp
    · rcases hg : g.text? with _ | s
      · simp only [hg, reduceCtorEq, false_iff, true_and]
        rintro ⟨⟨⟩, h⟩
        rw [hg] at h
        cases h
      · simp only [hg, Except.ok.injEq, Prod.mk.injEq, Option.some.injEq, true_and]
        constructor
        · rintro ⟨rfl, rfl⟩
          exact ⟨rfl, hg⟩
        · rintro ⟨rfl, h⟩
          exact ⟨rfl, Option.some.inj (hg.symm.trans h)⟩
  · simp

/-- What is found. -/
theorem Finds.stands (h : e.Finds t target place f text) : t.at? place = some (.file f) :=
  (readAt_eq_ok.mp h.reads).2.1

theorem Finds.readable (h : e.Finds t target place f text) : f.text? = some text :=
  (readAt_eq_ok.mp h.reads).2.2

/-- It is found but once. -/
theorem Finds.unique (h : e.Finds t target place f text) {place' : Location}
    (h' : e.Finds t target place' g text') : place = place' ∧ f = g ∧ text = text' := by
  obtain rfl : place = place' := Except.ok.inj (h.resolved.symm.trans h'.resolved)
  obtain ⟨rfl, rfl⟩ : f = g ∧ text = text' := by simpa using h.reads.symm.trans h'.reads
  exact ⟨rfl, rfl, rfl⟩

/-- A fix is not ready if its text is refused. -/
theorem Finds.unready (h : e.Finds t fix.target place f text)
    (refused : e.ending place f (RuleSet.fold fix.rules.rules text) ≠ .made) :
    ∀ place f text, ¬ e.Ready t fix place f text := by
  intro place' g text' ready
  obtain ⟨rfl, rfl, rfl⟩ := h.unique ready.toFinds
  exact refused ready.writes

theorem mode_of_spoilt (spoilt : e.ending place f text = .spoilt fault content) :
    e.mode = .write := by
  cases mode : e.mode with
  | dryRun =>
    rw [ending, mode] at spoilt
    cases spoilt
  | write => rfl

/-- What spoils a file is the system. -/
theorem system_of_spoilt (spoilt : e.ending place f text = .spoilt fault content) :
    e.system.ending place f.mode text = .spoilt fault content := by
  rw [ending, mode_of_spoilt spoilt] at spoilt
  dsimp only at spoilt
  split at spoilt
  · cases spoilt
  · exact spoilt

/-- A try to write leaves the tree in which it ends. -/
theorem writeAt_eq (stands : t.at? place = some (.file f)) (text : String) :
    e.writeAt t place f text =
      ((e.ending place f text).fault?.map (.ofSystem place.path),
        match e.ending place f text with
        | .made => e.treeWith t place f text
        | .kept _ => t
        | .spoilt _ content => t.replace place (f.withContent content)) := by
  rw [writeAt, ending, treeWith]
  cases e.mode with
  | dryRun => rfl
  | write =>
    dsimp only
    split
    · rfl
    · rw [System.rewrite_eq e.system stands]
      cases e.system.ending place f.mode text <;> rfl

/-- A fix takes the one course whose cause is there. -/
theorem course_iff {out : FixResult × Tree} : e.Course t fix out ↔ e.apply t fix = out := by
  unfold apply
  constructor
  · rintro (fails | ⟨resolved, fails⟩ | ⟨finds, kept⟩ | ⟨finds, spoilt⟩ | ready)
    · rw [fails]
    · rw [resolved]
      dsimp only
      rw [fails]
    · rw [finds.resolved]
      dsimp only
      rw [finds.reads]
      dsimp only
      rw [writeAt_eq finds.stands, RuleSet.applyEach_fst, kept]
      rfl
    · rw [finds.resolved]
      dsimp only
      rw [finds.reads]
      dsimp only
      rw [writeAt_eq finds.stands, RuleSet.applyEach_fst, spoilt]
      rfl
    · rw [ready.resolved]
      dsimp only
      rw [ready.reads]
      dsimp only
      rw [writeAt_eq ready.stands, RuleSet.applyEach_fst, ready.writes]
      rfl
  · rintro rfl
    cases hr : e.resolve t fix.target with
    | error fault => exact .astray hr
    | ok place =>
      dsimp only
      cases hf : e.readAt t place with
      | error fault => exact .unread hr hf
      | ok found =>
        obtain ⟨f, text⟩ := found
        have finds : e.Finds t fix.target place f text := ⟨hr, hf⟩
        dsimp only
        rw [writeAt_eq finds.stands, RuleSet.applyEach_fst]
        cases ends : e.ending place f (RuleSet.fold fix.rules.rules text) with
        | made => exact .made ⟨finds, ends⟩
        | kept fault => exact .refused finds ends
        | spoilt fault content => exact .spoilt finds ends

theorem course (e : Engine) (t : Tree) (fix : Fix) : e.Course t fix (e.apply t fix) :=
  course_iff.mpr rfl

/-- A fix that is made was ready, and one that is ready is made. -/
theorem applied (e : Engine) (t : Tree) (fix : Fix) : e.Applied t fix (e.apply t fix) := by
  have course := e.course t fix
  generalize e.apply t fix = out at course
  cases course with
  | astray fails =>
    refine .failed fun place f text h => ?_
    rw [h.resolved] at fails
    cases fails
  | @unread place _ resolved fails =>
    refine .failed fun place' f text h => ?_
    obtain rfl : place = place' := Except.ok.inj (resolved.symm.trans h.resolved)
    rw [h.reads] at fails
    cases fails
  | refused finds kept =>
    refine .failed (finds.unready ?_)
    rw [kept]
    exact nofun
  | spoilt finds spoilt =>
    refine .spoilt (finds.unready ?_) ⟨finds.resolved, finds.stands, mode_of_spoilt spoilt, _, _,
      finds.readable, system_of_spoilt spoilt⟩
    rw [spoilt]
    exact nofun
  | made ready => exact .made ready

/-- A fix that is ready is made. -/
theorem apply_of_ready (h : e.Ready t fix place f text) :
    e.apply t fix =
      (e.success fix text, e.treeWith t place f (RuleSet.fold fix.rules.rules text)) :=
  course_iff.mp (.made h)

/-- The fixes that are ready are those that succeed. -/
theorem succeeded_apply_iff :
    (e.apply t fix).1.succeeded = true ↔ ∃ place f text, e.Ready t fix place f text := by
  have applied := e.applied t fix
  generalize e.apply t fix = out at applied
  cases applied with
  | failed unready | spoilt unready =>
    refine ⟨nofun, ?_⟩
    rintro ⟨place, f, text, ready⟩
    exact absurd ready (unready place f text)
  | made ready => exact ⟨fun _ => ⟨_, _, _, ready⟩, fun _ => rfl⟩

end Apply

/-! ### What a fix does to the tree -/

section Tree

variable {e : Engine} {t : Tree} {fix : Fix} {place : Location} {f : File} {content : ByteArray}

/-- A fix changes the file to which its target leads, or nothing. -/
theorem tree_apply (e : Engine) (t : Tree) (fix : Fix) :
    (e.apply t fix).2 = t ∨
      ∃ place f content, e.mode = .write ∧ e.resolve t fix.target = .ok place ∧
        t.at? place = some (.file f) ∧
        (e.apply t fix).2 = t.replace place (f.withContent content) := by
  have applied := e.applied t fix
  generalize e.apply t fix = out at applied
  cases applied with
  | failed => exact .inl rfl
  | spoilt _ spoils =>
    exact .inr ⟨_, _, _, spoils.write, spoils.resolved, spoils.stands, rfl⟩
  | made ready =>
    rw [treeWith]
    cases mode : e.mode with
    | dryRun => exact .inl rfl
    | write => exact .inr ⟨_, _, _, rfl, ready.resolved, ready.stands, rfl⟩

/-- A fix keeps the shape of the tree. -/
theorem sameShape_apply (e : Engine) (t : Tree) (fix : Fix) :
    t.SameShape (e.apply t fix).2 := by
  rcases e.tree_apply t fix with heq | ⟨place, f, content, -, -, stands, heq⟩
  · rw [heq]
    exact .refl t
  · rw [heq]
    exact Tree.sameShape_replace stands _

/-- Whether the system spoils no file to which a target leads. -/
def Steady (e : Engine) (t : Tree) (target : Path) : Prop :=
  ∀ place, e.resolve t target = .ok place → e.system.Steady place

theorem Steady.congr {u : Tree} {target : Path} (shape : t.SameShape u) (h : e.Steady t target) :
    e.Steady u target :=
  fun place resolved => h place ((resolve_congr shape e target).trans resolved)

theorem Steady.not_spoils (h : e.Steady t fix.target) : ¬ e.Spoils t fix place f content := by
  rintro ⟨resolved, -, -, text, fault, -, spoilt⟩
  exact h place resolved _ _ _ _ spoilt

end Tree

/-! ### What a fix is not blamed on -/

theorem kind_resolve {e : Engine} {t : Tree} {target : Path} {fault : PatchFault}
    (h : e.resolve t target = .error fault) : fault.kind ≠ .definition := by
  rw [resolve] at h
  split at h
  · cases h
    exact nofun
  · cases hw : e.workspace with
    | none =>
      rw [hw] at h
      obtain ⟨system, -, rfl⟩ := Except.mapError_eq_error.mp h
      exact PatchFault.kind_ofSystem _ _
    | some w =>
      rw [hw] at h
      obtain ⟨safety, -, rfl⟩ := Except.mapError_eq_error.mp h
      cases safety <;> exact nofun

theorem kind_readAt {e : Engine} {t : Tree} {place : Location} {fault : PatchFault}
    (h : e.readAt t place = .error fault) : fault.kind ≠ .definition := by
  rw [readAt] at h
  split at h
  · cases h
    exact PatchFault.kind_ofSystem _ _
  · cases h
    exact nofun
  · split at h
    · cases h
      exact nofun
    · cases h

/-- A failure is not blamed on the definition of a rule: a fix has only rules that exist. -/
theorem kind_apply {e : Engine} {t : Tree} {fix : Fix} {fault : PatchFault}
    (h : (e.apply t fix).1.fault? = some fault) : fault.kind ≠ .definition := by
  have course := e.course t fix
  generalize e.apply t fix = out at course h
  cases course with
  | @astray fault' fails =>
    obtain rfl : fault' = fault := Option.some.inj h
    exact kind_resolve fails
  | @unread _ fault' _ fails =>
    obtain rfl : fault' = fault := Option.some.inj h
    exact kind_readAt fails
  | refused | spoilt =>
    obtain rfl := Option.some.inj h
    exact PatchFault.kind_ofSystem _ _
  | made => cases h

end Engine

end Emend
