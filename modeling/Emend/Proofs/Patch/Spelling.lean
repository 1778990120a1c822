import Emend.Proofs.Patch.Diagnosis
import Emend.Proofs.Patch.Rewriting
import Emend.Proofs.Patch.Sequence

/-!
# How a target is spelled

A place has many paths: relative and absolute ones, through dots and steps up, and through links to
the file or to directories above it. A fix asks its target for no more than the place to which it
leads, so two targets that are both there and lead to one place (`Engine.Coincide`) are as good as
each other. The tree is the same afterwards, and the reports agree on all but the target that they
name (`FixResult.Agree`), faults with their kind, their words and the path that they carry included.

A fix keeps the shape of the tree, so targets that coincide go on to do so along a run. The targets
of a whole plan can be spelled anew, and the run comes to the same (`Engine.Runs.respelled`). Both
are `Engine.spelling_irrelevant`.
-/

namespace Emend

/-! ### Reports that agree -/

/-- Whether two reports say the same of targets that may be spelled in two ways: a fault with all its
data, or else whether the text was changed, how many matches there were, and the texts. -/
def FixResult.Agree (r s : FixResult) : Prop := r = { s with target := r.target }

theorem FixResult.Agree.succeeded_eq {r s : FixResult} (h : r.Agree s) :
    r.succeeded = s.succeeded := by
  rw [h]
  rfl

namespace Engine

variable {σ : Type} {e : Engine} {policy : FailurePolicy} {t u : Tree} {target a b : Path}
  {place : Location} {fix fix' : Fix} {fixes more : List Fix} {s : Summary}

/-! ### Targets that coincide -/

/-- Whether two targets are there and lead to one place. -/
structure Coincide (e : Engine) (t : Tree) (a b : Path) : Prop where
  left : t.exists (Path.join e.root a) = true
  right : t.exists (Path.join e.root b) = true
  same : ∃ place, t.canonicalize (Path.join e.root a) = .ok place ∧
    t.canonicalize (Path.join e.root b) = .ok place

/-- What a target that is there resolves to is told by its place. -/
theorem Assembled.resolve_of_exists (he : e.Assembled)
    (present : t.exists (Path.join e.root target) = true)
    (leads : t.canonicalize (Path.join e.root target) = .ok place) :
    e.resolve t target =
      match e.workspace with
      | none => .ok place
      | some w => ((w.check place).map fun _ => place).mapError .safety := by
  rw [resolve, present, Bool.not_true, if_neg Bool.false_ne_true]
  cases guarded : e.workspace with
  | none =>
    dsimp only
    rw [leads, Except.mapError_ok]
  | some w =>
    have below : Path.join w.root.path (Path.join e.root target) = Path.join e.root target := by
      rw [he.root_eq guarded]
      exact Path.join_join w.root.isAbsolute_path target
    dsimp only
    rw [Workspace.validate, below, leads, Except.mapError_ok, Except.ok_bind]
    cases w.check place <;> rfl

namespace Coincide

/-- Targets that coincide resolve to the same. -/
theorem resolve_eq (h : e.Coincide t a b) (he : e.Assembled) : e.resolve t a = e.resolve t b := by
  obtain ⟨place, leads, leads'⟩ := h.same
  rw [he.resolve_of_exists h.left leads, he.resolve_of_exists h.right leads']

/-- They go on to coincide while the tree keeps its shape. -/
theorem congr (shape : t.SameShape u) (h : e.Coincide t a b) : e.Coincide u a b where
  left := by rw [← shape.exists_eq, h.left]
  right := by rw [← shape.exists_eq, h.right]
  same := by simpa only [shape.canonicalize_eq] using h.same

end Coincide

/-! ### Fixes spelled anew -/

/-- Whether two fixes have the same rules, for targets that coincide. -/
structure Respelled (e : Engine) (t : Tree) (fix fix' : Fix) : Prop where
  rules : fix.rules = fix'.rules
  targets : e.Coincide t fix.target fix'.target

theorem Respelled.congr (shape : t.SameShape u) (h : e.Respelled t fix fix') :
    e.Respelled u fix fix' :=
  ⟨h.rules, h.targets.congr shape⟩

/-- A fix that is spelled anew takes the same course. -/
theorem Respelled.apply (h : e.Respelled t fix fix') (he : e.Assembled) :
    (e.apply t fix).1.Agree (e.apply t fix').1 ∧ (e.apply t fix).2 = (e.apply t fix').2 := by
  have resolve_eq : e.resolve t fix'.target = e.resolve t fix.target :=
    (h.targets.resolve_eq he).symm
  have course := e.course t fix
  generalize e.apply t fix = out at course ⊢
  cases course with
  | astray fails =>
    rw [course_iff.mp (.astray (resolve_eq.trans fails))]
    exact ⟨rfl, rfl⟩
  | unread resolved fails =>
    rw [course_iff.mp (.unread (resolve_eq.trans resolved) fails)]
    exact ⟨rfl, rfl⟩
  | refused finds kept =>
    have finds' : e.Finds t fix'.target _ _ _ := ⟨resolve_eq.trans finds.resolved, finds.reads⟩
    rw [h.rules] at kept
    rw [course_iff.mp (.refused finds' kept), refusal, refusal, h.rules]
    exact ⟨rfl, rfl⟩
  | spoilt finds spoilt =>
    have finds' : e.Finds t fix'.target _ _ _ := ⟨resolve_eq.trans finds.resolved, finds.reads⟩
    rw [h.rules] at spoilt
    rw [course_iff.mp (.spoilt finds' spoilt), refusal, refusal, h.rules]
    exact ⟨rfl, rfl⟩
  | made ready =>
    have finds' : e.Finds t fix'.target _ _ _ := ⟨resolve_eq.trans ready.resolved, ready.reads⟩
    have writes := ready.writes
    rw [h.rules] at writes
    rw [apply_of_ready ⟨finds', writes⟩, success, success, h.rules]
    exact ⟨rfl, rfl⟩

/-! ### Plans spelled anew -/

/-- A run whose fixes are spelled anew goes as far, with reports that agree, and leaves the same
tree. -/
theorem Runs.respelled (hruns : e.Runs policy fixes t s u) (he : e.Assembled)
    (h : List.Forall₂ (e.Respelled t) fixes more) :
    ∃ s', e.Runs policy more t s' u ∧ List.Forall₂ FixResult.Agree s.results s'.results := by
  induction hruns generalizing more with
  | done =>
    cases h
    exact ⟨{}, .done, .nil⟩
  | stopped failed stop =>
    cases h with
    | cons first =>
      obtain ⟨agree, tree⟩ := first.apply he
      rw [tree]
      exact ⟨_, .stopped (agree.succeeded_eq.symm.trans failed) stop, .cons agree .nil⟩
  | @next fix rest t u s on _ ih =>
    cases h with
    | @cons _ fix' _ rest' first later =>
      obtain ⟨agree, tree⟩ := first.apply he
      -- The fix that has been made shows to neither spelling of a later target.
      obtain ⟨s', hruns', agrees⟩ := ih (later.imp fun _ _ h => h.congr (e.sameShape_apply t fix))
      rw [tree] at hruns'
      rw [agree.succeeded_eq] at on
      exact ⟨_, .next on hruns', .cons agree agrees⟩

/-- **The spelling of a target does not matter.** Two targets that are there and lead to one place
are made the same fix: the tree is the same afterwards, and so is all that is reported apart from the
target, which each report names as its fix does. The same holds of two plans that differ in the
spelling of their targets only. -/
theorem spelling_irrelevant (he : e.Assembled) (t : Tree) :
    (∀ (rules : RuleSet) (a b : Path), e.Coincide t a b →
      let one := e.apply t ⟨a, rules⟩
      let other := e.apply t ⟨b, rules⟩
      one.2 = other.2 ∧ one.1 = { other.1 with target := a } ∧ other.1.target = b) ∧
    ∀ (policy : FailurePolicy) (watch : Observer σ) (p q : Plan) (known : σ),
      List.Forall₂ (e.Respelled t) p.fixes q.fixes →
      let one := e.run policy watch p t known
      let other := e.run policy watch q t known
      one.2.1 = other.2.1 ∧ List.Forall₂ FixResult.Agree one.1.results other.1.results ∧
        one.1.skipped = p.targets.drop one.1.results.length ∧
        other.1.skipped = q.targets.drop one.1.results.length := by
  refine ⟨fun rules a b coincide => ?_, fun policy watch p q known h => ?_⟩
  · have respelled : e.Respelled t ⟨a, rules⟩ ⟨b, rules⟩ := ⟨rfl, coincide⟩
    obtain ⟨agree, tree⟩ := respelled.apply he
    exact ⟨tree, agree.trans (by rw [target_apply]), target_apply ..⟩
  · intro one other
    have runsOne : e.Runs policy p.fixes t one.1 one.2.1 := e.runs ..
    have runsOther : e.Runs policy q.fixes t other.1 other.2.1 := e.runs ..
    obtain ⟨s, runs, agree⟩ := runsOne.respelled he h
    obtain ⟨rfl, tree⟩ := runs.unique runsOther
    refine ⟨tree, agree, ?_, ?_⟩
    · rw [runsOne.attempted.skipped, Plan.targets, List.map_drop]
    · rw [runsOther.attempted.skipped, Plan.targets, List.map_drop, agree.length_eq]

/-! ### Plans for a tree with links -/

/-- A project with links to a file, to a directory and to what is outside. -/
def linkedTree : Tree where
  entries := [
    (["b"], .file { content := "xb".toUTF8 }),
    (["w"], .directory),
    (["w", "a"], .file { content := "xa".toUTF8 }),
    (["w", "short"], .link "dir/../a"),
    (["w", "dir"], .directory),
    (["w", "dir", "raw"], .file { content := ⟨#[0xff]⟩ }),
    (["w", "back"], .link "/w/dir"),
    (["w", "out"], .link "../b")]

/-- An engine that is confined to the project. -/
def linkedEngine : Engine := ({ root := "/w", captureDiff := true } : Engine).confine ⟨["w"], []⟩

/-- Three fixes, of which the first one can be made. -/
def linkedPlan : Plan where
  name := "linked"
  fixes := [sampleFix "short" "x" "y", sampleFix "back/raw" "x" "y", sampleFix "out" "x" "y"]

/-- The same fixes through no links. -/
def plainPlan : Plan where
  name := "plain"
  fixes := [sampleFix "/w/./a" "x" "y", sampleFix "dir/raw" "x" "y", sampleFix "../b" "x" "y"]

theorem spelling_irrelevant_linkedTree :
    linkedEngine.Assembled ∧
      linkedEngine.Coincide linkedTree "short" "/w/./a" ∧
      List.Forall₂ (linkedEngine.Respelled linkedTree) linkedPlan.fixes plainPlan.fixes ∧
      (let one := linkedEngine.apply linkedTree (sampleFix "short" "x" "y")
       let other := linkedEngine.apply linkedTree (sampleFix "/w/./a" "x" "y")
       one.2 = other.2 ∧ one.1 = { other.1 with target := "short" } ∧
         other.1.diff = some ⟨"xa", "ya"⟩ ∧ one.2.at? ["w", "short"] = some (.link "dir/../a")) ∧
      (let watch : Observer Unit := .ofResults fun _ _ => ()
       let one := linkedEngine.run .continueOnError watch linkedPlan linkedTree ()
       let other := linkedEngine.run .continueOnError watch plainPlan linkedTree ()
       one.2.1 = other.2.1 ∧ List.Forall₂ FixResult.Agree one.1.results other.1.results ∧
         one.1.results.map (·.fault?) =
           [none, some (.encoding "/w/dir/raw"), some (.safety (.outside ["b"] ["w"]))]) := by
  have assembled : linkedEngine.Assembled := .confine (.capturing (.new "/w") true) _
  have first : linkedEngine.Coincide linkedTree "short" "/w/./a" :=
    ⟨by decide +kernel, by decide +kernel, ["w", "a"], by decide +kernel⟩
  have second : linkedEngine.Coincide linkedTree "back/raw" "dir/raw" :=
    ⟨by decide +kernel, by decide +kernel, ["w", "dir", "raw"], by decide +kernel⟩
  have third : linkedEngine.Coincide linkedTree "out" "../b" :=
    ⟨by decide +kernel, by decide +kernel, ["b"], by decide +kernel⟩
  have respelled :
      List.Forall₂ (linkedEngine.Respelled linkedTree) linkedPlan.fixes plainPlan.fixes :=
    .cons ⟨rfl, first⟩ (.cons ⟨rfl, second⟩ (.cons ⟨rfl, third⟩ .nil))
  obtain ⟨single, whole⟩ := spelling_irrelevant (σ := Unit) assembled linkedTree
  obtain ⟨tree, report, -⟩ := single _ _ _ first
  obtain ⟨trees, reports, -, -⟩ :=
    whole .continueOnError (.ofResults fun _ _ => ()) linkedPlan plainPlan () respelled
  exact ⟨assembled, first, respelled, ⟨tree, report, by decide +kernel, by decide +kernel⟩,
    trees, reports, by decide +kernel⟩

end Engine

end Emend
