import Emend.Proofs.Patch.Depth
import Emend.Proofs.Patch.Independence

/-!
# Trying a plan out

A run that does not write makes each fix on the tree as it is, and one that writes makes it on the
tree that the fixes before it have left. If fixes are apart, neither shows to the fix, so the two
runs tell the same as long as the system takes all texts (`Engine.Admits`), the one thing that only a
run that writes asks about (`Engine.result_inMode`). Since a summary says what came of the attempts
and nothing else (`Engine.Runs.summary_congr`), both runs also stop at the same fix
(`Engine.dryRun_previews`). That a file may be written to is not enough, since it can lie too deep
(`Engine.dryRun_misses_depth`).

What has been told is on the tree in the end: a fix is not touched by the fixes that are apart from
it (`Engine.Alike.after`).
-/

namespace Emend

namespace Engine

variable {σ : Type} {e : Engine} {policy : FailurePolicy} {t : Tree} {fix : Fix} {fixes : List Fix}
  {target : Path} {place : Location} {f : File} {text : String}

/-! ### Engines that differ in their mode -/

/-- The same engine, writing or not. -/
def inMode (e : Engine) (mode : WriteMode) : Engine := { e with mode }

/-- What holds of the file to which a target leads, if it leads to one, can be decided by looking
there. -/
def decideAtTarget (e : Engine) (t : Tree) (target : Path) (P : File → Prop) [DecidablePred P] :
    Decidable (∀ place f, e.resolve t target = .ok place → t.at? place = some (.file f) → P f) :=
  match h : e.resolve t target with
  | .error _ => .isTrue nofun
  | .ok place =>
    decidable_of_iff (∀ f ∈ t.fileAt? place, P f) <| by
      simp only [Option.mem_def, Tree.fileAt?_eq_some, Except.ok.injEq]
      exact ⟨fun all place' f hp => hp ▸ all f, fun all f => all place f rfl⟩

/-- Whether the file to which a target leads, if it leads to one, may be written to. -/
def Writable (e : Engine) (t : Tree) (target : Path) : Prop :=
  ∀ place f, e.resolve t target = .ok place → t.at? place = some (.file f) → f.isReadOnly = false

/-- Whether what the rules of a fix make of the text to which its target leads, if it leads to one,
can be put in its place. -/
def Admits (e : Engine) (t : Tree) (fix : Fix) : Prop :=
  ∀ place f text, e.Finds t fix.target place f text →
    e.ending place f (RuleSet.fold fix.rules.rules text) = .made

theorem Finds.admits_iff (h : e.Finds t fix.target place f text) :
    e.Admits t fix ↔ e.ending place f (RuleSet.fold fix.rules.rules text) = .made := by
  refine ⟨fun admits => admits place f text h, fun made place' f' text' h' => ?_⟩
  obtain ⟨rfl, rfl, rfl⟩ := h.unique h'
  exact made

/-- A fix that finds a text is made exactly if the system takes what becomes of it. -/
theorem Finds.succeeded_iff (h : e.Finds t fix.target place f text) :
    (e.apply t fix).1.succeeded = true ↔ e.Admits t fix := by
  rw [succeeded_apply_iff, h.admits_iff]
  constructor
  · rintro ⟨place', f', text', ready⟩
    obtain ⟨rfl, rfl, rfl⟩ := h.unique ready.toFinds
    exact ready.writes
  · exact fun made => ⟨place, f, text, h, made⟩

instance (e : Engine) (t : Tree) (fix : Fix) : Decidable (e.Admits t fix) :=
  match hr : e.resolve t fix.target with
  | .error _ => .isTrue fun _ _ _ h => by
    rw [h.resolved] at hr
    cases hr
  | .ok place =>
    match hf : e.readAt t place with
    | .error _ => .isTrue fun place' f text h => by
      obtain rfl : place = place' := Except.ok.inj (hr.symm.trans h.resolved)
      rw [h.reads] at hf
      cases hf
    | .ok (f, text) => decidable_of_iff _ (Finds.succeeded_iff ⟨hr, hf⟩)

/-- The report on a fix that the system takes is the same whether it is written or not. -/
theorem result_inMode (admits : (e.inMode .write).Admits t fix) :
    ((e.inMode .write).apply t fix).1 = ((e.inMode .dryRun).apply t fix).1 := by
  have course := (e.inMode .dryRun).course t fix
  generalize (e.inMode .dryRun).apply t fix = out at course
  cases course with
  | astray fails => rw [(e.inMode .write).course_iff.mp (.astray fails)]
  | unread resolved fails => rw [(e.inMode .write).course_iff.mp (.unread resolved fails)]
  | refused _ kept => cases kept
  | spoilt _ spoilt => cases spoilt
  | @made place f text ready =>
    have finds : (e.inMode .write).Finds t fix.target place f text := ⟨ready.resolved, ready.reads⟩
    rw [apply_of_ready ⟨finds, finds.admits_iff.mp admits⟩]
    rfl

/-! ### What is on the tree in the end -/

/-- What other fixes have done does not show to a fix that is apart from them. -/
theorem Alike.after (apart : ∀ b ∈ fixes, e.Apart t b fix) :
    e.Alike fix.target t (e.after t fixes) := by
  induction fixes generalizing t with
  | nil => exact .refl e fix.target t
  | cons b rest ih =>
    obtain ⟨first, later⟩ := List.forall_mem_cons.mp apart
    exact first.alike.trans (ih fun c hc => (later c hc).congr (e.sameShape_apply t b))

/-- After fixes that are apart have been made, each file has its fixed text. -/
theorem at?_after_of_ready (write : e.mode = .write) (apart : fixes.Pairwise (e.Apart t))
    (hfix : fix ∈ fixes) (ready : e.Ready t fix place f text) :
    (e.after t fixes).at? place =
      some (.file (f.withText (RuleSet.fold fix.rules.rules text))) := by
  obtain ⟨before, later, rfl⟩ := List.append_of_mem hfix
  -- The order makes no difference, so the fix may be taken to be the first one.
  have perm : (before ++ fix :: later).Perm (fix :: (before ++ later)) := List.perm_middle
  obtain ⟨first, -⟩ := List.pairwise_cons.mp (apart.perm perm Apart.symm)
  have shape := e.sameShape_apply t fix
  have alike : e.Alike fix.target (e.apply t fix).2
      (e.after (e.apply t fix).2 (before ++ later)) :=
    .after fun b hb => (first b hb).symm.congr shape
  have resolved : e.resolve (e.apply t fix).2 fix.target = .ok place :=
    (resolve_congr shape e fix.target).symm.trans ready.resolved
  calc (e.after t (before ++ fix :: later)).at? place
      = (e.after (e.apply t fix).2 (before ++ later)).at? place := by
        rw [after_perm perm apart]
        rfl
    _ = (e.apply t fix).2.at? place := alike.there place resolved
    _ = some (.file (f.withText (RuleSet.fold fix.rules.rules text))) := by
        rw [apply_of_ready ready, treeWith, write]
        exact (Tree.at?_replace ready.stands place).trans (if_pos rfl)

/-! ### Previews -/

/-- What a report on a fix says of the texts of its file in the trees before and after a run. -/
structure Faithful (e : Engine) (t u : Tree) (fix : Fix) (r : FixResult) : Prop where
  made : r.succeeded = true → ∃ place f g before after,
    e.resolve t fix.target = .ok place ∧
      (t.fileAt? place = some f ∧ f.text? = some before) ∧
      (u.fileAt? place = some g ∧ g.text? = some after) ∧
      (r.changed = true ↔ before ≠ after) ∧
      r.diff = if e.captureDiff then some ⟨before, after⟩ else none
  failed : r.succeeded = false → r.changed = false ∧ r.diff = none

/-- The reports of a run that writes are faithful if its fixes are apart. -/
theorem faithful_after (apart : fixes.Pairwise (e.Apart t)) (hfix : fix ∈ fixes) :
    e.Faithful t ((e.inMode .write).after t fixes) fix ((e.inMode .write).apply t fix).1 := by
  have applied := (e.inMode .write).applied t fix
  generalize (e.inMode .write).apply t fix = out at applied
  cases applied with
  | failed | spoilt => exact ⟨nofun, fun _ => ⟨rfl, rfl⟩⟩
  | @made place f text ready =>
    have written := at?_after_of_ready (e := e.inMode .write) rfl apart hfix ready
    refine ⟨fun _ => ?_, nofun⟩
    refine ⟨place, f, _, text, _, ready.resolved,
      ⟨Tree.fileAt?_eq_some.mpr ready.stands, ready.readable⟩,
      ⟨Tree.fileAt?_eq_some.mpr written, File.text?_withText ..⟩, ?_, rfl⟩
    exact bne_iff_ne

/-- A directory with two files and a link to one of them. -/
def previewTree : Tree where
  entries := [
    (["w"], .directory),
    (["w", "a"], .file { content := "xa".toUTF8 }),
    (["w", "b"], .file { content := "xb".toUTF8 }),
    (["w", "l"], .link "a")]

/-- Fixes for it. The second one fails, and the third is then not tried. -/
def previewPlan : Plan where
  name := "preview"
  fixes := [sampleFix "l" "x(.)" "\\1\\1", sampleFix "." "x" "y", sampleFix "b" "x" "y"]

/-- An engine that keeps texts. -/
def previewEngine : Engine where
  root := "/w"
  captureDiff := true

/-- A fix of the file at the bottom of a tower, which finds nothing there. -/
def deepPlan : Plan where
  name := "deep"
  fixes := [sampleFix deepPath "q" "r"]

/-- A run of one fix tells what comes of it. -/
theorem results_outcome_singleton {p : Plan} (h : p.fixes = [fix]) :
    (e.outcome policy p t).1.results = [(e.apply t fix).1] := by
  have runs := e.outcome_runs policy p t
  rw [h] at runs
  generalize (e.outcome policy p t).1 = s, (e.outcome policy p t).2 = u at runs ⊢
  cases runs with
  | stopped => rfl
  | next _ more =>
    cases more
    rfl

/-- The file at the bottom may be written to. -/
theorem writable_deepTree : ∀ fix ∈ deepPlan.fixes, freeEngine.Writable deepTree fix.target := by
  intro fix hfix place f resolved stands
  obtain rfl := List.mem_singleton.mp hfix
  rw [target_sampleFix] at resolved
  have finds := finds_deepPath (e := freeEngine) rfl rfl
  obtain rfl := Except.ok.inj (finds.resolved.symm.trans resolved)
  obtain rfl := Entry.file.inj (Option.some.inj (finds.stands.symm.trans stands))
  rfl

/-- What comes of the fix at the bottom of a tower is told by the mode. -/
theorem deepPlan_succeeded (mode : WriteMode) (policy : FailurePolicy) :
    ((freeEngine.inMode mode).outcome policy deepPlan deepTree).1.results.map (·.succeeded) =
      [mode == .dryRun] := by
  have succeeded := succeeded_deepPath (e := freeEngine.inMode mode) rfl rfl
    (target_sampleFix deepPath "q" "r")
  rw [results_outcome_singleton rfl, List.map_singleton,
    Bool.eq_iff_iff.mpr (succeeded.trans beq_iff_eq.symm)]
  rfl

end Engine

end Emend
