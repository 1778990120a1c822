import Emend.Proofs.Command.Apply
import Emend.Proofs.Command.Untouched
import Emend.Proofs.Patch.Clean

/-!
# What a check foretells

`check` and `apply` find the same plans and the same workspace; their engines differ in what was
asked for only (`Session.found_again`). If a check has nothing to tell, each fix is settled
(`Session.settled_of_check`): its target leads to a text that its rules leave as it is. A settled fix
keeps the content of the tree and stays settled, whether it is made or refused
(`Engine.Settled.step`), and so a run of such fixes changes nothing (`Session.check_foretells`).

A check does not write, so it does not ask what the system refuses. This is what it does not foretell:
on a project that is clean, `apply` fails if and only if the system does not take the text of a fix,
such as that of a file which is read-only (`Session.check_passes_locked`). Nothing is said of systems
that let the old text go and then take but a part of the new one (`Engine.Whole`).
-/

namespace Emend

/-- A summary is clean if it tells of fixes that were made and changed nothing. -/
theorem Summary.isClean_iff {s : Summary} :
    s.isClean = true ↔ ∀ r ∈ s.results, r.succeeded = true ∧ r.changed = false := by
  rw [isClean, Bool.and_eq_true, beq_iff_eq, beq_iff_eq, changed, failed, List.countP_eq_zero,
    List.countP_eq_zero]
  constructor
  · rintro ⟨unchanged, failed⟩ r hr
    have succeeded : r.succeeded = true := by simpa using failed r hr
    have changed := unchanged r hr
    rw [succeeded, Bool.true_and, Bool.not_eq_true] at changed
    exact ⟨succeeded, changed⟩
  · intro clean
    exact ⟨fun r hr => by simp [clean r hr], fun r hr => by simp [clean r hr]⟩

theorem Outcome.exitCodeOf_eq_zero {good : Bool} : exitCodeOf good = 0 ↔ good = true := by
  cases good <;> simp [exitCodeOf]

namespace Engine

variable {σ : Type} {e : Engine} {policy : FailurePolicy} {t u : Tree} {s : Summary} {fix : Fix}
  {fixes : List Fix} {place : Location} {f : File} {text : String}

/-! ### Settled fixes -/

/-- Whether the target of a fix leads to a text that the rules leave as it is. The system need not
take the text. -/
def Settled (e : Engine) (t : Tree) (fix : Fix) : Prop :=
  ∃ place f text, e.Finds t fix.target place f text ∧ RuleSet.fold fix.rules.rules text = text

/-- Whether, where a target leads, a text is written whole if the file is changed at all. -/
def Whole (e : Engine) (t : Tree) (target : Path) : Prop :=
  ∀ place, e.resolve t target = .ok place → e.system.Whole place

/-- What a report says of a fix that has nothing to change: it is made, or the system refuses the text
that is there already. -/
structure Unchanged (e : Engine) (t : Tree) (fix : Fix) (r : FixResult) : Prop where
  changed : r.changed = false
  succeeded_iff : r.succeeded = true ↔ e.Admits t fix
  refused : r.succeeded = false → ∃ place f text fault, e.Finds t fix.target place f text ∧
    (e.ending place f text).fault? = some fault ∧ r.fault? = some (.ofSystem place.path fault)

/-- A settled fix keeps the content, also after others that have kept it. -/
theorem Settled.step (h : e.Settled t fix) (whole : e.Whole t fix.target) (same : t.SameContent u) :
    e.Unchanged t fix (e.apply u fix).1 ∧ t.SameContent (e.apply u fix).2 := by
  obtain ⟨place, f, text, finds, fixed⟩ := h
  obtain ⟨g, there, mode⟩ := finds.congr same
  have admits : e.Admits t fix ↔ e.ending place f text = .made := by rw [finds.admits_iff, fixed]
  have ends : e.ending place g (RuleSet.fold fix.rules.rules text) = e.ending place f text := by
    rw [fixed, ending_congr mode]
  cases ending : e.ending place f text with
  | made =>
    have ready : e.Ready u fix place g text := ⟨there, ends.trans ending⟩
    obtain ⟨unchanged, content⟩ := unchanged_of_ready ready fixed
    have made : (e.apply u fix).1.succeeded = true := succeeded_apply_iff.mpr ⟨_, _, _, ready⟩
    refine ⟨⟨unchanged, ⟨fun _ => admits.mpr ending, fun _ => made⟩, fun failed => ?_⟩,
      same.trans content⟩
    rw [made] at failed
    cases failed
  | kept fault =>
    rw [course_iff.mp (.refused there (ends.trans ending))]
    refine ⟨⟨rfl, ⟨nofun, fun h => ?_⟩, fun _ => ?_⟩, same⟩
    · rw [admits.mp h] at ending
      cases ending
    · exact ⟨place, f, text, fault, finds, by rw [ending, Ending.fault?], rfl⟩
  | spoilt fault content =>
    -- What has been written is the text that was there.
    have written := whole place finds.resolved f.mode text fault content (system_of_spoilt ending)
    rw [course_iff.mp (.spoilt there (ends.trans ending))]
    refine ⟨⟨rfl, ⟨nofun, fun h => ?_⟩, fun _ => ?_⟩, ?_⟩
    · rw [admits.mp h] at ending
      cases ending
    · exact ⟨place, f, text, fault, finds, by rw [ending, Ending.fault?], rfl⟩
    · rw [written]
      exact same.trans (Tree.sameContent_replace there.stands there.readable)

/-- A run of settled fixes keeps the content. -/
theorem Runs.settled (hruns : e.Runs policy fixes t s u)
    (settled : ∀ fix ∈ fixes, e.Settled t fix) (whole : ∀ fix ∈ fixes, e.Whole t fix.target) :
    List.Forall₂ (e.Unchanged t) (fixes.take s.results.length) s.results ∧ t.SameContent u :=
  hruns.invariant t.SameContent (e.Unchanged t)
    (fun fix hfix _ => (settled fix hfix).step (whole fix hfix)) (.refl t)

/-- A run of settled fixes is a success if the system takes their texts. -/
theorem Runs.isSuccess_iff_of_settled (hruns : e.Runs policy fixes t s u)
    (settled : ∀ fix ∈ fixes, e.Settled t fix) (whole : ∀ fix ∈ fixes, e.Whole t fix.target) :
    s.isSuccess = true ↔ ∀ fix ∈ fixes, e.Admits t fix := by
  have told := (attempts_invariant t.SameContent (e.Unchanged t)
    (fun fix hfix _ => (settled fix hfix).step (whole fix hfix)) (.refl t)).1
  rw [hruns.isSuccess_iff]
  constructor
  · intro succeed fix hfix
    obtain ⟨r, hr, unchanged⟩ := told.exists_of_mem_left hfix
    exact unchanged.succeeded_iff.mp (succeed r hr)
  · intro admits r hr
    obtain ⟨fix, hfix, unchanged⟩ := told.exists_of_mem_right hr
    exact unchanged.succeeded_iff.mpr (admits fix hfix)

/-! ### Engines of one root -/

/-- The engines of a root differ in what was asked for only. -/
theorem ofRoot_again {root : Path} {mode : WriteMode} {captureDiff : Bool} {system : System}
    (h : ofRoot t root mode captureDiff system = .ok e) (mode' : WriteMode) (captureDiff' : Bool) :
    ofRoot t root mode' captureDiff' system =
      .ok { e with mode := mode', captureDiff := captureDiff' } := by
  obtain ⟨w, hw, rfl⟩ := Except.map_eq_ok.mp h
  exact Except.map_eq_ok.mpr ⟨w, hw, rfl⟩

/-- Whether a fix is settled is not a question of what is done with its text. -/
theorem Settled.again (h : e.Settled t fix) (mode : WriteMode) (captureDiff : Bool) :
    ({ e with mode, captureDiff } : Engine).Settled t fix := by
  obtain ⟨place, f, text, finds, fixed⟩ := h
  exact ⟨place, f, text, ⟨finds.resolved, finds.reads⟩, fixed⟩

/-- A fix is settled if an engine would make it and it would change nothing. -/
theorem settled_of_apply (succeeded : (e.apply t fix).1.succeeded = true)
    (unchanged : (e.apply t fix).1.changed = false) : e.Settled t fix := by
  obtain ⟨place, f, text, ready⟩ := succeeded_apply_iff.mp succeeded
  rw [apply_of_ready ready] at unchanged
  have fixed : (text != RuleSet.fold fix.rules.rules text) = false := unchanged
  exact ⟨place, f, text, ready.toFinds, (bne_eq_false_iff_eq.mp fixed).symm⟩

/-- An engine that does not write tries each fix on the tree as it is. -/
theorem attempts_dryRun (dry : e.mode = .dryRun) (t : Tree) (fixes : List Fix) :
    e.attempts t fixes = fixes.map fun fix => (e.apply t fix).1 := by
  induction fixes with
  | nil => rfl
  | cons fix rest ih => rw [attempts, tree_apply_dryRun dry, ih, List.map_cons]

/-- If a run that does not write has nothing to tell, the fixes of all plans are settled. -/
theorem settled_of_isClean (dry : e.mode = .dryRun) {plans : List LoadedPlan}
    {watch : Observer σ} {known : σ}
    (clean : (e.runAll .continueOnError watch plans t known).1.isClean = true) :
    ∀ fix ∈ plans.flatMap (·.plan.fixes), e.Settled t fix := by
  intro fix hfix
  have results := (e.runAll_runs .continueOnError watch plans t known).all_tried.1
  rw [results, Summary.isClean_iff, attempts_dryRun dry, List.forall_mem_map] at clean
  obtain ⟨succeeded, unchanged⟩ := clean fix hfix
  exact settled_of_apply succeeded unchanged

end Engine

namespace Session

variable {s : Session} {t : Tree}

/-- What is found for one engine is found for another at the same root. -/
theorem found_again {o : PlanOptions} {mode : WriteMode} {captureDiff : Bool} {e : Engine}
    {plans : List LoadedPlan} (h : s.found t o mode captureDiff = .ok (e, plans))
    (mode' : WriteMode) (captureDiff' : Bool) :
    s.found t o mode' captureDiff' =
      .ok ({ e with mode := mode', captureDiff := captureDiff' }, plans) := by
  obtain ⟨root, loaded, hroot, hloaded, hplans, hengine⟩ := found_eq_ok.mp h
  exact found_eq_ok.mpr ⟨root, loaded, hroot, hloaded, hplans, Engine.ofRoot_again hengine ..⟩

/-- If a check has nothing to tell, then for every mode there is an engine for which all fixes are
settled. -/
theorem settled_of_check {o : PlanOptions} {known : Transcript}
    (clean : (s.check t o known).exitCode = 0) (mode : WriteMode) (captureDiff : Bool) :
    ∃ e plans, s.found t o mode captureDiff = .ok (e, plans) ∧
      ∀ fix ∈ plans.flatMap (·.plan.fixes), e.Settled t fix := by
  cases hfound : s.found t o .dryRun false with
  | error f =>
    obtain ⟨told, h⟩ := s.check_of_error known hfound
    rw [h] at clean
    cases clean
  | ok found =>
    obtain ⟨e, plans⟩ := found
    obtain ⟨told, h⟩ := s.check_of_ok known hfound
    rw [h] at clean
    have settled := Engine.settled_of_isClean (mode_of_found_eq_ok hfound)
      (Outcome.exitCodeOf_eq_zero.mp clean)
    exact ⟨_, plans, found_again hfound mode captureDiff,
      fun fix hfix => (settled fix hfix).again mode captureDiff⟩

/-- What comes of `apply` where there is nothing to change: the summary of its run, and the
outcome. -/
structure Foretold (e : Engine) (t : Tree) (fixes : List Fix) (s : Summary) (out : Outcome) :
    Prop where
  content : t.SameContent out.tree
  /-- No fix changes anything, and none fails but for a text that the system refuses. -/
  unchanged : List.Forall₂ (e.Unchanged t) (fixes.take s.results.length) s.results
  exit : out.exitCode = 0 ↔ ∀ fix ∈ fixes, e.Admits t fix
  /-- If the system takes all texts, all fixes are told of as made. -/
  success : out.exitCode = 0 → s.results.map (·.target) = fixes.map (·.target) ∧ s.skipped = [] ∧
    ∀ r ∈ s.results, r.succeeded = true ∧ r.changed = false

/-- **A check foretells what `apply` does**, up to texts that the system refuses. If `check` exits with
0, then `apply` with the same root and plans keeps the content of the tree and reports no fix as
changed, under either policy and for every system that writes no text in part. It exits with 0, and
reports all fixes as made, if and only if the system takes all texts, as it does if `apply` does not
write; and it reports no other failures. -/
theorem check_foretells (s : Session) (t : Tree) (o : ApplyOptions) (known told : Transcript)
    (clean : (s.check t o.toPlanOptions known).exitCode = 0) :
    ∃ e plans begun,
      e.mode = o.mode ∧ e.system = s.system ∧
      (s.prepareApply t o).run told = (.ok (e, plans), begun) ∧
      let run := e.runAll o.policy (s.reporter.applying o.policy o.mode o.diff) plans t begun
      s.apply t o told = ⟨Outcome.exitCodeOf run.1.isSuccess, run.2.1,
        s.reporter.appliedAll run.1 run.2.2⟩ ∧
      ((∀ fix ∈ plans.flatMap (·.plan.fixes), e.Whole t fix.target) →
        Foretold e t (plans.flatMap (·.plan.fixes)) run.1 (s.apply t o told)) := by
  obtain ⟨e, plans, hfound, settled⟩ := settled_of_check clean o.mode o.diff
  obtain ⟨begun, hrun⟩ := (s.prepareApply_yields t o).run told
  rw [hfound] at hrun
  refine ⟨e, plans, begun, mode_of_found_eq_ok hfound, system_of_found_eq_ok hfound, hrun, ?_⟩
  intro run
  have happly : s.apply t o told = ⟨Outcome.exitCodeOf run.1.isSuccess, run.2.1,
      s.reporter.appliedAll run.1 run.2.2⟩ := by rw [apply, hrun]
  refine ⟨happly, fun whole => ?_⟩
  have exits : (s.apply t o told).exitCode = 0 ↔ run.1.isSuccess = true := by
    rw [happly]
    exact Outcome.exitCodeOf_eq_zero
  have hruns : e.Runs o.policy (plans.flatMap (·.plan.fixes)) t run.1 run.2.1 := e.runAll_runs ..
  obtain ⟨unchanged, content⟩ := hruns.settled settled whole
  refine ⟨?_, unchanged, exits.trans (hruns.isSuccess_iff_of_settled settled whole), ?_⟩
  · rw [happly]
    exact content
  · intro zero
    obtain ⟨targets, skipped, succeeded⟩ := hruns.made_of_isSuccess (exits.mp zero)
    refine ⟨targets, skipped, fun r hr => ⟨succeeded r hr, ?_⟩⟩
    obtain ⟨_, -, told⟩ := unchanged.exists_of_mem_right hr
    exact told.changed

/-- A project with a plan that has two fixes for one file, which has the given permissions. The first
fix finds nothing; the second one finds something, and puts the same there. -/
def cleanProject (mode : Nat) : Tree where
  entries := [
    (["w"], .directory),
    (["w", "a"], .file { content := "xa".toUTF8, mode }),
    (["w", "p"], .file { content := "fixes=[['a',[['','z','y']]],['./a',[['','x','x']]]]".toUTF8 })]
  here := ["w"]

/-- A session with the default settings. -/
def plainSession : Session := ⟨none, default, .superuser⟩

theorem check_foretells_cleanProject :
    (plainSession.check (cleanProject 0o644) Engine.planOptions.toPlanOptions {}).exitCode = 0 ∧
      (plainSession.apply (cleanProject 0o644) Engine.planOptions {}).exitCode = 0 ∧
      ∃ e plans begun,
        e.mode = .write ∧ e.system = .superuser ∧
          (plainSession.prepareApply (cleanProject 0o644) Engine.planOptions).run {} =
            (.ok (e, plans), begun) ∧
          let run := e.runAll .failFast (plainSession.reporter.applying .failFast .write false) plans
            (cleanProject 0o644) begun
          plainSession.apply (cleanProject 0o644) Engine.planOptions {} =
            ⟨Outcome.exitCodeOf run.1.isSuccess, run.2.1,
              plainSession.reporter.appliedAll run.1 run.2.2⟩ ∧
          Foretold e (cleanProject 0o644) (plans.flatMap (·.plan.fixes)) run.1
            (plainSession.apply (cleanProject 0o644) Engine.planOptions {}) := by
  have clean : (plainSession.check (cleanProject 0o644) Engine.planOptions.toPlanOptions
      {}).exitCode = 0 := by decide +kernel
  obtain ⟨e, plans, begun, mode, system, prepared, outcome, foretold⟩ :=
    check_foretells plainSession (cleanProject 0o644) Engine.planOptions {} {} clean
  refine ⟨clean, by decide +kernel, e, plans, begun, mode, system, prepared, outcome, ?_⟩
  refine foretold fun fix _ place _ => ?_
  rw [system]
  exact (System.steady_superuser place).whole

/-- A check does not find out that nobody may write to a file: the project passes, and then `apply`
fails under either policy. -/
theorem check_passes_locked :
    (plainSession.check (cleanProject 0o444) Engine.planOptions.toPlanOptions {}).exitCode = 0 ∧
      (plainSession.apply (cleanProject 0o444) Engine.planOptions {}).exitCode = 1 ∧
      (plainSession.apply (cleanProject 0o444)
        { Engine.planOptions with keepGoing := true } {}).exitCode = 1 := by
  decide +kernel

end Session

end Emend
