import Emend.Proofs.Patch.Run

/-!
# What a failure policy decides

A run makes fixes in order, each on the tree that those before it have left, and a policy decides no
more than how many of them are tried. `Engine.attempts` lists what comes of all fixes, one after the
other, and `Engine.after` is the tree that they leave; nothing is said of policies there. A run
tries a first part of the fixes: its results are as many of the attempts, and its tree is the one
after that part (`Engine.Runs.attempted`).

- Under `continueOnError` all fixes are tried.
- Under `failFast` those up to the first failure are tried (`Engine.failFast_cuts`).

Whether a run is a success is said by the attempts alone (`Engine.Runs.isSuccess_iff`), so the
policies agree on it. What each fix tells while something holds that it keeps is told by all results
of a run (`Engine.Runs.invariant`).
-/

namespace Emend

/-- An observer that is told of results only. -/
def Observer.ofResults {σ : Type} (see : FixResult → σ → σ) : Observer σ where
  tried _ _ result known := see result known

namespace Summary

/-- A summary is that of a success if no result is a failure and nothing is skipped. -/
theorem isSuccess_iff {s : Summary} :
    s.isSuccess = true ↔ (∀ r ∈ s.results, r.succeeded = true) ∧ s.skipped = [] := by
  simp [isSuccess, failed, List.countP_eq_zero]

end Summary

namespace FixResult

/-- The results up to the first failure, with that failure, or all of them if there is none. -/
def untilFailure (results : List FixResult) : List FixResult :=
  results.take (results.findIdx (!·.succeeded) + 1)

theorem untilFailure_cons_succeeded {r : FixResult} (h : r.succeeded = true)
    (results : List FixResult) : untilFailure (r :: results) = r :: untilFailure results := by
  simp [untilFailure, List.findIdx_cons, h]

theorem untilFailure_cons_failed {r : FixResult} (h : r.succeeded = false)
    (results : List FixResult) : untilFailure (r :: results) = [r] := by
  simp [untilFailure, List.findIdx_cons, h]

end FixResult

namespace Engine

variable {σ : Type} {e : Engine} {policy : FailurePolicy} {fixes : List Fix} {t u : Tree}
  {s : Summary}

/-! ### Fixes one after the other -/

/-- What comes of fixes that are all tried, in order. -/
def attempts (e : Engine) : Tree → List Fix → List FixResult
  | _, [] => []
  | t, fix :: rest => (e.apply t fix).1 :: e.attempts (e.apply t fix).2 rest

/-- The tree after fixes have been tried in order. -/
def after (e : Engine) : Tree → List Fix → Tree
  | t, [] => t
  | t, fix :: rest => e.after (e.apply t fix).2 rest

/-- What comes of several fixes is what comes of single ones, each on some tree. -/
theorem exists_apply_of_mem_attempts {r : FixResult} (h : r ∈ e.attempts t fixes) :
    ∃ u, ∃ fix ∈ fixes, r = (e.apply u fix).1 := by
  induction fixes generalizing t with
  | nil => cases h
  | cons fix rest ih =>
    rcases List.mem_cons.mp h with rfl | h
    · exact ⟨t, fix, List.mem_cons_self, rfl⟩
    · obtain ⟨u, fix', hmem, hr⟩ := ih h
      exact ⟨u, fix', List.mem_cons_of_mem fix hmem, hr⟩

/-- The report on a fix names its target. -/
theorem target_apply (e : Engine) (t : Tree) (fix : Fix) :
    (e.apply t fix).1.target = fix.target := by
  have applied := e.applied t fix
  generalize e.apply t fix = out at applied
  cases applied <;> rfl

theorem map_target_attempts (e : Engine) (t : Tree) (fixes : List Fix) :
    (e.attempts t fixes).map (·.target) = fixes.map (·.target) := by
  induction fixes generalizing t with
  | nil => rfl
  | cons fix rest ih =>
    rw [attempts, List.map_cons, List.map_cons, target_apply, ih]

/-! ### The part of the fixes that is tried -/

/-- The fixes of a run that are tried are a first part of all fixes, and nothing else is done. -/
structure Attempted (e : Engine) (fixes : List Fix) (t : Tree) (s : Summary) (u : Tree) : Prop where
  length_le : s.results.length ≤ fixes.length
  results : s.results = e.attempts t (fixes.take s.results.length)
  skipped : s.skipped = (fixes.drop s.results.length).map (·.target)
  tree : u = e.after t (fixes.take s.results.length)

theorem Runs.attempted (h : e.Runs policy fixes t s u) : e.Attempted fixes t s u := by
  induction h with
  | done => exact ⟨Nat.le_refl 0, rfl, rfl, rfl⟩
  | stopped => exact ⟨Nat.succ_le_succ (Nat.zero_le _), rfl, rfl, rfl⟩
  | @next fix rest t u s on more ih =>
    obtain ⟨hle, hresults, hskipped, htree⟩ := ih
    refine ⟨Nat.succ_le_succ hle, ?_, hskipped, htree⟩
    show (e.apply t fix).1 :: s.results =
      (e.apply t fix).1 :: e.attempts (e.apply t fix).2 (rest.take s.results.length)
    rw [← hresults]

/-- What was tried and what was skipped make up the whole. -/
theorem Attempted.targets (h : e.Attempted fixes t s u) :
    s.results.map (·.target) ++ s.skipped = fixes.map (·.target) := by
  calc s.results.map (·.target) ++ s.skipped
      = (fixes.take s.results.length).map (·.target) ++ s.skipped := by
        rw [congrArg (List.map (·.target)) h.results, map_target_attempts]
    _ = (fixes.take s.results.length).map (·.target) ++
          (fixes.drop s.results.length).map (·.target) := by rw [h.skipped]
    _ = fixes.map (·.target) := by rw [← List.map_append, List.take_append_drop]

/-- Nothing is skipped exactly if there is a result of each fix. -/
theorem Attempted.skipped_eq_nil (h : e.Attempted fixes t s u) :
    s.skipped = [] ↔ s.results.length = fixes.length := by
  have hle := h.length_le
  rw [h.skipped, List.map_eq_nil_iff, List.drop_eq_nil_iff]
  omega

/-- A run is a success if every fix succeeds when it is its turn. -/
theorem Runs.isSuccess_iff (h : e.Runs policy fixes t s u) :
    s.isSuccess = true ↔ ∀ r ∈ e.attempts t fixes, r.succeeded = true := by
  induction h with
  | done => exact ⟨fun _ => nofun, fun _ => rfl⟩
  | stopped failed =>
    -- The failure is a result of the run and one of the attempts.
    rw [Summary.isSuccess_iff]
    constructor
    · rintro ⟨all, -⟩
      rw [all _ (List.mem_singleton_self _)] at failed
      cases failed
    · intro all
      rw [all _ List.mem_cons_self] at failed
      cases failed
  | @next fix rest t u s on more ih =>
    rw [Summary.isSuccess_iff, attempts, List.forall_mem_cons, List.forall_mem_cons, and_assoc,
      ← Summary.isSuccess_iff, ih]

/-- A run that is a success has made all fixes. -/
theorem Runs.made_of_isSuccess (hruns : e.Runs policy fixes t s u) (success : s.isSuccess = true) :
    s.results.map (·.target) = fixes.map (·.target) ∧ s.skipped = [] ∧
      ∀ r ∈ s.results, r.succeeded = true := by
  obtain ⟨succeeded, skipped⟩ := Summary.isSuccess_iff.mp success
  have targets := hruns.attempted.targets
  rw [skipped, List.append_nil] at targets
  exact ⟨targets, skipped, succeeded⟩

/-- If failures do not stop a run, all fixes are tried. -/
theorem Runs.all_tried (h : e.Runs .continueOnError fixes t s u) :
    s = ⟨e.attempts t fixes, []⟩ ∧ u = e.after t fixes := by
  induction h with
  | done => exact ⟨rfl, rfl⟩
  | stopped _ stop => cases stop
  | next _ _ ih =>
    obtain ⟨rfl, rfl⟩ := ih
    exact ⟨rfl, rfl⟩

/-- If they do, the fixes up to the first failure are tried. -/
theorem Runs.tried_untilFailure (h : e.Runs .failFast fixes t s u) :
    s.results = FixResult.untilFailure (e.attempts t fixes) := by
  induction h with
  | done => rfl
  | stopped failed =>
    rw [attempts, FixResult.untilFailure_cons_failed failed]
  | next on _ ih =>
    have succeeded := on.resolve_right nofun
    rw [attempts, FixResult.untilFailure_cons_succeeded succeeded, ih]

/-- Runs whose fixes come to the same have the same summary. -/
theorem Runs.summary_congr {e' : Engine} {t' u' : Tree} {s' : Summary}
    (h : e.Runs policy fixes t s u) (h' : e'.Runs policy fixes t' s' u')
    (same : e.attempts t fixes = e'.attempts t' fixes) : s = s' := by
  cases policy with
  | continueOnError => rw [h.all_tried.1, h'.all_tried.1, same]
  | failFast =>
    have results : s.results = s'.results := by
      rw [h.tried_untilFailure, h'.tried_untilFailure, same]
    have skipped : s.skipped = s'.skipped := by
      rw [h.attempted.skipped, h'.attempted.skipped, results]
    cases s
    cases s'
    exact congrArg₂ Summary.mk results skipped

/-! ### What all fixes tell and keep -/

/-- What each fix keeps holds after fixes, and what each tells is told by all of them. -/
theorem attempts_invariant (Holds : Tree → Prop) (Tells : Fix → FixResult → Prop)
    (step : ∀ fix ∈ fixes, ∀ u, Holds u →
      Tells fix (e.apply u fix).1 ∧ Holds (e.apply u fix).2) (h : Holds t) :
    List.Forall₂ Tells fixes (e.attempts t fixes) ∧ Holds (e.after t fixes) := by
  induction fixes generalizing t with
  | nil => exact ⟨.nil, h⟩
  | cons fix rest ih =>
    obtain ⟨first, later⟩ := List.forall_mem_cons.mp step
    obtain ⟨tells, holds⟩ := first t h
    obtain ⟨told, held⟩ := ih later holds
    exact ⟨.cons tells told, held⟩

/-- The same along runs, which try a first part of the fixes. -/
theorem Runs.invariant (hruns : e.Runs policy fixes t s u) (Holds : Tree → Prop)
    (Tells : Fix → FixResult → Prop)
    (step : ∀ fix ∈ fixes, ∀ u, Holds u →
      Tells fix (e.apply u fix).1 ∧ Holds (e.apply u fix).2) (h : Holds t) :
    List.Forall₂ Tells (fixes.take s.results.length) s.results ∧ Holds u := by
  obtain ⟨-, results, -, tree⟩ := hruns.attempted
  have part : ∀ fix ∈ fixes.take s.results.length, fix ∈ fixes := fun _ => List.mem_of_mem_take
  generalize fixes.take s.results.length = tried at results tree part ⊢
  rw [results, tree]
  exact attempts_invariant Holds Tells (fun fix hfix => step fix (part fix hfix)) h

/-- If each fix is made as long as something holds that all of them keep, a run is a success. -/
theorem Runs.isSuccess_of_invariant (hruns : e.Runs policy fixes t s u) (Holds : Tree → Prop)
    (step : ∀ fix ∈ fixes, ∀ u, Holds u →
      (e.apply u fix).1.succeeded = true ∧ Holds (e.apply u fix).2) (h : Holds t) :
    s.isSuccess = true := by
  have told := (attempts_invariant Holds (fun _ r => r.succeeded = true) step h).1
  refine hruns.isSuccess_iff.mpr fun r hr => ?_
  obtain ⟨_, -, succeeded⟩ := told.exists_of_mem_right hr
  exact succeeded

/-! ### What observers learn -/

/-- An observer of results is told of each result of the run, in order. -/
theorem runFixes_ofResults (e : Engine) (policy : FailurePolicy) (see : FixResult → σ → σ)
    (fixes : List Fix) (t : Tree) (known : σ) :
    (e.runFixes policy (.ofResults see) fixes t known).2.2 =
      (e.runFixes policy (.ofResults see) fixes t known).1.results.foldl
        (fun known r => see r known) known := by
  induction fixes generalizing t known with
  | nil => rfl
  | cons fix rest ih =>
    rw [runFixes_cons]
    dsimp only
    split
    · rfl
    · exact ih _ _

/-! ### The two policies side by side -/

/-- What a run of a plan accounts for under either policy, in its summary and towards an observer of
results. -/
structure Accounted (p : Plan) (see : FixResult → σ → σ) (known : σ) (out : Summary × Tree × σ) :
    Prop where
  /-- Each target is that of a result or is skipped, in the order of the plan. -/
  targets : out.1.results.map (·.target) ++ out.1.skipped = p.targets
  /-- The observer is told of each result once, in order. -/
  observed : out.2.2 = out.1.results.foldl (fun known r => see r known) known
  success : out.1.isSuccess = true ↔
    out.1.results.length = p.fixes.length ∧ ∀ r ∈ out.1.results, r.succeeded = true

theorem run_accounted (e : Engine) (policy : FailurePolicy) (see : FixResult → σ → σ) (p : Plan)
    (t : Tree) (known : σ) :
    Accounted p see known (e.run policy (.ofResults see) p t known) := by
  have attempted := (e.runs policy (.ofResults see) p.fixes t known).attempted
  refine ⟨attempted.targets, runFixes_ofResults e policy see p.fixes t known, ?_⟩
  rw [Summary.isSuccess_iff, run, attempted.skipped_eq_nil, and_comm]

/-- **Stopping at a failure is going on, cut at the first failure.** A run that goes on tries each
fix on the tree that those before it have left. A run that stops has the results of that run up to
the first failure, skips the targets of the other fixes, and leaves the tree that a run that goes on
leaves if it is given only the fixes that were tried. Both say the same of whether all went well. -/
theorem failFast_cuts (e : Engine) (p : Plan) (t : Tree) (see : FixResult → σ → σ) (known : σ) :
    let watch := Observer.ofResults see
    let whole := e.run .continueOnError watch p t known
    let cut := e.run .failFast watch p t known
    let tried := p.fixes.take cut.1.results.length
    (Accounted p see known whole ∧ Accounted p see known cut) ∧
      (whole.1.results = e.attempts t p.fixes ∧ whole.1.skipped = [] ∧
        whole.2.1 = e.after t p.fixes) ∧
      cut.1.results = FixResult.untilFailure whole.1.results ∧
      cut.1.skipped = (p.fixes.drop cut.1.results.length).map (·.target) ∧
      cut.2.1 = (e.run .continueOnError watch { p with fixes := tried } t known).2.1 ∧
      cut.1.isSuccess = whole.1.isSuccess := by
  intro watch whole cut tried
  have runsWhole : e.Runs .continueOnError p.fixes t whole.1 whole.2.1 := e.runs ..
  have runsCut : e.Runs .failFast p.fixes t cut.1 cut.2.1 := e.runs ..
  have runsTried := e.runs .continueOnError watch tried t known
  obtain ⟨hwhole, hafter⟩ := runsWhole.all_tried
  refine ⟨⟨run_accounted .., run_accounted ..⟩, ?_, ?_, runsCut.attempted.skipped, ?_, ?_⟩
  · rw [hwhole]
    exact ⟨rfl, rfl, hafter⟩
  · rw [runsCut.tried_untilFailure, hwhole]
  · rw [runsCut.attempted.tree]
    exact runsTried.all_tried.2.symm
  · rw [Bool.eq_iff_iff, runsCut.isSuccess_iff, runsWhole.isSuccess_iff]

end Engine

end Emend
