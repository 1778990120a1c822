import Emend.Proofs.Command.Check

/-!
# What the numbers in a report account for

The last lines of `apply` and of `check` are numbers of fixes. They are counted one by one, from the
results of all plans and from the targets that were skipped, and nothing in the program compares
them with the plans. They add up all the same: a result tells of a success or of a failure
(`Summary.succeeded_add_failed`), a success has changed its file or has not
(`Summary.clean_add_changed`), and a run has a result for each fix that it does not skip
(`Engine.Runs.length_results`). So each fix of the plans that pass the gate is counted once, wherever
a run is stopped (`Session.totals_account`).
-/

namespace Emend

/-! ### Counting results -/

namespace Summary

variable (s : Summary)

theorem succeeded_add_failed : s.succeeded + s.failed = s.results.length := by
  have h := List.length_eq_countP_add_countP (p := FixResult.succeeded) (l := s.results)
  rw [succeeded, failed, h]
  simp

/-- Only a fix that was made has changed its file. -/
theorem changed_le_succeeded : s.changed ≤ s.succeeded := by
  refine List.countP_mono_left fun r _ h => ?_
  rw [Bool.and_eq_true] at h
  exact h.1

/-- So the difference of the two is a number of fixes, and nothing is cut off at zero. -/
theorem clean_add_changed : s.clean + s.changed = s.succeeded := by
  have h := s.changed_le_succeeded
  show s.succeeded - s.changed + s.changed = s.succeeded
  omega

/-- The number of clean fixes is that of the results that tell of one. -/
theorem clean_eq_countP : s.clean = s.results.countP fun r => r.succeeded && !r.changed := by
  have split : s.succeeded =
      s.changed + s.results.countP fun r => r.succeeded && !r.changed := by
    rw [succeeded, changed]
    induction s.results with
    | nil => rfl
    | cons r results ih =>
      rw [List.countP_cons, List.countP_cons, List.countP_cons, ih]
      cases r.succeeded <;> cases r.changed <;> simp <;> omega
  have h := s.clean_add_changed
  omega

end Summary

/-! ### Counting fixes -/

namespace Engine

variable {e : Engine} {policy : FailurePolicy} {fixes : List Fix} {t u : Tree} {s : Summary}
  {fix : Fix}

/-- A fix has a result or is skipped. -/
theorem Runs.length_results (h : e.Runs policy fixes t s u) :
    s.results.length + s.skipped.length = fixes.length := by
  have targets := congrArg List.length h.attempted.targets
  rw [List.length_append, List.length_map, List.length_map] at targets
  exact targets

end Engine

/-- What the numbers of fixes that were made, failed and were skipped say about a list of fixes. -/
structure Summary.AccountsFor (s : Summary) (fixes : List Fix) : Prop where
  total : s.succeeded + s.failed + s.skipped.length = fixes.length
  changed_le : s.changed ≤ s.succeeded
  /-- A success is that each fix was tried, in order, and made. -/
  success : s.isSuccess = true ↔
    s.results.map (·.target) = fixes.map (·.target) ∧ ∀ r ∈ s.results, r.succeeded = true

/-- What the numbers of fixes that are clean, would change their file and fail say about a list of
fixes that are checked. -/
structure Summary.ChecksOff (s : Summary) (e : Engine) (t : Tree) (fixes : List Fix) : Prop where
  total : s.clean + s.changed + s.failed = fixes.length
  changed_le : s.changed ≤ s.succeeded
  skipped : s.skipped = []
  /-- Each fix is checked on the tree as it is. -/
  clean : s.clean = fixes.countP fun fix =>
    (e.apply t fix).1.succeeded && !(e.apply t fix).1.changed
  /-- Nothing is left to do if each target leads to a text that the rules leave as it is. -/
  isClean : s.isClean = true ↔ ∀ fix ∈ fixes, e.Settled t fix

namespace Engine

variable {e : Engine} {policy : FailurePolicy} {fixes : List Fix} {t u : Tree} {s : Summary}
  {fix : Fix}

theorem Runs.accountsFor (h : e.Runs policy fixes t s u) : s.AccountsFor fixes where
  total := by
    have results := s.succeeded_add_failed
    have length := h.length_results
    omega
  changed_le := s.changed_le_succeeded
  success := by
    constructor
    · intro success
      obtain ⟨targets, -, succeeded⟩ := h.made_of_isSuccess success
      exact ⟨targets, succeeded⟩
    · rintro ⟨targets, succeeded⟩
      have length := congrArg List.length targets
      rw [List.length_map, List.length_map] at length
      exact Summary.isSuccess_iff.mpr ⟨succeeded, h.attempted.skipped_eq_nil.mpr length⟩

/-- An engine that does not write finds out whether a fix is settled by trying it. -/
theorem settled_iff_apply (dry : e.mode = .dryRun) :
    e.Settled t fix ↔ (e.apply t fix).1.succeeded = true ∧ (e.apply t fix).1.changed = false := by
  constructor
  · rintro ⟨place, f, text, finds, fixed⟩
    have ready : e.Ready t fix place f text := ⟨finds, by rw [ending, dry]⟩
    exact ⟨succeeded_apply_iff.mpr ⟨_, _, _, ready⟩, (unchanged_of_ready ready fixed).1⟩
  · rintro ⟨succeeded, unchanged⟩
    exact settled_of_apply succeeded unchanged

theorem Runs.checksOff (dry : e.mode = .dryRun) (h : e.Runs .continueOnError fixes t s u) :
    s.ChecksOff e t fixes := by
  obtain ⟨rfl, -⟩ := h.all_tried
  rw [attempts_dryRun dry] at h ⊢
  have accounts := h.accountsFor
  constructor
  case total =>
    have clean := Summary.clean_add_changed ⟨fixes.map fun fix => (e.apply t fix).1, []⟩
    have total := accounts.total
    rw [List.length_nil] at total
    omega
  case changed_le => exact accounts.changed_le
  case skipped => rfl
  case clean => rw [Summary.clean_eq_countP, List.countP_map]; rfl
  case isClean =>
    rw [Summary.isClean_iff, List.forall_mem_map]
    exact forall₂_congr fun fix _ => (settled_iff_apply dry).symm

end Engine

/-! ### What is printed -/

namespace Reporter

variable (r : Reporter)

/-- Lines with a number each. -/
def numbers (r : Reporter) (lines : List (Style × Nat × String)) : String :=
  String.join (lines.map fun (style, n, what) =>
    "  " ++ r.palette.paint style (toString n) ++ " " ++ what ++ "\n")

/-- What `apply` ends with, for given numbers of fixes. -/
def appliedEnd (r : Reporter) (fixed changed failed skipped : Nat) : String :=
  "\n" ++ r.palette.paint .bold "Summary:" ++ " " ++ toString fixed ++ " fixed, " ++
    toString failed ++ " failed, " ++ toString skipped ++ " skipped\n" ++
    r.numbers [(.green, fixed, "fixed"), (.green, changed, "changed"), (.red, failed, "failed"),
      (.cyan, skipped, "skipped")]

/-- What `check` ends with. -/
def checkedEnd (r : Reporter) (clean pending failed : Nat) : String :=
  r.palette.paint .bold "Summary:" ++ "\n" ++
    r.numbers
      [(.green, clean, "clean"), (.yellow, pending, "would change"), (.red, failed, "failed")]

theorem out_appliedAll (s : Summary) (known : Transcript) :
    (r.appliedAll s known).out =
      known.out ++ r.appliedEnd s.succeeded s.changed s.failed s.skipped.length := by
  simp only [appliedAll, tally, Transcript.say, Transcript.print, appliedEnd, numbers,
    Summary.shown, List.map_cons, List.map_nil, String.join_cons, String.join_nil,
    String.append_assoc, String.append_empty]
  rfl

theorem out_checkedAll (s : Summary) (known : Transcript) :
    (r.checkedAll s known).out = known.out ++ r.checkedEnd s.clean s.changed s.failed := by
  simp only [checkedAll, tally, Transcript.say, Transcript.print, checkedEnd, numbers,
    List.map_cons, List.map_nil, String.join_cons, String.join_nil, String.append_assoc,
    String.append_empty]

end Reporter

/-! ### Whole commands -/

namespace Session

variable {s : Session} {t : Tree} {e : Engine} {plans : List LoadedPlan} {known told : Transcript}

/-- Whether plans are those that options ask for and that are for the version of the project. -/
def Selects (s : Session) (t : Tree) (o : PlanOptions) (plans : List LoadedPlan) : Prop :=
  ∃ root loaded, s.rootOf t o.root = .ok root ∧ plansOf t root o.plan = .ok loaded ∧
    plans = loaded.filter (·.Suits t root.path)

theorem selects_of_found {o : PlanOptions} {mode : WriteMode} {captureDiff : Bool}
    (h : s.found t o mode captureDiff = .ok (e, plans)) : s.Selects t o plans := by
  obtain ⟨root, loaded, hroot, hloaded, hkept, -⟩ := found_eq_ok.mp h
  obtain ⟨skips, gates, -⟩ := gate_gates t root.path loaded
  exact ⟨root, loaded, hroot, hloaded, (gates.eq_ok_iff.mp hkept).2⟩

/-- **Reported totals account for every fix.** For the fixes of the plans that pass the gate, `apply`
ends with numbers of fixes that were made, failed and were skipped which add up to all of them, and
with a number of changed files that is no greater than that of fixes made; it exits with 0 exactly if
each fix was tried and made. `check` ends with numbers of fixes that are clean, would change their
file and fail which add up to all of them; none is skipped, and it exits with 0 exactly if each fix
would be made and would change nothing. Both numbers are those of runs, in which they add up for any
engine, plans and policy. -/
theorem totals_account (s : Session) (t : Tree) (e : Engine) (plans : List LoadedPlan)
    (known told : Transcript) :
    let fixes := plans.flatMap (·.plan.fixes)
    (∀ (policy : FailurePolicy) (σ : Type) (watch : Observer σ) (seen : σ),
      (e.runAll policy watch plans t seen).1.AccountsFor fixes) ∧
    (∀ o : ApplyOptions, (s.prepareApply t o).run known = (.ok (e, plans), told) →
      let run := e.runAll o.policy (s.reporter.applying o.policy o.mode o.diff) plans t told
      s.Selects t o.toPlanOptions plans ∧ run.1.AccountsFor fixes ∧
        (s.apply t o known).printed.out = run.2.2.out ++ s.reporter.appliedEnd run.1.succeeded
          run.1.changed run.1.failed run.1.skipped.length ∧
        ((s.apply t o known).exitCode = 0 ↔ run.1.results.map (·.target) = fixes.map (·.target) ∧
          ∀ r ∈ run.1.results, r.succeeded = true)) ∧
    (∀ o : PlanOptions, (s.prepareCheck t o).run known = (.ok (e, plans), told) →
      let run := e.runAll .continueOnError (s.reporter.checking .continueOnError) plans t told
      s.Selects t o plans ∧ run.1.ChecksOff e t fixes ∧
        (s.check t o known).printed.out = run.2.2.out ++ s.reporter.checkedEnd run.1.clean
          run.1.changed run.1.failed ∧
        ((s.check t o known).exitCode = 0 ↔ ∀ fix ∈ fixes, e.Settled t fix)) := by
  intro fixes
  refine ⟨fun policy σ watch seen => (e.runAll_runs policy watch plans t seen).accountsFor, ?_, ?_⟩
  · intro o prepared run
    have hfound : s.found t o.toPlanOptions o.mode o.diff = .ok (e, plans) := by
      rw [← s.prepareApply_yields t o known, prepared]
    have accounts : run.1.AccountsFor fixes := (e.runAll_runs ..).accountsFor
    have happly : s.apply t o known = ⟨Outcome.exitCodeOf run.1.isSuccess, run.2.1,
        s.reporter.appliedAll run.1 run.2.2⟩ := by rw [apply, prepared]
    refine ⟨selects_of_found hfound, accounts, ?_, ?_⟩
    · rw [happly]
      exact s.reporter.out_appliedAll run.1 run.2.2
    · rw [happly, ← accounts.success]
      exact Outcome.exitCodeOf_eq_zero
  · intro o prepared run
    have hfound : s.found t o .dryRun false = .ok (e, plans) := by
      rw [← s.prepareCheck_yields t o known, prepared]
    have checks : run.1.ChecksOff e t fixes :=
      (e.runAll_runs ..).checksOff (mode_of_found_eq_ok hfound)
    have hcheck : s.check t o known = ⟨Outcome.exitCodeOf run.1.isClean, run.2.1,
        s.reporter.checkedAll run.1 run.2.2⟩ := by rw [check, prepared]
    refine ⟨selects_of_found hfound, checks, ?_, ?_⟩
    · rw [hcheck]
      exact s.reporter.out_checkedAll run.1 run.2.2
    · rw [hcheck, ← checks.isClean]
      exact Outcome.exitCodeOf_eq_zero

/-- A project with a plan of three fixes: there is nothing to change in the first file, there is no
second file, and the third one is to be changed. -/
def brokenProject : Tree where
  entries := [
    (["w"], .directory),
    (["w", "a"], .file { content := "x".toUTF8 }),
    (["w", "b"], .file { content := "x".toUTF8 }),
    (["w", "p"], .file {
      content := "fixes=[['a',[['','z','y']]],['c',[['','x','y']]],['b',[['','x','y']]]]".toUTF8 })]
  here := ["w"]

theorem totals_account_brokenProject :
    ((plainSession.apply brokenProject Engine.planOptions {}).exitCode = 1 ∧
      (plainSession.check brokenProject Engine.planOptions.toPlanOptions {}).exitCode = 1) ∧
    (∃ e plans told,
      (plainSession.prepareApply brokenProject Engine.planOptions).run {} = (.ok (e, plans), told) ∧
      let run := e.runAll .failFast (plainSession.reporter.applying .failFast .write false) plans
        brokenProject told
      run.1.AccountsFor (plans.flatMap (·.plan.fixes)) ∧
        (plainSession.apply brokenProject Engine.planOptions {}).printed.out =
          run.2.2.out ++ plainSession.reporter.appliedEnd run.1.succeeded run.1.changed
            run.1.failed run.1.skipped.length) ∧
    ∃ e plans told,
      (plainSession.prepareCheck brokenProject Engine.planOptions.toPlanOptions).run {} =
        (.ok (e, plans), told) ∧
      let run := e.runAll .continueOnError (plainSession.reporter.checking .continueOnError) plans
        brokenProject told
      run.1.ChecksOff e brokenProject (plans.flatMap (·.plan.fixes)) ∧
        ∃ fix ∈ plans.flatMap (·.plan.fixes), ¬ e.Settled brokenProject fix := by
  have failsApply : (plainSession.apply brokenProject Engine.planOptions {}).exitCode = 1 := by
    decide +kernel
  have failsCheck :
      (plainSession.check brokenProject Engine.planOptions.toPlanOptions {}).exitCode = 1 := by
    decide +kernel
  have found : (plainSession.found brokenProject Engine.planOptions.toPlanOptions .dryRun
      false).isOk := by decide +kernel
  cases hfound : plainSession.found brokenProject Engine.planOptions.toPlanOptions .dryRun false with
  | error f =>
    rw [hfound] at found
    cases found
  | ok out =>
    obtain ⟨e, plans⟩ := out
    obtain ⟨told, prepared⟩ :=
      (plainSession.prepareCheck_yields brokenProject Engine.planOptions.toPlanOptions).run {}
    obtain ⟨begun, begins⟩ :=
      (plainSession.prepareApply_yields brokenProject Engine.planOptions).run {}
    rw [hfound] at prepared
    rw [found_again hfound] at begins
    refine ⟨⟨failsApply, failsCheck⟩, ⟨_, plans, begun, begins, ?_⟩, e, plans, told, prepared, ?_⟩
    · obtain ⟨-, accounts, out, -⟩ :=
        (totals_account plainSession brokenProject _ plans {} begun).2.1 _ begins
      exact ⟨accounts, out⟩
    · obtain ⟨-, checks, -, exits⟩ :=
        (totals_account plainSession brokenProject e plans {} told).2.2 _ prepared
      refine ⟨checks, ?_⟩
      by_contra settled
      push Not at settled
      rw [exits.mpr settled] at failsCheck
      cases failsCheck

end Session

end Emend
