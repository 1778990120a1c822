import Emend.Patch.Run
import Emend.Proofs.Patch.Step

/-!
# What holds along runs

A run is a chain of fixes, and its proofs are inductions over that chain. Both forms of the
induction are set up here once:

- `Engine.Runs` relates the fixes and the tree of a run to what comes of them, one rule for each way
  in which the chain goes on or ends (`Engine.runs`). The observer has no part in it;
- `Engine.runFixes_invariant` and `Engine.runAll_invariant` say that whatever each fix preserves, in
  the tree and in what the observer knows, holds after runs.
-/

namespace Emend

namespace FixResult

@[simp] theorem succeeded_error (target : Path) (tried : List Nat) (fault : PatchFault) :
    (⟨target, tried, .error fault⟩ : FixResult).succeeded = false := rfl

end FixResult

namespace FailurePolicy

variable {policy : FailurePolicy} {good : Bool}

theorem stops_iff : (!good && policy == failFast) = true ↔ good = false ∧ policy = failFast := by
  rw [Bool.and_eq_true, Bool.not_eq_true', beq_iff_eq]

/-- A run that does not stop has no reason to stop. -/
theorem goesOn_iff :
    ¬ (!good && policy == failFast) = true ↔ good = true ∨ policy = continueOnError := by
  cases good <;> cases policy <;> simp

/-- A run does not both stop and go on. -/
theorem not_goesOn (failed : good = false) (stop : policy = failFast) :
    ¬ (good = true ∨ policy = continueOnError) :=
  fun on => goesOn_iff.mpr on (stops_iff.mpr ⟨failed, stop⟩)

end FailurePolicy

namespace Engine

variable {σ : Type}

@[simp] theorem succeeded_success (e : Engine) (fix : Fix) (text : String) :
    (e.success fix text).succeeded = true := rfl

/-! ### The chain of fixes -/

/-- What comes of making fixes in order. -/
inductive Runs (e : Engine) (policy : FailurePolicy) : List Fix → Tree → Summary → Tree → Prop
  | done {t : Tree} : Runs e policy [] t {} t
  /-- A fix has failed, and the rest is skipped. -/
  | stopped {fix : Fix} {rest : List Fix} {t : Tree}
      (failed : (e.apply t fix).1.succeeded = false) (stop : policy = .failFast) :
      Runs e policy (fix :: rest) t ⟨[(e.apply t fix).1], rest.map (·.target)⟩ (e.apply t fix).2
  | next {fix : Fix} {rest : List Fix} {t u : Tree} {s : Summary}
      (on : (e.apply t fix).1.succeeded = true ∨ policy = .continueOnError)
      (more : Runs e policy rest (e.apply t fix).2 s u) :
      Runs e policy (fix :: rest) t { s with results := (e.apply t fix).1 :: s.results } u

theorem runFixes_cons (e : Engine) (policy : FailurePolicy) (watch : Observer σ) (fix : Fix)
    (rest : List Fix) (t : Tree) (known : σ) :
    e.runFixes policy watch (fix :: rest) t known =
      let out := e.apply t fix
      let known := watch.tried out.2 fix out.1 known
      let more := e.runFixes policy watch rest out.2 known
      if !out.1.succeeded && policy == .failFast then
        (⟨[out.1], rest.map (·.target)⟩, out.2, known)
      else ({ more.1 with results := out.1 :: more.1.results }, more.2.1, more.2.2) := by
  rw [runFixes]

theorem runAll_cons (e : Engine) (policy : FailurePolicy) (watch : Observer σ) (p : LoadedPlan)
    (rest : List LoadedPlan) (t : Tree) (known : σ) :
    e.runAll policy watch (p :: rest) t known =
      let out := e.run policy watch p.plan t (watch.starts p known)
      let known := watch.ends p out.1 out.2.2
      let more := e.runAll policy watch rest out.2.1 known
      if !out.1.isSuccess && policy == .failFast then
        ({ out.1 with skipped := out.1.skipped ++ rest.flatMap (·.plan.targets) }, out.2.1, known)
      else (out.1.merge more.1, more.2.1, more.2.2) := by
  rw [runAll]

/-- A run makes the fixes in order. -/
theorem runs (e : Engine) (policy : FailurePolicy) (watch : Observer σ) (fixes : List Fix)
    (t : Tree) (known : σ) :
    e.Runs policy fixes t (e.runFixes policy watch fixes t known).1
      (e.runFixes policy watch fixes t known).2.1 := by
  induction fixes generalizing t known with
  | nil => exact .done
  | cons fix rest ih =>
    rw [runFixes_cons]
    by_cases h : (!(e.apply t fix).1.succeeded && policy == .failFast) = true
    · simp only [if_pos h]
      obtain ⟨failed, stop⟩ := FailurePolicy.stops_iff.mp h
      exact .stopped failed stop
    · simp only [if_neg h]
      exact .next (FailurePolicy.goesOn_iff.mp h) (ih _ _)

/-! ### Invariants -/

/-- What each fix preserves holds after a chain of fixes. -/
theorem runFixes_invariant {e : Engine} {watch : Observer σ} (Holds : Tree → σ → Prop)
    (step : ∀ t fix known, Holds t known →
      Holds (e.apply t fix).2 (watch.tried (e.apply t fix).2 fix (e.apply t fix).1 known))
    (policy : FailurePolicy) (fixes : List Fix) {t : Tree} {known : σ} (h : Holds t known) :
    Holds (e.runFixes policy watch fixes t known).2.1
      (e.runFixes policy watch fixes t known).2.2 := by
  induction fixes generalizing t known with
  | nil => exact h
  | cons fix rest ih =>
    rw [runFixes_cons]
    dsimp only
    split
    · exact step t fix known h
    · exact ih (step t fix known h)

/-- What each fix and both ends of each plan preserve holds after runs. -/
theorem runAll_invariant {e : Engine} {watch : Observer σ} (Holds : Tree → σ → Prop)
    (step : ∀ t fix known, Holds t known →
      Holds (e.apply t fix).2 (watch.tried (e.apply t fix).2 fix (e.apply t fix).1 known))
    (starts : ∀ t p known, Holds t known → Holds t (watch.starts p known))
    (ends : ∀ t p s known, Holds t known → Holds t (watch.ends p s known))
    (policy : FailurePolicy) (plans : List LoadedPlan) {t : Tree} {known : σ} (h : Holds t known) :
    Holds (e.runAll policy watch plans t known).2.1 (e.runAll policy watch plans t known).2.2 := by
  induction plans generalizing t known with
  | nil => exact h
  | cons p rest ih =>
    have hp : Holds (e.run policy watch p.plan t (watch.starts p known)).2.1
        (e.run policy watch p.plan t (watch.starts p known)).2.2 :=
      runFixes_invariant Holds step policy p.plan.fixes (starts t p known h)
    rw [runAll_cons]
    dsimp only
    split
    · exact ends _ p _ _ hp
    · exact ih (ends _ p _ _ hp)

end Engine

end Emend
