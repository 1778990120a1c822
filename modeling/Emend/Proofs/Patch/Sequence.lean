import Emend.Proofs.Patch.Policy

/-!
# Several plans, one after the other

Running plans one after the other makes the same chain of fixes as running one plan with the fixes
of all of them (`Engine.runAll_runs`): a run that may go on is continued by the next one
(`Engine.Runs.append`), and one that was stopped leaves the fixes of all later plans untried
(`Engine.Runs.append_stopped`). A chain has only one outcome (`Engine.Runs.unique`), so what is known
of chains is known of several plans, wherever one of them ends and the next begins.
-/

namespace Emend

/-- The plan with the fixes of several plans, in order. -/
def Plan.joined (name : String) (plans : List LoadedPlan) : Plan where
  name
  fixes := plans.flatMap (·.plan.fixes)

@[simp] theorem Plan.targets_joined (name : String) (plans : List LoadedPlan) :
    (joined name plans).targets = plans.flatMap (·.plan.targets) :=
  List.map_flatMap ..

/-- Two runs are a success, one after the other, if both are. -/
theorem Summary.isSuccess_merge (s s' : Summary) :
    (s.merge s').isSuccess = (s.isSuccess && s'.isSuccess) := by
  rw [Bool.eq_iff_iff, Bool.and_eq_true, isSuccess_iff, isSuccess_iff, isSuccess_iff, merge,
    List.forall_mem_append, List.append_eq_nil_iff, and_and_and_comm]

namespace Engine

variable {σ : Type} {e : Engine} {policy : FailurePolicy} {fixes more : List Fix}
  {t u v : Tree} {s s' : Summary}

/-- A chain of fixes has one outcome. -/
theorem Runs.unique {u' : Tree} (h : e.Runs policy fixes t s u) (h' : e.Runs policy fixes t s' u') :
    s = s' ∧ u = u' := by
  induction h generalizing s' u' with
  | done =>
    cases h'
    exact ⟨rfl, rfl⟩
  | stopped failed stop =>
    cases h' with
    | stopped => exact ⟨rfl, rfl⟩
    | next on => exact absurd on (FailurePolicy.not_goesOn failed stop)
  | next on _ ih =>
    cases h' with
    | stopped failed stop => exact absurd on (FailurePolicy.not_goesOn failed stop)
    | next _ more =>
      obtain ⟨rfl, rfl⟩ := ih more
      exact ⟨rfl, rfl⟩

/-- A result before others spoils a success if it is a failure, and not otherwise. -/
theorem isSuccess_cons (r : FixResult) (s : Summary) :
    ({ s with results := r :: s.results } : Summary).isSuccess = (r.succeeded && s.isSuccess) := by
  rw [Bool.eq_iff_iff, Bool.and_eq_true, Summary.isSuccess_iff, Summary.isSuccess_iff,
    List.forall_mem_cons, and_assoc]

/-- A chain that was not stopped is continued by another. -/
theorem Runs.append (h : e.Runs policy fixes t s u)
    (on : s.isSuccess = true ∨ policy = .continueOnError) (h' : e.Runs policy more u s' v) :
    e.Runs policy (fixes ++ more) t (s.merge s') v := by
  induction h with
  | done => exact h'
  | @stopped fix rest t failed stop =>
    -- The failure is among the results, so there is no reason to go on.
    rcases on with succeeded | go
    · have all := (Summary.isSuccess_iff.mp succeeded).1
      rw [all _ (List.mem_singleton_self _)] at failed
      cases failed
    · cases stop.symm.trans go
  | @next fix rest t u s going _ ih =>
    refine .next going (ih ?_ h')
    rw [isSuccess_cons, Bool.and_eq_true] at on
    exact on.imp_left And.right

/-- A chain that was stopped is not continued, and all that would have come is skipped. -/
theorem Runs.append_stopped (h : e.Runs .failFast fixes t s u) (failed : s.isSuccess = false)
    (more : List Fix) :
    e.Runs .failFast (fixes ++ more) t
      { s with skipped := s.skipped ++ more.map (·.target) } u := by
  induction h with
  | done => cases failed
  | @stopped fix rest t hfix _ =>
    rw [← List.map_append]
    exact .stopped hfix rfl
  | @next fix rest t u s going _ ih =>
    have succeeded := going.resolve_right nofun
    rw [isSuccess_cons, succeeded, Bool.true_and] at failed
    exact .next going (ih failed)

/-- Plans that are run one after the other make the chain of all their fixes. -/
theorem runAll_runs (e : Engine) (policy : FailurePolicy) (watch : Observer σ)
    (plans : List LoadedPlan) (t : Tree) (known : σ) :
    e.Runs policy (plans.flatMap (·.plan.fixes)) t (e.runAll policy watch plans t known).1
      (e.runAll policy watch plans t known).2.1 := by
  induction plans generalizing t known with
  | nil => exact .done
  | cons p rest ih =>
    have first := e.runs policy watch p.plan.fixes t (watch.starts p known)
    rw [List.flatMap_cons, runAll_cons]
    dsimp only [run]
    -- The fixes of the plan are either stopped, and then all is, or continued by the other plans.
    split
    · next h =>
      obtain ⟨failed, rfl⟩ := FailurePolicy.stops_iff.mp h
      have stopped := first.append_stopped failed (rest.flatMap (·.plan.fixes))
      rw [List.map_flatMap] at stopped
      exact stopped
    · next h => exact first.append (FailurePolicy.goesOn_iff.mp h) (ih _ _)

/-! ### Runs that nobody watches -/

/-- The summary of a run of a plan that nobody watches, and the tree after it. -/
def outcome (e : Engine) (policy : FailurePolicy) (p : Plan) (t : Tree) : Summary × Tree :=
  let out := e.run policy (.ofResults fun _ _ => ()) p t ()
  (out.1, out.2.1)

theorem outcome_runs (e : Engine) (policy : FailurePolicy) (p : Plan) (t : Tree) :
    e.Runs policy p.fixes t (e.outcome policy p t).1 (e.outcome policy p t).2 :=
  e.runs policy (.ofResults fun _ _ => ()) p.fixes t ()

/-- What comes of a chain of the fixes of a plan is what comes of the plan. -/
theorem Runs.outcome_eq {p : Plan} (h : e.Runs policy p.fixes t s u) :
    e.outcome policy p t = (s, u) := by
  obtain ⟨hs, hu⟩ := (e.outcome_runs policy p t).unique h
  exact Prod.ext hs hu

/-- After a plan in which all goes well, the others are run on the tree that it leaves. -/
theorem outcome_joined_cons {name : String} {p : LoadedPlan} (rest : List LoadedPlan)
    (succeeded : (e.outcome policy p.plan t).1.isSuccess = true) :
    let more := e.outcome policy (.joined name rest) (e.outcome policy p.plan t).2
    e.outcome policy (.joined name (p :: rest)) t =
      ((e.outcome policy p.plan t).1.merge more.1, more.2) :=
  ((e.outcome_runs policy p.plan t).append (.inl succeeded)
    (e.outcome_runs policy (.joined name rest) _)).outcome_eq (p := .joined name (p :: rest))

/-- After a plan that is stopped, the others are not run. -/
theorem outcome_joined_cons_stopped {name : String} {p : LoadedPlan} (rest : List LoadedPlan)
    (failed : (e.outcome .failFast p.plan t).1.isSuccess = false) :
    let stop := e.outcome .failFast p.plan t
    e.outcome .failFast (.joined name (p :: rest)) t =
      ({ stop.1 with skipped := stop.1.skipped ++ rest.flatMap (·.plan.targets) }, stop.2) := by
  have whole := ((e.outcome_runs .failFast p.plan t).append_stopped failed
    (rest.flatMap (·.plan.fixes))).outcome_eq (p := .joined name (p :: rest))
  rw [List.map_flatMap] at whole
  exact whole

end Engine

end Emend
