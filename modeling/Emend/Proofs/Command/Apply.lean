import Emend.Proofs.Command.Prepare
import Emend.Proofs.Patch.Rewriting
import Emend.Proofs.Patch.Sequence

/-!
# Several plans as one

`apply` runs its plans one after the other and adds up what comes of them. It might as well join the
fixes of all of them in a single plan and run that (`Engine.runAll_joined`): where one plan ends and
the next begins makes no difference to the results, to what is skipped, or to the tree. In
particular nothing is lost or told twice where a run is stopped, be it at the end of a plan, in the
middle of one, or next to plans without fixes (`Engine.StoppedIn`).
-/

namespace Emend

namespace Engine

variable {e : Engine} {policy : FailurePolicy} {t : Tree} {name : String}

/-! ### Where a run is stopped -/

/-- A run of several plans that is stopped in one of them. -/
structure StoppedIn (e : Engine) (name : String) (t : Tree) (before : List LoadedPlan)
    (p : LoadedPlan) (rest : List LoadedPlan) (first stop out : Summary × Tree) : Prop where
  /-- What comes of the plans before it. -/
  before : e.outcome .failFast (.joined name before) t = first
  /-- What comes of the plan itself, on the tree that those before it leave. -/
  here : e.outcome .failFast p.plan first.2 = stop
  succeeded : first.1.isSuccess = true
  failed : stop.1.isSuccess = false
  results : out.1.results = first.1.results ++ stop.1.results
  /-- The fixes of the plan that are left, and then those of all plans after it. -/
  skipped : out.1.skipped =
    (p.plan.fixes.drop stop.1.results.length).map (·.target) ++ rest.flatMap (·.plan.targets)
  tree : out.2 = stop.2

namespace StoppedIn

variable {before rest : List LoadedPlan} {p q : LoadedPlan} {first stop out : Summary × Tree}

/-- A run can be stopped in its first plan. -/
theorem head (rest : List LoadedPlan)
    (failed : (e.outcome .failFast p.plan t).1.isSuccess = false) :
    e.StoppedIn name t [] p rest ({}, t) (e.outcome .failFast p.plan t)
      (e.outcome .failFast (.joined name (p :: rest)) t) := by
  rw [outcome_joined_cons_stopped rest failed]
  refine ⟨rfl, rfl, rfl, failed, rfl, ?_, rfl⟩
  rw [(e.outcome_runs .failFast p.plan t).attempted.skipped]

/-- After a plan in which all goes well, a run is stopped where the run of the others is. -/
theorem cons (succeeded : (e.outcome .failFast q.plan t).1.isSuccess = true)
    (h : e.StoppedIn name (e.outcome .failFast q.plan t).2 before p rest first stop out) :
    e.StoppedIn name t (q :: before) p rest
      ((e.outcome .failFast q.plan t).1.merge first.1, first.2) stop
      ((e.outcome .failFast q.plan t).1.merge out.1, out.2) where
  before := by rw [outcome_joined_cons before succeeded, h.before]
  here := h.here
  succeeded := by rw [Summary.isSuccess_merge, succeeded, h.succeeded, Bool.and_self]
  failed := h.failed
  results := by rw [Summary.merge, Summary.merge, h.results, List.append_assoc]
  skipped := by
    rw [Summary.merge, (Summary.isSuccess_iff.mp succeeded).2, List.nil_append, h.skipped]
  tree := h.tree

end StoppedIn

/-- A run that stops at a failure and is no success is stopped in one of its plans. -/
theorem exists_stoppedIn (e : Engine) (name : String) (plans : List LoadedPlan) (t : Tree)
    (failed : (e.outcome .failFast (.joined name plans) t).1.isSuccess = false) :
    ∃ before p rest first stop, plans = before ++ p :: rest ∧
      e.StoppedIn name t before p rest first stop
        (e.outcome .failFast (.joined name plans) t) := by
  induction plans generalizing t with
  | nil => cases failed
  | cons q plans ih =>
    cases hq : (e.outcome .failFast q.plan t).1.isSuccess with
    | false => exact ⟨[], q, plans, _, _, rfl, .head plans hq⟩
    | true =>
      rw [outcome_joined_cons plans hq] at failed ⊢
      rw [Summary.isSuccess_merge, hq, Bool.true_and] at failed
      obtain ⟨before, p, rest, first, stop, rfl, h⟩ := ih _ failed
      exact ⟨q :: before, p, rest, _, stop, rfl, h.cons hq⟩

/-! ### Plans joined -/

/-- **Several plans run as one.** The total of plans that are run one after the other, and the tree
after them, are those of one run of a plan with the fixes of all of them; so each target of the
plans is told of once, in order, as that of a result or as skipped. If the run stops at a failure,
what is skipped is the rest of the plan in which it stops and all of the plans after that. `apply`
reports this total, leaves this tree, and fails unless it is a success. -/
theorem runAll_joined (e : Engine) (policy : FailurePolicy) (name : String)
    (plans : List LoadedPlan) (t : Tree) :
    let one := e.outcome policy (.joined name plans) t
    (∀ (σ : Type) (watch : Observer σ) (known : σ),
      (e.runAll policy watch plans t known).1 = one.1 ∧
        (e.runAll policy watch plans t known).2.1 = one.2) ∧
    one.1.results.map (·.target) ++ one.1.skipped = plans.flatMap (·.plan.targets) ∧
    (policy = .failFast → one.1.isSuccess = false →
      ∃ before p rest first stop, plans = before ++ p :: rest ∧
        e.StoppedIn name t before p rest first stop one) ∧
    ∀ (s : Session) (o : ApplyOptions) (known told : Transcript), o.policy = policy →
      (s.prepareApply t o).run known = (.ok (e, plans), told) →
      ∃ printed, s.apply t o known =
        ⟨Outcome.exitCodeOf one.1.isSuccess, one.2, s.reporter.appliedAll one.1 printed⟩ := by
  intro one
  have total (σ : Type) (watch : Observer σ) (known : σ) :
      (e.runAll policy watch plans t known).1 = one.1 ∧
        (e.runAll policy watch plans t known).2.1 = one.2 :=
    (e.runAll_runs policy watch plans t known).unique (e.outcome_runs policy (.joined name plans) t)
  refine ⟨total, ?_, ?_, ?_⟩
  · rw [← Plan.targets_joined name]
    exact (e.outcome_runs policy (.joined name plans) t).attempted.targets
  · rintro rfl failed
    exact e.exists_stoppedIn name plans t failed
  · rintro s o known told rfl prepared
    have hfound : s.found t o.toPlanOptions o.mode o.diff = .ok (e, plans) := by
      rw [← s.prepareApply_yields t o known, prepared]
    obtain ⟨begun, happly⟩ := s.apply_of_ok known hfound
    obtain ⟨hsummary, htree⟩ := total _ (s.reporter.applying o.policy o.mode o.diff) begun
    rw [← hsummary, ← htree]
    exact ⟨_, happly⟩

/-- Plans for the sample tree. The third one is stopped at its first fix, next to one that has
none. -/
def samplePlans : List LoadedPlan := [
  ⟨"1", { name := "1", fixes := [sampleFix "a" "a" "b"] }⟩,
  ⟨"2", { name := "2", fixes := [] }⟩,
  ⟨"3", { name := "3", fixes := [sampleFix "b" "a" "b", sampleFix "../w/l" "b" "cc"] }⟩,
  ⟨"4", { name := "4", fixes := [sampleFix "a" "b" "c"] }⟩]

/-- What comes of them if they are joined. -/
def sampleOutcome : Summary × Tree :=
  Engine.outcome { root := "/w" } .failFast (.joined "all" samplePlans) sampleTree

/-- A project with a plan. -/
def planTree : Tree where
  entries := [
    (["w"], .directory),
    (["w", "a"], .file { content := "x".toUTF8 }),
    (["w", "p"], .file { content := "fixes=[['a',[['','x','y']]]]".toUTF8 })]
  here := ["w"]

/-- The only plan is asked for. -/
def planOptions : ApplyOptions where
  plan := some "/w/p"

theorem runAll_joined_samplePlans :
    (sampleOutcome.1.isSuccess = false ∧
      sampleOutcome.1.results.map (·.target) = ["a", "b"] ∧
      sampleOutcome.1.skipped = ["../w/l", "a"] ∧
      ∃ before p rest first stop, samplePlans = before ++ p :: rest ∧
        Engine.StoppedIn { root := "/w" } "all" sampleTree before p rest first stop
          sampleOutcome) ∧
      ∃ e plans told,
        (Session.prepareApply ⟨none, default, .superuser⟩ planTree planOptions).run {} =
          (.ok (e, plans), told) ∧
        let one := e.outcome .failFast (.joined "all" plans) planTree
        ∃ printed, Session.apply ⟨none, default, .superuser⟩ planTree planOptions {} =
          ⟨Outcome.exitCodeOf one.1.isSuccess, one.2,
            (Session.reporter ⟨none, default, .superuser⟩).appliedAll one.1 printed⟩ := by
  have failed : sampleOutcome.1.isSuccess = false := by decide +kernel
  refine ⟨⟨failed, by decide +kernel, by decide +kernel, ?_⟩, ?_⟩
  · exact (runAll_joined { root := "/w" } .failFast "all" samplePlans sampleTree).2.2.1 rfl failed
  · have begins : ((Session.prepareApply ⟨none, default, .superuser⟩ planTree planOptions).run
        {}).1.isOk := by
      decide +kernel
    rcases hrun : (Session.prepareApply ⟨none, default, .superuser⟩ planTree planOptions).run {} with
      ⟨found, told⟩
    rw [hrun] at begins
    cases found with
    | error f => cases begins
    | ok found =>
      obtain ⟨e, plans⟩ := found
      exact ⟨e, plans, told, rfl,
        (runAll_joined e .failFast "all" plans planTree).2.2.2 _ _ _ told rfl hrun⟩

end Engine

end Emend
