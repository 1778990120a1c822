import Emend.Command.Execute
import Emend.Proofs.Except

/-!
# What a command finds before its first fix

The steps before a run look at the tree and print. What has been printed has no part in what they
find, so a step can be taken as the one result that it always has (`Step.Yields`). `Session.found`
puts these results together: the engine and the plans for a run, or why there is none
(`Session.prepareApply_yields`, `Session.prepareCheck_yields`).

A command is then this result and what it does with it. Where there is nothing to run, it fails and
leaves the tree as it is; where there is, it makes the run and reports (`Session.apply_of_error`,
`Session.apply_of_ok` and their neighbours).
-/

namespace Emend

/-! ### The results of steps -/

namespace Step

/-- A step always has the same result, whatever has been printed before. -/
def Yields {α : Type} (x : Step α) (result : Except Failure α) : Prop :=
  ∀ known, (x.run known).1 = result

variable {α β : Type}

theorem Yields.run {α : Type} {x : Step α} {r : Except Failure α} (h : Yields x r)
    (known : Transcript) : ∃ told, x.run known = (r, told) :=
  ⟨(x.run known).2, Prod.ext (h known) rfl⟩

theorem Yields.pure (a : α) : Yields (pure a) (.ok a) := fun _ => rfl

theorem Yields.throw (f : Failure) : Yields (throw f : Step α) (.error f) := fun _ => rfl

theorem Yields.tell (f : Transcript → Transcript) : Yields (tell f) (.ok ()) := fun _ => rfl

theorem Yields.ofExcept {ε : Type} (wrap : ε → Failure) (x : Except ε α) :
    Yields (ofExcept wrap x) (x.mapError wrap) := by
  intro known
  cases x <;> rfl

theorem Yields.bind {x : Step α} {f : α → Step β} {r : Except Failure α}
    {g : α → Except Failure β} (hx : Yields x r) (hf : ∀ a, Yields (f a) (g a)) :
    Yields (x >>= f) (r >>= g) := by
  intro known
  show (ExceptT.bindCont f (x.run known).1 (x.run known).2).1 = _
  rw [hx known]
  cases r with
  | error e => rfl
  | ok a => exact hf a _

/-- What comes after a step that only prints. -/
theorem Yields.after {x : Step Unit} {y : Step β} {r : Except Failure β} (hx : Yields x (.ok ()))
    (hy : Yields y r) : Yields (do x; y) r :=
  Yields.bind hx fun _ => hy

end Step

namespace Session

open Step (Yields)

variable {s : Session} {t : Tree} {known : Transcript}

/-! ### What is found -/

/-- The root that a command is for. -/
def rootOf (s : Session) (t : Tree) (given : Option Path) : Except Failure Location :=
  match given with
  | some path => (t.canonicalize path).mapError (.noRoot path)
  | none =>
    match s.projectRoot with
    | none => .ok t.here
    | some path =>
      if t.exists path then (t.canonicalize path).mapError .unresolvedRoot else .ok t.here

/-- The plan files that a command is for. -/
def filesOf (t : Tree) (root : Location) (given : Option Path) : Except Failure (List Path) :=
  match given with
  | some file => .ok [file]
  | none =>
    match discoverPlans t root with
    | some files => .ok files
    | none => .error (.noPlans root.path)

/-- The plans that a command is for. -/
def plansOf (t : Tree) (root : Location) (given : Option Path) : Except Failure (List LoadedPlan) :=
  do
    let files ← filesOf t root given
    (LoadedPlan.ofFiles t files).mapError .plan

/-- The engine and the plans for a run: all plans are loaded and gated before there is an engine. -/
def found (s : Session) (t : Tree) (o : PlanOptions) (mode : WriteMode) (captureDiff : Bool) :
    Except Failure (Engine × List LoadedPlan) := do
  let root ← s.rootOf t o.root
  let loaded ← plansOf t root o.plan
  let plans ← (gate t root.path loaded).kept.mapError (.gate root.path)
  let engine ← (Engine.ofRoot t root.path mode captureDiff s.system).mapError .workspace
  return (engine, plans)

/-! ### That it is found -/

theorem say_yields (s : Session) (line : String) : Yields (s.say line) (.ok ()) := Yields.tell _

theorem root_yields (s : Session) (t : Tree) (given : Option Path) :
    Yields (s.root t given) (s.rootOf t given) := by
  unfold root rootOf
  cases given with
  | some path => exact Yields.ofExcept _ _
  | none =>
    cases s.projectRoot with
    | none => exact Yields.pure _
    | some path =>
      dsimp only
      split
      · exact Yields.ofExcept _ _
      · exact Yields.after (Yields.tell _) (Yields.pure _)

theorem files_yields (s : Session) (t : Tree) (root : Location) (given : Option Path) :
    Yields (s.files t root given) (filesOf t root given) := by
  unfold files filesOf
  cases given with
  | some file => exact Yields.pure _
  | none =>
    dsimp only
    cases discoverPlans t root with
    | some files => exact Yields.pure _
    | none => exact Yields.throw _

theorem plans_yields (s : Session) (t : Tree) (root : Location) (given : Option Path) :
    Yields (s.plans t root given) (plansOf t root given) := by
  refine Yields.bind (s.files_yields t root given) fun files => ?_
  split
  · exact Yields.after (Yields.tell _) (Yields.ofExcept _ _)
  · exact Yields.after (Yields.pure _) (Yields.ofExcept _ _)

theorem gated_yields (s : Session) (t : Tree) (root : Location) (plans : List LoadedPlan) :
    Yields (s.gated t root plans) ((gate t root.path plans).kept.mapError (.gate root.path)) :=
  Yields.after (Yields.tell _) (Yields.ofExcept _ _)

theorem prepareApply_yields (s : Session) (t : Tree) (o : ApplyOptions) :
    Yields (s.prepareApply t o) (s.found t o.toPlanOptions o.mode o.diff) := by
  refine Yields.bind (s.root_yields t o.root) fun root => ?_
  refine Yields.after (s.say_yields _) ?_
  refine Yields.bind (s.plans_yields t root o.plan) fun loaded => ?_
  refine Yields.bind (s.gated_yields t root loaded) fun plans => ?_
  refine Yields.bind (Yields.ofExcept _ _) fun engine => ?_
  split
  · exact Yields.after (s.say_yields _) (Yields.after (s.say_yields _) (Yields.pure _))
  · exact Yields.after (s.say_yields "") (Yields.pure _)

theorem prepareCheck_yields (s : Session) (t : Tree) (o : PlanOptions) :
    Yields (s.prepareCheck t o) (s.found t o .dryRun false) := by
  refine Yields.bind (s.root_yields t o.root) fun root => ?_
  refine Yields.bind (s.plans_yields t root o.plan) fun loaded => ?_
  refine Yields.bind (s.gated_yields t root loaded) fun plans => ?_
  refine Yields.bind (Yields.ofExcept _ _) fun engine => ?_
  exact Yields.after (s.say_yields _)
    (Yields.after (s.say_yields _) (Yields.after (s.say_yields _) (Yields.pure _)))

/-! ### What commands do with it -/

section Commands

variable {f : Failure} {engine : Engine} {plans : List LoadedPlan} (known : Transcript)

theorem apply_of_error {o : ApplyOptions} (h : s.found t o.toPlanOptions o.mode o.diff = .error f) :
    ∃ told, s.apply t o known = .ofFailure t told f := by
  obtain ⟨told, hrun⟩ := (s.prepareApply_yields t o).run known
  rw [apply, hrun, h]
  exact ⟨told, rfl⟩

theorem apply_of_ok {o : ApplyOptions}
    (h : s.found t o.toPlanOptions o.mode o.diff = .ok (engine, plans)) :
    ∃ told,
      let out := engine.runAll o.policy (s.reporter.applying o.policy o.mode o.diff) plans t told
      s.apply t o known = ⟨Outcome.exitCodeOf out.1.isSuccess, out.2.1,
        s.reporter.appliedAll out.1 out.2.2⟩ := by
  obtain ⟨told, hrun⟩ := (s.prepareApply_yields t o).run known
  rw [apply, hrun, h]
  exact ⟨told, rfl⟩

theorem check_of_error {o : PlanOptions} (h : s.found t o .dryRun false = .error f) :
    ∃ told, s.check t o known = .ofFailure t told f := by
  obtain ⟨told, hrun⟩ := (s.prepareCheck_yields t o).run known
  rw [check, hrun, h]
  exact ⟨told, rfl⟩

theorem check_of_ok {o : PlanOptions} (h : s.found t o .dryRun false = .ok (engine, plans)) :
    ∃ told,
      let out := engine.runAll .continueOnError (s.reporter.checking .continueOnError) plans t told
      s.check t o known = ⟨Outcome.exitCodeOf out.1.isClean, out.2.1,
        s.reporter.checkedAll out.1 out.2.2⟩ := by
  obtain ⟨told, hrun⟩ := (s.prepareCheck_yields t o).run known
  rw [check, hrun, h]
  exact ⟨told, rfl⟩

/-- A list of plans leaves the tree as it is, whether there are plans or not. -/
theorem tree_list (s : Session) (t : Tree) (o : PlanOptions) : (s.list t o known).tree = t := by
  rw [list]
  split <;> rfl

end Commands

end Session

end Emend
