import Emend.Proofs.Command.Gate
import Emend.Proofs.Command.Prepare
import Emend.Proofs.Patch.Run

/-!
# When a command leaves the tree as it is

A command loads and gates all plans before it makes its first fix. So a single plan file that is of
no use (`Unusable`), wherever it stands among others, keeps the command from touching the tree
(`Session.found_of_unusable`); and a run that does not write never touches it
(`Engine.tree_runAll_dryRun`). `Session.execute_spares` says both of whole commands.
-/

namespace Emend

/-! ### Plan files that are of no use -/

/-- Whether a plan file is of no use for the project at a root. -/
inductive Unusable (t : Tree) (root : Location) (file : Path) : Prop
  /-- The file cannot be read, or its text writes no definition, or one that is not sound, or one with
  a rule that cannot be built. -/
  | unloadable {fault : PlanFault} (fails : Plan.ofFile t file = .error fault)
  /-- The plan has a range, and the version of the project is not known. -/
  | unknownVersion {p : Plan} {range : String} {fault : ManifestFault}
      (loads : Plan.ofFile t file = .ok p) (ranged : p.versionRange = some range)
      (fails : projectVersion t root.path = .error fault)
  /-- It cannot be said whether the version is in the range. -/
  | unjudged {p : Plan} {range version : String} {fault : VersionFault}
      (loads : Plan.ofFile t file = .ok p) (ranged : p.versionRange = some range)
      (reads : projectVersion t root.path = .ok version)
      (fails : p.appliesTo version = .error fault)

/-- Whether a plan file is one of those that options ask for: the one that is given, or one that is
found if none is given. -/
def PlanOptions.Names (o : PlanOptions) (t : Tree) (root : Location) (file : Path) : Prop :=
  o.plan = some file ∨
    o.plan = none ∧ ∃ files, discoverPlans t root = some files ∧ file ∈ files

/-- If plans are loaded, each file has its plan among them. -/
theorem LoadedPlan.exists_of_ofFiles_eq_ok {t : Tree} {files : List Path}
    {loaded : List LoadedPlan} (h : LoadedPlan.ofFiles t files = .ok loaded) {file : Path}
    (hfile : file ∈ files) : ∃ p ∈ loaded, Plan.ofFile t file = .ok p.plan := by
  obtain ⟨p, hp, hload⟩ := (Except.mapM_eq_ok.mp h).exists_of_mem_left hfile
  obtain ⟨plan, hplan, hpure⟩ := Except.bind_eq_ok.mp hload
  obtain rfl := Except.pure_eq_ok.mp hpure
  exact ⟨_, hp, hplan⟩

/-- A file that is of use is loaded into a plan that can be judged. -/
theorem not_unusable {t : Tree} {root : Location} {file : Path} {p : LoadedPlan} {suits : Bool}
    (loads : Plan.ofFile t file = .ok p.plan) (judged : p.suits t root.path = .ok suits) :
    ¬ Unusable t root file := by
  rintro (⟨fails⟩ | ⟨loads', ranged, fails⟩ | ⟨loads', ranged, reads, fails⟩)
  · cases loads.symm.trans fails
  · obtain rfl := Except.ok.inj (loads.symm.trans loads')
    simp [LoadedPlan.suits, ranged, fails] at judged
  · obtain rfl := Except.ok.inj (loads.symm.trans loads')
    rw [LoadedPlan.suits_of_range ranged reads, fails] at judged
    cases judged

namespace Engine

/-! ### Runs that do not write -/

variable {σ : Type} {e : Engine}

theorem tree_apply_dryRun (dry : e.mode = .dryRun) (t : Tree) (fix : Fix) :
    (e.apply t fix).2 = t := by
  refine (e.tree_apply t fix).resolve_right ?_
  rintro ⟨_, _, _, write, -⟩
  cases dry.symm.trans write

/-- Runs that do not write leave the tree as it is. -/
theorem tree_runAll_dryRun (dry : e.mode = .dryRun) (policy : FailurePolicy) (watch : Observer σ)
    (plans : List LoadedPlan) (t : Tree) (known : σ) :
    (e.runAll policy watch plans t known).2.1 = t := by
  refine runAll_invariant (fun u _ => u = t) ?_ ?_ ?_ policy plans rfl
  · intro u fix _ hu
    rw [tree_apply_dryRun dry, hu]
  · exact fun _ _ _ hu => hu
  · exact fun _ _ _ _ hu => hu

/-- The mode of an engine is the one that was asked for. -/
theorem mode_ofRoot {t : Tree} {root : Path} {mode : WriteMode} {captureDiff : Bool}
    {system : System} (h : ofRoot t root mode captureDiff system = .ok e) : e.mode = mode := by
  obtain ⟨w, -, rfl⟩ := Except.map_eq_ok.mp h
  rfl

/-- So is the system that it has to do with. -/
theorem system_ofRoot {t : Tree} {root : Path} {mode : WriteMode} {captureDiff : Bool}
    {system : System} (h : ofRoot t root mode captureDiff system = .ok e) : e.system = system := by
  obtain ⟨w, -, rfl⟩ := Except.map_eq_ok.mp h
  rfl

end Engine

namespace Session

variable {s : Session} {t : Tree} {o : PlanOptions} {mode : WriteMode} {captureDiff : Bool}

/-! ### What must be there for a run -/

/-- What is found is found step by step. -/
theorem found_eq_ok {engine : Engine} {plans : List LoadedPlan} :
    s.found t o mode captureDiff = .ok (engine, plans) ↔
      ∃ root loaded, s.rootOf t o.root = .ok root ∧ plansOf t root o.plan = .ok loaded ∧
        (gate t root.path loaded).kept = .ok plans ∧
        Engine.ofRoot t root.path mode captureDiff s.system = .ok engine := by
  simp only [found, Except.bind_eq_ok, Except.mapError_eq_ok, Except.pure_eq_ok, Prod.mk.injEq]
  constructor
  · rintro ⟨root, hroot, loaded, hloaded, plans, hplans, engine, hengine, rfl, rfl⟩
    exact ⟨root, loaded, hroot, hloaded, hplans, hengine⟩
  · rintro ⟨root, loaded, hroot, hloaded, hplans, hengine⟩
    exact ⟨root, hroot, loaded, hloaded, plans, hplans, engine, hengine, rfl, rfl⟩

/-- The engine that is found writes only if it is meant to. -/
theorem mode_of_found_eq_ok {engine : Engine} {plans : List LoadedPlan}
    (h : s.found t o mode captureDiff = .ok (engine, plans)) : engine.mode = mode := by
  obtain ⟨root, loaded, -, -, -, hengine⟩ := found_eq_ok.mp h
  exact Engine.mode_ofRoot hengine

theorem system_of_found_eq_ok {engine : Engine} {plans : List LoadedPlan}
    (h : s.found t o mode captureDiff = .ok (engine, plans)) : engine.system = s.system := by
  obtain ⟨root, loaded, -, -, -, hengine⟩ := found_eq_ok.mp h
  exact Engine.system_ofRoot hengine

/-- A file that options name is one of those that are loaded. -/
theorem mem_of_filesOf_eq_ok {root : Location} {files : List Path} {file : Path}
    (h : filesOf t root o.plan = .ok files) (hfile : o.Names t root file) : file ∈ files := by
  rcases hfile with given | ⟨none, discovered, hdiscovered, hmem⟩
  · rw [given] at h
    obtain rfl := Except.ok.inj h
    exact List.mem_singleton_self file
  · simp only [none, filesOf, hdiscovered] at h
    obtain rfl := Except.ok.inj h
    exact hmem

/-- One file that is of no use, and there is nothing to run. -/
theorem found_of_unusable {root : Location} (hroot : s.rootOf t o.root = .ok root) {file : Path}
    (hfile : o.Names t root file) (h : Unusable t root file) :
    ∃ f, s.found t o mode captureDiff = .error f := by
  cases hfound : s.found t o mode captureDiff with
  | error f => exact ⟨f, rfl⟩
  | ok out =>
    exfalso
    obtain ⟨engine, plans⟩ := out
    obtain ⟨root', loaded, hroot', hloaded, hplans, -⟩ := found_eq_ok.mp hfound
    obtain rfl : root = root' := Except.ok.inj (hroot.symm.trans hroot')
    obtain ⟨files, hfiles, hload⟩ := Except.bind_eq_ok.mp hloaded
    rw [Except.mapError_eq_ok] at hload
    -- The file has been loaded and its plan has been judged.
    obtain ⟨p, hp, loads⟩ :=
      LoadedPlan.exists_of_ofFiles_eq_ok hload (mem_of_filesOf_eq_ok hfiles hfile)
    obtain ⟨suits, judged⟩ := suits_of_gate_eq_ok hplans p hp
    exact not_unusable loads judged h

/-! ### Whole commands -/

theorem tree_check (s : Session) (t : Tree) (o : PlanOptions) (known : Transcript) :
    (s.check t o known).tree = t := by
  cases hfound : s.found t o .dryRun false with
  | error f =>
    obtain ⟨told, h⟩ := s.check_of_error known hfound
    rw [h]
    rfl
  | ok out =>
    obtain ⟨engine, plans⟩ := out
    obtain ⟨told, h⟩ := s.check_of_ok known hfound
    rw [h]
    exact Engine.tree_runAll_dryRun (mode_of_found_eq_ok hfound) ..

theorem tree_apply_dryRun (s : Session) (t : Tree) {o : ApplyOptions} (dry : o.dryRun = true)
    (known : Transcript) : (s.apply t o known).tree = t := by
  cases hfound : s.found t o.toPlanOptions o.mode o.diff with
  | error f =>
    obtain ⟨told, h⟩ := s.apply_of_error known hfound
    rw [h]
    rfl
  | ok out =>
    obtain ⟨engine, plans⟩ := out
    obtain ⟨told, h⟩ := s.apply_of_ok known hfound
    have hmode : engine.mode = .dryRun := by
      rw [mode_of_found_eq_ok hfound, ApplyOptions.mode, if_pos dry]
    rw [h]
    exact Engine.tree_runAll_dryRun hmode ..

/-- **All or nothing.** If a plan file is of no use, `apply` fails and leaves the tree as it is, no
matter how many other plans there are and what they would have changed. `check`, `list` and `apply`
without writing leave the tree as it is in any case. -/
theorem execute_spares (s : Session) (t : Tree) (known : Transcript) :
    (∀ o : ApplyOptions,
      (∀ root told, (s.root t o.root).run known = (.ok root, told) →
        ∃ file, o.toPlanOptions.Names t root file ∧ Unusable t root file) →
      (s.execute t known (.apply o)).exitCode ≠ 0 ∧ (s.execute t known (.apply o)).tree = t) ∧
    (∀ o : ApplyOptions, o.dryRun = true → (s.execute t known (.apply o)).tree = t) ∧
    (∀ o : PlanOptions, (s.execute t known (.check o)).tree = t) ∧
    ∀ o : PlanOptions, (s.execute t known (.list o)).tree = t := by
  refine ⟨fun o faulty => ?_, fun o dry => s.tree_apply_dryRun t dry known,
    fun o => s.tree_check t o known, fun o => s.tree_list known t o⟩
  have fails : ∃ f, s.found t o.toPlanOptions o.mode o.diff = .error f := by
    cases hroot : s.rootOf t o.root with
    | error f => exact ⟨f, by rw [found, hroot, Except.error_bind]⟩
    | ok root =>
      obtain ⟨told, hrun⟩ := (s.root_yields t o.root).run known
      rw [hroot] at hrun
      obtain ⟨file, hfile, unusable⟩ := faulty root told hrun
      exact found_of_unusable hroot hfile unusable
  obtain ⟨f, hfound⟩ := fails
  obtain ⟨told, h⟩ := s.apply_of_error known hfound
  rw [execute, h]
  exact ⟨Nat.one_ne_zero, rfl⟩

/-- A project with a plan that would change a file, and a second plan that is cut off. -/
def spoiltTree : Tree where
  entries := [
    (["w"], .directory),
    (["w", "a"], .file { content := "x".toUTF8 }),
    (["w", "fixes"], .directory),
    (["w", "fixes", "1.toml"], .file { content := "fixes=[['a',[['','x','y']]]]".toUTF8 }),
    (["w", "fixes", "2.toml"], .file { content := "fixes=[['a',[['','y'".toUTF8 })]
  here := ["w"]

theorem discoverPlans_spoiltTree :
    discoverPlans spoiltTree ["w"] = some ["/w/fixes/1.toml", "/w/fixes/2.toml"] := by
  have hdirectory : planDirectory ["w"] = "/w/fixes" := by decide +kernel
  have hnames : (spoiltTree.fileNames "/w/fixes").filter isPlanName = ["1.toml", "2.toml"] := by
    decide +kernel
  have hsorted : planNames spoiltTree "/w/fixes" = ["1.toml", "2.toml"] := by
    rw [planNames, hnames]
    exact List.mergeSort_of_pairwise (by decide +kernel)
  have hfiles : planFiles spoiltTree "/w/fixes" = ["/w/fixes/1.toml", "/w/fixes/2.toml"] := by
    rw [planFiles, hsorted]
    decide +kernel
  rw [discoverPlans, List.map_cons, hdirectory, hfiles]
  rfl

theorem execute_spares_spoiltTree :
    -- The first plan alone would change the file.
    ((execute ⟨none, default, .superuser⟩ spoiltTree {}
        (.apply { plan := some "/w/fixes/1.toml" })).tree.fileAt? ["w", "a"]).map (·.content) =
          some "y".toUTF8 ∧
      Unusable spoiltTree ["w"] "/w/fixes/2.toml" ∧
      (execute ⟨none, default, .superuser⟩ spoiltTree {} (.apply {})).exitCode ≠ 0 ∧
      (execute ⟨none, default, .superuser⟩ spoiltTree {} (.apply {})).tree = spoiltTree := by
  have spoilt : (Plan.ofFile spoiltTree "/w/fixes/2.toml").isOk = false := by decide +kernel
  have unusable : Unusable spoiltTree ["w"] "/w/fixes/2.toml" := by
    cases hload : Plan.ofFile spoiltTree "/w/fixes/2.toml" with
    | error fault => exact .unloadable hload
    | ok p =>
      rw [hload] at spoilt
      cases spoilt
  refine ⟨by decide +kernel, unusable,
    (execute_spares ⟨none, default, .superuser⟩ spoiltTree {}).1 {} ?_⟩
  intro root told hroot
  -- No root is given, so it is the directory from which paths start.
  obtain rfl : ["w"] = root := Except.ok.inj (Prod.mk.inj hroot).1
  exact ⟨_, .inr ⟨rfl, _, discoverPlans_spoiltTree, by simp⟩, unusable⟩

end Session

end Emend
