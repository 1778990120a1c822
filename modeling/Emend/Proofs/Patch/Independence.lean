import Emend.Proofs.Patch.Rewriting
import Emend.Proofs.Patch.Sequence

/-!
# Fixes that do not meet

A fix looks at the shape of the tree and at the one place to which its target leads, and it writes
there or nowhere. So it comes to the same on trees that are alike in this (`Engine.Alike`), whatever
their other files hold (`Engine.Alike.apply_alike`).

Fixes are apart if the targets of no two of them lead to one file (`Engine.Apart`). They may still
fail for one reason, be it at the same directory. What one of them has made does not show to the
others, so each comes to what it comes to alone, on the tree before the run
(`Engine.attempts_eq_map`), and their order makes no difference (`Engine.run_perm`).
-/

namespace Emend

/-- Files that stand at different places are replaced in any order. -/
theorem Tree.replace_comm (t : Tree) {l k : Location} (h : l ≠ k) (f g : File) :
    (t.replace l f).replace k g = (t.replace k g).replace l f := by
  simp only [replace, List.map_map]
  congr 1
  refine List.map_congr_left fun entry _ => ?_
  by_cases hl : entry.1 = l
  · simp [hl, h]
  · by_cases hk : entry.1 = k
    · simp [hk, h.symm]
    · simp [hl, hk]

namespace Engine

variable {σ : Type} {e : Engine} {t u v : Tree} {target : Path} {place : Location} {f : File}
  {text : String} {fix a b : Fix} {fixes more : List Fix}

/-! ### What a fix looks at -/

/-- Whether trees are alike for a target: they are of one shape, and the same stands in both at the
place to which the target leads. -/
structure Alike (e : Engine) (target : Path) (t u : Tree) : Prop where
  shape : t.SameShape u
  there : ∀ place, e.resolve t target = .ok place → u.at? place = t.at? place

namespace Alike

theorem refl (e : Engine) (target : Path) (t : Tree) : e.Alike target t t :=
  ⟨.refl t, fun _ _ => rfl⟩

theorem resolve_eq (h : e.Alike target t u) : e.resolve u target = e.resolve t target :=
  (resolve_congr h.shape e target).symm

theorem symm (h : e.Alike target t u) : e.Alike target u t :=
  ⟨h.shape.symm, fun place resolved => (h.there place (h.resolve_eq ▸ resolved)).symm⟩

theorem trans (h : e.Alike target t u) (h' : e.Alike target u v) : e.Alike target t v := by
  refine ⟨h.shape.trans h'.shape, fun place resolved => ?_⟩
  rw [h'.there place (h.resolve_eq.trans resolved), h.there place resolved]

theorem readAt_eq (h : e.Alike target t u) (resolved : e.resolve t target = .ok place) :
    e.readAt u place = e.readAt t place := by
  rw [readAt, readAt, Tree.fileAt?, Tree.fileAt?, h.there place resolved]

theorem finds (h : e.Alike target t u) (finds : e.Finds t target place f text) :
    e.Finds u target place f text where
  resolved := h.resolve_eq.trans finds.resolved
  reads := (h.readAt_eq finds.resolved).trans finds.reads

/-- On trees that are alike for its target, a fix has the same report and puts the same file in the
same place, if it changes one at all. -/
theorem apply_alike (h : e.Alike fix.target t u) :
    (e.apply u fix).1 = (e.apply t fix).1 ∧
      ((e.apply t fix).2 = t ∧ (e.apply u fix).2 = u ∨
        ∃ place f g, e.resolve t fix.target = .ok place ∧ t.at? place = some (.file f) ∧
          (e.apply t fix).2 = t.replace place g ∧ (e.apply u fix).2 = u.replace place g) := by
  have course := e.course t fix
  generalize e.apply t fix = out at course
  cases course with
  | astray fails =>
    rw [course_iff.mp (.astray (h.resolve_eq.trans fails))]
    exact ⟨rfl, .inl ⟨rfl, rfl⟩⟩
  | unread resolved fails =>
    rw [course_iff.mp (.unread (h.resolve_eq.trans resolved) ((h.readAt_eq resolved).trans fails))]
    exact ⟨rfl, .inl ⟨rfl, rfl⟩⟩
  | refused finds kept =>
    rw [course_iff.mp (.refused (h.finds finds) kept)]
    exact ⟨rfl, .inl ⟨rfl, rfl⟩⟩
  | spoilt finds spoilt =>
    rw [course_iff.mp (.spoilt (h.finds finds) spoilt)]
    exact ⟨rfl, .inr ⟨_, _, _, finds.resolved, finds.stands, rfl, rfl⟩⟩
  | made ready =>
    rw [apply_of_ready ⟨h.finds ready.toFinds, ready.writes⟩, treeWith, treeWith]
    cases e.mode with
    | dryRun => exact ⟨rfl, .inl ⟨rfl, rfl⟩⟩
    | write => exact ⟨rfl, .inr ⟨_, _, _, ready.resolved, ready.stands, rfl, rfl⟩⟩

end Alike

/-! ### Fixes that are apart -/

/-- Whether there is no file to which the targets of both fixes lead. -/
def Apart (e : Engine) (t : Tree) (a b : Fix) : Prop :=
  ∀ place, e.resolve t a.target = .ok place → e.resolve t b.target = .ok place →
    t.fileAt? place = none

instance (e : Engine) (t : Tree) (a b : Fix) : Decidable (e.Apart t a b) :=
  match ha : e.resolve t a.target with
  | .error _ => .isTrue fun _ h => by
    rw [ha] at h
    cases h
  | .ok place =>
    decidable_of_iff (e.resolve t b.target = .ok place → (t.fileAt? place).isNone = true) <| by
      simp [Apart, ha]

namespace Apart

theorem symm (h : e.Apart t a b) : e.Apart t b a := fun place hb ha => h place ha hb

/-- Fixes that are apart stay so, since a fix keeps the shape of the tree. -/
theorem congr (shape : t.SameShape u) (h : e.Apart t a b) : e.Apart u a b := by
  intro place ha hb
  rw [← resolve_congr shape] at ha hb
  have vacant := h place ha hb
  rcases shape.entries place with ⟨ht, hu⟩ | ⟨f, g, ht, hu⟩ | ⟨ht, hu⟩ | ⟨_, ht, hu⟩
  · simp [Tree.fileAt?, hu]
  · simp [Tree.fileAt?, ht] at vacant
  · simp [Tree.fileAt?, hu]
  · simp [Tree.fileAt?, hu]

/-- The target of one fix does not lead to the file of the other one. -/
theorem ne (h : e.Apart t a b) {l k : Location} (ha : e.resolve t a.target = .ok l)
    (stands : t.at? l = some (.file f)) (hb : e.resolve t b.target = .ok k) : k ≠ l := by
  rintro rfl
  have vacant := h k ha hb
  rw [Tree.fileAt?_eq_some.mpr stands] at vacant
  cases vacant

/-- What one fix has done does not show to the other. -/
theorem alike (h : e.Apart t a b) : e.Alike b.target t (e.apply t a).2 := by
  refine ⟨e.sameShape_apply t a, fun place resolved => ?_⟩
  rcases e.tree_apply t a with heq | ⟨l, f, content, -, leads, stands, heq⟩
  · rw [heq]
  · rw [heq, Tree.at?_replace stands, if_neg (h.ne leads stands resolved)]

/-- Two fixes leave the same tree in either order. -/
theorem tree_comm (h : e.Apart t a b) :
    (e.apply (e.apply t a).2 b).2 = (e.apply (e.apply t b).2 a).2 := by
  -- Each of them does the same before and after the other one.
  rcases h.alike.apply_alike.2 with ⟨alone, after⟩ | ⟨k, f, g, leads, stands, alone, after⟩
  · rw [after, alone]
  · rcases h.symm.alike.apply_alike.2 with ⟨alone', after'⟩ | ⟨l, f', g', leads', -, alone', after'⟩
    · rw [after, after', alone, alone']
    · rw [after, after', alone, alone', Tree.replace_comm t (h.symm.ne leads stands leads')]

end Apart

/-! ### Whole runs -/

/-- Fixes that are apart come, on a tree that is alike for each of them, to what they come to
alone. -/
theorem attempts_of_alike (apart : fixes.Pairwise (e.Apart t))
    (alike : ∀ fix ∈ fixes, e.Alike fix.target t u) :
    e.attempts u fixes = fixes.map fun fix => (e.apply t fix).1 := by
  induction fixes generalizing u with
  | nil => rfl
  | cons fix rest ih =>
    obtain ⟨first, rest_apart⟩ := List.pairwise_cons.mp apart
    obtain ⟨here, later⟩ := List.forall_mem_cons.mp alike
    rw [attempts, List.map_cons, here.apply_alike.1]
    -- The tree after the first fix is still alike for those after it.
    rw [ih rest_apart fun b hb => (later b hb).trans ((first b hb).congr here.shape).alike]

/-- Fixes that are apart come, one after the other, to what each comes to alone. -/
theorem attempts_eq_map (apart : fixes.Pairwise (e.Apart t)) :
    e.attempts t fixes = fixes.map fun fix => (e.apply t fix).1 :=
  attempts_of_alike apart fun fix _ => .refl e fix.target t

/-- Fixes that are apart leave the same tree in any order. -/
theorem after_perm (perm : fixes.Perm more) (apart : fixes.Pairwise (e.Apart t)) :
    e.after t fixes = e.after t more := by
  induction perm generalizing t with
  | nil => rfl
  | @cons fix rest rest' _ ih =>
    have later : rest.Pairwise (e.Apart (e.apply t fix).2) :=
      (List.pairwise_cons.mp apart).2.imp fun h => h.congr (e.sameShape_apply t fix)
    show e.after (e.apply t fix).2 rest = e.after (e.apply t fix).2 rest'
    exact ih later
  | swap a b rest =>
    have first := (List.pairwise_cons.mp apart).1 a List.mem_cons_self
    show e.after (e.apply (e.apply t b).2 a).2 rest = e.after (e.apply (e.apply t a).2 b).2 rest
    rw [first.tree_comm]
  | trans perm _ ih ih' => exact (ih apart).trans (ih' (apart.perm perm Apart.symm))

/-- **Fixes that do not meet commute.** If the targets of no two fixes of a plan lead to one file,
then a plan with the same fixes in another order leaves the same tree, and each fix, whether it
is made or fails, has the same report in both runs: the one that it would have alone. -/
theorem run_perm (e : Engine) (t : Tree) {p q : Plan} (perm : p.fixes.Perm q.fixes)
    (apart : p.fixes.Pairwise (e.Apart t)) (watch : Observer σ) (known : σ) :
    let report := fun fix => (e.apply t fix).1
    let one := e.run .continueOnError watch p t known
    let other := e.run .continueOnError watch q t known
    one.1 = ⟨p.fixes.map report, []⟩ ∧ other.1 = ⟨q.fixes.map report, []⟩ ∧
      one.2.1 = other.2.1 := by
  intro report one other
  have runsOne : e.Runs .continueOnError p.fixes t one.1 one.2.1 := e.runs ..
  have runsOther : e.Runs .continueOnError q.fixes t other.1 other.2.1 := e.runs ..
  obtain ⟨hone, treeOne⟩ := runsOne.all_tried
  obtain ⟨hother, treeOther⟩ := runsOther.all_tried
  refine ⟨?_, ?_, ?_⟩
  · rw [hone, attempts_eq_map apart]
  · rw [hother, attempts_eq_map (apart.perm perm Apart.symm)]
  · rw [treeOne, treeOther, after_perm perm apart]

/-- An engine for the sample tree. -/
def sampleEngine : Engine where
  root := "/w"

/-- Fixes for the sample tree of which the first one alone is made, through a link. The others fail:
at a file that nobody may write to, twice at a directory, and where nothing is. -/
def scatteredPlan : Plan where
  name := "scattered"
  fixes := [sampleFix "l" "a" "b", sampleFix "b" "a" "b", sampleFix "." "a" "b",
    sampleFix "../w" "a" "b", sampleFix "c" "a" "b"]

/-- The same fixes from the last to the first. -/
def reversedPlan : Plan where
  name := "reversed"
  fixes := scatteredPlan.fixes.reverse

theorem run_perm_scatteredPlan :
    scatteredPlan.fixes.Perm reversedPlan.fixes ∧
      scatteredPlan.fixes.Pairwise (sampleEngine.Apart sampleTree) ∧
      ((sampleEngine.outcome .continueOnError reversedPlan sampleTree).1.results.map
        (·.succeeded)) = [false, false, false, false, true] ∧
      (sampleEngine.outcome .continueOnError scatteredPlan sampleTree).1 =
        ⟨scatteredPlan.fixes.map fun fix => (sampleEngine.apply sampleTree fix).1, []⟩ ∧
      (sampleEngine.outcome .continueOnError reversedPlan sampleTree).1 =
        ⟨reversedPlan.fixes.map fun fix => (sampleEngine.apply sampleTree fix).1, []⟩ ∧
      (sampleEngine.outcome .continueOnError scatteredPlan sampleTree).2 =
        (sampleEngine.outcome .continueOnError reversedPlan sampleTree).2 := by
  have perm : scatteredPlan.fixes.Perm reversedPlan.fixes := (List.reverse_perm _).symm
  have apart : scatteredPlan.fixes.Pairwise (sampleEngine.Apart sampleTree) := by decide +kernel
  exact ⟨perm, apart, by decide +kernel,
    run_perm sampleEngine sampleTree perm apart (.ofResults fun _ _ => ()) ()⟩

end Engine

end Emend
