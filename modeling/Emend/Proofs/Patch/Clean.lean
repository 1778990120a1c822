import Emend.Proofs.Patch.Preview

/-!
# Fixes with nothing to do

A run that writes puts a text into each file, even if it is the text that was there. What such a run
keeps is the content of the tree (`Tree.SameContent`): the bytes of files and their permissions, and
all else but the marks of files that were written. A fix is clean if it is ready and its rules match
nothing (`Engine.Clean`). It is made and keeps the content, and it is clean on every tree with this
content, so it stays clean for as long as only clean fixes are made: this carries the induction along
runs (`Engine.Clean.step`).

A plan of clean fixes runs without a failure and keeps the content, and so do all runs after it
(`Engine.clean_round_trip`). For the runs after one in which all went well, it takes no more than that
the rules find nothing any more: the system has let each text through that stands there now, and so it
will let it through again (`Engine.Runs.rewritable`).
-/

namespace Emend

/-! ### Trees with the same content -/

/-- An entry without the mark that a file was written. -/
def Entry.unmarked : Entry → Entry
  | file f => file { f with written := false }
  | directory => directory
  | link target => link target

namespace Tree

/-- Whether two trees differ at most in the marks of files that were written. -/
structure SameContent (t u : Tree) : Prop where
  here : t.here = u.here
  unmarked : ∀ l, (t.at? l).map Entry.unmarked = (u.at? l).map Entry.unmarked

namespace SameContent

variable {t u v : Tree} {l : Location} {f : File}

theorem refl (t : Tree) : SameContent t t := ⟨rfl, fun _ => rfl⟩

theorem symm (h : SameContent t u) : SameContent u t :=
  ⟨h.here.symm, fun l => (h.unmarked l).symm⟩

theorem trans (h : SameContent t u) (h' : SameContent u v) : SameContent t v :=
  ⟨h.here.trans h'.here, fun l => (h.unmarked l).trans (h'.unmarked l)⟩

theorem shape (h : SameContent t u) : t.SameShape u := by
  refine ⟨h.here, fun l => ?_⟩
  have outline (x : Option Entry) :
      x.map Entry.outline = (x.map Entry.unmarked).map Entry.outline := by
    rcases x with _ | _ | _ | _ <;> rfl
  rw [outline, outline (u.at? l), h.unmarked]

/-- A file stands where one stood, with the same bytes and the same permissions. -/
theorem file (h : SameContent t u) (stands : t.at? l = some (.file f)) :
    ∃ g, u.at? l = some (.file g) ∧ g.content = f.content ∧ g.mode = f.mode := by
  have hl := h.unmarked l
  rw [stands] at hl
  rcases hu : u.at? l with _ | g | _ | _ <;> rw [hu] at hl <;>
    simp only [Option.map_some, Option.map_none, Entry.unmarked, Option.some.injEq, reduceCtorEq,
      Entry.file.injEq, File.mk.injEq, and_true] at hl
  exact ⟨g, rfl, hl.1.symm, hl.2.symm⟩

end SameContent

/-- The text of a file in its place keeps the content. -/
theorem sameContent_replace {t : Tree} {l : Location} {f : File} {text : String}
    (stands : t.at? l = some (.file f)) (readable : f.text? = some text) :
    SameContent t (t.replace l (f.withText text)) := by
  refine ⟨rfl, fun k => ?_⟩
  rw [at?_replace stands]
  by_cases hk : k = l
  · subst hk
    rw [if_pos rfl, stands]
    simp [Entry.unmarked, File.withText, File.text?_eq_some.mp readable]
  · rw [if_neg hk]

end Tree

theorem File.text?_congr {f g : File} (h : g.content = f.content) : g.text? = f.text? := by
  rw [text?, text?, h]

theorem File.isReadOnly_congr {f g : File} (h : g.mode = f.mode) :
    g.isReadOnly = f.isReadOnly := by
  rw [isReadOnly, isReadOnly, h]

namespace Engine

variable {σ : Type} {e : Engine} {policy : FailurePolicy} {t u : Tree} {s : Summary} {fix : Fix}
  {fixes : List Fix} {target : Path} {place : Location} {f : File} {text : String}

/-! ### Trees with the same content -/

/-- A target that leads to a text in one tree leads to that text in all trees with its content. -/
theorem Finds.congr (same : t.SameContent u) (h : e.Finds t target place f text) :
    ∃ g, e.Finds u target place g text ∧ g.mode = f.mode := by
  obtain ⟨g, stands, content, mode⟩ := same.file h.stands
  refine ⟨g, ⟨(resolve_congr same.shape e target).symm.trans h.resolved, ?_⟩, mode⟩
  exact readAt_eq_ok.mpr ⟨(readAt_eq_ok.mp h.reads).1, stands,
    (File.text?_congr content).trans h.readable⟩

/-- Of a file that is written, only the mode counts. -/
theorem ending_congr {g : File} (h : g.mode = f.mode) (text : String) :
    e.ending place g text = e.ending place f text := by
  rw [ending, ending, File.isReadOnly_congr h, h]

theorem Ready.congr (same : t.SameContent u) (h : e.Ready t fix place f text) :
    ∃ g, e.Ready u fix place g text := by
  obtain ⟨g, finds, mode⟩ := h.toFinds.congr same
  exact ⟨g, finds, (ending_congr mode _).trans h.writes⟩

theorem sameContent_treeWith (e : Engine) (stands : t.at? place = some (.file f))
    (readable : f.text? = some text) : t.SameContent (e.treeWith t place f text) := by
  rw [treeWith]
  cases e.mode with
  | dryRun => exact .refl t
  | write => exact Tree.sameContent_replace stands readable

/-- A fix that is made keeps the content if its rules leave the text as it is, and says so. -/
theorem unchanged_of_ready (ready : e.Ready t fix place f text)
    (fixed : RuleSet.fold fix.rules.rules text = text) :
    (e.apply t fix).1.changed = false ∧ t.SameContent (e.apply t fix).2 := by
  rw [apply_of_ready ready]
  constructor
  · show (text != RuleSet.fold fix.rules.rules text) = false
    rw [fixed, bne_self_eq_false]
  · rw [fixed]
    exact e.sameContent_treeWith ready.stands ready.readable

/-! ### Clean fixes -/

/-- Whether no rule of a fix has a match in the text of its file. -/
def Missed (e : Engine) (t : Tree) (fix : Fix) : Prop :=
  ∀ place f, e.resolve t fix.target = .ok place → t.at? place = some (.file f) →
    ∀ text ∈ f.text?, ∀ r ∈ fix.rules.rules, r.Misses text

instance (e : Engine) (t : Tree) (fix : Fix) : Decidable (e.Missed t fix) :=
  e.decideAtTarget t fix.target fun f => ∀ text ∈ f.text?, ∀ r ∈ fix.rules.rules, r.Misses text

/-- Whether a fix is ready and has nothing to do. -/
structure Clean (e : Engine) (t : Tree) (fix : Fix) : Prop where
  ready : ∃ place f text, e.Ready t fix place f text
  missed : e.Missed t fix

theorem Missed.congr (same : t.SameContent u) (h : e.Missed t fix) : e.Missed u fix := by
  intro place g resolved stands text readable
  obtain ⟨f, stands', content, -⟩ := same.symm.file stands
  have resolved' := (resolve_congr same.shape e fix.target).trans resolved
  exact h place f resolved' stands' text ((File.text?_congr content).trans readable)

/-- Rules without a match leave the text as it is. -/
theorem Missed.applyEach_eq (h : e.Missed t fix) (finds : e.Finds t fix.target place f text) :
    RuleSet.fold fix.rules.rules text = text ∧
      RuleSet.totalCount (RuleSet.applyEach fix.rules.rules text).2 = 0 :=
  RuleSet.applyEach_of_misses (h place f finds.resolved finds.stands text finds.readable)

namespace Clean

theorem congr (same : t.SameContent u) (h : e.Clean t fix) : e.Clean u fix := by
  obtain ⟨place, f, text, ready⟩ := h.ready
  obtain ⟨g, ready'⟩ := ready.congr same
  exact ⟨⟨place, g, text, ready'⟩, h.missed.congr same⟩

/-- A clean fix is made without a match, also after others that have kept the content. -/
theorem step (h : e.Clean t fix) (same : t.SameContent u) :
    (e.apply u fix).1.succeeded = true ∧ (e.apply u fix).1.matchCount = 0 ∧
      (e.apply u fix).1.changed = false ∧ t.SameContent (e.apply u fix).2 := by
  obtain ⟨⟨place, f, text, ready⟩, missed⟩ := h.congr same
  obtain ⟨fixed, uncounted⟩ := missed.applyEach_eq ready.toFinds
  obtain ⟨unchanged, content⟩ := unchanged_of_ready ready fixed
  have made : (e.apply u fix).1 = e.success fix text := by rw [apply_of_ready ready]
  refine ⟨?_, ?_, unchanged, same.trans content⟩
  · rw [made]
    rfl
  · rw [made]
    exact uncounted

end Clean

/-- What comes of a run of a plan that has nothing to do. -/
structure Uneventful (p : Plan) (t : Tree) (s : Summary) (u : Tree) : Prop where
  targets : s.results.map (·.target) = p.targets
  results : ∀ r ∈ s.results, r.succeeded = true ∧ r.matchCount = 0 ∧ r.changed = false
  skipped : s.skipped = []
  content : t.SameContent u

/-- A run of clean fixes is uneventful. -/
theorem Runs.uneventful {p : Plan} (hruns : e.Runs policy p.fixes t s u)
    (clean : ∀ fix ∈ p.fixes, e.Clean t fix) : Uneventful p t s u := by
  have success : s.isSuccess = true := by
    refine hruns.isSuccess_of_invariant t.SameContent (fun fix hfix v same => ?_) (.refl t)
    obtain ⟨succeeded, -, -, content⟩ := (clean fix hfix).step same
    exact ⟨succeeded, content⟩
  obtain ⟨targets, skipped, succeeded⟩ := hruns.made_of_isSuccess success
  obtain ⟨told, content⟩ := hruns.invariant t.SameContent
    (fun _ r => r.matchCount = 0 ∧ r.changed = false)
    (fun fix hfix v same => by
      obtain ⟨-, matchCount, changed, content⟩ := (clean fix hfix).step same
      exact ⟨⟨matchCount, changed⟩, content⟩)
    (.refl t)
  refine ⟨targets, fun r hr => ⟨succeeded r hr, ?_⟩, skipped, content⟩
  obtain ⟨_, -, tells⟩ := told.exists_of_mem_right hr
  exact tells

/-! ### Runs again and again -/

/-- What comes of runs of a plan, one after the other, each under a policy of its own. -/
def reruns (e : Engine) (p : Plan) : Tree → List FailurePolicy → List (Summary × Tree)
  | _, [] => []
  | t, policy :: more =>
    e.outcome policy p t :: e.reruns p (e.outcome policy p t).2 more

/-- Once the fixes of a plan are clean, all runs of it are uneventful. -/
theorem reruns_uneventful {p : Plan} (clean : ∀ fix ∈ p.fixes, e.Clean t fix)
    (same : t.SameContent u) (policies : List FailurePolicy) :
    ∀ out ∈ e.reruns p u policies, Uneventful p t out.1 out.2 := by
  induction policies generalizing u with
  | nil => exact nofun
  | cons policy more ih =>
    have there : ∀ fix ∈ p.fixes, e.Clean u fix := fun fix hfix => (clean fix hfix).congr same
    have first := (e.outcome_runs policy p u).uneventful there
    have content := same.trans first.content
    rw [reruns, List.forall_mem_cons]
    exact ⟨{ first with content }, ih content⟩

/-- Whether a target leads to a text that can be put there once more. -/
def Rewritable (e : Engine) (t : Tree) (target : Path) : Prop :=
  ∃ place f text, e.Finds t target place f text ∧ e.ending place f text = .made

/-- A text that the system has let through is found, and can be put there once more. -/
theorem rewritable_replace (resolved : e.resolve t target = .ok place)
    (reads : e.readAt t place = .ok (f, text)) {fixed : String} (made : e.ending place f fixed = .made) :
    e.Rewritable (t.replace place (f.withText fixed)) target := by
  obtain ⟨open', stands, -⟩ := readAt_eq_ok.mp reads
  have written : (t.replace place (f.withText fixed)).at? place = some (.file (f.withText fixed)) :=
    (Tree.at?_replace stands place).trans (if_pos rfl)
  refine ⟨place, f.withText fixed, fixed, ⟨?_, ?_⟩, (ending_congr rfl fixed).trans made⟩
  · rw [← resolved]
    exact (resolve_congr (Tree.sameShape_replace stands _) e target).symm
  · exact readAt_eq_ok.mpr ⟨open', written, File.text?_withText f fixed⟩

/-- The target of a fix that was made is rewritable. -/
theorem Ready.rewritable (h : e.Ready t fix place f text) :
    e.Rewritable (e.apply t fix).2 fix.target := by
  rw [apply_of_ready h, treeWith]
  cases mode : e.mode with
  | dryRun => exact ⟨place, f, text, h.toFinds, by rw [ending, mode]⟩
  | write => exact rewritable_replace h.resolved h.reads h.writes

/-- What is rewritable is so after every fix that is made, though there may be another text. -/
theorem Rewritable.after_apply (h : e.Rewritable t target)
    (succeeded : (e.apply t fix).1.succeeded = true) : e.Rewritable (e.apply t fix).2 target := by
  obtain ⟨place, f, text, finds, made⟩ := h
  obtain ⟨place', f', text', ready⟩ := succeeded_apply_iff.mp succeeded
  rw [apply_of_ready ready, treeWith]
  cases mode : e.mode with
  | dryRun => exact ⟨place, f, text, finds, made⟩
  | write =>
    by_cases hplace : place = place'
    · subst hplace
      exact rewritable_replace finds.resolved ready.reads ready.writes
    · -- The fix was made elsewhere.
      refine ⟨place, f, text, ⟨?_, readAt_eq_ok.mpr ⟨(readAt_eq_ok.mp finds.reads).1, ?_,
        finds.readable⟩⟩, made⟩
      · rw [← finds.resolved]
        exact (resolve_congr (Tree.sameShape_replace ready.stands _) e target).symm
      · dsimp only
        rw [Tree.at?_replace ready.stands, if_neg hplace, finds.stands]

/-- After a run in which all went well, all targets are rewritable. -/
theorem Runs.rewritable (hruns : e.Runs policy fixes t s u) (success : s.isSuccess = true) :
    (∀ target, e.Rewritable t target → e.Rewritable u target) ∧
      ∀ fix ∈ fixes, e.Rewritable u fix.target := by
  induction hruns with
  | done => exact ⟨fun _ h => h, nofun⟩
  | stopped failed =>
    have succeeded := (Summary.isSuccess_iff.mp success).1 _ (List.mem_singleton_self _)
    rw [failed] at succeeded
    cases succeeded
  | @next fix rest t u s _ _ ih =>
    obtain ⟨succeeded, skipped⟩ := Summary.isSuccess_iff.mp success
    obtain ⟨first, others⟩ := List.forall_mem_cons.mp succeeded
    obtain ⟨kept, later⟩ := ih (Summary.isSuccess_iff.mpr ⟨others, skipped⟩)
    obtain ⟨place, f, text, ready⟩ := succeeded_apply_iff.mp first
    exact ⟨fun target h => kept target (h.after_apply first),
      List.forall_mem_cons.mpr ⟨kept _ ready.rewritable, later⟩⟩

/-- A fix is clean if the text there can be put there once more and no rule has a match in it. -/
theorem clean_of_rewritable (rewritable : e.Rewritable t fix.target) (missed : e.Missed t fix) :
    e.Clean t fix := by
  obtain ⟨place, f, text, finds, made⟩ := rewritable
  exact ⟨⟨place, f, text, finds, by rw [(missed.applyEach_eq finds).1, made]⟩, missed⟩

/-- Fixes that find nothing in their files, one of them through a link, though another file has a
match for the last one. -/
def cleanPlan : Plan where
  name := "clean"
  fixes := [sampleFix "l" "q|b" "r", sampleFix "a" "z+" "", sampleFix "b" "a" "c"]

/-- Fixes that find something, but leave nothing to find. -/
def settlingPlan : Plan where
  name := "settling"
  fixes := [sampleFix "l" "x" "y", sampleFix "b" "x+" "yy", sampleFix "a" "x" "z"]

end Engine

end Emend
