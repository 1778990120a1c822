import Emend.Proofs.Patch.Run

/-!
# What a run makes of a tree

After a run that writes, each file in a place where the system is steady holds what the rules of the
fixes made there, one after the other, make of the text that it held before the run; every file is
the file of its own place in the tree before the run, whatever the targets of the fixes were called.
Nothing else has changed, be the system steady or not (`Engine.run_rewrites`).

The proof goes along the chain of fixes (`Engine.Runs`). Each fix keeps the shape of the tree, so
that the places of later targets can be looked up in the tree before the run; and effects of one
fix after the other compose (`Tree.Rewritten.trans`), since a text that was written is read back as
it is.

Where the system is not steady, there is no more to be said of the bytes of a file:
`Engine.run_rewrites_unsteady` has a run without a fix that was made, and the file is another one.
-/

namespace Emend

/-- What fixes, made one after the other, have made of a file. -/
structure File.Rewritten (fixes : List Fix) (f g : File) : Prop where
  written : g.written = (f.written || !fixes.isEmpty)
  /-- The bytes of a file that no fix was made in are as before, whether they are a text or not. -/
  kept : fixes = [] → g.content = f.content
  fixed : fixes ≠ [] → ∃ text, f.text? = some text ∧
    g.content = (RuleSet.fold (fixes.flatMap (·.rules.rules)) text).toUTF8

namespace File.Rewritten

variable {f g h : File} {fixes more : List Fix}

theorem refl (f : File) : File.Rewritten [] f f :=
  ⟨by simp, fun _ => rfl, fun h => absurd rfl h⟩

theorem single {fix : Fix} {text : String} (ht : f.text? = some text) :
    File.Rewritten [fix] f (f.withText (RuleSet.fold fix.rules.rules text)) :=
  ⟨by simp, nofun, fun _ => ⟨text, ht, by simp⟩⟩

/-- The text that the first fixes have left is the one that the others start from. -/
theorem trans (hf : File.Rewritten fixes f g) (hg : File.Rewritten more g h) :
    File.Rewritten (fixes ++ more) f h where
  written := by
    rw [hg.written, hf.written]
    cases fixes <;> simp
  kept hnil := by
    obtain ⟨hfixes, hmore⟩ := List.append_eq_nil_iff.mp hnil
    rw [hg.kept hmore, hf.kept hfixes]
  fixed hne := by
    -- The text to start from is the one after the first fixes, if there are any.
    by_cases hfixes : fixes = []
    · subst hfixes
      have hg' : g.text? = f.text? := by
        rw [File.text?, File.text?, hf.kept rfl]
      simpa [hg'] using hg.fixed (by simpa using hne)
    · obtain ⟨text, ht, hc⟩ := hf.fixed hfixes
      refine ⟨text, ht, ?_⟩
      rw [List.flatMap_append, RuleSet.fold_append]
      by_cases hmore : more = []
      · rw [hg.kept hmore, hc, hmore]
        rfl
      · obtain ⟨text', ht', hc'⟩ := hg.fixed hmore
        rw [File.text?_eq_some.mpr hc] at ht'
        rw [hc', ← Option.some.inj ht']

end File.Rewritten

/-- What fixes have made of a tree: `fixesAt` lists those made at each place. Files that may have been
spoilt, where the system is not `steady`, have at least kept their places and modes. -/
structure Tree.Rewritten (fixesAt : Location → List Fix) (steady : Location → Prop) (t u : Tree) :
    Prop where
  here : u.here = t.here
  /-- No place is new and none is gone. -/
  places : u.entries.map (·.1) = t.entries.map (·.1)
  files : ∀ l f, t.at? l = some (.file f) →
    ∃ g, u.at? l = some (.file g) ∧ g.mode = f.mode ∧ (steady l → f.Rewritten (fixesAt l) g)
  /-- Directories and links stay. -/
  others : ∀ l, (∀ f, t.at? l ≠ some (.file f)) → u.at? l = t.at? l

namespace Tree.Rewritten

variable {fixesAt more : Location → List Fix} {steady : Location → Prop} {t u v : Tree}
  {place : Location} {f : File} {content : ByteArray} {fixes : List Fix}

theorem refl (t : Tree) : Tree.Rewritten (fun _ => []) steady t t :=
  ⟨rfl, rfl, fun _ f h => ⟨f, h, rfl, fun _ => .refl f⟩, fun _ _ => rfl⟩

/-- A file with other bytes in its place, which fixes have made of it if the system is steady there. -/
theorem replace (stands : t.at? place = some (.file f))
    (made : steady place → f.Rewritten fixes (f.withContent content)) :
    Tree.Rewritten (fun l => if l = place then fixes else []) steady t
      (t.replace place (f.withContent content)) where
  here := rfl
  places := Tree.keys_replace ..
  files l g hg := by
    rw [Tree.at?_replace stands]
    by_cases hl : l = place
    · subst hl
      obtain rfl : f = g := by simpa using stands.symm.trans hg
      exact ⟨f.withContent content, by rw [if_pos rfl], rfl, by simpa using made⟩
    · exact ⟨g, by rw [if_neg hl, hg], rfl, fun _ => by simpa [hl] using .refl g⟩
  others l hl := by
    rw [Tree.at?_replace stands]
    by_cases h : l = place
    · subst h
      exact absurd stands (hl f)
    · rw [if_neg h]

theorem trans (h : Tree.Rewritten fixesAt steady t u) (h' : Tree.Rewritten more steady u v) :
    Tree.Rewritten (fun l => fixesAt l ++ more l) steady t v where
  here := h'.here.trans h.here
  places := h'.places.trans h.places
  files l f hf := by
    obtain ⟨g, hg, hmode, hfg⟩ := h.files l f hf
    obtain ⟨k, hk, hmode', hgk⟩ := h'.files l g hg
    exact ⟨k, hk, hmode'.trans hmode, fun hl => (hfg hl).trans (hgk hl)⟩
  others l hl := by
    rw [← h.others l hl]
    refine h'.others l fun f => ?_
    rw [h.others l hl]
    exact hl f

end Tree.Rewritten

/-- The fixes, of those that were to be made, that were tried and made. -/
def Summary.made (s : Summary) (fixes : List Fix) : List Fix :=
  ((fixes.zip s.results).filter (·.2.succeeded)).map (·.1)

theorem Summary.made_cons (r : FixResult) (results : List FixResult) (skipped : List Path)
    (fix : Fix) (rest : List Fix) :
    Summary.made ⟨r :: results, skipped⟩ (fix :: rest) =
      if r.succeeded then fix :: Summary.made ⟨results, skipped⟩ rest
      else Summary.made ⟨results, skipped⟩ rest := by
  simp only [made, List.zip_cons_cons, List.filter_cons]
  split <;> rfl

@[simp] theorem Summary.made_nil (skipped : List Path) (fixes : List Fix) :
    Summary.made ⟨[], skipped⟩ fixes = [] := by
  simp [made]

namespace Engine

variable {σ : Type}

/-- Those of fixes whose targets lead to a place. -/
def fixesAt (e : Engine) (t : Tree) (fixes : List Fix) (l : Location) : List Fix :=
  fixes.filter fun fix => (t.canonicalize (e.pathOf fix.target)).toOption = some l

theorem fixesAt_congr {t u : Tree} (h : t.SameShape u) (e : Engine) (fixes : List Fix) :
    e.fixesAt t fixes = e.fixesAt u fixes := by
  funext l
  simp only [fixesAt, h.canonicalize_eq]

theorem fixesAt_cons {e : Engine} {t : Tree} {fix : Fix} {place : Location}
    (h : t.canonicalize (e.pathOf fix.target) = .ok place) (rest : List Fix) :
    e.fixesAt t (fix :: rest) =
      fun l => (if l = place then [fix] else []) ++ e.fixesAt t rest l := by
  funext l
  rw [fixesAt, List.filter_cons, h]
  by_cases hl : l = place
  · simp [hl, fixesAt, Except.toOption]
  · have hl' : ¬ place = l := fun hp => hl hp.symm
    simp [hl, hl', fixesAt, Except.toOption]

/-- A file that is spoilt stands where the system is not steady. -/
theorem Spoils.rewritten {e : Engine} {t : Tree} {fix : Fix} {place : Location} {f : File}
    {content : ByteArray} (h : e.Spoils t fix place f content) :
    Tree.Rewritten (fun _ => []) e.system.Steady t (t.replace place (f.withContent content)) := by
  obtain ⟨-, stands, -, text, fault, -, spoilt⟩ := h
  have unsteady (steady : e.system.Steady place) : f.Rewritten [] (f.withContent content) :=
    (steady _ _ _ _ spoilt).elim
  simpa only [ite_self] using Tree.Rewritten.replace stands unsteady

/-- A chain of fixes rewrites the tree by those that were made. -/
theorem Runs.rewritten {e : Engine} (write : e.mode = .write) {policy : FailurePolicy}
    {fixes : List Fix} {t u : Tree} {s : Summary} (h : e.Runs policy fixes t s u) :
    Tree.Rewritten (e.fixesAt t (s.made fixes)) e.system.Steady t u := by
  induction h with
  | done => exact .refl _
  | @stopped fix rest t failed stop =>
    have applied := e.applied t fix
    generalize e.apply t fix = out at applied failed ⊢
    cases applied with
    | failed =>
      rw [Summary.made_cons, Summary.made_nil]
      exact .refl t
    | spoilt _ spoils =>
      rw [Summary.made_cons, Summary.made_nil]
      exact spoils.rewritten
    | made ready => cases failed
  | @next fix rest t u s on more ih =>
    have shape := e.sameShape_apply t fix
    have applied := e.applied t fix
    generalize e.apply t fix = out at applied shape ih ⊢
    rw [← fixesAt_congr shape] at ih
    rw [Summary.made_cons]
    cases applied with
    | failed => exact ih
    | spoilt _ spoils => exact spoils.rewritten.trans ih
    | @made place f text ready =>
      -- The later fixes start from the tree with the fixed text in its place.
      have leads := (resolve_eq_ok.mp ready.resolved).2.1
      rw [succeeded_success, if_pos rfl, fixesAt_cons leads]
      refine Tree.Rewritten.trans
        (Tree.Rewritten.replace ready.stands fun _ => .single ready.readable) ?_
      rw [treeWith, write] at ih
      exact ih

/-- **What a run makes of a tree.** In a place where the system is steady, a file holds what the fixes
that were tried and made, and whose targets lead to it in the tree before the run, make of the text
that it held then, and it counts as written if there is such a fix. The modes of all files and all
else are as before. -/
theorem run_rewrites (e : Engine) (write : e.mode = .write) (policy : FailurePolicy)
    (watch : Observer σ) (p : Plan) (t : Tree) (known : σ) :
    Tree.Rewritten (e.fixesAt t ((e.run policy watch p t known).1.made p.fixes)) e.system.Steady t
      (e.run policy watch p t known).2.1 :=
  (e.runs policy watch p.fixes t known).rewritten write

/-! ### A run through a link -/

/-- A directory with a file, a link to it, and a file that nobody may write to. -/
def sampleTree : Tree where
  entries := [
    (["w"], .directory),
    (["w", "a"], .file { content := "xa".toUTF8 }),
    (["w", "b"], .file { content := "xa".toUTF8, mode := 0o444 }),
    (["w", "l"], .link "a")]

/-- A fix with one rule. -/
def sampleFix (target pattern replacement : String) : Fix :=
  ⟨target, (RuleSet.ofPairs {} [(pattern, replacement)]).toOption.getD {}⟩

theorem target_sampleFix (target pattern replacement : String) :
    (sampleFix target pattern replacement).target = target := rfl

/-- Three fixes. The second one fails, and the other two lead to the same file. -/
def samplePlan : Plan where
  name := "sample"
  fixes := [sampleFix "a" "a" "b", sampleFix "b" "a" "b", sampleFix "../w/l" "b" "cc"]

/-- What comes of the three fixes when failures do not stop the run. -/
def sampleRun : Summary × Tree × Unit :=
  Engine.run { root := "/w" } .continueOnError { tried := fun _ _ _ known => known } samplePlan
    sampleTree ()

theorem run_rewrites_sample :
    (sampleRun.1.made samplePlan.fixes).map (·.target) = ["a", "../w/l"] ∧
      sampleRun.2.1.fileAt? ["w", "a"] = some { content := "xcc".toUTF8, written := true } ∧
      Tree.Rewritten
        (({ root := "/w" } : Engine).fixesAt sampleTree (sampleRun.1.made samplePlan.fixes))
        System.superuser.Steady sampleTree sampleRun.2.1 ∧
      System.superuser.Steady ["w", "a"] :=
  ⟨by decide +kernel, by decide +kernel, run_rewrites { root := "/w" } rfl ..,
    System.steady_superuser _⟩

/-- What comes of the three fixes when the files belong to somebody else. -/
def guestRun : Summary × Tree × Unit :=
  Engine.run { root := "/w", system := .guest } .continueOnError
    { tried := fun _ _ _ known => known } samplePlan sampleTree ()

/-- No fix is made, and still there is another text in a file that counts as written. -/
theorem run_rewrites_unsteady :
    (guestRun.1.made samplePlan.fixes).map (·.target) = [] ∧
      sampleTree.fileAt? ["w", "a"] = some { content := "xa".toUTF8 } ∧
      guestRun.2.1.fileAt? ["w", "a"] = some { content := "xcc".toUTF8, written := true } := by
  decide +kernel

end Engine

end Emend
