import Emend.Proofs.Patch.Containment
import Emend.Proofs.Tree.Canonical

/-!
# What a workspace allows

Whether a path may be changed is asked of the place to which it leads, and decided by names only:
the place is at or below the root, and it is not at or below a protected place. What was protected
is recorded when the workspace is opened; where a path leads is looked up in the tree as it is when
the path is validated (`Workspace.validate_decides`).

`Workspace.Bars` lists what keeps a place from being changed and `Workspace.Rejects` why a path is
rejected, in the order in which it is looked for. The place that is handed out for a path is
canonical, so its own path is valid and leads to it again.
-/

namespace Emend.Workspace

variable {w : Workspace} {t : Tree} {p : Path} {place : Location} {fault : SafetyFault}

/-- What keeps a location from being changed. Of the protected places that it is below, the one that
was recorded first is named. -/
inductive Bars (w : Workspace) (place : Location) : SafetyFault → Prop
  | outside (beyond : ¬ w.root <+: place) : Bars w place (.outside place w.root)
  | forbidden {before after : List Location} {d : Location} (within : w.root <+: place)
      (recorded : w.protectedPlaces = before ++ d :: after) (clear : ∀ b ∈ before, ¬ b <+: place)
      (below : d <+: place) : Bars w place (.forbidden place d)

theorem check_eq_error : w.check place = .error fault ↔ w.Bars place fault := by
  rw [check]
  by_cases within : w.root <+: place
  · rw [List.isPrefixOf_iff_prefix.mpr within, Bool.not_true, if_neg Bool.false_ne_true]
    constructor
    · intro h
      split at h
      · next d hfind =>
        cases h
        obtain ⟨below, before, after, recorded, clear⟩ := List.find?_eq_some_iff_append.mp hfind
        refine .forbidden within recorded (fun b hb hprefix => ?_)
          (List.isPrefixOf_iff_prefix.mp below)
        have := clear b hb
        rw [List.isPrefixOf_iff_prefix.mpr hprefix] at this
        cases this
      · cases h
    · rintro (beyond | @⟨before, after, d, -, recorded, clear, below⟩)
      · exact absurd within beyond
      · have hfind : w.protectedPlaces.find? (·.isPrefixOf place) = some d := by
          refine List.find?_eq_some_iff_append.mpr
            ⟨List.isPrefixOf_iff_prefix.mpr below, before, after, recorded, fun b hb => ?_⟩
          rw [Bool.not_eq_true', Bool.eq_false_iff]
          exact fun h => clear b hb (List.isPrefixOf_iff_prefix.mp h)
        rw [hfind]
  · have beyond : w.root.isPrefixOf place = false :=
      Bool.eq_false_iff.mpr fun h => within (List.isPrefixOf_iff_prefix.mp h)
    rw [beyond, Bool.not_false, if_pos rfl]
    constructor
    · rintro ⟨⟩
      exact .outside within
    · rintro (- | ⟨inside, -, -, -⟩)
      · rfl
      · exact absurd inside within

/-- Why a path is rejected. -/
inductive Rejects (w : Workspace) (t : Tree) (p : Path) : SafetyFault → Prop
  | unresolved {fault : SystemFault} (fails : t.canonicalize (Path.join w.root.path p) = .error fault) :
      Rejects w t p (.unresolved fault)
  | barred {place : Location} {fault : SafetyFault}
      (resolved : t.canonicalize (Path.join w.root.path p) = .ok place)
      (bars : w.Bars place fault) : Rejects w t p fault

theorem validate_eq_error : w.validate t p = .error fault ↔ w.Rejects t p fault := by
  rw [validate]
  constructor
  · intro h
    cases resolved : t.canonicalize (Path.join w.root.path p) with
    | error system =>
      rw [resolved] at h
      cases h
      exact .unresolved resolved
    | ok place =>
      rw [resolved, Except.mapError_ok, Except.ok_bind] at h
      cases checked : w.check place with
      | error fault' =>
        rw [checked] at h
        cases h
        exact .barred resolved (check_eq_error.mp checked)
      | ok =>
        rw [checked] at h
        cases h
  · rintro (fails | ⟨resolved, bars⟩)
    · rw [fails]
      rfl
    · rw [resolved, Except.mapError_ok, Except.ok_bind, check_eq_error.mpr bars]
      rfl

/-- A path and what it comes to below the root are validated alike. -/
theorem validate_join (w : Workspace) (t : Tree) (p : Path) :
    w.validate t (Path.join w.root.path p) = w.validate t p := by
  rw [validate, validate, Path.join_join w.root.isAbsolute_path]

/-- Where a valid path leads is canonical. -/
theorem canonical_of_validate (h : w.validate t p = .ok place) : t.Canonical place := by
  have absolute := Path.isAbsolute_join w.root.isAbsolute_path p
  exact Tree.canonical_of_canonicalize (Tree.canonical_startOf absolute t.here)
    (validate_eq_ok.mp h).1

/-- The path of the place that is handed out is valid too. -/
theorem validate_path (nulFree : t.NulFree) (h : w.validate t p = .ok place) :
    w.validate t place.path = .ok place := by
  obtain ⟨leads, allowed⟩ := validate_eq_ok.mp h
  have fit := Tree.fits_of_canonicalize (Path.isAbsolute_join w.root.isAbsolute_path p) leads
  rw [validate_eq_ok, Path.join_of_isAbsolute place.isAbsolute_path]
  exact ⟨(canonical_of_validate h).canonicalize_path nulFree fit, allowed⟩

/-- **A workspace decides containment.** It keeps the place to which its root led when it was opened,
and the places to which the protected names there led. At any later time a path is valid if it leads
to a place at or below the root that is not at or below one of those; otherwise the first of these
that fails is reported. A relative path is taken below the root, and what is handed out for a path is
handed out for its own path. -/
theorem validate_decides {root : Path} (opened : ofRoot t root = .ok w) (u : Tree) (p : Path) :
    (t.canonicalize root = .ok w.root ∧
      w.protectedPlaces = [".git", "node_modules", "target"].filterMap fun name =>
        (t.canonicalize (Path.join w.root.path name)).toOption) ∧
    (∀ q, w.validate u p = .ok q ↔ u.canonicalize (Path.join w.root.path p) = .ok q ∧
      w.root <+: q ∧ ∀ d ∈ w.protectedPlaces, ¬ d <+: q) ∧
    (∀ fault, w.validate u p = .error fault ↔ w.Rejects u p fault) ∧
    w.validate u (Path.join w.root.path p) = w.validate u p ∧
    (u.NulFree → ∀ q, w.validate u p = .ok q → w.validate u q.path = .ok q) := by
  refine ⟨?_, fun q => ?_, fun fault => validate_eq_error, validate_join w u p,
    fun nulFree q => validate_path nulFree⟩
  · obtain ⟨r, hr, rfl⟩ := ofRoot_eq_ok.mp opened
    exact ⟨hr, rfl⟩
  · rw [validate_eq_ok, check_eq_ok]

/-- A project that a link leads to. Two of its protected names are links, the second to a place below
that of the first. -/
def recordedTree : Tree where
  entries := [
    (["here"], .link "w"),
    (["w"], .directory),
    (["w", ".git"], .link "store"),
    (["w", "store"], .directory),
    (["w", "store", "deps"], .directory),
    (["w", "node_modules"], .link "store/deps")]

/-- What has become of the project: the links are gone, and there are new places. -/
def laterTree : Tree where
  entries := [
    (["w"], .directory),
    (["w", ".git"], .directory),
    (["w", ".git", "a"], .file { content := "a".toUTF8 }),
    (["w", "store"], .directory),
    (["w", "store", "deps"], .directory),
    (["w", "store", "deps", "b"], .file { content := "b".toUTF8 }),
    (["w", "inner"], .link "../w/./.git"),
    (["w", "outer"], .link "../w2/c"),
    (["w", "loop"], .link "loop"),
    (["w2"], .directory),
    (["w2", "c"], .file { content := "c".toUTF8 })]

/-- The workspace of the project. -/
def recordedWorkspace : Workspace := ⟨["w"], [["w", "store"], ["w", "store", "deps"]]⟩

theorem validate_decides_laterTree :
    ofRoot recordedTree "/here" = .ok recordedWorkspace ∧ laterTree.NulFree ∧
      recordedWorkspace.validate laterTree "inner/a" = .ok ["w", ".git", "a"] ∧
      recordedWorkspace.validate laterTree "/w/.git/a" = .ok ["w", ".git", "a"] ∧
      recordedWorkspace.Rejects laterTree "store/deps/b"
        (.forbidden ["w", "store", "deps", "b"] ["w", "store"]) ∧
      recordedWorkspace.Rejects laterTree "outer" (.outside ["w2", "c"] ["w"]) ∧
      recordedWorkspace.Rejects laterTree "../w/loop" (.unresolved .tooManyLinks) := by
  have opened : ofRoot recordedTree "/here" = .ok recordedWorkspace := by decide +kernel
  have nulFree : laterTree.NulFree := by decide +kernel
  have valid : recordedWorkspace.validate laterTree "inner/a" = .ok ["w", ".git", "a"] := by
    decide +kernel
  have path : Location.path ["w", ".git", "a"] = "/w/.git/a" := by decide +kernel
  have decides := validate_decides opened laterTree
  refine ⟨opened, nulFree, valid, ?_, ?_, ?_, ?_⟩
  · rw [← path]
    exact (decides "inner/a").2.2.2.2 nulFree _ valid
  · exact ((decides _).2.2.1 _).mp (by decide +kernel)
  · exact ((decides _).2.2.1 _).mp (by decide +kernel)
  · exact ((decides _).2.2.1 _).mp (by decide +kernel)

end Emend.Workspace
