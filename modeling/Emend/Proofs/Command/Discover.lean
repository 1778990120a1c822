import Emend.Proofs.Command.Prepare
import Emend.Proofs.Text.Order
import Emend.Proofs.Tree.Listing
import Emend.Proofs.Tree.Parent
import Mathlib.Data.List.TakeDrop

/-!
# Which plans are found

A plan file is a regular file whose name is something and then `.toml` (`PlanFile`). The plan files
of a directory are taken in the order of the bytes of their names, each once
(`planNames_ascending`). Names that are in order are told by what they are, so it does not matter how
a directory is listed (`planNames_relisted`). The plans that are found are those of the first of two
directories that has any (`discoverPlans_finds`).
-/

namespace Emend

variable {t u : Tree} {root l : Location} {directory : Path} {name : String}

/-! ### The names of plan files -/

section SplitName

variable {before after : List Char}

theorem undotted_reverse (last : '.' ∉ after) : ∀ c ∈ after.reverse, (c != '.') = true := by
  intro c hc
  rw [bne_iff_ne]
  rintro rfl
  exact last (List.mem_reverse.mp hc)

/-- What comes after the last dot is split off, if something comes before it. -/
theorem splitName_of_dot (h : name.toList = before ++ '.' :: after) (last : '.' ∉ after)
    (ne : before ≠ []) (not_up : name ≠ "..") :
    (Path.splitName name).2 = some (String.ofList after) := by
  have plain := undotted_reverse last
  have span : name.toList.reverse.span (· != '.') = (after.reverse, '.' :: before.reverse) := by
    rw [h, List.span_eq_takeWhile_dropWhile, List.reverse_append, List.reverse_cons,
      List.append_assoc, List.takeWhile_append_of_pos plain, List.dropWhile_append_of_pos plain]
    simp
  rw [Path.splitName, span]
  cases hb : before.reverse with
  | nil => exact absurd (List.reverse_eq_nil_iff.mp hb) ne
  | cons c more => simp [not_up]

/-- Otherwise nothing is split off. -/
theorem splitName_of_not_mem (last : '.' ∉ after)
    (h : name.toList = after ∨ name.toList = '.' :: after) : (Path.splitName name).2 = none := by
  have plain := undotted_reverse last
  rw [Path.splitName, List.span_eq_takeWhile_dropWhile]
  rcases h with h | h
  · rw [h, List.dropWhile_eq_nil_iff.mpr plain]
  · rw [h, List.reverse_cons, List.dropWhile_append_of_pos plain]
    rfl

end SplitName

theorem splitName_eq_some {after : String} (not_up : name ≠ "..") :
    (Path.splitName name).2 = some after ↔
      '.' ∉ after.toList ∧ ∃ stem ≠ "", name = stem ++ "." ++ after := by
  constructor
  · intro h
    by_cases dot : '.' ∈ name.toList.reverse
    · -- The last dot is the first one from the end.
      obtain ⟨u, v, heq, last⟩ := List.eq_append_cons_of_mem dot
      have whole : name.toList = v.reverse ++ '.' :: u.reverse := by
        rw [← List.reverse_reverse name.toList, heq]
        simp
      have last' : '.' ∉ u.reverse := by simpa using last
      by_cases ne : v.reverse = []
      · rw [splitName_of_not_mem last' (.inr (by rw [whole, ne]; rfl))] at h
        cases h
      · rw [splitName_of_dot whole last' ne not_up] at h
        obtain rfl := Option.some.inj h
        refine ⟨by simpa using last', String.ofList v.reverse, ?_, ?_⟩
        · exact fun empty => ne (String.ofList_eq_empty_iff.mp empty)
        · refine String.toList_inj.mp ?_
          simp [whole]
    · rw [splitName_of_not_mem (by simpa using dot) (.inl rfl)] at h
      cases h
  · rintro ⟨last, stem, ne, rfl⟩
    have split : (stem ++ "." ++ after).toList = stem.toList ++ '.' :: after.toList := by simp
    rw [splitName_of_dot split last (by simpa using ne) not_up, String.ofList_toList]

/-- A plan file is named by something and then `.toml`. -/
theorem isPlanName_iff (component : Path.Component name) :
    isPlanName name = true ↔ ∃ stem ≠ "", name = stem ++ ".toml" := by
  have ending (stem : String) : stem ++ ".toml" = stem ++ "." ++ "toml" := by
    rw [String.append_assoc]
    rfl
  by_cases unnamed : Tree.Unnamed name
  · -- Neither a dot nor a step up is long enough.
    have short : name.length < 5 := by rcases unnamed with rfl | rfl <;> decide
    have refused : isPlanName name = false := by rcases unnamed with rfl | rfl <;> decide
    rw [refused]
    refine iff_of_false Bool.false_ne_true ?_
    rintro ⟨stem, -, rfl⟩
    have long : (stem ++ ".toml").length = stem.length + 5 := String.length_append stem ".toml"
    omega
  · have not_up : name ≠ ".." := fun up => unnamed (.inr up)
    rw [isPlanName, Path.extension?, component.fileName?_eq unnamed, beq_iff_eq,
      Option.bind_some, splitName_eq_some not_up]
    simp only [ending]
    constructor
    · exact And.right
    · exact fun h => ⟨by decide, h⟩

/-! ### The plan files of a directory -/

/-- Whether a name is that of a plan file which stands directly in a directory. -/
structure PlanFile (t : Tree) (directory : Path) (name : String) : Prop where
  stands : t.HasFile directory name
  named : ∃ stem ≠ "", name = stem ++ ".toml"

/-- Whether names are in the order of their bytes, each once. -/
def Ascending (names : List String) : Prop :=
  names.Pairwise fun a b => Text.bytes a < Text.bytes b

theorem mem_planNames (proper : t.Proper) :
    name ∈ planNames t directory ↔ PlanFile t directory name := by
  rw [planNames, List.mem_mergeSort, List.mem_filter, proper.mem_fileNames]
  constructor
  · rintro ⟨stands, plan⟩
    exact ⟨stands, (isPlanName_iff (proper.component_of_hasFile stands)).mp plan⟩
  · rintro ⟨stands, named⟩
    exact ⟨stands, (isPlanName_iff (proper.component_of_hasFile stands)).mpr named⟩

theorem planNames_sorted (t : Tree) (directory : Path) :
    (planNames t directory).Pairwise (· ≤ ·) := by
  rw [planNames]
  refine (List.pairwise_mergeSort (fun a b c hab hbc => ?_) (fun a b => ?_) _).imp of_decide_eq_true
  · exact decide_eq_true (String.le_trans (of_decide_eq_true hab) (of_decide_eq_true hbc))
  · simpa using String.le_total a b

theorem planNames_perm (t : Tree) (directory : Path) :
    (planNames t directory).Perm ((t.fileNames directory).filter isPlanName) :=
  List.mergeSort_perm ..

/-- The plan files are in the order of their names, each once. -/
theorem planNames_ascending (proper : t.Proper) (directory : Path) :
    Ascending (planNames t directory) := by
  have distinct : (planNames t directory).Nodup :=
    (planNames_perm t directory).nodup_iff.mpr ((proper.nodup_fileNames directory).filter _)
  refine ((planNames_sorted t directory).and distinct).imp ?_
  rintro a b ⟨le, ne⟩
  refine Text.bytes_lt ?_
  by_contra not_lt
  exact ne (String.le_antisymm le not_lt)

/-- It does not matter how the directory is listed. -/
theorem planNames_relisted (h : t.Relisted u) (proper : t.Proper) (directory : Path) :
    planNames t directory = planNames u directory := by
  have perm : (planNames t directory).Perm (planNames u directory) :=
    (planNames_perm t directory).trans
      (((h.fileNames_perm proper directory).filter _).trans (planNames_perm u directory).symm)
  exact perm.eq_of_pairwise (fun a b _ _ => String.le_antisymm) (planNames_sorted t directory)
    (planNames_sorted u directory)

/-! ### The first directory with plans -/

/-- From where the plans for a project are taken. -/
inductive Source (t : Tree) (root : Location) : Location → Prop
  | project {name : String} (found : PlanFile t (planDirectory root) name) : Source t root root
  | here {name : String} (missing : ∀ name, ¬ PlanFile t (planDirectory root) name)
      (found : PlanFile t (planDirectory t.here) name) : Source t root t.here

theorem exists_planDirectory_eq (l : Location) : ∃ base, planDirectory l = base ++ "fixes" := by
  rw [planDirectory, Path.join, if_neg (by decide)]
  split
  · exact ⟨_, rfl⟩
  · exact ⟨_, rfl⟩

/-- The directory for plans ends in a name, so what is put below it comes after a slash. -/
theorem planFiles_eq (proper : t.Proper) (l : Location) :
    planFiles t (planDirectory l) =
      (planNames t (planDirectory l)).map (planDirectory l ++ "/" ++ ·) := by
  refine List.map_congr_left fun name hname => ?_
  have component := proper.component_of_hasFile ((mem_planNames proper).mp hname).stands
  obtain ⟨base, heq⟩ := exists_planDirectory_eq l
  rw [heq]
  exact component.join_eq (by simp) (by simp [Path.endsInSlash])

theorem planNames_eq_nil (proper : t.Proper) :
    planNames t directory = [] ↔ ∀ name, ¬ PlanFile t directory name := by
  simp only [List.eq_nil_iff_forall_not_mem, mem_planNames proper]

theorem discoverPlans_eq (t : Tree) (root : Location) :
    discoverPlans t root =
      if planNames t (planDirectory root) = [] then
        if planNames t (planDirectory t.here) = [] then none
        else some (planFiles t (planDirectory t.here))
      else some (planFiles t (planDirectory root)) := by
  have isEmpty_planFiles (directory : Path) :
      (planFiles t directory).isEmpty = decide (planNames t directory = []) := by
    rw [planFiles, List.isEmpty_map]
    cases planNames t directory <;> simp
  rw [discoverPlans, List.map_cons, List.find?_cons, isEmpty_planFiles]
  by_cases project : planNames t (planDirectory root) = []
  · rw [if_pos project, decide_eq_true project, Bool.not_true, List.map_cons, List.find?_cons,
      isEmpty_planFiles]
    by_cases here : planNames t (planDirectory t.here) = []
    · rw [if_pos here, decide_eq_true here]
      rfl
    · rw [if_neg here, decide_eq_false here]
      rfl
  · rw [if_neg project, decide_eq_false project]
    rfl

namespace Source

/-- The plans are those of the directory from where they are to be taken. -/
theorem discoverPlans_eq (source : Source t root l) (proper : t.Proper) :
    discoverPlans t root = some (planFiles t (planDirectory l)) := by
  rw [Emend.discoverPlans_eq]
  cases source with
  | project found => rw [if_neg fun none => (planNames_eq_nil proper).mp none _ found]
  | here missing found =>
    rw [if_pos ((planNames_eq_nil proper).mpr missing),
      if_neg fun none => (planNames_eq_nil proper).mp none _ found]

end Source

/-- There are no plans exactly if there are none in either directory. -/
theorem discoverPlans_eq_none (proper : t.Proper) :
    discoverPlans t root = none ↔
      ∀ l ∈ [root, t.here], ∀ name, ¬ PlanFile t (planDirectory l) name := by
  rw [discoverPlans_eq, List.forall_mem_cons, List.forall_mem_singleton,
    ← planNames_eq_nil proper, ← planNames_eq_nil proper]
  by_cases project : planNames t (planDirectory root) = []
  · by_cases here : planNames t (planDirectory t.here) = []
    · simp [project, here]
    · simp [project, here]
  · simp [project]

theorem files_yields_ok {s : Session} {files : List Path} (h : discoverPlans t root = some files) :
    Step.Yields (s.files t root none) (.ok files) := by
  have yields := s.files_yields t root none
  rwa [Session.filesOf, h] at yields

theorem files_yields_error {s : Session} :
    Step.Yields (s.files t root none) (.error (.noPlans root.path)) ↔ discoverPlans t root = none := by
  have yields := s.files_yields t root none
  rw [Session.filesOf] at yields
  constructor
  · intro h
    have same := (yields {}).symm.trans (h {})
    cases hfound : discoverPlans t root with
    | none => rfl
    | some files =>
      rw [hfound] at same
      cases same
  · intro h
    rwa [h] at yields

/-- **Which plans are found.** For a project at a root, the plans are taken from `fixes` at the root
if there is a plan file in this directory, and else from `fixes` in the directory from which relative
paths start. They are the plan files that stand directly in it, in the order of the bytes of their
names, each once. If there are none in either directory, and only then, it is reported that there are
none. The order in which directories are listed makes no difference. -/
theorem discoverPlans_finds (proper : t.Proper) (root : Location) (s : Session) :
    (∀ l, Source t root l → ∃ names,
      discoverPlans t root = some (names.map (planDirectory l ++ "/" ++ ·)) ∧
      Step.Yields (s.files t root none) (.ok (names.map (planDirectory l ++ "/" ++ ·))) ∧
      (∀ name, name ∈ names ↔ PlanFile t (planDirectory l) name) ∧ Ascending names) ∧
    (Step.Yields (s.files t root none) (.error (.noPlans root.path)) ↔
      ∀ l ∈ [root, t.here], ∀ name, ¬ PlanFile t (planDirectory l) name) ∧
    (∀ u, t.Relisted u → discoverPlans u root = discoverPlans t root) := by
  refine ⟨fun l source => ?_, ?_, fun u relisted => ?_⟩
  · have found := source.discoverPlans_eq proper
    rw [planFiles_eq proper l] at found
    exact ⟨planNames t (planDirectory l), found, files_yields_ok found,
      fun _ => mem_planNames proper, planNames_ascending proper _⟩
  · rw [files_yields_error, discoverPlans_eq_none proper]
  · rw [discoverPlans_eq, discoverPlans_eq, planFiles, planFiles, planFiles, planFiles,
      planNames_relisted relisted proper, planNames_relisted relisted proper, relisted.here]

/-- A project whose directory for plans has none: a file that is only named `.toml`, a link and a
directory. There are plans where relative paths start, and another one further down. -/
def borrowingProject : Tree where
  entries := [
    (["w"], .directory),
    (["w", "fixes"], .directory),
    (["w", "fixes", ".toml"], .file { content := .empty }),
    (["w", "fixes", "a.toml"], .link ".toml"),
    (["w", "fixes", "d.toml"], .directory),
    (["h"], .directory),
    (["h", "fixes"], .directory),
    (["h", "fixes", "b.toml"], .file { content := .empty }),
    (["h", "fixes", "a.toml"], .file { content := .empty }),
    (["h", "fixes", "d"], .directory),
    (["h", "fixes", "d", "c.toml"], .file { content := .empty })]
  here := ["h"]

theorem discoverPlans_finds_borrowingProject :
    borrowingProject.Proper ∧ Source borrowingProject ["w"] ["h"] ∧
    borrowingProject.Relisted { borrowingProject with
      entries := borrowingProject.entries.reverse } ∧
    (∃ names, discoverPlans borrowingProject ["w"] = some (names.map ("/h/fixes" ++ "/" ++ ·)) ∧
      "a.toml" ∈ names ∧ "b.toml" ∈ names ∧ "c.toml" ∉ names ∧ Ascending names) ∧
    discoverPlans { borrowingProject with entries := borrowingProject.entries.reverse } ["w"] =
      discoverPlans borrowingProject ["w"] := by
  have proper : borrowingProject.Proper := by decide +kernel
  have planFile {directory : Path} {name : String} : PlanFile borrowingProject directory name ↔
      name ∈ (borrowingProject.fileNames directory).filter isPlanName := by
    rw [← mem_planNames proper, planNames, List.mem_mergeSort]
  have project : planDirectory ["w"] = "/w/fixes" := by decide +kernel
  have here : planDirectory ["h"] = "/h/fixes" := by decide +kernel
  have in_project : (borrowingProject.fileNames "/w/fixes").filter isPlanName = [] := by
    decide +kernel
  have in_here : (borrowingProject.fileNames "/h/fixes").filter isPlanName =
      ["b.toml", "a.toml"] := by decide +kernel
  have source : Source borrowingProject ["w"] ["h"] := by
    have found : PlanFile borrowingProject (planDirectory ["h"]) "a.toml" := by
      rw [planFile, here, in_here]
      decide
    refine .here (fun name => ?_) found
    rw [planFile, project, in_project]
    exact List.not_mem_nil
  have relisted : borrowingProject.Relisted { borrowingProject with
      entries := borrowingProject.entries.reverse } := ⟨rfl, (List.reverse_perm _).symm⟩
  obtain ⟨finds, -, order⟩ := discoverPlans_finds proper ["w"] default
  obtain ⟨names, found, -, members, ascending⟩ := finds ["h"] source
  rw [here] at found members
  refine ⟨proper, source, relisted, ⟨names, found, ?_, ?_, ?_, ascending⟩, order _ relisted⟩
  · rw [members, planFile, in_here]
    decide
  · rw [members, planFile, in_here]
    decide
  · rw [members, planFile, in_here]
    decide

end Emend
