import Emend.Proofs.Tree.Listing
import Emend.Proofs.Tree.Parent

/-!
# What is suggested

For a path that names nothing, a file in the same directory is suggested that is similar enough in
name, and than which none is more similar (`Tree.Closest`). If there is such a file, one is suggested
(`Tree.suggests_closest`); if there is only one, it is this one, however the directory is listed.

The scores only have to be ordered (`Measure.Ordered`), as those of names are
(`Measure.ordered_nameMeasure`). So all of it rests on two facts: the best of
some scored names is one of them and no other has a greater score (`Measure.best?_best`), and names
that are not similar enough have a smaller score than those that are.
-/

namespace Emend

namespace Measure

variable {α : Type} {m : Measure α} {wanted name : String} {names : List String}

/-- Whether any two scores can be compared. -/
structure Ordered (m : Measure α) : Prop where
  total : ∀ a b, m.le a b = true ∨ m.le b a = true
  trans : ∀ {a b c}, m.le a b = true → m.le b c = true → m.le a c = true

theorem Ordered.refl (ordered : m.Ordered) (a : α) : m.le a a = true :=
  (ordered.total a a).elim id id

/-- Scores are ordered if each has a rank, and the ranks are compared. -/
theorem ordered_of_rank (rank : α → Int) (h : ∀ a b, m.le a b = decide (rank a ≤ rank b)) :
    m.Ordered where
  total a b := by
    rw [h, h, decide_eq_true_iff, decide_eq_true_iff]
    exact Int.le_total (rank a) (rank b)
  trans {a b c} hab hbc := by
    rw [h, decide_eq_true_iff] at hab hbc ⊢
    exact Int.le_trans hab hbc

theorem ordered_nameMeasure : nameMeasure.Ordered := ordered_of_rank Similarity.rank fun _ _ => rfl

/-! ### The best of some names -/

theorem best?_eq_none {le : α → α → Bool} {xs : List (α × String)} :
    best? le xs = none ↔ xs = [] := by
  cases xs with
  | nil => exact iff_of_true rfl rfl
  | cons x xs =>
    refine iff_of_false ?_ (List.cons_ne_nil x xs)
    rw [best?]
    split
    · exact nofun
    · split <;> exact nofun

/-- The best of some scored names is one of them, and none has a greater score. -/
theorem best?_best (ordered : m.Ordered) {xs : List (α × String)} {x : α × String}
    (h : best? m.le xs = some x) : x ∈ xs ∧ ∀ y ∈ xs, m.le y.1 x.1 = true := by
  induction xs generalizing x with
  | nil => cases h
  | cons first xs ih =>
    rw [best?] at h
    split at h
    · next none =>
      obtain rfl := Option.some.inj h
      rw [best?_eq_none.mp none, List.forall_mem_singleton]
      exact ⟨List.mem_singleton_self _, ordered.refl _⟩
    · next best some =>
      obtain ⟨mem, most⟩ := ih some
      split at h
      · next le =>
        obtain rfl := Option.some.inj h
        exact ⟨List.mem_cons_of_mem _ mem, List.forall_mem_cons.mpr ⟨le, most⟩⟩
      · next not_le =>
        obtain rfl := Option.some.inj h
        have le : m.le best.1 first.1 = true := (ordered.total _ _).resolve_left not_le
        exact ⟨List.mem_cons_self, List.forall_mem_cons.mpr
          ⟨ordered.refl _, fun y hy => ordered.trans (most y hy) le⟩⟩

/-! ### The closest of some names -/

/-- Whether a name is similar enough to a wanted one. -/
def Similar (m : Measure α) (wanted name : String) : Prop :=
  m.le m.threshold (m.score wanted name) = true

theorem mem_similar {x : α × String} : x ∈ m.similar wanted names ↔
    ∃ name ∈ names, m.Similar wanted name ∧ x = (m.score wanted name, name) := by
  rw [similar, List.mem_filter, List.mem_map]
  constructor
  · rintro ⟨⟨name, hname, rfl⟩, le⟩
    exact ⟨name, hname, le, rfl⟩
  · rintro ⟨name, hname, le, rfl⟩
    exact ⟨⟨name, hname, rfl⟩, le⟩

theorem closest?_eq_none :
    m.closest? wanted names = none ↔ ∀ name ∈ names, ¬ m.Similar wanted name := by
  rw [closest?, Option.map_eq_none_iff, best?_eq_none, List.eq_nil_iff_forall_not_mem]
  constructor
  · intro none name hname similar
    exact none _ (mem_similar.mpr ⟨name, hname, similar, rfl⟩)
  · intro none x hx
    obtain ⟨name, hname, similar, -⟩ := mem_similar.mp hx
    exact none name hname similar

/-- A name that is not similar enough has a smaller score than one that is. -/
theorem Ordered.le_of_not_similar (ordered : m.Ordered) {other : String}
    (h : ¬ m.Similar wanted other) (similar : m.Similar wanted name) :
    m.le (m.score wanted other) (m.score wanted name) = true :=
  ordered.trans ((ordered.total _ _).resolve_left h) similar

/-- The closest name is one of those that are similar enough, and none has a greater score. -/
theorem closest?_closest (ordered : m.Ordered) (h : m.closest? wanted names = some name) :
    name ∈ names ∧ m.Similar wanted name ∧
      ∀ other ∈ names, m.le (m.score wanted other) (m.score wanted name) = true := by
  obtain ⟨x, best, rfl⟩ := Option.map_eq_some_iff.mp h
  obtain ⟨hx, most⟩ := best?_best ordered best
  obtain ⟨name, hname, similar, rfl⟩ := mem_similar.mp hx
  refine ⟨hname, similar, fun other hother => ?_⟩
  by_cases other_similar : m.Similar wanted other
  · exact most _ (mem_similar.mpr ⟨other, hother, other_similar, rfl⟩)
  · exact ordered.le_of_not_similar other_similar similar

end Measure

/-! ### Suggestions -/

namespace Tree

variable {α : Type} {m : Measure α} {t u : Tree} {missing p : Path} {wanted name : String}

/-- Whether a name is that of a file in a directory which is similar enough to a wanted one, and
than which no other file there is more similar. -/
structure Closest (t : Tree) (m : Measure α) (directory : Path) (wanted name : String) : Prop where
  stands : t.HasFile directory name
  similar : m.Similar wanted name
  most : ∀ other, t.HasFile directory other →
    m.le (m.score wanted other) (m.score wanted name) = true

theorem suggest?_eq_some : t.suggest? m missing = some p ↔
    ∃ wanted name, Path.fileName? missing = some wanted ∧
      m.closest? wanted (t.fileNames (Path.directory missing)) = some name ∧
      p = Path.join (Path.directory missing) name := by
  simp only [suggest?, Option.bind_eq_bind, Option.bind_eq_some_iff, Option.some.injEq]
  constructor
  · rintro ⟨wanted, named, name, closest, rfl⟩
    exact ⟨wanted, name, named, closest, rfl⟩
  · rintro ⟨wanted, name, named, closest, rfl⟩
    exact ⟨wanted, named, name, closest, rfl⟩

theorem suggest?_eq_none : t.suggest? m missing = none ↔
    ∀ wanted, Path.fileName? missing = some wanted →
      m.closest? wanted (t.fileNames (Path.directory missing)) = none := by
  simp only [suggest?, Option.bind_eq_bind, Option.bind_eq_none_iff]
  refine forall₂_congr fun wanted _ => ?_
  cases m.closest? wanted (t.fileNames (Path.directory missing)) <;> simp

/-- What is suggested is closest. -/
theorem closest_of_suggest? (ordered : m.Ordered) (proper : t.Proper)
    (h : t.suggest? m missing = some p) :
    ∃ wanted name, Path.fileName? missing = some wanted ∧
      t.Closest m (Path.directory missing) wanted name ∧
      p = Path.join (Path.directory missing) name := by
  obtain ⟨wanted, name, named, closest, rfl⟩ := suggest?_eq_some.mp h
  obtain ⟨hname, similar, most⟩ := Measure.closest?_closest ordered closest
  exact ⟨wanted, name, named, ⟨proper.mem_fileNames.mp hname, similar,
    fun other hother => most other (proper.mem_fileNames.mpr hother)⟩, rfl⟩

/-- Nothing is suggested if there is nothing to suggest. -/
theorem suggest?_eq_none_iff (proper : t.Proper) : t.suggest? m missing = none ↔
    Path.fileName? missing = none ∨ (∀ place, ¬ t.Lists (Path.directory missing) place) ∨
      ∃ wanted, Path.fileName? missing = some wanted ∧
        ∀ name, t.HasFile (Path.directory missing) name → ¬ m.Similar wanted name := by
  rw [suggest?_eq_none]
  simp only [Measure.closest?_eq_none, proper.mem_fileNames]
  constructor
  · intro none
    cases named : Path.fileName? missing with
    | none => exact .inl rfl
    | some wanted => exact .inr (.inr ⟨wanted, rfl, none wanted named⟩)
  · rintro (unnamed | unlisted | ⟨wanted, named, none⟩) wanted' named'
    · rw [unnamed] at named'
      cases named'
    · rintro name ⟨place, f, lists, -⟩
      exact absurd lists (unlisted place)
    · obtain rfl := Option.some.inj (named.symm.trans named')
      exact none

/-- What is closest in a listing is closest in any other. -/
theorem Closest.relisted {directory : Path} (h : u.Closest m directory wanted name)
    (relisted : t.Relisted u) (proper : t.Proper) : t.Closest m directory wanted name where
  stands := (relisted.hasFile_iff proper).mpr h.stands
  similar := h.similar
  most other hother := h.most other ((relisted.hasFile_iff proper).mp hother)

theorem Relisted.suggest?_eq_none_iff (h : t.Relisted u) (proper : t.Proper) :
    u.suggest? m missing = none ↔ t.suggest? m missing = none := by
  simp only [suggest?_eq_none, Measure.closest?_eq_none, proper.mem_fileNames,
    (proper.relisted h).mem_fileNames, h.hasFile_iff proper]

/-- If there is only one closest file, it does not matter how the directory is listed. -/
theorem Relisted.suggest?_eq (h : t.Relisted u) (ordered : m.Ordered) (proper : t.Proper)
    (unique : ∀ wanted a b, Path.fileName? missing = some wanted →
      t.Closest m (Path.directory missing) wanted a →
      t.Closest m (Path.directory missing) wanted b → a = b) :
    u.suggest? m missing = t.suggest? m missing := by
  cases found : t.suggest? m missing with
  | none => exact (h.suggest?_eq_none_iff proper).mpr found
  | some p =>
    obtain ⟨wanted, a, named, closest, rfl⟩ := closest_of_suggest? ordered proper found
    cases found' : u.suggest? m missing with
    | none =>
      rw [(h.suggest?_eq_none_iff proper).mp found'] at found
      cases found
    | some q =>
      obtain ⟨wanted', b, named', closest', rfl⟩ :=
        closest_of_suggest? ordered (proper.relisted h) found'
      obtain rfl := Option.some.inj (named.symm.trans named')
      rw [unique wanted a b named closest (closest'.relisted h proper)]

/-- **What is suggested is a closest sibling.** If a path is suggested, it is that of a regular file
which stands directly in the directory of the path that is missing, which is similar enough in name,
and than which no other such file is more similar. Nothing is suggested exactly if the path has no
name, its directory cannot be listed, or no such file is similar enough. If there is only one closest
file, the order in which the directory is listed makes no difference.

The directory of a bare name is the one from which relative paths start, and that of a name below
another path is this path. -/
theorem suggests_closest (ordered : m.Ordered) (proper : t.Proper) (missing : Path) :
    let directory := Path.directory missing
    (∀ p, t.suggest? m missing = some p →
      ∃ wanted name, Path.fileName? missing = some wanted ∧ t.Closest m directory wanted name ∧
        p = Path.join directory name) ∧
    (t.suggest? m missing = none ↔
      Path.fileName? missing = none ∨ (∀ place, ¬ t.Lists directory place) ∨
        ∃ wanted, Path.fileName? missing = some wanted ∧
          ∀ name, t.HasFile directory name → ¬ m.Similar wanted name) ∧
    (∀ u, t.Relisted u →
      (∀ wanted a b, Path.fileName? missing = some wanted →
        t.Closest m directory wanted a → t.Closest m directory wanted b → a = b) →
      u.suggest? m missing = t.suggest? m missing) ∧
    ('/' ∉ missing.toList → directory = ".") ∧
    (∀ base name, missing = base ++ "/" ++ name → base ≠ "" →
      (Path.components base).getLast? ≠ some "." → Path.Component name → ¬ Unnamed name →
      directory = base ∧ Path.fileName? missing = some name ∧
        ∀ other, Path.Component other → Path.join directory other = base ++ "/" ++ other) := by
  intro directory
  refine ⟨fun p h => closest_of_suggest? ordered proper h, suggest?_eq_none_iff proper,
    fun u relisted unique => relisted.suggest?_eq ordered proper unique,
    Path.directory_of_not_mem, ?_⟩
  rintro base name rfl ne ends component named
  have parent := Path.directory_slash ne ends component named
  refine ⟨parent, Path.fileName?_slash component named, fun other hother => ?_⟩
  show Path.join (Path.directory (base ++ "/" ++ name)) other = base ++ "/" ++ other
  rw [parent, hother.join_eq ne (Path.endsInSlash_eq_false ends)]

/-- The number of characters with which two names begin. -/
def beginnings : Measure Nat :=
  ⟨fun s t => Similarity.commonStart s.toList t.toList, fun a b => a ≤ b, 3⟩

/-- Two files and a link with similar names. -/
def notes : Tree where
  entries := [
    (["h"], .directory),
    (["h", "notes.tex"], .link "notes.md"),
    (["h", "notes.md"], .file { content := .empty }),
    (["h", "notes.txt"], .file { content := .empty })]
  here := ["h"]

/-- The same files, listed from the last one on. -/
def notesReversed : Tree := { notes with entries := notes.entries.reverse }

theorem suggests_closest_notes :
    beginnings.Ordered ∧ notes.Proper ∧ notes.Relisted notesReversed ∧
    notes.suggest? beginnings "notes.text" = some "./notes.txt" ∧
    notes.Closest beginnings "." "notes.text" "notes.txt" ∧
    notesReversed.suggest? beginnings "notes.text" = some "./notes.txt" ∧
    Path.directory "/h/notes.text" = "/h" ∧
    Path.fileName? "/h/notes.text" = some "notes.text" := by
  have ordered : beginnings.Ordered :=
    Measure.ordered_of_rank Int.ofNat fun a b => decide_eq_decide.mpr Int.ofNat_le.symm
  have proper : notes.Proper := by decide +kernel
  have relisted : notes.Relisted notesReversed := ⟨rfl, (List.reverse_perm _).symm⟩
  have suggested : notes.suggest? beginnings "notes.text" = some "./notes.txt" := by decide +kernel
  have files : notes.fileNames "." = ["notes.md", "notes.txt"] := by decide +kernel
  have only {wanted name : String} (named : Path.fileName? "notes.text" = some wanted)
      (h : notes.Closest beginnings "." wanted name) :
      wanted = "notes.text" ∧ name = "notes.txt" := by
    obtain rfl : "notes.text" = wanted := Option.some.inj named
    have hname := proper.mem_fileNames.mpr h.stands
    rw [files] at hname
    refine ⟨rfl, ?_⟩
    rcases List.mem_pair.mp hname with rfl | rfl
    · have other := h.most "notes.txt" (proper.mem_fileNames.mp (by rw [files]; decide))
      exact absurd other (by decide)
    · rfl
  obtain ⟨closest, -, order, here, -⟩ := suggests_closest ordered proper "notes.text"
  rw [here (by decide)] at closest order
  obtain ⟨wanted, name, named, best, -⟩ := closest _ suggested
  obtain ⟨rfl, rfl⟩ := only named best
  have same := order notesReversed relisted fun wanted a b named ha hb =>
    (only named ha).2.trans (only named hb).2.symm
  obtain ⟨-, -, -, -, below⟩ := suggests_closest ordered proper "/h/notes.text"
  have apart := below "/h" "notes.text" (by decide) (by decide) (by decide) (by decide)
    (not_or.mpr ⟨by decide, by decide⟩)
  exact ⟨ordered, proper, relisted, suggested, best, same.trans suggested, apart.1, apart.2.1⟩

end Tree

end Emend
