import Emend.Proofs.Except
import Emend.Proofs.Tree.Canonical
import Emend.Proofs.Tree.Shape
import Mathlib.Data.List.Nodup
import Mathlib.Data.List.Perm.Basic

/-!
# What is listed of a directory

In a tree that there can be (`Tree.Proper`), one thing stands at a place. So what is listed of a
directory are the regular files that stand directly in it (`Tree.Proper.mem_fileNames`), each once
(`Tree.Proper.nodup_fileNames`). The order in which they are listed is that of the entries, which
means nothing: for the same entries in another order (`Tree.Relisted`), all paths lead to the same
places, and the same names are listed in some order (`Tree.Relisted.fileNames_perm`).
-/

namespace Emend

instance (name : String) : Decidable (Path.Component name) :=
  decidable_of_iff (name ≠ "" ∧ '/' ∉ name.toList)
    ⟨fun h => ⟨h.1, h.2⟩, fun h => ⟨h.ne_empty, h.no_slash⟩⟩

namespace Tree

/-- Whether a tree is one that there can be. -/
structure Proper (t : Tree) : Prop where
  /-- One thing stands at a place. -/
  distinct : (t.entries.map (·.1)).Nodup
  /-- Everything has a name, and so has everything above it. -/
  named : ∀ entry ∈ t.entries, ∀ name ∈ entry.1, Path.Component name

instance (t : Tree) : Decidable t.Proper :=
  decidable_of_iff ((t.entries.map (·.1)).Nodup ∧
      ∀ entry ∈ t.entries, ∀ name ∈ entry.1, Path.Component name)
    ⟨fun h => ⟨h.1, h.2⟩, fun h => ⟨h.distinct, h.named⟩⟩

/-- Whether two trees are the same, but for the order in which their directories are listed. -/
structure Relisted (t u : Tree) : Prop where
  here : t.here = u.here
  entries : t.entries.Perm u.entries

/-- Whether a path names the directory at a place. -/
structure Lists (t : Tree) (directory : Path) (place : Location) : Prop where
  leads : t.find directory = .ok place
  dir : t.isDirectoryAt place = true

/-- Whether a path names a directory, and a regular file stands directly in it under a name. -/
def HasFile (t : Tree) (directory : Path) (name : String) : Prop :=
  ∃ place f, t.Lists directory place ∧ t.at? (place ++ [name]) = some (.file f)

variable {t u : Tree} {l place : Location} {directory : Path} {name : String} {e : Entry}

theorem lists_iff : t.Lists directory place ↔
    t.find directory = .ok place ∧ t.isDirectoryAt place = true :=
  ⟨fun h => ⟨h.leads, h.dir⟩, fun h => ⟨h.1, h.2⟩⟩

/-! ### Entries and places -/

namespace Proper

/-- What stands at a place is what the entries say of it. -/
theorem at?_eq_some (proper : t.Proper) (ne : l ≠ []) : t.at? l = some e ↔ (l, e) ∈ t.entries := by
  constructor
  · intro h
    exact exists_mem_of_at? h ne
  · intro h
    rw [at?, if_neg (by simpa using ne), List.lookup_eq_some_iff]
    obtain ⟨before, after, heq⟩ := List.append_of_mem h
    refine ⟨before, after, heq, fun entry hentry => ?_⟩
    have distinct := proper.distinct
    rw [heq, List.map_append, List.map_cons] at distinct
    have apart : l ∉ before.map (·.1) := fun hmem =>
      (List.nodup_middle.mp distinct).notMem (List.mem_append_left _ hmem)
    simpa using fun same : l = entry.1 => apart (same ▸ List.mem_map_of_mem hentry)

theorem component_of_hasFile (proper : t.Proper) (h : t.HasFile directory name) :
    Path.Component name := by
  obtain ⟨place, f, -, stands⟩ := h
  have hmem := exists_mem_of_at? stands (List.concat_ne_nil _ _)
  exact proper.named _ hmem name (List.mem_append_right _ List.mem_cons_self)

theorem relisted (proper : t.Proper) (h : t.Relisted u) : u.Proper where
  distinct := (h.entries.map (·.1)).nodup_iff.mp proper.distinct
  named entry hentry := proper.named entry (h.entries.mem_iff.mpr hentry)

end Proper

namespace Relisted

/-- The same stands at each place. -/
theorem at?_eq (h : t.Relisted u) (proper : t.Proper) (l : Location) : t.at? l = u.at? l := by
  by_cases top : l = []
  · subst top
    rfl
  · refine Option.ext fun e => ?_
    rw [proper.at?_eq_some top, (proper.relisted h).at?_eq_some top, h.entries.mem_iff]

theorem sameShape (h : t.Relisted u) (proper : t.Proper) : t.SameShape u where
  here := h.here
  outline l := by rw [h.at?_eq proper]

theorem hasFile_iff (h : t.Relisted u) (proper : t.Proper) :
    t.HasFile directory name ↔ u.HasFile directory name := by
  have shape := h.sameShape proper
  have lists (place : Location) : t.Lists directory place ↔ u.Lists directory place := by
    rw [lists_iff, lists_iff, shape.find_eq, shape.isDirectoryAt_eq]
  simp only [HasFile, lists, h.at?_eq proper]

end Relisted

/-! ### Files of a directory -/

/-- What an entry of a tree is in a directory, if it stands directly in it. -/
def childOf? (l : Location) (entry : Location × Entry) : Option (String × Entry) :=
  match entry.1.getLast? with
  | some name => if entry.1.dropLast = l then some (name, entry.2) else none
  | none => none

theorem childOf?_eq_some {entry : Location × Entry} {child : String × Entry} :
    childOf? l entry = some child ↔ entry = (l ++ [child.1], child.2) := by
  obtain ⟨k, e⟩ := entry
  unfold childOf?
  constructor
  · intro h
    split at h
    · next name last =>
      split at h
      · next parent =>
        obtain rfl := Option.some.inj h
        have whole : l ++ [name] = k := by
          rw [← parent]
          exact List.dropLast_append_getLast? name last
        rw [whole]
      · cases h
    · cases h
  · intro h
    obtain ⟨rfl, rfl⟩ := Prod.mk.inj h
    simp

/-- The name of a child of a directory, if it is a regular file. -/
def regular? : String × Entry → Option String
  | (name, .file _) => some name
  | _ => none

theorem regular?_eq_some {child : String × Entry} :
    regular? child = some name ↔ ∃ f, child = (name, .file f) := by
  obtain ⟨name', e⟩ := child
  cases e <;> simp [regular?]

theorem children_eq (t : Tree) (l : Location) :
    t.children l = t.entries.filterMap (childOf? l) := rfl

/-- The names of the regular files at a place. -/
def filesAt (t : Tree) (l : Location) : List String := (t.children l).filterMap regular?

theorem Lists.fileNames_eq (h : t.Lists directory place) :
    t.fileNames directory = t.filesAt place := by
  have listed : t.list directory = .ok (t.children place) := by
    rw [list, h.leads, Except.ok_bind, if_pos h.dir]
    rfl
  rw [fileNames, listed]
  refine List.filterMap_congr fun entry _ => ?_
  obtain ⟨name, e⟩ := entry
  cases e <;> rfl

/-- Nothing is listed of a path that names no directory. -/
theorem fileNames_of_not_lists (h : ∀ place, ¬ t.Lists directory place) :
    t.fileNames directory = [] := by
  have refused : ∃ fault, t.list directory = .error fault := by
    rw [list]
    cases leads : t.find directory with
    | error fault => exact ⟨fault, rfl⟩
    | ok place =>
      rw [Except.ok_bind, if_neg fun dir => h place ⟨leads, dir⟩]
      exact ⟨_, rfl⟩
  obtain ⟨fault, listed⟩ := refused
  rw [fileNames, listed]

theorem mem_filesAt : name ∈ t.filesAt l ↔ ∃ f, (l ++ [name], .file f) ∈ t.entries := by
  simp only [filesAt, children_eq, List.mem_filterMap, childOf?_eq_some, regular?_eq_some]
  constructor
  · rintro ⟨_, ⟨_, h, rfl⟩, f, rfl⟩
    exact ⟨f, h⟩
  · rintro ⟨f, h⟩
    exact ⟨(name, .file f), ⟨_, h, rfl⟩, f, rfl⟩

theorem Proper.nodup_filesAt (proper : t.Proper) (l : Location) : (t.filesAt l).Nodup := by
  have apart : t.entries.Pairwise fun a b => a.1 ≠ b.1 := List.pairwise_map.mp proper.distinct
  have children_apart : (t.children l).Pairwise fun a b => a.1 ≠ b.1 := by
    rw [children_eq]
    refine apart.filterMap _ fun a b differ child ha child' hb same => differ ?_
    rw [childOf?_eq_some.mp ha, childOf?_eq_some.mp hb, same]
  refine children_apart.filterMap _ fun a b differ name ha name' hb same => differ ?_
  obtain ⟨_, rfl⟩ := regular?_eq_some.mp ha
  obtain ⟨_, rfl⟩ := regular?_eq_some.mp hb
  exact same

namespace Proper

/-- The names that are listed are those of the regular files of the directory, -/
theorem mem_fileNames (proper : t.Proper) :
    name ∈ t.fileNames directory ↔ t.HasFile directory name := by
  have below (place : Location) : place ++ [name] ≠ [] := List.concat_ne_nil _ _
  constructor
  · intro h
    by_cases found : ∃ place, t.Lists directory place
    · obtain ⟨place, lists⟩ := found
      rw [lists.fileNames_eq, mem_filesAt] at h
      obtain ⟨f, hmem⟩ := h
      exact ⟨place, f, lists, (proper.at?_eq_some (below place)).mpr hmem⟩
    · rw [fileNames_of_not_lists (not_exists.mp found)] at h
      cases h
  · rintro ⟨place, f, lists, stands⟩
    rw [lists.fileNames_eq, mem_filesAt]
    exact ⟨f, (proper.at?_eq_some (below place)).mp stands⟩

/-- each once. -/
theorem nodup_fileNames (proper : t.Proper) (directory : Path) :
    (t.fileNames directory).Nodup := by
  by_cases found : ∃ place, t.Lists directory place
  · obtain ⟨place, lists⟩ := found
    rw [lists.fileNames_eq]
    exact proper.nodup_filesAt place
  · rw [fileNames_of_not_lists (not_exists.mp found)]
    exact List.nodup_nil

end Proper

/-- In another order, the same names are listed. -/
theorem Relisted.fileNames_perm (h : t.Relisted u) (proper : t.Proper) (directory : Path) :
    (t.fileNames directory).Perm (u.fileNames directory) := by
  rw [List.perm_ext_iff_of_nodup (proper.nodup_fileNames directory)
    ((proper.relisted h).nodup_fileNames directory)]
  intro name
  rw [proper.mem_fileNames, (proper.relisted h).mem_fileNames, h.hasFile_iff proper]

end Tree

end Emend
