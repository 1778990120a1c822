import Mathlib.Data.List.Perm.Subperm
import Mathlib.Data.List.Nodup
import Emend.Tree.Edit
import Emend.Proofs.Tree.Shape

/-!
# Changes to a tree

A place for a temporary file is one where nothing stands (`Tree.at?_vacantIn`). A file that was put
there can be changed, moved and taken away, and nothing of it is left (`Tree.rename_create`,
`Tree.remove_create`). What is done to a file in its place comes to a replacement, and one after the
other to the last one.
-/

namespace Emend

namespace Tree

variable {t : Tree} {l : Location}

/-! ### Where nothing stands -/

theorem at?_eq_none : t.at? l = none ↔ l ≠ [] ∧ ∀ entry ∈ t.entries, entry.1 ≠ l := by
  rw [at?]
  cases l with
  | nil => simp
  | cons name rest =>
    simp only [List.isEmpty_cons, Bool.false_eq_true, if_false, List.lookup_eq_none_iff, ne_eq,
      reduceCtorEq, not_false_eq_true, true_and]
    refine forall₂_congr fun entry _ => ?_
    rw [bne_iff_ne, ne_eq, eq_comm]

theorem ne_nil_of_mem_temporaries {directory : Location} (h : l ∈ t.temporaries directory) :
    l ≠ [] := by
  obtain ⟨n, -, rfl⟩ := List.mem_map.mp h
  simp

theorem nodup_temporaries (t : Tree) (directory : Location) : (t.temporaries directory).Nodup := by
  refine List.Nodup.map (fun m n h => ?_) List.nodup_range
  have names : String.ofList (List.replicate m 'x') = String.ofList (List.replicate n 'x') := by
    simpa using h
  simpa using congrArg String.length names

/-- Nothing stands in the place that is found for a temporary file. -/
theorem at?_vacantIn (t : Tree) (directory : Location) : t.at? (t.vacantIn directory) = none := by
  rw [vacantIn]
  cases hfound : (t.temporaries directory).find? fun l => (t.at? l).isNone with
  | some l => simpa using List.find?_some hfound
  | none =>
    -- All of the places would be taken, by fewer entries.
    have taken : t.temporaries directory ⊆ t.entries.map (·.1) := by
      intro l hl
      have stands : t.at? l ≠ none := by simpa using List.find?_eq_none.mp hfound l hl
      by_contra free
      refine stands (at?_eq_none.mpr ⟨ne_nil_of_mem_temporaries hl, ?_⟩)
      rintro entry he rfl
      exact free (List.mem_map_of_mem he)
    have fewer := ((t.nodup_temporaries directory).subperm taken).length_le
    rw [temporaries, List.length_map, List.length_map, List.length_range] at fewer
    omega

/-! ### A file where nothing stood -/

theorem fileAt?_create (h : t.at? l = none) (f : File) : (t.create l f).fileAt? l = some f := by
  have below : l.isEmpty = false := by simpa using (at?_eq_none.mp h).1
  rw [at?, below, if_neg Bool.false_ne_true] at h
  rw [fileAt?_eq_some, at?, below, if_neg Bool.false_ne_true, create, List.lookup_append, h]
  simp

theorem modify_create (h : t.at? l = none) (f : File) (g : File → File) :
    (t.create l f).modify l g = t.create l (g f) := by
  have same : (t.entries.map fun entry => if entry.1 = l then (l, .file (g f)) else entry) =
      t.entries.map id :=
    List.map_congr_left fun entry he => if_neg ((at?_eq_none.mp h).2 entry he)
  rw [modify, fileAt?_create h]
  dsimp only
  rw [replace, create, create, List.map_append, same, List.map_id]
  simp

/-- What was put where nothing stood can be taken away again. -/
theorem remove_create (h : t.at? l = none) (f : File) : (t.create l f).remove l = t := by
  have same : t.entries.filter (fun entry => entry.1 ≠ l) = t.entries :=
    List.filter_eq_self.mpr fun entry he => decide_eq_true ((at?_eq_none.mp h).2 entry he)
  rw [remove, create, List.filter_append, same]
  simp

/-- It can be moved to the place of another file. -/
theorem rename_create (h : t.at? l = none) (f : File) (place : Location) :
    (t.create l f).rename l place = t.replace place f := by
  rw [rename, fileAt?_create h]
  dsimp only
  rw [remove_create h]

/-! ### A file in the place of another one -/

theorem replace_replace (t : Tree) (l : Location) (f g : File) :
    (t.replace l f).replace l g = t.replace l g := by
  rw [replace, replace, replace, List.map_map]
  congr 1
  refine List.map_congr_left fun entry _ => ?_
  by_cases he : entry.1 = l
  · simp [he]
  · simp [he]

theorem modify_of_file {f : File} (h : t.at? l = some (.file f)) (g : File → File) :
    t.modify l g = t.replace l (g f) := by
  rw [modify, fileAt?_eq_some.mpr h]

theorem modify_replace {f : File} (h : t.at? l = some (.file f)) (f' : File) (g : File → File) :
    (t.replace l f').modify l g = t.replace l (g f') := by
  rw [modify_of_file ((at?_replace h l).trans (if_pos rfl)), replace_replace]

end Tree

end Emend
