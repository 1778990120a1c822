import Emend.Tree.Resolve

/-!
# The shape of a tree

Where a path leads depends on directories and links only, and not on what files hold. Two trees
have the same shape (`Tree.SameShape`) if they agree on all of it; then every walk, and so every
question about a path that is answered by a walk, has the same answer in both.

Putting a file in the place of a file keeps the shape (`sameShape_replace`). This is why a run,
which does nothing else to a tree, never changes where the targets of later fixes lead.
-/

namespace Emend

/-- An entry without what a file holds. -/
def Entry.outline : Entry → Entry
  | file _ => file default
  | directory => directory
  | link target => link target

namespace Tree

theorem fileAt?_eq_some {t : Tree} {l : Location} {f : File} :
    t.fileAt? l = some f ↔ t.at? l = some (.file f) := by
  unfold fileAt?
  split
  · simp_all
  · constructor
    · intro h
      cases h
    · intro h
      simp_all

/-! ### What stands where after a file has been replaced -/

theorem lookup_replaceEntry (entries : List (Location × Entry)) (l k : Location) (f : File) :
    (entries.map fun entry => if entry.1 = l then (l, .file f) else entry).lookup k =
      if k = l then (entries.lookup k).map fun _ => .file f else entries.lookup k := by
  induction entries with
  | nil => simp
  | cons entry rest ih =>
    obtain ⟨m, e⟩ := entry
    rw [List.map_cons]
    by_cases hm : m = l
    · subst hm
      rw [if_pos rfl]
      by_cases hk : k = m
      · subst hk
        simp
      · have hne : (k == m) = false := by simpa using hk
        rw [List.lookup_cons, List.lookup_cons, hne, ih]
    · rw [if_neg hm]
      by_cases hk : k = m
      · subst hk
        simp [hm]
      · have hne : (k == m) = false := by simpa using hk
        rw [List.lookup_cons, List.lookup_cons, hne, ih]

/-- Where a file stands, a replacement puts the new file, and it changes nothing elsewhere. -/
theorem at?_replace {t : Tree} {l : Location} {f g : File} (h : t.at? l = some (.file f))
    (k : Location) :
    (t.replace l g).at? k = if k = l then some (.file g) else t.at? k := by
  have hl : l.isEmpty = false := by
    cases l with
    | nil => simp [at?] at h
    | cons => rfl
  simp only [at?, replace, lookup_replaceEntry]
  by_cases hk : k = l
  · subst hk
    simp only [at?, hl] at h
    simp_all
  · simp [hk]

/-- A replacement neither adds nor removes places. -/
theorem keys_replace (t : Tree) (l : Location) (f : File) :
    (t.replace l f).entries.map (·.1) = t.entries.map (·.1) := by
  rw [replace, List.map_map]
  refine List.map_congr_left fun entry _ => ?_
  by_cases he : entry.1 = l
  · simp [he]
  · simp [he]

/-! ### Trees of the same shape -/

/-- Whether two trees differ at most in what their files hold. -/
structure SameShape (t u : Tree) : Prop where
  here : t.here = u.here
  outline : ∀ l, (t.at? l).map Entry.outline = (u.at? l).map Entry.outline

namespace SameShape

variable {t u v : Tree}

theorem refl (t : Tree) : SameShape t t := ⟨rfl, fun _ => rfl⟩

theorem symm (h : SameShape t u) : SameShape u t := ⟨h.here.symm, fun l => (h.outline l).symm⟩

theorem trans (h : SameShape t u) (h' : SameShape u v) : SameShape t v :=
  ⟨h.here.trans h'.here, fun l => (h.outline l).trans (h'.outline l)⟩

/-- The entries at a place are of one kind, and links lead to one path. -/
theorem entries (h : SameShape t u) (l : Location) :
    (t.at? l = none ∧ u.at? l = none) ∨
      (∃ f g, t.at? l = some (.file f) ∧ u.at? l = some (.file g)) ∨
      (t.at? l = some .directory ∧ u.at? l = some .directory) ∨
      ∃ target, t.at? l = some (.link target) ∧ u.at? l = some (.link target) := by
  have hl := h.outline l
  rcases ht : t.at? l with _ | _ | _ | p <;> rcases hu : u.at? l with _ | _ | _ | q <;>
    simp_all [Entry.outline]

theorem isDirectoryAt_eq (h : SameShape t u) (l : Location) :
    t.isDirectoryAt l = u.isDirectoryAt l := by
  rcases h.entries l with ⟨ht, hu⟩ | ⟨_, _, ht, hu⟩ | ⟨ht, hu⟩ | ⟨_, ht, hu⟩ <;>
    simp [isDirectoryAt, ht, hu]

/-- A walk passes the same places in both trees. -/
theorem walk_eq (h : SameShape t u) (fits : Path → Bool) (l : Location) (names : List String) :
    t.walk fits l names = u.walk fits l names := by
  induction names generalizing l with
  | nil => rfl
  | cons name rest ih =>
    rw [walk, walk, h.isDirectoryAt_eq l, ih l, ih l.dropLast]
    rcases h.entries (l ++ [name]) with ⟨ht, hu⟩ | ⟨_, _, ht, hu⟩ | ⟨ht, hu⟩ | ⟨_, ht, hu⟩ <;>
      simp [ht, hu, ih]

theorem follow_eq (h : SameShape t u) (fits : Path → Bool) (links : Nat) (l : Location)
    (names : List String) : t.follow fits links l names = u.follow fits links l names := by
  induction links generalizing l names with
  | zero => rw [follow, follow, h.walk_eq]
  | succ links ih =>
    rw [follow, follow, h.walk_eq]
    cases u.walk fits l names with
    | arrived _ => rfl
    | failed _ => rfl
    | met directory target rest => exact ih ..

theorem locate_eq (h : SameShape t u) (fits : Path → Bool) (p : Path) :
    t.locate fits p = u.locate fits p := by
  rw [locate, locate, h.here, h.follow_eq]

theorem canonicalize_eq (h : SameShape t u) (p : Path) : t.canonicalize p = u.canonicalize p :=
  h.locate_eq Path.fits p

theorem find_eq (h : SameShape t u) (p : Path) : t.find p = u.find p := by
  rw [find, find, h.locate_eq]

theorem exists_eq (h : SameShape t u) (p : Path) : t.exists p = u.exists p := by
  rw [Tree.exists, Tree.exists, h.find_eq]

end SameShape

/-- A file in the place of a file leaves the shape as it is. -/
theorem sameShape_replace {t : Tree} {l : Location} {f : File} (h : t.at? l = some (.file f))
    (g : File) : SameShape t (t.replace l g) := by
  refine ⟨rfl, fun k => ?_⟩
  rw [at?_replace h]
  by_cases hk : k = l
  · subst hk
    rw [if_pos rfl, h]
    rfl
  · rw [if_neg hk]

end Tree

end Emend
