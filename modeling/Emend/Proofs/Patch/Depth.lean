import Emend.Proofs.Patch.Step
import Emend.Proofs.Tree.Canonical

/-!
# Files that lie too deep

The name of a temporary file may be longer than that of the file beside which it is made. If the path
of the file just fits, that of the temporary file does not, and the text cannot be put in its place by
anybody. So it is known of such a file what a dry run makes of it, and that it cannot be had
(`Engine.succeeded_iff_of_deep`).

There are such files at the bottom of towers of directories (`Tree.tower`), and those that lie deeper
still. They are found by a path through a link, which fits; the path without the link does not, and
so it is known that something is there, but not where (`Tree.canonicalize_linkPath`).
-/

namespace Emend

/-! ### Any such file -/

namespace Engine

variable {e : Engine} {t : Tree} {target : Path} {place : Location} {f : File} {text : String}
  {fix : Fix}

/-- The path of a canonical place leads to the text that is there, if it fits and nothing forbids. -/
theorem finds_path (free : e.workspace = none) (system : e.system = .superuser)
    (canonical : t.Canonical place) (nulFree : t.NulFree) (fit : Path.fits place.path = true)
    (stands : t.at? place = some (.file f)) (readable : f.text? = some text) :
    e.Finds t place.path place f text where
  resolved := by
    have joined (base : Path) : Path.join base place.path = place.path :=
      Path.join_of_isAbsolute place.isAbsolute_path base
    refine resolve_eq_ok.mpr ⟨?_, ?_, fun w guarded => ?_⟩
    · rw [joined, Tree.exists, canonical.find_path nulFree fit]
      rfl
    · rw [pathOf, free]
      dsimp only
      rw [joined, canonical.canonicalize_path nulFree fit]
    · rw [free] at guarded
      cases guarded
  reads := by
    rw [readAt_eq_ok, system]
    exact ⟨rfl, stands, readable⟩

/-- **A file can lie too deep to be rewritten.** Though its text is found and anybody may write to it,
even a superuser makes a fix there only as long as it is not written. -/
theorem succeeded_iff_of_deep (system : e.system = .superuser)
    (finds : e.Finds t fix.target place f text)
    (deep : Path.fits (System.temporaryPath place) = false) :
    (e.apply t fix).1.succeeded = true ↔ e.mode = .dryRun := by
  rw [succeeded_apply_iff]
  constructor
  · rintro ⟨place', f', text', ready⟩
    obtain ⟨rfl, rfl, rfl⟩ := finds.unique ready.toFinds
    have writes := ready.writes
    rw [ending, system] at writes
    cases mode : e.mode with
    | dryRun => rfl
    | write =>
      rw [mode] at writes
      dsimp only at writes
      split at writes
      · cases writes
      · rw [System.ending_superuser, deep] at writes
        cases writes
  · intro mode
    exact ⟨place, f, text, { finds with writes := by rw [ending, mode] }⟩

end Engine

/-! ### Towers -/

namespace Tree

variable {n m k : Nat}

/-- Where a directory stands in a tower. -/
def storey (k : Nat) : Location := List.replicate k "d"

/-- Where the file at the bottom of a tower stands. -/
def bottom (n : Nat) : Location := storey n ++ ["a"]

/-- Directories, each in the one before it, a file in the last one, and a link to one of them. -/
def tower (n k : Nat) : Tree where
  entries := (bottom n, .file { content := "xa".toUTF8 }) :: (["l"], .link (storey k).path) ::
    (List.range n).map fun k => (storey (k + 1), .directory)

/-- The path through the link to a file below. -/
def linkPath (m : Nat) : Path := Location.path ("l" :: bottom m)

theorem eq_of_mem_storey {name : String} (h : name ∈ storey k) : name = "d" :=
  List.eq_of_mem_replicate h

theorem storey_append (k m : Nat) : storey k ++ bottom m = bottom (k + m) := by
  rw [bottom, bottom, storey, storey, storey, ← List.append_assoc,
    List.replicate_append_replicate]

theorem component_of_mem_bottom {name : String} (h : name ∈ bottom n) : Path.Component name := by
  rcases List.mem_append.mp h with h | h
  · rw [eq_of_mem_storey h]
    exact ⟨by decide, by decide⟩
  · rw [List.mem_singleton.mp h]
    exact ⟨by decide, by decide⟩

/-! ### What stands in a tower -/

theorem at?_bottom (n k : Nat) :
    (tower n k).at? (bottom n) = some (.file { content := "xa".toUTF8 }) := by
  have below : (bottom n).isEmpty = false := by simp [bottom]
  rw [at?, below, if_neg Bool.false_ne_true, tower, List.lookup_cons_self]

theorem at?_storey (h : m ≤ n) : (tower n k).at? (storey m) = some .directory := by
  cases m with
  | zero => rfl
  | succ m =>
    have other {l : Location} (name : String) (hl : name ∈ l) (ne : name ≠ "d") :
        storey (m + 1) ≠ l := by
      rintro rfl
      exact ne (eq_of_mem_storey hl)
    cases stands : (tower n k).at? (storey (m + 1)) with
    | none =>
      have mem : (storey (m + 1), Entry.directory) ∈ (tower n k).entries :=
        List.mem_cons_of_mem _ (List.mem_cons_of_mem _ (List.mem_map_of_mem (List.mem_range.mpr h)))
      exact absurd rfl ((at?_eq_none.mp stands).2 _ mem)
    | some entry =>
      rcases List.mem_cons.mp (exists_mem_of_at? stands nofun) with heq | hmem
      · exact absurd (congrArg Prod.fst heq) (other "a" (by simp [bottom]) (by decide))
      rcases List.mem_cons.mp hmem with heq | hmem
      · exact absurd (congrArg Prod.fst heq) (other "l" (by simp) (by decide))
      · obtain ⟨_, -, heq⟩ := List.mem_map.mp hmem
        exact congrArg some (congrArg Prod.snd heq).symm

theorem at?_link (n k : Nat) : (tower n k).at? ["l"] = some (.link (storey k).path) := by
  have other : (["l"] == bottom n) = false := by
    refine beq_eq_false_iff_ne.mpr fun heq => ?_
    have last : "a" ∈ ["l"] := by simp [heq, bottom]
    simp at last
  rw [at?, List.isEmpty_cons, if_neg Bool.false_ne_true, tower, List.lookup_cons, other]
  dsimp only
  rw [List.lookup_cons_self]

theorem nulFree_tower (n k : Nat) : (tower n k).NulFree := by
  have free (k : Nat) : ∀ name ∈ storey k, '\x00' ∉ name.toList := by
    intro name hname
    rw [eq_of_mem_storey hname]
    decide
  rw [NulFree, tower, List.forall_mem_cons, List.forall_mem_cons, List.forall_mem_map, bottom,
    List.forall_mem_append]
  exact ⟨⟨free n, by decide⟩, by simp, fun k _ => free (k + 1)⟩

/-! ### The ways in a tower -/

theorem isDirectoryAt_storey (h : m ≤ n) : (tower n k).isDirectoryAt (storey m) = true := by
  rw [isDirectoryAt, at?_storey h]

theorem canonical_storey (h : m ≤ n) : (tower n k).Canonical (storey m) := by
  induction m with
  | zero => exact .top
  | succ m ih =>
    have split : storey (m + 1) = storey m ++ ["d"] := List.replicate_succ'
    have above := Nat.le_of_succ_le h
    rw [split]
    refine .down (ih above) (isDirectoryAt_storey above) ⟨by decide, by decide⟩
      ⟨by decide, by decide, by decide +kernel, ?_⟩
    rw [← split]
    exact .inr (at?_storey h)

theorem canonical_bottom (n k : Nat) : (tower n k).Canonical (bottom n) :=
  .down (canonical_storey (Nat.le_refl n)) (isDirectoryAt_storey (Nat.le_refl n))
    ⟨by decide, by decide⟩ ⟨by decide, by decide, by decide +kernel, .inl ⟨_, at?_bottom n k⟩⟩

/-- The way through the link leads to the bottom. -/
theorem follow_link (hk : k ≠ 0) (m : Nat) :
    (tower (k + m) k).follow (fun _ => true) linkLimit [] ("l" :: bottom m) = .ok (bottom (k + m)) := by
  have meets : (tower (k + m) k).walk (fun _ => true) [] ("l" :: bottom m) =
      .met [] (storey k).path (bottom m) := by
    rw [walk]
    dsimp only [List.nil_append]
    rw [at?_link]
    rfl
  have arrives : (tower (k + m) k).walk (fun _ => true) [] (bottom (k + m)) =
      .arrived (bottom (k + m)) := by
    simpa [walk] using (canonical_bottom (k + m) k).walk_self (fun _ _ => rfl) []
  have names : ∀ name ∈ storey k, Path.Component name := by
    intro name hname
    rw [eq_of_mem_storey hname]
    exact ⟨by decide, by decide⟩
  rw [follow, meets]
  show follow _ _ 39 (startOf [] (storey k).path) (Path.components (storey k).path ++ bottom m) = _
  rw [startOf, if_pos (storey k).isAbsolute_path, Location.components_path (by simpa [storey]) names,
    storey_append, follow, arrives]

theorem isAbsolute_linkPath (m : Nat) : Path.isAbsolute (linkPath m) = true :=
  Location.isAbsolute_path _

/-- The path through the link leads to the bottom, if it fits. -/
theorem find_linkPath (hk : k ≠ 0) (fit : Path.fits (linkPath m) = true) :
    (tower (k + m) k).find (linkPath m) = .ok (bottom (k + m)) := by
  have names : ∀ name ∈ "l" :: bottom m, Path.Component name :=
    List.forall_mem_cons.mpr ⟨⟨by decide, by decide⟩, fun _ => component_of_mem_bottom⟩
  have absolute := isAbsolute_linkPath m
  refine find_eq_ok.mpr ⟨fit, locate_eq_ok.mpr ⟨?_, ?_, ?_⟩⟩
  · rw [linkPath, Location.toList_path (List.cons_ne_nil _ _)]
    simp [bottom, storey]
  · rintro empty
    rw [empty] at absolute
    cases absolute
  · rw [startOf, if_pos absolute, linkPath, Location.components_path (List.cons_ne_nil _ _) names]
    exact follow_link hk m

/-- The length of a path in the last directory of a tower. -/
theorem utf8ByteSize_path_below (n : Nat) (name : String) :
    (Location.path (storey n ++ [name])).utf8ByteSize = 2 * n + (1 + name.utf8ByteSize) := by
  rw [Location.utf8ByteSize_path (by simp), List.map_append, storey, List.map_replicate,
    List.sum_append, List.sum_replicate_nat, Nat.mul_comm n]
  rfl

/-- The length of the path through the link. -/
theorem utf8ByteSize_linkPath (m : Nat) : (linkPath m).utf8ByteSize = 2 * m + 4 := by
  have below := utf8ByteSize_path_below m "a"
  rw [Location.utf8ByteSize_path (by simp)] at below
  rw [linkPath, Location.utf8ByteSize_path (List.cons_ne_nil _ _), List.map_cons, List.sum_cons,
    bottom, below, show "l".utf8ByteSize = 1 from rfl, show "a".utf8ByteSize = 1 from rfl]
  omega

/-- **What is there may yet not be resolved.** If the path through the link fits, but not that of the
place to which it leads, then something is there and its place cannot be told. -/
theorem canonicalize_linkPath (hk : k ≠ 0) (fit : Path.fits (linkPath m) = true)
    (deep : Path.fits (bottom (k + m)).path = false) :
    (tower (k + m) k).exists (linkPath m) = true ∧
      (tower (k + m) k).canonicalize (linkPath m) = .error .nameTooLong := by
  have found := find_linkPath hk fit
  constructor
  · rw [Tree.exists, found]
    rfl
  · refine (canonicalize_of_find found).resolve_left fun resolved => ?_
    have fits := fits_of_canonicalize (isAbsolute_linkPath m) resolved
    rw [deep] at fits
    cases fits

end Tree

/-! ### Towers of a certain height -/

namespace Engine

/-- A tower with a path to the bottom that just fits. -/
def deepTree : Tree := .tower 2045 1

/-- The path to the bottom. -/
def deepPath : Path := (Tree.bottom 2045).path

/-- An engine that is not confined to a workspace. -/
def freeEngine : Engine where
  root := "/"

theorem fits_bottom : Path.fits (Tree.bottom 2045).path = true := by
  have size := Tree.utf8ByteSize_path_below 2045 "a"
  rw [Path.fits, Tree.bottom, size]
  decide +kernel

theorem not_fits_temporaryPath : Path.fits (System.temporaryPath (Tree.bottom 2045)) = false := by
  have size := Tree.utf8ByteSize_path_below 2045 System.temporaryName
  rw [Path.fits, System.temporaryPath, Tree.bottom, List.dropLast_concat, size]
  decide +kernel

variable {e : Engine} {fix : Fix}

/-- The text at the bottom of the tower is found. -/
theorem finds_deepPath (free : e.workspace = none) (system : e.system = .superuser) :
    e.Finds deepTree deepPath (Tree.bottom 2045) { content := "xa".toUTF8 } "xa" := by
  rw [deepTree, deepPath]
  exact finds_path free system (Tree.canonical_bottom 2045 1) (Tree.nulFree_tower 2045 1) fits_bottom
    (Tree.at?_bottom 2045 1) (File.text?_eq_some.mpr rfl)

/-- It can be fixed, but the fixed text cannot be written. -/
theorem succeeded_deepPath (free : e.workspace = none) (system : e.system = .superuser)
    (target : fix.target = deepPath) :
    (e.apply deepTree fix).1.succeeded = true ↔ e.mode = .dryRun := by
  have finds := finds_deepPath free system
  rw [← target] at finds
  exact succeeded_iff_of_deep system finds not_fits_temporaryPath

/-- A tower of twice the height that fits, with a link half the way down. -/
def hugeTree : Tree := .tower (1500 + 1500) 1500

/-- The path to the bottom by way of the link. -/
def hugePath : Path := Tree.linkPath 1500

theorem isAbsolute_hugePath : Path.isAbsolute hugePath = true := by
  rw [hugePath, Tree.isAbsolute_linkPath]

/-- The file at the bottom is there, and its place cannot be told. -/
theorem hugePath_unresolved :
    hugeTree.exists hugePath = true ∧ hugeTree.canonicalize hugePath = .error .nameTooLong := by
  rw [hugeTree, hugePath]
  refine Tree.canonicalize_linkPath (by decide) ?_ ?_
  · rw [Path.fits, Tree.utf8ByteSize_linkPath]
    decide +kernel
  · have size := Tree.utf8ByteSize_path_below (1500 + 1500) "a"
    rw [Path.fits, Tree.bottom, size]
    decide +kernel

-- The towers are high, and nothing of them is to be computed.
attribute [irreducible] deepTree deepPath hugeTree hugePath

end Engine

end Emend
