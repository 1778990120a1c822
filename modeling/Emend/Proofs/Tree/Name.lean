import Emend.Proofs.Tree.Canonical
import Mathlib.Data.List.TakeWhile

/-!
# The name at the end of a path

A path that leads to a file ends in a name (`Tree.Canonical.exists_fileName?`). Its text alone does
not tell: a path may also end in a dot or in a step up. But a dot stays where it is, and a step up
goes back to where a step down came from, and both places are directories.
-/

namespace Emend

/-! ### The last component -/

namespace Path

variable {p : Path} {name : String}

/-- Whether a piece of a path counts towards its name. -/
def counts (piece : String) : Bool := !(piece.isEmpty || piece == ".")

/-- After the pieces that do not count have been left out from the end, the last one is the last
that counts. -/
theorem getLast?_trimPieces (ps : List String) :
    (trimPieces ps).getLast? = (ps.filter counts).getLast? := by
  have last : (ps.filter counts).getLast? = ps.reverse.find? counts := by
    rw [← List.head?_reverse, ← List.filter_reverse, List.head?_filter]
  rw [last, List.find?_eq_head?_dropWhile_not, trimPieces, List.getLast?_reverse]
  simp [counts]

/-- What a path walks through, without the dots, is what counts of its pieces. -/
theorem filter_components (p : Path) :
    (components p).filter (· != ".") = ((pieces p.toList).map String.ofList).filter counts := by
  have dot : (if endsInSlash p then ["."] else []).filter (· != ".") = [] := by
    split <;> rfl
  rw [components, List.filter_append, dot, List.append_nil, List.filter_map, List.filter_map,
    List.filter_filter]
  refine congrArg _ (List.filter_congr fun piece _ => ?_)
  have empty : (String.ofList piece).isEmpty = piece.isEmpty := by
    rw [Bool.eq_iff_iff, String.isEmpty_iff, String.ofList_eq_empty_iff, List.isEmpty_iff]
  simp [counts, empty, bne, Bool.and_comm]

/-- What leads a path does not count. -/
theorem filter_split (p : Path) :
    (split p).2.filter counts = ((pieces p.toList).map String.ofList).filter counts := by
  rw [split]
  split
  · next rest heq =>
    rw [heq, pieces, if_pos rfl]
    rfl
  · next rest heq =>
    rw [heq, pieces, if_neg (by decide), pieces, if_pos rfl]
    rfl
  · next heq =>
    rw [heq]
    decide
  · rfl

/-- A path that walks through a name at last has it as its name. -/
theorem fileName?_of_getLast? (last : (components p).getLast? = some name) (not_here : name ≠ ".")
    (not_up : name ≠ "..") : fileName? p = some name := by
  obtain ⟨before, heq⟩ := List.getLast?_eq_some_iff.mp last
  have kept : ((split p).2.filter counts).getLast? = some name := by
    rw [filter_split, ← filter_components, heq, List.filter_append,
      List.filter_cons_of_pos (by simpa using not_here), List.filter_nil, List.getLast?_concat]
  rw [fileName?, getLast?_trimPieces, kept]
  simp [not_up]

/-- If no piece of a text holds anything, the text has slashes only. -/
theorem eq_slash_of_mem {text : List Char} (h : ∀ piece ∈ pieces text, piece = []) :
    ∀ c ∈ text, c = '/' := by
  induction text with
  | nil => exact nofun
  | cons c rest ih =>
    rw [pieces] at h
    split at h
    · next slash =>
      obtain ⟨-, others⟩ := List.forall_mem_cons.mp h
      exact List.forall_mem_cons.mpr ⟨slash, ih others⟩
    · split at h
      · next hnil => exact absurd hnil (pieces_ne_nil rest)
      · cases (List.forall_mem_cons.mp h).1

/-- A path that is not empty walks through something. -/
theorem components_ne_nil (h : p ≠ "") : components p ≠ [] := by
  intro none
  rw [components, List.append_eq_nil_iff, List.map_eq_nil_iff, List.filter_eq_nil_iff] at none
  obtain ⟨pieces_nil, not_ends⟩ := none
  have slashes : ∀ c ∈ p.toList, c = '/' :=
    eq_slash_of_mem fun piece hpiece => by simpa using pieces_nil piece hpiece
  -- So the last character is a slash, and the path ends in a dot.
  have ne : p.toList ≠ [] := by simpa using h
  rw [if_pos] at not_ends
  · cases not_ends
  · rw [endsInSlash, List.getLast?_eq_some_getLast ne, slashes _ (List.getLast_mem ne)]
    rfl

end Path

/-! ### Where a path without a name leads -/

namespace Tree

variable {t : Tree} {fits : Path → Bool} {l q : Location} {name : String} {names : List String}

/-- A dot or a step up. -/
def Unnamed (name : String) : Prop := name = "." ∨ name = ".."

/-- The place above a canonical location is a directory. -/
theorem Canonical.isDirectoryAt_dropLast (h : t.Canonical l) :
    t.isDirectoryAt l.dropLast = true := by
  cases h with
  | top => rfl
  | down _ dir => rwa [List.dropLast_concat]

/-- What is no name comes to a directory. -/
theorem Canonical.isDirectoryAt_of_unnamed {m : Location} (h : t.Canonical l)
    (dir : t.isDirectoryAt l = true) (unnamed : Unnamed name) (step : t.Step l name m) :
    t.isDirectoryAt m = true := by
  cases step with
  | stay => exact dir
  | up => exact h.isDirectoryAt_dropLast
  | down opens => exact absurd unnamed (not_or.mpr ⟨opens.not_here, opens.not_up⟩)

/-- A walk without a name at its end comes to a directory, or to a link before its end. -/
theorem Canonical.walk_concat (h : t.Canonical l)
    (components : ∀ name ∈ names, Path.Component name) (unnamed : Unnamed name) :
    (∀ q, t.walk fits l (names ++ [name]) = .arrived q → t.isDirectoryAt q = true) ∧
      ∀ directory target rest, t.walk fits l (names ++ [name]) = .met directory target rest →
        ∃ before, rest = before ++ [name] := by
  -- The last step decides. Those before it only have to keep the location canonical.
  induction names generalizing l with
  | nil =>
    rw [List.nil_append]
    rcases t.walk_cons fits l name [] with
      ⟨m, -, dir, step, heq⟩ | ⟨fault, heq⟩ | ⟨target, named, heq⟩
    · rw [heq]
      refine ⟨?_, nofun⟩
      rintro q ⟨⟩
      exact h.isDirectoryAt_of_unnamed dir unnamed step
    · rw [heq]
      exact ⟨nofun, nofun⟩
    · -- There is no link under a dot or under a step up.
      exact absurd unnamed (not_or.mpr named)
  | cons first names ih =>
    obtain ⟨component, others⟩ := List.forall_mem_cons.mp components
    rw [List.cons_append]
    rcases t.walk_cons fits l first (names ++ [name]) with
      ⟨m, -, dir, step, heq⟩ | ⟨fault, heq⟩ | ⟨target, -, heq⟩
    · rw [heq]
      exact ih (h.step dir component step) others
    · rw [heq]
      exact ⟨nofun, nofun⟩
    · rw [heq]
      refine ⟨nofun, ?_⟩
      rintro directory target' rest ⟨⟩
      exact ⟨names, rfl⟩

namespace Canonical

/-- What is followed without a name at its end leads to a directory. -/
theorem isDirectoryAt_of_follow {links : Nat} (h : t.Canonical l)
    (components : ∀ name ∈ names, Path.Component name) (unnamed : Unnamed name)
    (leads : t.follow fits links l (names ++ [name]) = .ok q) : t.isDirectoryAt q = true := by
  have whole : ∀ n ∈ names ++ [name], Path.Component n := by
    refine List.forall_mem_append.mpr ⟨components, List.forall_mem_singleton.mpr ?_⟩
    rcases unnamed with rfl | rfl <;> exact ⟨by decide, by decide⟩
  -- A link puts its own names before those that are pending, so the last one stays the last.
  refine follow_invariant (P := fun q => t.isDirectoryAt q = true)
    (fun l pending => t.Canonical l ∧ (∀ n ∈ pending, Path.Component n) ∧
      ∃ before, pending = before ++ [name])
    (fun {l pending q} holds hwalk => ?_) (fun {l pending directory target rest} holds hwalk => ?_)
    ⟨h, whole, names, rfl⟩ leads
  · obtain ⟨canonical, components, before, rfl⟩ := holds
    exact (canonical.walk_concat (List.forall_mem_append.mp components).1 unnamed).1 q hwalk
  · obtain ⟨canonical, components, before, rfl⟩ := holds
    obtain ⟨inner, pending⟩ := (canonical.walk components).2 _ _ _ hwalk
    obtain ⟨after, rfl⟩ :=
      (canonical.walk_concat (List.forall_mem_append.mp components).1 unnamed).2 _ _ _ hwalk
    refine ⟨inner.startOf target,
      List.forall_mem_append.mpr ⟨fun _ => Path.component_of_mem, pending⟩,
      Path.components target ++ after, ?_⟩
    rw [List.append_assoc]

/-- A path to a file ends in a name. -/
theorem exists_fileName? {p : Path} {f : File} (here : t.Canonical t.here)
    (leads : t.locate fits p = .ok q) (stands : t.at? q = some (.file f)) :
    ∃ name, Path.fileName? p = some name := by
  obtain ⟨-, ne, leads⟩ := locate_eq_ok.mp leads
  obtain ⟨before, last, heq⟩ :=
    (List.eq_nil_or_concat' (Path.components p)).resolve_left (Path.components_ne_nil ne)
  have components : ∀ name ∈ before ++ [last], Path.Component name := by
    rw [← heq]
    exact fun _ => Path.component_of_mem
  have named : ¬ Unnamed last := by
    intro unnamed
    rw [heq] at leads
    have dir := (here.startOf p).isDirectoryAt_of_follow
      (List.forall_mem_append.mp components).1 unnamed leads
    rw [isDirectoryAt, stands] at dir
    cases dir
  obtain ⟨not_here, not_up⟩ := not_or.mp named
  refine ⟨last, Path.fileName?_of_getLast? ?_ not_here not_up⟩
  rw [heq, List.getLast?_concat]

end Canonical

end Tree

end Emend
