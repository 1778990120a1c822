import Mathlib.Algebra.Ring.Nat
import Emend.Proofs.Except
import Emend.Tree.Resolve

/-!
# Canonical locations

The location to which a path leads is canonical (`Tree.Canonical`): each step down to it goes from a
directory to what stands there under a name, and this is no link. `Tree.Step` lists what a name of a
path can do, and a walk is a chain of such steps up to the first link (`Tree.walk_cons`), so
whatever is followed goes from canonical locations to canonical ones
(`Tree.Canonical.follow`).

The path of a canonical location has neither links nor steps up in it, so it leads to the location
itself (`Tree.Canonical.canonicalize_path`).
-/

namespace Emend

/-! ### Paths -/

namespace Path

variable {base p : Path}

theorem isAbsolute_iff : isAbsolute p = true ↔ ∃ rest, p.toList = '/' :: rest := by
  rw [isAbsolute, beq_iff_eq, List.head?_eq_some_iff]

/-- An absolute path stays as it is, wherever it is seen from. -/
theorem join_of_isAbsolute (h : isAbsolute p = true) (base : Path) : join base p = p := by
  rw [join, if_pos h]

/-- What is put below an absolute path is absolute. -/
theorem isAbsolute_join (h : isAbsolute base = true) (p : Path) :
    isAbsolute (join base p) = true := by
  obtain ⟨rest, hbase⟩ := isAbsolute_iff.mp h
  rw [join]
  split
  · assumption
  · refine isAbsolute_iff.mpr ?_
    split
    · exact ⟨rest ++ p.toList, by simp [hbase]⟩
    · exact ⟨rest ++ '/' :: p.toList, by simp [hbase]⟩

theorem join_join (h : isAbsolute base = true) (p : Path) : join base (join base p) = join base p :=
  join_of_isAbsolute (isAbsolute_join h p) base

/-! ### The pieces of a path -/

theorem pieces_ne_nil (text : List Char) : pieces text ≠ [] := by
  cases text with
  | nil => exact List.cons_ne_nil _ _
  | cons c text =>
    rw [pieces]
    split
    · exact List.cons_ne_nil _ _
    · split <;> exact List.cons_ne_nil _ _

theorem not_mem_of_mem_pieces {text piece : List Char} (h : piece ∈ pieces text) :
    '/' ∉ piece := by
  induction text generalizing piece with
  | nil =>
    obtain rfl : piece = [] := by simpa [pieces] using h
    exact List.not_mem_nil
  | cons c text ih =>
    rw [pieces] at h
    split at h
    · rcases List.mem_cons.mp h with rfl | h
      · exact List.not_mem_nil
      · exact ih h
    · next hc =>
      split at h
      · next hnil => exact absurd hnil (pieces_ne_nil text)
      · next first more hpieces =>
        rw [hpieces] at ih
        rcases List.mem_cons.mp h with rfl | h
        · rw [List.mem_cons, not_or]
          exact ⟨Ne.symm hc, ih List.mem_cons_self⟩
        · exact ih (List.mem_cons_of_mem first h)

/-- Up to the first slash there is one piece. -/
theorem pieces_append {piece : List Char} (h : '/' ∉ piece) (text : List Char) :
    pieces (piece ++ '/' :: text) = piece :: pieces text := by
  induction piece with
  | nil => rfl
  | cons c piece ih =>
    rw [List.mem_cons, not_or] at h
    rw [List.cons_append, pieces, if_neg (Ne.symm h.1), ih h.2]

theorem pieces_of_not_mem {piece : List Char} (h : '/' ∉ piece) : pieces piece = [piece] := by
  induction piece with
  | nil => rfl
  | cons c piece ih =>
    rw [List.mem_cons, not_or] at h
    rw [pieces, if_neg (Ne.symm h.1), ih h.2]

/-- What a path can walk through: a piece between slashes that is not empty. -/
structure Component (name : String) : Prop where
  ne_empty : name ≠ ""
  no_slash : '/' ∉ name.toList

theorem component_of_mem {name : String} (h : name ∈ components p) : Component name := by
  rw [components, List.mem_append] at h
  rcases h with h | h
  · obtain ⟨piece, hpiece, rfl⟩ := List.mem_map.mp h
    obtain ⟨hpiece, hne⟩ := List.mem_filter.mp hpiece
    refine ⟨?_, ?_⟩
    · rintro heq
      obtain rfl : piece = [] := String.ofList_eq_empty_iff.mp heq
      cases hne
    · rw [String.toList_ofList]
      exact not_mem_of_mem_pieces hpiece
  · split at h
    · obtain rfl := List.mem_singleton.mp h
      exact ⟨by decide, by decide⟩
    · cases h

end Path

/-! ### The path of a location -/

namespace Location

variable {l : Location}

theorem toList_path (h : l ≠ []) :
    l.path.toList = l.flatMap fun name => '/' :: name.toList := by
  have names (l : Location) :
      (String.join (l.map ("/" ++ ·))).toList = l.flatMap fun name => '/' :: name.toList := by
    rw [String.toList_join, List.flatMap_map]
    simp
  rw [path, if_neg (by simpa using h), names]

theorem isAbsolute_path (l : Location) : Path.isAbsolute l.path = true := by
  cases l with
  | nil => rfl
  | cons name l =>
    refine Path.isAbsolute_iff.mpr ⟨name.toList ++ l.flatMap (fun name => '/' :: name.toList), ?_⟩
    rw [toList_path (List.cons_ne_nil name l), List.flatMap_cons, List.cons_append]

/-- There is a slash before each name, and nothing before the first one. -/
theorem pieces_path (h : l ≠ []) (slashless : ∀ name ∈ l, '/' ∉ name.toList) :
    Path.pieces l.path.toList = [] :: l.map String.toList := by
  rw [toList_path h]
  induction l with
  | nil => exact absurd rfl h
  | cons name l ih =>
    obtain ⟨first, others⟩ := List.forall_mem_cons.mp slashless
    rw [List.flatMap_cons, List.cons_append, Path.pieces, if_pos rfl, List.map_cons]
    cases l with
    | nil => rw [List.flatMap_nil, List.append_nil, Path.pieces_of_not_mem first, List.map_nil]
    | cons next l =>
      have later := ih (List.cons_ne_nil next l) others
      rw [List.flatMap_cons, List.cons_append, Path.pieces, if_pos rfl, List.cons.injEq] at later
      rw [List.flatMap_cons, List.cons_append, Path.pieces_append first, later.2]

/-- A path of names does not end in a slash. -/
theorem endsInSlash_path (h : l ≠ []) (names : ∀ name ∈ l, Path.Component name) :
    Path.endsInSlash l.path = false := by
  obtain ⟨before, last, rfl⟩ := List.eq_nil_or_concat' l |>.resolve_left h
  have component := names last (by simp)
  have ne : last.toList ≠ [] := by simpa using component.ne_empty
  rw [Path.endsInSlash, toList_path h, List.flatMap_append, List.flatMap_singleton,
    List.getLast?_append_of_ne_nil _ (List.cons_ne_nil _ _), List.getLast?_cons,
    List.getLast?_eq_some_getLast ne, Option.getD_some, beq_eq_false_iff_ne, ne_eq,
    Option.some.injEq]
  intro heq
  exact component.no_slash (heq ▸ List.getLast_mem ne)

/-- What the path of a location walks through is the location. -/
theorem components_path (h : l ≠ []) (names : ∀ name ∈ l, Path.Component name) :
    Path.components l.path = l := by
  have kept : ∀ piece ∈ l.map String.toList, (!piece.isEmpty) = true := by
    intro piece hpiece
    obtain ⟨name, hname, rfl⟩ := List.mem_map.mp hpiece
    simpa using (names name hname).ne_empty
  rw [Path.components, endsInSlash_path h names,
    pieces_path h fun name hname => (names name hname).no_slash, List.filter_cons_of_neg (by simp),
    List.filter_eq_self.mpr kept, List.map_map]
  simp

/-- Each name counts with a slash before it. -/
theorem utf8ByteSize_path (h : l ≠ []) :
    l.path.utf8ByteSize = (l.map fun name => 1 + name.utf8ByteSize).sum := by
  have join (l : Location) : (String.join (l.map ("/" ++ ·))).utf8ByteSize =
      (l.map fun name => 1 + name.utf8ByteSize).sum := by
    induction l with
    | nil => rfl
    | cons name l ih =>
      rw [List.map_cons, String.join_cons, String.utf8ByteSize_append, String.utf8ByteSize_append, ih,
        List.map_cons, List.sum_cons]
      rfl
  rw [path, if_neg (by simpa using h), join]

/-- A way from the top down to a place whose path fits has paths that fit. -/
theorem fits_of_prefix {m : Location} (h : l <+: m) (fits : Path.fits m.path = true) :
    Path.fits l.path = true := by
  obtain ⟨more, rfl⟩ := h
  cases l with
  | nil => rfl
  | cons name l =>
    simp only [Path.fits, decide_eq_true_eq] at fits ⊢
    rw [utf8ByteSize_path (by simp), List.map_append, List.sum_append] at fits
    rw [utf8ByteSize_path (by simp)]
    omega

/-- A step down is asked for by the path of the place below. -/
theorem step_eq {name : String} (not_here : name ≠ ".") (not_up : name ≠ "..") :
    l.step name = Location.path (l ++ [name]) := by
  simp [step, not_here, not_up]

end Location

namespace Tree

variable {t : Tree} {fits : Path → Bool} {l m q : Location} {name : String} {names : List String}

/-- Whether a file or a directory stands at a location. -/
def Stands (t : Tree) (l : Location) : Prop :=
  (∃ f, t.at? l = some (.file f)) ∨ t.at? l = some .directory

/-! ### Steps -/

/-- Whether a step can go down from a location by a name. -/
structure Opens (t : Tree) (l : Location) (name : String) : Prop where
  not_here : name ≠ "."
  not_up : name ≠ ".."
  short : name.utf8ByteSize ≤ nameLimit
  stands : t.Stands (l ++ [name])

/-- What a name of a path can do at a directory, unless a link stands there under it. -/
inductive Step (t : Tree) (l : Location) : String → Location → Prop
  | stay : Step t l "." l
  | up : Step t l ".." l.dropLast
  | down {name : String} (opens : t.Opens l name) : Step t l name (l ++ [name])

/-- A walk goes on after a step that fits, ends with a fault, or comes to a link, which is neither a
dot nor a step up. -/
theorem walk_cons (t : Tree) (fits : Path → Bool) (l : Location) (name : String)
    (names : List String) :
    (∃ m, fits (l.step name) = true ∧ t.isDirectoryAt l = true ∧ t.Step l name m ∧
        t.walk fits l (name :: names) = t.walk fits m names) ∨
      (∃ fault, t.walk fits l (name :: names) = .failed fault) ∨
      ∃ target, (name ≠ "." ∧ name ≠ "..") ∧
        t.walk fits l (name :: names) = .met l target names := by
  rw [walk]
  cases fit : fits (l.step name) with
  | false => exact .inr (.inl ⟨_, rfl⟩)
  | true =>
  rw [Bool.not_true, if_neg Bool.false_ne_true]
  cases dir : t.isDirectoryAt l with
  | false => exact .inr (.inl ⟨_, rfl⟩)
  | true =>
    rw [Bool.not_true, if_neg Bool.false_ne_true]
    by_cases here : name = "."
    · subst here
      exact .inl ⟨l, rfl, rfl, .stay, rfl⟩
    rw [if_neg here]
    by_cases up : name = ".."
    · subst up
      exact .inl ⟨l.dropLast, rfl, rfl, .up, rfl⟩
    rw [if_neg up]
    by_cases long : nameLimit < name.utf8ByteSize
    · rw [if_pos long]
      exact .inr (.inl ⟨_, rfl⟩)
    rw [if_neg long]
    have down (stands : t.Stands (l ++ [name])) : t.Step l name (l ++ [name]) :=
      .down ⟨here, up, Nat.le_of_not_gt long, stands⟩
    rcases stands : t.at? (l ++ [name]) with _ | f | _ | target
    · exact .inr (.inl ⟨_, rfl⟩)
    · exact .inl ⟨l ++ [name], rfl, rfl, down (.inl ⟨f, stands⟩), rfl⟩
    · exact .inl ⟨l ++ [name], rfl, rfl, down (.inr stands), rfl⟩
    · exact .inr (.inr ⟨target, ⟨here, up⟩, rfl⟩)

/-- A step down that can be taken is taken. -/
theorem Opens.walk_eq (h : t.Opens l name) (dir : t.isDirectoryAt l = true)
    (fit : fits (l.step name) = true) (names : List String) :
    t.walk fits l (name :: names) = t.walk fits (l ++ [name]) names := by
  rw [walk, fit, dir, Bool.not_true, if_neg Bool.false_ne_true, if_neg Bool.false_ne_true,
    if_neg h.not_here, if_neg h.not_up, if_neg (Nat.not_lt_of_ge h.short)]
  rcases h.stands with ⟨f, stands⟩ | stands <;> rw [stands]

/-- What each walk to a link keeps, for the names that are then to be walked through, holds when the
last walk arrives. -/
theorem follow_invariant {links : Nat} {P : Location → Prop} (Holds : Location → List String → Prop)
    (arrives : ∀ {l names q}, Holds l names → t.walk fits l names = .arrived q → P q)
    (meets : ∀ {l names directory target rest}, Holds l names →
      t.walk fits l names = .met directory target rest →
        Holds (startOf directory target) (Path.components target ++ rest))
    (h : Holds l names) (leads : t.follow fits links l names = .ok q) : P q := by
  induction links generalizing l names with
  | zero =>
    rw [follow] at leads
    split at leads
    · next hwalk =>
      obtain rfl := Except.ok.inj leads
      exact arrives h hwalk
    · cases leads
    · cases leads
  | succ links ih =>
    rw [follow] at leads
    split at leads
    · next hwalk =>
      obtain rfl := Except.ok.inj leads
      exact arrives h hwalk
    · cases leads
    · next hwalk => exact ih (meets h hwalk) leads

/-! ### Canonical locations -/

/-- Whether a location is reached from the top by steps down, each from a directory. -/
inductive Canonical (t : Tree) : Location → Prop
  | top : Canonical t []
  | down {l : Location} {name : String} (h : Canonical t l) (dir : t.isDirectoryAt l = true)
      (component : Path.Component name) (opens : t.Opens l name) : Canonical t (l ++ [name])

namespace Canonical

/-- What stands at a canonical location is no link. -/
theorem stands (h : t.Canonical l) : t.Stands l := by
  cases h with
  | top => exact .inr rfl
  | down _ _ _ opens => exact opens.stands

theorem dropLast (h : t.Canonical l) : t.Canonical l.dropLast := by
  cases h with
  | top => exact .top
  | down h => rwa [List.dropLast_concat]

theorem step (h : t.Canonical l) (dir : t.isDirectoryAt l = true)
    (component : Path.Component name) (step : t.Step l name m) : t.Canonical m := by
  cases step with
  | stay => exact h
  | up => exact h.dropLast
  | down opens => exact .down h dir component opens

/-- A path starts at a canonical location if it is seen from one. -/
theorem startOf (h : t.Canonical l) (p : Path) : t.Canonical (startOf l p) := by
  rw [Tree.startOf]
  split
  · exact .top
  · exact h

/-- A walk from a canonical location comes to a canonical one, or to a link in one. -/
theorem walk (h : t.Canonical l) (components : ∀ name ∈ names, Path.Component name) :
    (∀ q, t.walk fits l names = .arrived q → t.Canonical q) ∧
      ∀ directory target rest, t.walk fits l names = .met directory target rest →
        t.Canonical directory ∧ ∀ name ∈ rest, Path.Component name := by
  induction names generalizing l with
  | nil =>
    constructor
    · rintro q ⟨⟩
      exact h
    · exact nofun
  | cons name names ih =>
    obtain ⟨first, others⟩ := List.forall_mem_cons.mp components
    rcases t.walk_cons fits l name names with
      ⟨m, -, dir, step, heq⟩ | ⟨fault, heq⟩ | ⟨target, -, heq⟩
    · rw [heq]
      exact ih (h.step dir first step) others
    · rw [heq]
      exact ⟨nofun, nofun⟩
    · rw [heq]
      refine ⟨nofun, ?_⟩
      rintro directory target' rest ⟨⟩
      exact ⟨h, others⟩

/-- What is followed from a canonical location leads to a canonical one. -/
theorem follow {links : Nat} (h : t.Canonical l)
    (components : ∀ name ∈ names, Path.Component name)
    (leads : t.follow fits links l names = .ok q) : t.Canonical q := by
  refine follow_invariant (fun l names => t.Canonical l ∧ ∀ name ∈ names, Path.Component name)
    (fun h => (h.1.walk h.2).1 _) (fun {_ _ directory target rest} h hwalk => ?_)
    ⟨h, components⟩ leads
  obtain ⟨inner, pending⟩ := (h.1.walk h.2).2 _ _ _ hwalk
  -- The target of the link is seen from the directory of the link.
  exact ⟨inner.startOf target,
    List.forall_mem_append.mpr ⟨fun _ => Path.component_of_mem, pending⟩⟩

end Canonical

/-! ### Paths that are too long on the way -/

/-- A walk through paths that fit goes on in the same way if more of them fit. -/
theorem walk_eq_or (t : Tree) (fits : Path → Bool) (l : Location) (names : List String) :
    t.walk fits l names = t.walk (fun _ => true) l names ∨
      t.walk fits l names = .failed .nameTooLong := by
  induction names generalizing l with
  | nil => exact .inl rfl
  | cons name names ih =>
    rw [walk, walk]
    cases fits (l.step name) with
    | false => exact .inr rfl
    | true =>
      rw [Bool.not_true, if_neg Bool.false_ne_true, if_neg Bool.false_ne_true]
      split
      · exact .inl rfl
      split
      · exact ih l
      split
      · exact ih l.dropLast
      split
      · exact .inl rfl
      split
      · exact .inl rfl
      · exact .inl rfl
      · exact ih _

theorem follow_eq_or (t : Tree) (fits : Path → Bool) (links : Nat) (l : Location)
    (names : List String) :
    t.follow fits links l names = t.follow (fun _ => true) links l names ∨
      t.follow fits links l names = .error .nameTooLong := by
  induction links generalizing l names with
  | zero =>
    rw [follow, follow]
    rcases t.walk_eq_or fits l names with heq | heq
    · rw [heq]
      exact .inl rfl
    · rw [heq]
      exact .inr rfl
  | succ links ih =>
    rw [follow, follow]
    rcases t.walk_eq_or fits l names with heq | heq
    · rw [heq]
      split
      · exact .inl rfl
      · exact .inl rfl
      · exact ih _ _
    · rw [heq]
      exact .inr rfl

/-- The one reason why a path does not lead to where it leads if all paths fit is that one does not
fit. -/
theorem locate_eq_or (t : Tree) (fits : Path → Bool) (p : Path) :
    t.locate fits p = t.locate (fun _ => true) p ∨ t.locate fits p = .error .nameTooLong := by
  rw [locate, locate]
  split
  · exact .inl rfl
  split
  · exact .inl rfl
  · exact t.follow_eq_or fits _ _ _

/-! ### Where paths lead -/

theorem locate_eq_ok {p : Path} : t.locate fits p = .ok q ↔
    '\x00' ∉ p.toList ∧ p ≠ "" ∧
      t.follow fits linkLimit (startOf t.here p) (Path.components p) = .ok q := by
  rw [locate]
  by_cases nul : '\x00' ∈ p.toList
  · simp [nul]
  · by_cases empty : p = ""
    · simp [empty]
    · simp [nul, empty]

/-- The system finds what a path leads to, if it takes the path as it is written. -/
theorem find_eq_ok {p : Path} :
    t.find p = .ok q ↔ Path.fits p = true ∧ t.locate (fun _ => true) p = .ok q := by
  rw [find]
  by_cases fit : Path.fits p = true
  · simp [fit]
  · rw [Bool.not_eq_true] at fit
    by_cases nul : '\x00' ∈ p.toList
    · simp [fit, nul, locate]
    · simp [fit, nul]

/-- A path that the system finds is resolved to the same location, unless a path on the way is too
long. -/
theorem canonicalize_of_find {p : Path} (h : t.find p = .ok q) :
    t.canonicalize p = .ok q ∨ t.canonicalize p = .error .nameTooLong := by
  rw [← (find_eq_ok.mp h).2]
  exact t.locate_eq_or Path.fits p

/-- A path leads to a canonical location, if it starts at one. -/
theorem canonical_of_locate {p : Path} (start : t.Canonical (startOf t.here p))
    (h : t.locate fits p = .ok q) : t.Canonical q :=
  start.follow (fun _ => Path.component_of_mem) (locate_eq_ok.mp h).2.2

theorem canonical_of_canonicalize {p : Path} (start : t.Canonical (startOf t.here p))
    (h : t.canonicalize p = .ok q) : t.Canonical q :=
  canonical_of_locate start h

theorem canonical_startOf {p : Path} (h : Path.isAbsolute p = true) (l : Location) :
    t.Canonical (startOf l p) := by
  rw [startOf, if_pos h]
  exact .top

/-! ### How long the path of a location is -/

/-- What is walked down to has a path that fits, if what is walked from has. -/
theorem walk_fits (h : Path.fits l.path = true) :
    (∀ q, t.walk Path.fits l names = .arrived q → Path.fits q.path = true) ∧
      ∀ directory target rest, t.walk Path.fits l names = .met directory target rest →
        Path.fits directory.path = true := by
  induction names generalizing l with
  | nil =>
    constructor
    · rintro q ⟨⟩
      exact h
    · exact nofun
  | cons name names ih =>
    rcases t.walk_cons Path.fits l name names with
      ⟨m, fit, dir, step, heq⟩ | ⟨fault, heq⟩ | ⟨target, -, heq⟩
    · rw [heq]
      refine ih ?_
      cases step with
      | stay => exact h
      | up => exact Location.fits_of_prefix (List.dropLast_prefix l) h
      | down opens => rwa [Location.step_eq opens.not_here opens.not_up] at fit
    · rw [heq]
      exact ⟨nofun, nofun⟩
    · rw [heq]
      refine ⟨nofun, ?_⟩
      rintro directory target' rest ⟨⟩
      exact h

/-- An absolute path is resolved to a location whose path fits. -/
theorem fits_of_canonicalize {p : Path} (absolute : Path.isAbsolute p = true)
    (h : t.canonicalize p = .ok q) : Path.fits q.path = true := by
  obtain ⟨-, -, leads⟩ := locate_eq_ok.mp h
  rw [startOf, if_pos absolute] at leads
  refine follow_invariant (fun l _ => Path.fits l.path = true) (fun h => (walk_fits h).1 _)
    (fun {_ _ directory target rest} h hwalk => ?_) rfl leads
  rw [startOf]
  split
  · rfl
  · exact (walk_fits h).2 _ _ _ hwalk

/-! ### The path of a canonical location -/

/-- Whether no name in a tree holds the character that no path can hold. -/
def NulFree (t : Tree) : Prop := ∀ entry ∈ t.entries, ∀ name ∈ entry.1, '\x00' ∉ name.toList

instance (t : Tree) : Decidable t.NulFree :=
  inferInstanceAs (Decidable (∀ entry ∈ t.entries, ∀ name ∈ entry.1, '\x00' ∉ name.toList))

/-- What stands below the top is an entry of the tree. -/
theorem exists_mem_of_at? {e : Entry} (h : t.at? l = some e) (ne : l ≠ []) :
    (l, e) ∈ t.entries := by
  rw [at?, if_neg (by simpa using ne), List.lookup_eq_some_iff] at h
  obtain ⟨before, after, hentries, -⟩ := h
  rw [hentries]
  simp

namespace Canonical

theorem components (h : t.Canonical l) : ∀ name ∈ l, Path.Component name := by
  induction h with
  | top => exact nofun
  | down _ _ component _ ih =>
    rw [List.forall_mem_append]
    exact ⟨ih, by simpa using component⟩

/-- The names of a canonical location are walked through one by one, if their paths fit. -/
theorem walk_self (h : t.Canonical l) (fit : ∀ m : Location, m <+: l → fits m.path = true)
    (more : List String) : t.walk fits [] (l ++ more) = t.walk fits l more := by
  induction h generalizing more with
  | top => rfl
  | @down l name _ dir _ opens ih =>
    have step : fits (l.step name) = true := by
      rw [Location.step_eq opens.not_here opens.not_up]
      exact fit _ (List.prefix_refl _)
    rw [List.append_assoc, List.singleton_append,
      ih fun m hm => fit m (hm.trans (List.prefix_append l [name])), opens.walk_eq dir step]

theorem nul_not_mem_path (h : t.Canonical l) (nulFree : t.NulFree) :
    '\x00' ∉ l.path.toList := by
  by_cases hl : l = []
  · subst hl
    decide
  · obtain ⟨e, he⟩ : ∃ e, t.at? l = some e := by
      rcases h.stands with ⟨f, stands⟩ | stands
      · exact ⟨_, stands⟩
      · exact ⟨_, stands⟩
    have names := nulFree _ (exists_mem_of_at? he hl)
    rw [Location.toList_path hl, List.mem_flatMap]
    rintro ⟨name, hname, hmem⟩
    rcases List.mem_cons.mp hmem with hslash | hmem
    · exact absurd hslash (by decide)
    · exact names name hname hmem

/-- The path of a canonical location leads to it, if the paths on the way fit. -/
theorem locate_path (h : t.Canonical l) (nulFree : t.NulFree)
    (fit : ∀ m : Location, m <+: l → fits m.path = true) (top : fits "//" = true) :
    t.locate fits l.path = .ok l := by
  have absolute : Path.isAbsolute l.path = true := l.isAbsolute_path
  have arrives : t.walk fits [] (Path.components l.path) = .arrived l := by
    by_cases hl : l = []
    · -- The path of the top is a slash, behind which the top is named once more.
      subst hl
      show t.walk fits [] ["."] = .arrived []
      rw [Tree.walk]
      show (if !fits "//" then _ else _) = _
      rw [top]
      rfl
    · rw [Location.components_path hl h.components]
      simpa [Tree.walk] using h.walk_self fit []
  refine locate_eq_ok.mpr ⟨h.nul_not_mem_path nulFree, ?_, ?_⟩
  · rintro empty
    rw [empty] at absolute
    cases absolute
  · rw [Tree.startOf, if_pos absolute, Tree.follow, arrives]

/-- The path of a canonical location leads to it if it fits, asked for in either way. -/
theorem canonicalize_path (h : t.Canonical l) (nulFree : t.NulFree)
    (fit : Path.fits l.path = true) : t.canonicalize l.path = .ok l :=
  h.locate_path nulFree (fun _ hm => Location.fits_of_prefix hm fit) (by decide +kernel)

theorem find_path (h : t.Canonical l) (nulFree : t.NulFree) (fit : Path.fits l.path = true) :
    t.find l.path = .ok l :=
  find_eq_ok.mpr ⟨fit, h.locate_path nulFree (fun _ _ => rfl) rfl⟩

end Canonical

end Tree

end Emend
