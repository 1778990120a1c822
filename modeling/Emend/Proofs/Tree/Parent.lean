import Emend.Proofs.Tree.Name
import Emend.Suggestion.Basic

/-!
# The directory and the name of a path

A path is taken apart by its text alone. What is put below another path by a slash is found again:
the other path is its directory (`Path.directory_slash`), with all that is in it, and what is put
below is its name (`Path.fileName?_slash`). A bare name has the directory from which relative paths
start (`Path.directory_of_not_mem`).

Paths begin in different ways (`Path.split_cases`), but the pieces after the beginning are those of
the whole text up to the first one or two, so only their ends matter (`Path.split_slash`).
-/

namespace Emend

namespace Path

variable {base missing : Path} {name : String}

/-! ### Pieces -/

/-- A slash ends a piece. -/
theorem pieces_slash (u v : List Char) : pieces (u ++ '/' :: v) = pieces u ++ pieces v := by
  induction u with
  | nil => rfl
  | cons c u ih =>
    rw [List.cons_append, pieces, pieces]
    by_cases slash : c = '/'
    · rw [if_pos slash, if_pos slash, ih, List.cons_append]
    · rw [if_neg slash, if_neg slash, ih]
      cases h : pieces u with
      | nil => exact absurd h (pieces_ne_nil u)
      | cons piece more => rfl

/-- The pieces of a text, with slashes between them, are the text. -/
theorem intercalate_pieces (text : List Char) : ['/'].intercalate (pieces text) = text := by
  induction text with
  | nil => rfl
  | cons c rest ih =>
    rw [pieces]
    cases h : pieces rest with
    | nil => exact absurd h (pieces_ne_nil rest)
    | cons piece more =>
      rw [h] at ih
      by_cases slash : c = '/'
      · rw [if_pos slash, List.intercalate_cons_cons, ih, slash]
        rfl
      · rw [if_neg slash]
        show ['/'].intercalate ((c :: piece) :: more) = c :: rest
        rw [← ih]
        cases more with
        | nil => rfl
        | cons next more => rw [List.intercalate_cons_cons, List.intercalate_cons_cons]; rfl

theorem join_pieces (text : List Char) :
    "/".intercalate ((pieces text).map String.ofList) = String.ofList text := by
  refine String.toList_inj.mp ?_
  rw [String.toList_intercalate, List.map_map, String.toList_ofList]
  simpa using intercalate_pieces text

/-- A piece that counts is not left out at the end. -/
theorem trimPieces_concat {qs : List String} (h : counts name = true) :
    trimPieces (qs ++ [name]) = qs ++ [name] := by
  have stays : (name.isEmpty || name == ".") = false := by simpa [counts] using h
  rw [trimPieces, List.reverse_append, List.reverse_singleton, List.singleton_append,
    List.dropWhile_cons, stays]
  simp

/-! ### Beginnings -/

/-- The ways in which a path begins. -/
theorem split_cases (p : Path) :
    (∃ rest, p.toList = '/' :: rest ∧ split p = (.top, (pieces rest).map .ofList)) ∨
    (∃ rest, p.toList = '.' :: '/' :: rest ∧
      split p = (.here, (pieces ('/' :: rest)).map .ofList)) ∨
    (p = "." ∧ split p = (.here, [])) ∨
    split p = (.nothing, (pieces p.toList).map .ofList) := by
  rw [split]
  split
  · next rest h => exact .inl ⟨rest, h, rfl⟩
  · next rest h => exact .inr (.inl ⟨rest, h, rfl⟩)
  · next h => exact .inr (.inr (.inl ⟨String.toList_inj.mp h, rfl⟩))
  · exact .inr (.inr (.inr rfl))

theorem getLast?_pieces_slash (rest : List Char) :
    (pieces ('/' :: rest)).getLast? = (pieces rest).getLast? := by
  rw [pieces, if_pos rfl]
  exact List.getLast?_cons_of_ne_nil (pieces_ne_nil rest)

theorem toList_slash (base name : Path) :
    (base ++ "/" ++ name).toList = base.toList ++ '/' :: name.toList := by simp

/-- What a path has below another is split off at its end. -/
theorem split_slash (ne : base ≠ "") (not_dot : base ≠ ".") (no_slash : '/' ∉ name.toList) :
    ∃ (lead : Lead) (qs : List (List Char)),
      split (base ++ "/" ++ name) = (lead, qs.map .ofList ++ [name]) ∧
      base = lead.text ++ "/".intercalate (qs.map .ofList) ∧
      qs.getLast? = (pieces base.toList).getLast? := by
  have text := toList_slash base name
  have whole (u : List Char) : (pieces (u ++ '/' :: name.toList)).map String.ofList =
      (pieces u).map String.ofList ++ [name] := by
    rw [pieces_slash, List.map_append, pieces_of_not_mem no_slash, List.map_singleton,
      String.ofList_toList]
  obtain ⟨c, more, hbase⟩ := List.exists_cons_of_ne_nil (l := base.toList) (by simpa using ne)
  rw [hbase, List.cons_append] at text
  rcases split_cases (base ++ "/" ++ name) with
    ⟨rest, heq, split⟩ | ⟨rest, heq, split⟩ | ⟨heq, -⟩ | split
  · obtain ⟨rfl, rfl⟩ := List.cons.inj (text.symm.trans heq)
    refine ⟨.top, pieces more, by rw [split, whole], ?_, ?_⟩
    · rw [join_pieces]
      refine String.toList_inj.mp ?_
      simp [hbase, Lead.text]
    · rw [hbase, getLast?_pieces_slash]
  · obtain ⟨rfl, hmore⟩ := List.cons.inj (text.symm.trans heq)
    rw [← hmore, whole] at split
    refine ⟨.here, pieces more, split, ?_, ?_⟩
    · rw [join_pieces]
      refine String.toList_inj.mp ?_
      simp [hbase, Lead.text]
    · -- The dot is a piece of its own, and not the only one.
      cases more with
      | nil => exact absurd (String.toList_inj.mp hbase) not_dot
      | cons d more =>
        obtain ⟨rfl, -⟩ := List.cons.inj hmore
        have no_slash : '/' ∉ ['.'] := by decide
        have dot : pieces ('.' :: '/' :: more) = ['.'] :: pieces more := pieces_append no_slash more
        rw [hbase, getLast?_pieces_slash, dot, List.getLast?_cons_of_ne_nil (pieces_ne_nil more)]
  · rw [heq] at text
    have length := congrArg List.length text
    simp at length
  · rw [text, ← List.cons_append, ← hbase, whole] at split
    refine ⟨.nothing, pieces base.toList, split, ?_, rfl⟩
    rw [join_pieces, String.ofList_toList]
    exact (String.empty_append).symm

/-- The last piece holds nothing only if the text is empty or ends in a slash. -/
theorem eq_nil_or_getLast?_of_pieces {text : List Char} (h : (pieces text).getLast? = some []) :
    text = [] ∨ text.getLast? = some '/' := by
  induction text with
  | nil => exact .inl rfl
  | cons c rest ih =>
    refine .inr ?_
    by_cases slash : c = '/'
    · subst slash
      rw [getLast?_pieces_slash] at h
      rcases ih h with rfl | last
      · rfl
      · rw [List.getLast?_cons, last]
        rfl
    · rw [pieces, if_neg slash] at h
      cases hrest : pieces rest with
      | nil => exact absurd hrest (pieces_ne_nil rest)
      | cons piece more =>
        rw [hrest] at h ih
        cases more with
        | nil => cases h
        | cons next more =>
          rcases ih h with rfl | last
          · cases hrest
          · rw [List.getLast?_cons, last]
            rfl

/-- What a path walks through at last is its last piece, if it holds anything. -/
theorem getLast?_components {before : List (List Char)} {piece : List Char}
    (h : pieces base.toList = before ++ [piece]) (held : piece ≠ []) :
    (components base).getLast? = some (.ofList piece) := by
  have goes_on : endsInSlash base = false := by
    by_contra slash
    rw [Bool.not_eq_false, endsInSlash, beq_iff_eq, List.getLast?_eq_some_iff] at slash
    obtain ⟨text, heq⟩ := slash
    rw [heq, pieces_slash, pieces] at h
    exact held (List.append_singleton_inj.mp h).2.symm
  rw [components, h, goes_on]
  simp [held]

/-- If what a path walks through at last is no dot, the path does not end in a slash. -/
theorem endsInSlash_eq_false (ends : (components base).getLast? ≠ some ".") :
    endsInSlash base = false := by
  by_contra slash
  rw [components, if_pos (by simpa using slash), List.getLast?_concat] at ends
  exact ends rfl

/-- Then its last piece counts. -/
theorem exists_last_piece (ne : base ≠ "") (ends : (components base).getLast? ≠ some ".") :
    ∃ before piece, pieces base.toList = before ++ [piece] ∧ counts (.ofList piece) = true := by
  obtain ⟨before, piece, heq⟩ :=
    (List.eq_nil_or_concat' (pieces base.toList)).resolve_left (pieces_ne_nil _)
  have goes_on := endsInSlash_eq_false ends
  have held : piece ≠ [] := by
    rintro rfl
    have last : (pieces base.toList).getLast? = some [] := by rw [heq, List.getLast?_concat]
    rcases eq_nil_or_getLast?_of_pieces last with empty | slash
    · exact ne (String.toList_eq_nil_iff.mp empty)
    · simp [endsInSlash, slash] at goes_on
  have not_dot : String.ofList piece ≠ "." := by
    intro dot
    refine ends ?_
    rw [getLast?_components heq held, dot]
  refine ⟨before, piece, heq, ?_⟩
  simp [counts, held, not_dot]

/-! ### Directories -/

/-- The directory of what a path has below another is the other. -/
theorem directory_slash (ne : base ≠ "") (ends : (components base).getLast? ≠ some ".")
    (component : Component name) (named : ¬ Tree.Unnamed name) :
    directory (base ++ "/" ++ name) = base := by
  have counts_name : counts name = true := by
    have not_here : name ≠ "." := fun here => named (.inl here)
    simp [counts, component.ne_empty, not_here]
  have not_dot : base ≠ "." := by
    rintro rfl
    exact ends rfl
  obtain ⟨lead, qs, split, whole, last⟩ := split_slash ne not_dot component.no_slash
  obtain ⟨before, piece, heq, counts_piece⟩ := exists_last_piece ne ends
  rw [heq, List.getLast?_concat] at last
  obtain ⟨before', rfl⟩ := List.getLast?_eq_some_iff.mp last
  rw [List.map_append, List.map_singleton] at split whole
  have parent : parent? (base ++ "/" ++ name) = some base := by
    rw [parent?, split]
    dsimp only
    rw [trimPieces_concat counts_name]
    split
    · next h => simp at h
    · rw [List.dropLast_concat, trimPieces_concat counts_piece, ← whole]
  rw [directory, parent]
  simp [ne]

/-- A bare name is looked for where relative paths start. -/
theorem directory_of_not_mem (bare : '/' ∉ missing.toList) : directory missing = "." := by
  have parent : parent? missing = none ∨ parent? missing = some "" := by
    rcases split_cases missing with ⟨rest, h, -⟩ | ⟨rest, h, -⟩ | ⟨-, split⟩ | split
    · rw [h] at bare
      exact absurd List.mem_cons_self bare
    · rw [h] at bare
      exact absurd (List.mem_cons_of_mem _ List.mem_cons_self) bare
    · rw [parent?, split]
      exact .inr rfl
    · rw [pieces_of_not_mem bare, List.map_singleton, String.ofList_toList] at split
      have last : (trimPieces [missing]).dropLast = [] := by
        rw [trimPieces, List.reverse_singleton, List.dropWhile_cons]
        split <;> rfl
      rw [parent?, split]
      dsimp only
      split
      · exact .inl rfl
      · rw [last]
        exact .inr rfl
  rw [directory]
  rcases parent with none | empty
  · rw [none]
  · rw [empty]
    rfl

/-! ### Names -/

/-- What is put below another path comes after a slash. -/
theorem Component.join_eq (h : Component name) (ne : base ≠ "") (goes_on : endsInSlash base = false) :
    join base name = base ++ "/" ++ name := by
  have relative : isAbsolute name = false := by
    by_contra absolute
    obtain ⟨rest, heq⟩ := isAbsolute_iff.mp (by simpa using absolute)
    refine h.no_slash ?_
    rw [heq]
    exact List.mem_cons_self
  rw [join, relative, goes_on]
  simp [ne]

/-- The name of a component is the component. -/
theorem Component.fileName?_eq (h : Component name) (named : ¬ Tree.Unnamed name) :
    fileName? name = some name := by
  obtain ⟨not_here, not_up⟩ := not_or.mp named
  have whole : pieces name.toList = [] ++ [name.toList] := pieces_of_not_mem h.no_slash
  refine fileName?_of_getLast? ?_ not_here not_up
  rw [getLast?_components whole (by simpa using h.ne_empty), String.ofList_toList]

/-- What a path has below another is its name. -/
theorem fileName?_slash (h : Component name) (named : ¬ Tree.Unnamed name) :
    fileName? (base ++ "/" ++ name) = some name := by
  obtain ⟨not_here, not_up⟩ := not_or.mp named
  have whole : pieces (base ++ "/" ++ name).toList = pieces base.toList ++ [name.toList] := by
    rw [toList_slash, pieces_slash, pieces_of_not_mem h.no_slash]
  refine fileName?_of_getLast? ?_ not_here not_up
  rw [getLast?_components whole (by simpa using h.ne_empty), String.ofList_toList]

end Path

end Emend
