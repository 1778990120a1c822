import Emend.Pattern.Basic

/-!
# The names of groups

A name of a pattern belongs to one group, which the pattern has (`Pattern.compile_labelled`), so what
a name is looked up as is the group of that name (`Pattern.Labelled.groupIndex?_eq_some`).

The reader goes through a pattern item by item. `Reading.Names` says all that an item can do to the
names that have been read: most items do nothing, and an opening parenthesis may give the next group
a name that no other group has. What this keeps, a whole run keeps (`Reading.run_invariant`): names
stay apart, their groups are among those that have been opened (`Reading.Numbered`), and each is
spelled as a name (`GroupName`). Compiling a pattern leaves names out, with their groups, but adds
none.
-/

namespace Emend

/-! ### Reading -/

/-- How the name of a group is spelled in a pattern. -/
inductive GroupName : List Char → Prop
  | intro {c : Char} {rest : List Char} (first : c = '_' ∨ Unicode.isAlphabetic c = true)
      (others : ∀ d ∈ rest, d ∈ ['_', '.', '[', ']'] ∨ Unicode.isAlphanumeric d = true) :
      GroupName (c :: rest)

namespace Reading

/-- What the names and the number of groups of a reading can be after an item. -/
inductive Names (r : Reading) : Reading → Prop
  | kept {r' : Reading} (names : r'.names = r.names) (captured : r.captured ≤ r'.captured) :
      Names r r'
  /-- The next group gets a name. -/
  | added {r' : Reading} (name : String) (spelled : GroupName name.toList)
      (fresh : name ∉ r.names.map Prod.fst)
      (names : r'.names = r.names ++ [(name, r.captured + 1)])
      (captured : r'.captured = r.captured + 1) : Names r r'

variable {r r' : Reading} {rest text : List Char}

theorem Names.same (names : r'.names = r.names) (captured : r'.captured = r.captured) :
    r.Names r' :=
  .kept names (Nat.le_of_eq captured.symm)

theorem names_closeGroup? (h : r.closeGroup? rest = some r') : r.Names r' := by
  rw [closeGroup?] at h
  split at h
  · cases h
  · obtain rfl := Option.some.inj h
    exact .same rfl rfl

theorem groupName_of_readName {name : String} (h : readName text = some (name, rest)) :
    GroupName name.toList := by
  rw [readName] at h
  split at h
  · split at h
    · next c more _ _ spelled =>
      obtain ⟨rfl, rfl⟩ : String.ofList (c :: more) = name ∧ _ = rest := by simpa using h
      rw [String.toList_ofList]
      rw [Bool.and_eq_true, List.all_eq_true] at spelled
      refine .intro (by simpa [isNameStart] using spelled.1) fun d hd => ?_
      have other := spelled.2 d hd
      simpa [isNameChar, or_assoc] using other
    · cases h
  · cases h

theorem names_openNamed? (h : r.openNamed? text = some r') : r.Names r' := by
  obtain ⟨⟨name, rest⟩, hname, h⟩ := Option.bind_eq_some_iff.mp h
  dsimp only at h
  split at h
  · cases h
  · next unused =>
    obtain rfl := Option.some.inj h
    refine .added name (groupName_of_readName hname) (fun hmem => unused ?_) rfl rfl
    obtain ⟨entry, hentry, hname⟩ := List.mem_map.mp hmem
    exact List.any_eq_true.mpr ⟨entry, hentry, beq_iff_eq.mpr hname⟩

theorem names_readGroup? (h : r.readGroup? text = some r') : r.Names r' := by
  rw [readGroup?] at h
  split at h
  -- The four ways to look around are refused.
  · cases h
  · cases h
  · cases h
  · cases h
  · exact names_openNamed? h
  · exact names_openNamed? h
  · split at h
    · cases h
    · obtain rfl := Option.some.inj h
      exact .same rfl rfl
    · split at h
      · obtain rfl := Option.some.inj h
        exact .same rfl rfl
      · cases h
  · obtain rfl := Option.some.inj h
    exact .kept rfl (Nat.le_succ _)

theorem names_repeatLast? {least : Nat} {most : Option Nat} {short : Bool}
    (h : r.repeatLast? least most short rest = some r') : r.Names r' := by
  rw [repeatLast?] at h
  split at h
  · split at h
    · obtain rfl := Option.some.inj h
      exact .same rfl rfl
    · cases h
  · cases h

theorem names_repeatBySign? {least : Nat} {most : Option Nat}
    (h : r.repeatBySign? least most text = some r') : r.Names r' := by
  unfold repeatBySign? at h
  split at h <;> exact names_repeatLast? h

/-- A repetition between numbers that have been read is made last. -/
theorem names_repeatBetween {least : Nat} (most : Option Nat) (afterCount : List Char)
    (h : (if most.any (· < least) then none
      else match afterCount with
        | '\x7d' :: rest => r.repeatBySign? least most (skipBlanks r.flags.extended rest)
        | _ => none) = some r') : r.Names r' := by
  split at h
  · cases h
  · split at h
    · exact names_repeatBySign? h
    · cases h

theorem names_repeatByCount? (h : r.repeatByCount? text = some r') : r.Names r' := by
  obtain ⟨⟨least?, afterLeast⟩, -, h⟩ := Option.bind_eq_some_iff.mp h
  obtain ⟨least, -, h⟩ := Option.bind_eq_some_iff.mp h
  -- A comma may follow, and a second number after it.
  dsimp only at h
  split at h
  · split at h
    · next rest _ => exact names_repeatBetween none ('\x7d' :: rest) h
    · obtain ⟨⟨most?, afterMost⟩, -, h⟩ := Option.bind_eq_some_iff.mp h
      obtain ⟨most, -, h⟩ := Option.bind_eq_some_iff.mp h
      exact names_repeatBetween (some most) afterMost h
  · exact names_repeatBetween (some least) _ h

/-- All that an item does to names. -/
theorem step_names {c : Char} (h : r.step c rest = some r') : r.Names r' := by
  unfold step at h
  split at h
  · exact names_readGroup? h
  · exact names_closeGroup? h
  · obtain rfl := Option.some.inj h
    exact .same rfl rfl
  · obtain ⟨⟨s, afterSet⟩, -, rfl⟩ := Option.map_eq_some_iff.mp h
    exact .same rfl rfl
  · exact names_repeatBySign? h
  · exact names_repeatBySign? h
  · exact names_repeatBySign? h
  · exact names_repeatByCount? h
  · obtain ⟨e, -, rfl⟩ := Option.map_eq_some_iff.mp h
    exact .same rfl rfl
  · obtain rfl := Option.some.inj h
    exact .same rfl rfl
  · obtain rfl := Option.some.inj h
    exact .same rfl rfl
  · obtain ⟨⟨e, afterEscape⟩, -, h⟩ := Option.bind_eq_some_iff.mp h
    obtain ⟨e, -, h⟩ := Option.bind_eq_some_iff.mp h
    obtain rfl := Option.some.inj h
    exact .same rfl rfl
  · obtain ⟨e, -, rfl⟩ := Option.map_eq_some_iff.mp h
    exact .same rfl rfl

/-- Whether names are told apart and belong to groups that have been opened. -/
structure Numbered (r : Reading) : Prop where
  distinct : (r.names.map Prod.fst).Nodup
  opened : ∀ entry ∈ r.names, 0 < entry.2 ∧ entry.2 ≤ r.captured

theorem Names.numbered (h : r.Names r') (numbered : r.Numbered) : r'.Numbered := by
  cases h with
  | kept names captured =>
    refine ⟨by rw [names]; exact numbered.distinct, fun entry hentry => ?_⟩
    rw [names] at hentry
    obtain ⟨positive, le⟩ := numbered.opened entry hentry
    exact ⟨positive, Nat.le_trans le captured⟩
  | added name _ fresh names captured =>
    constructor
    · have apart : ∀ other ∈ r.names.map Prod.fst, ∀ last ∈ [name], other ≠ last := by
        intro other hother last hlast heq
        obtain rfl := List.mem_singleton.mp hlast
        exact fresh (heq ▸ hother)
      rw [names, List.map_append]
      exact List.nodup_append.mpr ⟨numbered.distinct, List.pairwise_singleton .., apart⟩
    · intro entry hentry
      rw [names] at hentry
      rcases List.mem_append.mp hentry with hentry | hentry
      · obtain ⟨positive, le⟩ := numbered.opened entry hentry
        omega
      · obtain rfl := List.mem_singleton.mp hentry
        show 0 < r.captured + 1 ∧ r.captured + 1 ≤ r'.captured
        omega

/-- Whether all names are spelled as names. -/
def Spelled (r : Reading) : Prop := ∀ entry ∈ r.names, GroupName entry.1.toList

theorem Names.spelled (h : r.Names r') (spelled : r.Spelled) : r'.Spelled := by
  cases h with
  | kept names =>
    rw [Spelled, names]
    exact spelled
  | added name this _ names =>
    rw [Spelled, names]
    exact List.forall_mem_append.mpr ⟨spelled, List.forall_mem_singleton.mpr this⟩

/-- What each item keeps, whatever is read, a run keeps. -/
theorem run_invariant {P : Reading → Prop} (keeps : ∀ r r' : Reading, r.Names r' → P r → P r')
    {rounds : Nat} (h : run rounds r = some r') (start : P r) : P r' := by
  induction rounds generalizing r with
  | zero => cases h
  | succ rounds ih =>
    rw [run] at h
    split at h
    · obtain rfl := Option.some.inj h
      exact start
    · obtain ⟨next, hstep, hrun⟩ := Option.bind_eq_some_iff.mp h
      have kept : P next := keeps r next (step_names hstep) start
      exact ih hrun kept

end Reading

/-- The names of a pattern that is read are told apart, none is one for the whole match, and each is
spelled as a name. -/
theorem readPattern_names {flags : PatternFlags} {text : List Char} {read : PatternText}
    (h : readPattern flags text = some read) :
    (read.names.map Prod.fst).Nodup ∧ (∀ entry ∈ read.names, 0 < entry.2) ∧
      ∀ entry ∈ read.names, GroupName entry.1.toList := by
  obtain ⟨r, hrun, h⟩ := Option.bind_eq_some_iff.mp h
  have numbered : r.Numbered :=
    Reading.run_invariant (fun _ _ h => h.numbered) hrun ⟨.nil, nofun⟩
  have spelled : r.Spelled := Reading.run_invariant (fun _ _ h => h.spelled) hrun nofun
  split at h
  · obtain rfl := Option.some.inj h
    exact ⟨numbered.distinct, fun entry hentry => (numbered.opened entry hentry).1, spelled⟩
  · cases h

/-! ### Patterns -/

/-- Whether each name of a pattern belongs to one group, which the pattern has. -/
structure Pattern.Labelled (p : Pattern) : Prop where
  distinct : (p.names.map Prod.fst).Nodup
  groups : ∀ entry ∈ p.names, 0 < entry.2 ∧ entry.2 ≤ p.groupCount

/-- No number is larger than the largest of several that it is one of. -/
theorem le_foldl_max {n : Nat} {numbers : List Nat} (h : n ∈ numbers) (least : Nat) :
    n ≤ numbers.foldl max least := by
  have grows (numbers : List Nat) (least : Nat) : least ≤ numbers.foldl max least := by
    induction numbers generalizing least with
    | nil => exact Nat.le_refl _
    | cons m rest ih => exact Nat.le_trans (Nat.le_max_left least m) (ih (max least m))
  induction numbers generalizing least with
  | nil => cases h
  | cons m rest ih =>
    rcases List.mem_cons.mp h with rfl | h
    · exact Nat.le_trans (Nat.le_max_right least n) (grows rest (max least n))
    · exact ih h (max least m)

namespace Pattern

variable {p : Pattern} {name : String} {index : Nat}

theorem compile_labelled {flags : PatternFlags} {source : String}
    (h : compile flags source = .ok p) : p.Labelled := by
  obtain ⟨read, hread, -, rfl⟩ := compile_eq_ok.mp h
  obtain ⟨distinct, positive, -⟩ := readPattern_names hread
  refine ⟨?_, fun entry hentry => ?_⟩
  · -- The names that are left are some of those that were read.
    exact distinct.sublist (List.filter_sublist.map _)
  · obtain ⟨known, present⟩ := List.mem_filter.mp hentry
    have counted : entry.2 ∈ read.regex.groupIndices := List.contains_iff_mem.mp present
    exact ⟨positive entry known, le_foldl_max counted 0⟩

/-- A pattern gives no other names than those that are spelled as names. -/
theorem groupName_of_compile {flags : PatternFlags} {source : String}
    (h : compile flags source = .ok p) (named : (name, index) ∈ p.names) :
    GroupName name.toList := by
  obtain ⟨read, hread, -, rfl⟩ := compile_eq_ok.mp h
  exact (readPattern_names hread).2.2 _ (List.mem_filter.mp named).1

namespace Labelled

/-- A name stands for the group that bears it. -/
theorem groupIndex?_eq_some (h : p.Labelled) :
    p.groupIndex? name = some index ↔ (name, index) ∈ p.names := by
  rw [groupIndex?, List.lookup_eq_some_iff]
  constructor
  · rintro ⟨before, after, hnames, -⟩
    rw [hnames]
    simp
  · intro hmem
    obtain ⟨before, after, hnames⟩ := List.append_of_mem hmem
    refine ⟨before, after, hnames, fun entry hentry => ?_⟩
    -- A name before it that is the same would be there twice.
    have distinct := h.distinct
    rw [hnames, List.map_append, List.nodup_append] at distinct
    have apart := distinct.2.2 entry.1 (List.mem_map_of_mem hentry) name (by simp)
    exact bne_iff_ne.mpr apart.symm

theorem groupIndex?_eq_none (h : p.Labelled) :
    p.groupIndex? name = none ↔ ∀ index, (name, index) ∉ p.names := by
  rw [Option.eq_none_iff_forall_ne_some]
  exact forall_congr' fun index => not_congr h.groupIndex?_eq_some

/-- No two groups bear one name. -/
theorem index_unique (h : p.Labelled) {other : Nat} (hindex : (name, index) ∈ p.names)
    (hother : (name, other) ∈ p.names) : other = index := by
  have hfirst := h.groupIndex?_eq_some.mpr hindex
  rw [h.groupIndex?_eq_some.mpr hother] at hfirst
  exact Option.some.inj hfirst

end Labelled

end Pattern

end Emend
