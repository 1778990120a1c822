import Emend.Proofs.Pattern.Groups
import Emend.Proofs.Rule.Built

/-!
# References to groups

A rule that exists refers only to groups that its pattern has, so nothing that a reference stands
for is lost without a word (`Rule.build_resolves`).

`Rule.Refused` lists what can be wrong with a definition, in the order in which it is looked for. A
definition is refused for one of these reasons or gives a rule (`Rule.built_or_refused`), and what is
refused fails with its reason (`Rule.Refused.build`); together this says which error is reported.

What a reference is looked up as when a template is filled in is the group that was there when the
rule was made (`Pattern.Labelled`), so it stands for the text of that group.
-/

namespace Emend

open Template (Piece)

/-! ### What a part refers to -/

namespace Pattern

/-- The group of a pattern that a part of a template refers to. Group 0 is the whole match. -/
inductive Resolves (p : Pattern) : Piece → Nat → Prop
  | number {index : Nat} (counted : index < p.groupCount + 1) : Resolves p (.group index) index
  | name {name : String} {index : Nat} (named : (name, index) ∈ p.names) :
      Resolves p (.named name) index

/-- Whether a part refers to a group that a pattern does not have, and how it is written. -/
inductive Lacks (p : Pattern) : Piece → String → Prop
  | number {index : Nat} (uncounted : p.groupCount < index) :
      Lacks p (.group index) (toString index)
  | name {name : String} (unnamed : ∀ index, (name, index) ∉ p.names) : Lacks p (.named name) name

/-- A part is plain text, or refers to one group that the pattern has, or to one that it lacks. -/
theorem literal_or_resolves_or_lacks (p : Pattern) (piece : Piece) :
    (∃ text, piece = .literal text) ∨ (∃ index, p.Resolves piece index) ∨
      ∃ group, p.Lacks piece group := by
  cases piece with
  | literal text => exact .inl ⟨text, rfl⟩
  | group index =>
    rcases Nat.lt_or_ge p.groupCount index with h | h
    · exact .inr (.inr ⟨_, .number h⟩)
    · exact .inr (.inl ⟨_, .number (Nat.lt_succ_of_le h)⟩)
  | named name =>
    by_cases h : ∃ index, (name, index) ∈ p.names
    · obtain ⟨index, h⟩ := h
      exact .inr (.inl ⟨index, .name h⟩)
    · exact .inr (.inr ⟨name, .name fun index hmem => h ⟨index, hmem⟩⟩)

/-- Parts lack no group if their numbers are counted and their names are names of groups. -/
theorem forall_not_lacks_iff {p : Pattern} {pieces : List Piece} :
    (∀ piece ∈ pieces, ∀ group, ¬ p.Lacks piece group) ↔
      (∀ index, .group index ∈ pieces → index < p.groupCount + 1) ∧
      ∀ name, .named name ∈ pieces → ∃ index, (name, index) ∈ p.names := by
  constructor
  · intro known
    refine ⟨fun index hmem => ?_, fun name hmem => ?_⟩
    · refine Nat.lt_succ_of_le (Nat.le_of_not_lt fun uncounted => ?_)
      exact known _ hmem _ (.number uncounted)
    · by_contra unnamed
      exact known _ hmem _ (.name fun index hname => unnamed ⟨index, hname⟩)
  · rintro ⟨numbers, names⟩ piece hmem group lacks
    cases lacks with
    | number uncounted =>
      have counted := numbers _ hmem
      omega
    | name unnamed =>
      obtain ⟨index, named⟩ := names _ hmem
      exact unnamed index named

theorem Labelled.resolves_unique {p : Pattern} (labelled : p.Labelled) {piece : Piece}
    {index other : Nat} (h : p.Resolves piece index) (h' : p.Resolves piece other) :
    other = index := by
  cases h with
  | number =>
    cases h'
    rfl
  | name named =>
    cases h' with
    | name named' => exact labelled.index_unique named named'

end Pattern

namespace Template

/-- How the group of one part is written if a pattern does not have it. -/
def Piece.unknown? (p : Pattern) : Piece → Option String
  | literal _ => none
  | group index => if index ≤ p.groupCount then none else some (toString index)
  | named name => if (p.groupIndex? name).isSome then none else some name

/-- The first of the parts that refer to nothing is reported. -/
theorem unknownGroup?_eq (t : Template) (p : Pattern) :
    t.unknownGroup? p = t.pieces.findSome? (·.unknown? p) := rfl

variable {t : Template} {p : Pattern} {group : String}

theorem Piece.unknown?_eq_some (labelled : p.Labelled) {piece : Piece} :
    piece.unknown? p = some group ↔ p.Lacks piece group := by
  constructor
  · intro h
    cases piece with
    | literal text => cases h
    | group index =>
      rw [unknown?] at h
      split at h
      · cases h
      · next uncounted =>
        obtain rfl := Option.some.inj h
        exact .number (Nat.lt_of_not_le uncounted)
    | named name =>
      rw [unknown?] at h
      split at h
      · cases h
      · next unnamed =>
        obtain rfl := Option.some.inj h
        rw [Option.not_isSome_iff_eq_none, labelled.groupIndex?_eq_none] at unnamed
        exact .name unnamed
  · intro h
    cases h with
    | number uncounted => rw [unknown?, if_neg (Nat.not_le_of_lt uncounted)]
    | name unnamed =>
      rw [unknown?, labelled.groupIndex?_eq_none.mpr unnamed]
      rfl

theorem Piece.unknown?_eq_none (labelled : p.Labelled) {piece : Piece} :
    piece.unknown? p = none ↔ ∀ group, ¬ p.Lacks piece group := by
  rw [Option.eq_none_iff_forall_ne_some]
  exact forall_congr' fun group => not_congr (unknown?_eq_some labelled)

theorem unknownGroup?_eq_some (labelled : p.Labelled) :
    t.unknownGroup? p = some group ↔ ∃ before piece after, t.pieces = before ++ piece :: after ∧
      (∀ q ∈ before, ∀ other, ¬ p.Lacks q other) ∧ p.Lacks piece group := by
  rw [unknownGroup?_eq, List.findSome?_eq_some_iff]
  simp only [Piece.unknown?_eq_some labelled, Piece.unknown?_eq_none labelled]
  constructor
  · rintro ⟨before, piece, after, hpieces, lacks, known⟩
    exact ⟨before, piece, after, hpieces, known, lacks⟩
  · rintro ⟨before, piece, after, hpieces, known, lacks⟩
    exact ⟨before, piece, after, hpieces, lacks, known⟩

theorem unknownGroup?_eq_none (labelled : p.Labelled) :
    t.unknownGroup? p = none ↔ ∀ piece ∈ t.pieces, ∀ group, ¬ p.Lacks piece group := by
  rw [unknownGroup?_eq, List.findSome?_eq_none_iff]
  simp only [Piece.unknown?_eq_none labelled]

end Template

namespace Rule

variable {pattern replacement : String} {flags : RuleFlags} {fault : DefinitionFault}

/-! ### What is refused -/

/-- Why a definition is refused. Each reason takes that none of those before it is there. -/
inductive Refused (pattern replacement : String) (flags : RuleFlags) : DefinitionFault → Prop
  | emptyPattern (empty : pattern = "") : Refused pattern replacement flags .emptyPattern
  | invalidPattern {fault : PatternFault} (some_pattern : pattern ≠ "")
      (fails : Pattern.compile flags.patternFlags pattern = .error fault) :
      Refused pattern replacement flags (.invalidPattern pattern fault)
  | invalidTemplate {compiled : Pattern} {fault : TemplateFault} (some_pattern : pattern ≠ "")
      (compiles : Pattern.compile flags.patternFlags pattern = .ok compiled)
      (fails : Template.parse replacement = .error fault) :
      Refused pattern replacement flags (.invalidTemplate replacement fault)
  /-- The first part that refers to nothing is named. -/
  | unknownGroup {compiled : Pattern} {template : Template} {before after : List Piece}
      {piece : Piece} {group : String} (some_pattern : pattern ≠ "")
      (compiles : Pattern.compile flags.patternFlags pattern = .ok compiled)
      (parses : Template.parse replacement = .ok template)
      (here : template.pieces = before ++ piece :: after)
      (first : ∀ q ∈ before, ∀ other, ¬ compiled.Lacks q other)
      (lacks : compiled.Lacks piece group) :
      Refused pattern replacement flags (.unknownGroup pattern group compiled.groupCount)

/-- What is refused fails with the reason. -/
theorem Refused.build (h : Refused pattern replacement flags fault) :
    build pattern replacement flags = .error fault := by
  cases h with
  | emptyPattern empty =>
    subst empty
    rfl
  | invalidPattern some_pattern fails =>
    have started : pattern.isEmpty = false := by simpa using some_pattern
    rw [Rule.build, started, fails]
    rfl
  | invalidTemplate some_pattern compiles fails =>
    have started : pattern.isEmpty = false := by simpa using some_pattern
    rw [Rule.build, started, compiles, fails]
    rfl
  | unknownGroup some_pattern compiles parses here first lacks =>
    have started : pattern.isEmpty = false := by simpa using some_pattern
    have unknown := (Template.unknownGroup?_eq_some (Pattern.compile_labelled compiles)).mpr
      ⟨_, _, _, here, first, lacks⟩
    rw [Rule.build, started, compiles, parses]
    simp only [Bool.false_eq_true, if_false, Except.mapError_ok, Except.ok_bind, unknown]
    rfl

/-- A definition gives a rule or is refused. -/
theorem built_or_refused (pattern replacement : String) (flags : RuleFlags) :
    (∃ r, build pattern replacement flags = .ok r) ∨
      ∃ fault, Refused pattern replacement flags fault := by
  -- What can be wrong is looked for in the order of the reasons.
  by_cases empty : pattern = ""
  · exact .inr ⟨_, .emptyPattern empty⟩
  cases compiles : Pattern.compile flags.patternFlags pattern with
  | error fault => exact .inr ⟨_, .invalidPattern empty compiles⟩
  | ok compiled =>
    cases parses : Template.parse replacement with
    | error fault => exact .inr ⟨_, .invalidTemplate empty compiles parses⟩
    | ok template =>
      cases unknown : template.unknownGroup? compiled with
      | none =>
        have started : pattern.isEmpty = false := by simpa using empty
        exact .inl ⟨_, build_eq_ok.mpr
          ⟨started, compiled, template, compiles, parses, unknown, rfl⟩⟩
      | some group =>
        obtain ⟨before, piece, after, here, first, lacks⟩ :=
          (Template.unknownGroup?_eq_some (Pattern.compile_labelled compiles)).mp unknown
        exact .inr ⟨_, .unknownGroup empty compiles parses here first lacks⟩

theorem build_eq_error :
    build pattern replacement flags = .error fault ↔
      Refused pattern replacement flags fault := by
  constructor
  · intro h
    rcases built_or_refused pattern replacement flags with ⟨r, hr⟩ | ⟨fault', refused⟩
    · rw [hr] at h
      cases h
    · obtain rfl := Except.error.inj (h.symm.trans refused.build)
      exact refused
  · exact Refused.build

/-- A definition gives a rule if its pattern has all groups that its template refers to. -/
theorem exists_build_eq_ok :
    (∃ r, build pattern replacement flags = .ok r) ↔ pattern ≠ "" ∧ ∃ compiled template,
      Pattern.compile flags.patternFlags pattern = .ok compiled ∧
      Template.parse replacement = .ok template ∧
      ∀ piece ∈ template.pieces, ∀ group, ¬ compiled.Lacks piece group := by
  have started : pattern.isEmpty = false ↔ pattern ≠ "" := by simp
  constructor
  · rintro ⟨r, h⟩
    obtain ⟨some_pattern, compiled, template, compiles, parses, known, -⟩ := build_eq_ok.mp h
    rw [Template.unknownGroup?_eq_none (Pattern.compile_labelled compiles)] at known
    exact ⟨started.mp some_pattern, compiled, template, compiles, parses, known⟩
  · rintro ⟨some_pattern, compiled, template, compiles, parses, known⟩
    rw [← Template.unknownGroup?_eq_none (Pattern.compile_labelled compiles)] at known
    exact ⟨_, build_eq_ok.mpr
      ⟨started.mpr some_pattern, compiled, template, compiles, parses, known, rfl⟩⟩

/-! ### What a reference stands for -/

/-- What a part of a template stands for in a match: itself, or the text of the one group that it
refers to, or nothing if this group took no part in the match. -/
inductive Fills (p : Pattern) (m : Match) : Piece → List Char → Prop
  | literal {text : List Char} : Fills p m (.literal text) text
  | captured {piece : Piece} {index : Nat} {taken : List Char} (refers : p.Resolves piece index)
      (only : ∀ other, p.Resolves piece other → other = index)
      (took : m.group? index = some taken) : Fills p m piece taken
  | absent {piece : Piece} {index : Nat} (refers : p.Resolves piece index)
      (only : ∀ other, p.Resolves piece other → other = index)
      (missed : m.group? index = none) : Fills p m piece []

/-- A part that refers to a group is filled in with what the group has taken. -/
theorem expand_of_resolves {p : Pattern} (labelled : p.Labelled) {piece : Piece} {index : Nat}
    (h : p.Resolves piece index) (m : Match) :
    piece.expand p m = (m.group? index).getD [] := by
  cases h with
  | number => rfl
  | name named =>
    rw [Piece.expand, labelled.groupIndex?_eq_some.mpr named]
    rfl

theorem fills_expand {p : Pattern} (labelled : p.Labelled) {piece : Piece}
    (known : ∀ group, ¬ p.Lacks piece group) (m : Match) :
    Fills p m piece (piece.expand p m) := by
  rcases p.literal_or_resolves_or_lacks piece with ⟨text, rfl⟩ | ⟨index, refers⟩ | ⟨group, lacks⟩
  · exact .literal
  · have only (other : Nat) (h : p.Resolves piece other) : other = index :=
      labelled.resolves_unique refers h
    rw [expand_of_resolves labelled refers m]
    cases hgroup : m.group? index with
    | none => exact .absent refers only hgroup
    | some taken => exact .captured refers only hgroup
  · exact absurd lacks (known group)

/-- What is known of a rule that exists, described or not. -/
theorem Built.known {r : Rule} (h : r.Built) :
    ∃ flags source, Pattern.compile flags source = .ok r.pattern ∧
      ∀ piece ∈ r.template.pieces, ∀ group, ¬ r.pattern.Lacks piece group := by
  induction h with
  | build builds =>
    obtain ⟨-, compiled, template, compiles, -, known, rfl⟩ := build_eq_ok.mp builds
    rw [Template.unknownGroup?_eq_none (Pattern.compile_labelled compiles)] at known
    exact ⟨_, _, compiles, known⟩
  | describe _ _ ih => exact ih

/-- **No reference dangles.** A definition gives a rule exactly if its pattern is not empty and
compiles, its template is one, each number that it refers to is one of the groups that the pattern
counts, and each name is that of a group. Otherwise the first of these that fails is reported, and
of the references the first one that has no group. Each reference of a rule therefore stands for
what the group that it refers to has taken in a match, and for nothing only if this group took no
part in it; and the groups that take part are among those that can be referred to. -/
theorem build_resolves (pattern replacement : String) (flags : RuleFlags) :
    ((∃ r, build pattern replacement flags = .ok r) ↔ pattern ≠ "" ∧ ∃ compiled template,
      Pattern.compile flags.patternFlags pattern = .ok compiled ∧
      Template.parse replacement = .ok template ∧
      (∀ index, .group index ∈ template.pieces → index < compiled.groupCount + 1) ∧
      ∀ name, .named name ∈ template.pieces → ∃ index, (name, index) ∈ compiled.names) ∧
    (∀ fault, build pattern replacement flags = .error fault ↔
      Refused pattern replacement flags fault) ∧
    ∀ r : Rule, r.Built → ∀ content : String, ∀ m ∈ r.pattern.allMatches content.toList,
      (∀ piece ∈ r.template.pieces, Fills r.pattern m piece (piece.expand r.pattern m)) ∧
      ∀ index taken, m.group? index = some taken → index < r.pattern.groupCount + 1 := by
  refine ⟨?_, fun fault => build_eq_error, ?_⟩
  · rw [exists_build_eq_ok]
    simp only [Pattern.forall_not_lacks_iff]
  · intro r built content m hm
    obtain ⟨flags, source, compiles, known⟩ := built.known
    have labelled : r.pattern.Labelled := Pattern.compile_labelled compiles
    refine ⟨fun piece hpiece => fills_expand labelled (known piece hpiece) m, ?_⟩
    intro index taken took
    exact Nat.lt_succ_of_le (Pattern.le_groupCount_of_group? compiles hm took)

/-- A rule that refers by name to a group that need not take part, and by number to one that must. -/
def labelling : Rule := (build "(?P<key>k)?(v)" "\\g<key>=\\2" {}).toOption.getD default

theorem build_resolves_labelling :
    labelling.Built ∧ labelling.apply "v kv" = { text := "=v k=v", count := 2 } ∧
      (∀ m ∈ labelling.pattern.allMatches "v kv".toList, Fills labelling.pattern m (.named "key")
        (Piece.expand labelling.pattern m (.named "key"))) ∧
      (∃ m ∈ labelling.pattern.allMatches "v kv".toList, m.group? 2 = some ['v'] ∧
        2 < labelling.pattern.groupCount + 1) ∧
      Refused "(a)" "x\\2\\g<y>" {} (.unknownGroup "(a)" "2" 1) := by
  have built : labelling.Built := built_of_isOk (by decide +kernel)
  have refers : Piece.named "key" ∈ labelling.template.pieces := by decide +kernel
  have resolves := (build_resolves "(a)" "x\\2\\g<y>" {}).2
  have took : ∃ m ∈ labelling.pattern.allMatches "v kv".toList, m.group? 2 = some ['v'] := by
    decide +kernel
  obtain ⟨m, hm, hgroup⟩ := took
  refine ⟨built, by decide +kernel, fun m hm => ?_, ⟨m, hm, hgroup, ?_⟩, ?_⟩
  · exact (resolves.2 labelling built "v kv" m hm).1 _ refers
  · exact (resolves.2 labelling built "v kv" m hm).2 2 ['v'] hgroup
  · have fault : (build "(a)" "x\\2\\g<y>" {}).map (fun _ => ()) =
        .error (.unknownGroup "(a)" "2" 1) := by decide +kernel
    exact (resolves.1 _).mp (Except.map_eq_error.mp fault)

end Rule

end Emend
