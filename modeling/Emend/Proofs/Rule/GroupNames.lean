import Emend.Proofs.Rule.Reference
import Emend.Proofs.Rule.Render

/-!
# Groups that can be referred to by name

Patterns and templates spell the names of groups each in a way of its own. Templates take the names
without a dot and without square brackets (`Template.isGroupName_iff_bare`), whereas patterns may
give their groups others too. So a reference to a group by its name gives a rule if the name is
bare; otherwise the reference is refused as a bad name, although it is the name of a group of the
pattern, and no template refers to the group by its name (`Rule.build_referTo`).
-/

namespace Emend

theorem Unicode.isAlphanumeric_of_isAlphabetic {c : Char} (h : isAlphabetic c = true) :
    isAlphanumeric c = true := by
  rw [isAlphabetic] at h
  rw [isAlphanumeric]
  split at h
  · next ascii => simp [ascii, Char.isAlphanum, h]
  · next ascii => simp [ascii, h]

namespace Template

/-! ### Two ways to spell names -/

/-- Whether a name has none of the characters that patterns allow in names and templates do not. -/
def Bare (name : List Char) : Prop := ∀ c ∈ name, c ∉ ['.', '[', ']']

instance (name : List Char) : Decidable (Bare name) := List.decidableBAll _ name

/-- No letter, digit or underscore is a character that ends a name or makes it not bare. -/
theorem not_mem_of_wordChar {c : Char} (h : Unicode.isAlphanumeric c = true ∨ c = '_') :
    c ∉ ['.', '[', ']', '>'] := by
  have others : ['.', '[', ']', '>'].all (fun d => !Unicode.isAlphanumeric d && d != '_') := by
    decide +kernel
  intro hmem
  have other := List.all_eq_true.mp others c hmem
  rcases h with h | h
  · simp [h] at other
  · simp [h] at other

/-- The names that templates take are the bare ones of those that patterns can give. -/
theorem isGroupName_iff_bare {name : List Char} :
    isGroupName name = true ↔ GroupName name ∧ Bare name := by
  cases name with
  | nil => exact ⟨nofun, fun h => nomatch h.1⟩
  | cons c rest =>
    have spelled : isGroupName (c :: rest) = true ↔
        (Unicode.isAlphabetic c = true ∨ c = '_') ∧
          ∀ d ∈ rest, Unicode.isAlphanumeric d = true ∨ d = '_' := by
      simp [isGroupName]
    rw [spelled]
    constructor
    · rintro ⟨first, others⟩
      have word : ∀ d ∈ c :: rest, Unicode.isAlphanumeric d = true ∨ d = '_' :=
        List.forall_mem_cons.mpr ⟨first.imp_left Unicode.isAlphanumeric_of_isAlphabetic, others⟩
      refine ⟨.intro first.symm fun d hd => ?_, fun d hd special => ?_⟩
      · rcases others d hd with letter | rfl
        · exact .inr letter
        · exact .inl (by simp)
      · exact not_mem_of_wordChar (word d hd) (List.mem_append_left ['>'] special)
    · rintro ⟨⟨first, others⟩, bare⟩
      refine ⟨first.symm, fun d hd => ?_⟩
      rcases others d hd with special | letter
      · rcases List.mem_cons.mp special with rfl | special
        · exact .inr rfl
        · exact absurd special (bare d (List.mem_cons_of_mem c hd))
      · exact .inl letter

end Template

/-- No name goes on past the closing bracket. -/
theorem GroupName.within {name : List Char} (h : GroupName name) : '>' ∉ name := by
  have outside {c : Char} (hc : c = '_' ∨ Unicode.isAlphanumeric c = true) : c ≠ '>' := by
    rintro rfl
    exact Template.not_mem_of_wordChar hc.symm (by simp)
  cases h with
  | intro first others =>
    intro hmem
    rcases List.mem_cons.mp hmem with hfirst | hmem
    · exact outside (first.imp_right Unicode.isAlphanumeric_of_isAlphabetic) hfirst.symm
    · rcases others '>' hmem with special | letter
      · simp at special
      · exact outside (.inr letter) rfl

namespace Template

/-! ### References by name -/

/-- The template that refers to a group by its name and does nothing else. -/
def referTo (name : String) : String := "\\g<" ++ name ++ ">"

variable {name : String}

theorem toList_referTo (name : String) :
    (referTo name).toList = '\\' :: 'g' :: '<' :: (name.toList ++ '>' :: []) := by
  simp [referTo]

theorem parse_referTo (h : GroupName name.toList) (bare : Bare name.toList) :
    parse (referTo name) = .ok ⟨referTo name, [.named name]⟩ := by
  have canonical : Canonical [.named name] := by
    refine ⟨trivial, fun index hmem => by simp at hmem, fun other hmem => ?_⟩
    obtain rfl : other = name := by simpa using hmem
    exact isGroupName_iff_bare.mpr ⟨h, bare⟩
  have written : render [.named name] = referTo name := by
    rw [← String.toList_inj, toList_render, toList_referTo]
    simp [items, Piece.items, Item.render]
  rw [← written]
  exact parse_render_of_canonical canonical

/-- A name of a pattern is read as a reference only if it is bare, and never as a number. -/
theorem Refers.bare {body : List Char} {item : Item} (refers : Refers body item)
    (h : GroupName body) : Bare body := by
  have not_number : ∀ n, ¬ Refers body (.group n) := by
    cases h with
    | intro first _ => exact Refers.not_number first.symm
  cases refers with
  | number signed numeral => exact absurd (.number signed numeral) (not_number _)
  | name first others =>
    exact (isGroupName_iff_bare.mp (isGroupName_iff.mpr (.name first others))).2

theorem parse_referTo_of_not_bare (h : GroupName name.toList) (bare : ¬ Bare name.toList) :
    parse (referTo name) = .error ⟨0, .badName⟩ := by
  have refused : reference name.toList = .error .badName :=
    reference_eq_error.mpr ⟨fun _ refers => bare (refers.bare h), rfl⟩
  rw [parse, toList_referTo, parseFrom_malformed]
  · rfl
  · rw [readEscape_closed h.within, refused]
    rfl

/-- Templates refer to no names but bare ones. -/
theorem bare_of_parse_eq_ok {source : String} {t : Template} (h : parse source = .ok t)
    (refers : .named name ∈ t.pieces) : Bare name.toList :=
  (isGroupName_iff_bare.mp ((canonical_of_parse_eq_ok h).names name refers)).2

end Template

namespace Rule

variable {pattern name : String} {flags : RuleFlags} {compiled : Pattern} {index : Nat}

/-- A pattern with a group that has a name is not empty. -/
theorem ne_empty_of_named (compiles : Pattern.compile flags.patternFlags pattern = .ok compiled)
    (named : (name, index) ∈ compiled.names) : pattern ≠ "" := by
  rintro rfl
  obtain ⟨read, hread, -, rfl⟩ := Pattern.compile_eq_ok.mp compiles
  have nothing : readPattern flags.patternFlags "".toList = some ⟨.empty, 0, []⟩ := rfl
  obtain rfl := Option.some.inj (nothing.symm.trans hread)
  cases named

/-- **Which groups can be referred to by name.** Each name of a pattern is spelled as patterns spell
names. If it is bare, the reference to it is read as what it is and gives a rule. If not, it is
refused as a bad name before the groups of the pattern are looked at, and there is no template that
refers to the name. -/
theorem build_referTo (compiles : Pattern.compile flags.patternFlags pattern = .ok compiled)
    (named : (name, index) ∈ compiled.names) :
    GroupName name.toList ∧
    (Template.Bare name.toList →
      Template.parse (Template.referTo name) = .ok ⟨Template.referTo name, [.named name]⟩ ∧
      ∃ r, build pattern (Template.referTo name) flags = .ok r ∧ r.pattern = compiled ∧
        r.template.pieces = [.named name]) ∧
    (¬ Template.Bare name.toList →
      Template.parse (Template.referTo name) = .error ⟨0, .badName⟩ ∧
      build pattern (Template.referTo name) flags =
        .error (.invalidTemplate (Template.referTo name) ⟨0, .badName⟩) ∧
      ∀ source t, Template.parse source = .ok t → .named name ∉ t.pieces) := by
  have spelled : GroupName name.toList := Pattern.groupName_of_compile compiles named
  have some_pattern : pattern ≠ "" := ne_empty_of_named compiles named
  refine ⟨spelled, fun bare => ?_, fun bare => ?_⟩
  · have parses := Template.parse_referTo spelled bare
    have known : (Template.mk (Template.referTo name) [.named name]).unknownGroup? compiled =
        none := by
      refine (Template.unknownGroup?_eq_none (Pattern.compile_labelled compiles)).mpr ?_
      intro piece hpiece group lacks
      obtain rfl := List.mem_singleton.mp hpiece
      cases lacks with
      | name unnamed => exact unnamed index named
    have started : pattern.isEmpty = false := by simpa using some_pattern
    exact ⟨parses, _, build_eq_ok.mpr ⟨started, compiled, _, compiles, parses, known, rfl⟩, rfl,
      rfl⟩
  · have fails := Template.parse_referTo_of_not_bare spelled bare
    exact ⟨fails, (Refused.invalidTemplate some_pattern compiles fails).build,
      fun _ _ parses refers => bare (Template.bare_of_parse_eq_ok parses refers)⟩

theorem build_referTo_dotted :
    ∃ compiled, Pattern.compile ({} : RuleFlags).patternFlags "(?P<a.b>x)(?P<c>y)" = .ok compiled ∧
      compiled.names = [("a.b", 1), ("c", 2)] ∧ Template.referTo "a.b" = "\\g<a.b>" ∧
      build "(?P<a.b>x)(?P<c>y)" (Template.referTo "a.b") {} =
        .error (.invalidTemplate (Template.referTo "a.b") ⟨0, .badName⟩) ∧
      ∃ r, build "(?P<a.b>x)(?P<c>y)" (Template.referTo "c") {} = .ok r ∧
        r.template.pieces = [.named "c"] := by
  have read : (Pattern.compile ({} : RuleFlags).patternFlags "(?P<a.b>x)(?P<c>y)").map (·.names) =
      .ok [("a.b", 1), ("c", 2)] := by decide +kernel
  obtain ⟨compiled, compiles, names⟩ := Except.map_eq_ok.mp read
  have dotted : ("a.b", 1) ∈ compiled.names := by simp [names]
  have plain : ("c", 2) ∈ compiled.names := by simp [names]
  obtain ⟨-, -, refused⟩ := build_referTo compiles dotted
  obtain ⟨-, taken, -⟩ := build_referTo compiles plain
  obtain ⟨-, r, builds, -, pieces⟩ := taken (by decide +kernel)
  exact ⟨compiled, compiles, names, by decide +kernel, (refused (by decide +kernel)).2.1, r,
    builds, pieces⟩

/-- Not every group that has a name can be referred to by it. -/
theorem not_forall_build_referTo :
    ¬ ∀ (flags : RuleFlags) (pattern name : String) (compiled : Pattern) (index : Nat),
      Pattern.compile flags.patternFlags pattern = .ok compiled → (name, index) ∈ compiled.names →
      Template.parse (Template.referTo name) = .ok ⟨Template.referTo name, [.named name]⟩ ∧
        ∃ r, build pattern (Template.referTo name) flags = .ok r := by
  intro all_taken
  have read : (Pattern.compile ({} : RuleFlags).patternFlags "(?P<a.b>x)").map (·.names) =
      .ok [("a.b", 1)] := by decide +kernel
  obtain ⟨compiled, compiles, names⟩ := Except.map_eq_ok.mp read
  have dotted : ("a.b", 1) ∈ compiled.names := by simp [names]
  obtain ⟨parses, -⟩ := all_taken {} _ _ compiled 1 compiles dotted
  have refused : Template.parse (Template.referTo "a.b") = .error ⟨0, .badName⟩ := by
    decide +kernel
  rw [refused] at parses
  cases parses

end Rule

end Emend
