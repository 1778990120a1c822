import Emend.Plan.Definition
import Emend.Proofs.Except
import Emend.Proofs.Rule.Built
import Emend.Proofs.Rule.Parse

/-!
# What a plan is built into

A definition is built in two passes: its structure is looked at first, and then its rules are built
one after the other. This module says of each pass what it does to the whole of a definition.

- `PlanDefinition.issues_eq_nil`: the structure is sound if there are fixes and each of them is sound
  (`FixDefinition.Sound`), wherever it stands in the list;
- `PlanDefinition.build_eq_ok`: a plan that is built realises its definition (`Plan.Realises`), that
  is, it has a fix for each fix and a rule for each rule of the definition, in order.

The relations follow the nesting of a definition, one for each level.
-/

namespace Emend

/-! ### Structure -/

/-- A fix is sound if it names a file, not just blanks, and has rules. -/
structure FixDefinition.Sound (d : FixDefinition) : Prop where
  file : ∃ c ∈ d.file.toList, Unicode.isWhiteSpace c = false
  rules : d.rules ≠ []

namespace FixDefinition

theorem isBlank_eq_false {s : String} :
    Text.isBlank s = false ↔ ∃ c ∈ s.toList, Unicode.isWhiteSpace c = false := by
  simp [Text.isBlank]

/-- Nothing is wrong with a fix that is sound, whatever its number. -/
theorem issues_eq_nil {number : Nat} {d : FixDefinition} : d.issues number = [] ↔ d.Sound := by
  rw [issues, List.append_eq_nil_iff]
  constructor
  · rintro ⟨hfile, hrules⟩
    refine ⟨isBlank_eq_false.mp ?_, ?_⟩
    · simpa using hfile
    · simpa using hrules
  · rintro ⟨hfile, hrules⟩
    rw [isBlank_eq_false.mpr hfile]
    simpa using hrules

end FixDefinition

namespace PlanDefinition

theorem issuesFrom_eq_nil {number : Nat} {fixes : List FixDefinition} :
    issuesFrom number fixes = [] ↔ ∀ fix ∈ fixes, fix.Sound := by
  induction fixes generalizing number with
  | nil => exact ⟨fun _ => nofun, fun _ => rfl⟩
  | cons fix rest ih =>
    rw [issuesFrom, List.append_eq_nil_iff, FixDefinition.issues_eq_nil, ih, List.forall_mem_cons]

/-- Nothing is wrong with a definition that has fixes, if each of them is sound. -/
theorem issues_eq_nil {d : PlanDefinition} :
    d.issues = [] ↔ d.fixes ≠ [] ∧ ∀ fix ∈ d.fixes, fix.Sound := by
  rw [issues, List.append_eq_nil_iff, issuesFrom_eq_nil]
  simp

end PlanDefinition

/-! ### Rules -/

/-- The source of a pattern is kept as it is written. -/
theorem Pattern.source_compile {flags : PatternFlags} {source : String} {p : Pattern}
    (h : compile flags source = .ok p) : p.source = source := by
  obtain ⟨read, -, -, rfl⟩ := compile_eq_ok.mp h
  rfl

/-- Whether a rule is the one that a definition asks for: pattern, replacement and description are as
they are written, and each flag is the rule's own, or else the default. The pattern and the
replacement build the rule under these flags. -/
structure Rule.Realises (defaults : RuleFlags) (d : RuleDefinition) (r : Rule) : Prop where
  pattern : r.pattern.source = d.pattern
  replacement : r.template.source = d.replacement
  description : r.description = d.description
  multiline : r.flags.multiline = d.multiline.getD defaults.multiline
  dotMatchesNewLine :
    r.flags.dotMatchesNewLine = d.dotMatchesNewLine.getD defaults.dotMatchesNewLine
  builds : Rule.build d.pattern d.replacement r.flags = .ok (r.describe none)

namespace RuleDefinition

/-- A rule that is built is the one that its definition asks for. -/
theorem build_eq_ok {d : RuleDefinition} {defaults : RuleFlags} {r : Rule} :
    d.build defaults = .ok r ↔ r.Realises defaults d := by
  rw [build, Except.map_eq_ok]
  constructor
  · rintro ⟨r, builds, rfl⟩
    obtain ⟨-, compiled, template, hc, ht, -, rfl⟩ := Rule.build_eq_ok.mp builds
    exact ⟨Pattern.source_compile hc, (Template.parse_eq_ok.mp ht).1, rfl, rfl, rfl, builds⟩
  · rintro ⟨-, -, description, multiline, dotMatchesNewLine, builds⟩
    have hflags : r.flags = d.flags defaults := by
      rw [flags, ← multiline, ← dotMatchesNewLine]
    rw [← hflags]
    refine ⟨_, builds, ?_⟩
    rw [← description]
    rfl

/-- A description cannot be faulty. -/
theorem exists_build_eq_ok {d : RuleDefinition} {defaults : RuleFlags} :
    (∃ r, d.build defaults = .ok r) ↔
      ∃ r, Rule.build d.pattern d.replacement (d.flags defaults) = .ok r := by
  simp only [build, Except.map_eq_ok]
  constructor
  · rintro ⟨_, r, builds, -⟩
    exact ⟨r, builds⟩
  · rintro ⟨r, builds⟩
    exact ⟨_, r, builds, rfl⟩

end RuleDefinition

/-! ### Fixes -/

/-- Whether a fix is the one that a definition asks for, with a rule for each rule, in order. -/
structure Fix.Realises (defaults : RuleFlags) (d : FixDefinition) (fix : Fix) : Prop where
  target : fix.target = d.file
  rules : List.Forall₂ (fun d r => r.Realises defaults d) d.rules fix.rules.rules

namespace FixDefinition

/-- The numbers of rules count only where one is faulty. -/
theorem buildRules_eq_ok {file : String} {defaults : RuleFlags} {number : Nat}
    {ds : List RuleDefinition} {rules : List Rule} :
    buildRules file defaults number ds = .ok rules ↔ ds.mapM (·.build defaults) = .ok rules := by
  induction ds generalizing number rules with
  | nil => rw [buildRules, List.mapM_nil, Except.pure_eq_ok, Except.ok.injEq]
  | cons d rest ih =>
    simp only [buildRules, List.mapM_cons, Except.bind_eq_ok, Except.mapError_eq_ok,
      Except.pure_eq_ok, ih]

/-- A fix that is built is the one that its definition asks for. -/
theorem build_eq_ok {d : FixDefinition} {defaults : RuleFlags} {fix : Fix} :
    d.build defaults = .ok fix ↔ fix.Realises defaults d := by
  simp only [build, Except.bind_eq_ok, buildRules_eq_ok, Except.mapM_eq_ok, Except.pure_eq_ok,
    RuleDefinition.build_eq_ok]
  constructor
  · rintro ⟨rules, hrules, rfl⟩
    exact ⟨rfl, hrules⟩
  · rintro ⟨target, hrules⟩
    exact ⟨fix.rules.rules, hrules, by rw [← target]⟩

/-- A fix is built if each of its rules is. -/
theorem exists_build_eq_ok {d : FixDefinition} {defaults : RuleFlags} :
    (∃ fix, d.build defaults = .ok fix) ↔ ∀ rule ∈ d.rules, ∃ r, rule.build defaults = .ok r := by
  rw [← Except.exists_mapM_eq_ok]
  simp only [build, Except.exists_bind_eq_ok, buildRules_eq_ok, Except.pure_eq_ok, exists_eq',
    and_true]

end FixDefinition

/-! ### Plans -/

/-- Whether a plan is the one that a definition asks for, with a fix for each fix, in order. -/
structure Plan.Realises (d : PlanDefinition) (p : Plan) : Prop where
  name : p.name = d.about.name
  description : p.description = d.about.description
  versionRange : p.versionRange = d.about.versionRange
  fixes : List.Forall₂ (fun x fix => fix.Realises d.about.defaultFlags x) d.fixes p.fixes

namespace PlanDefinition

/-- A plan that is built is the one that its definition asks for. -/
theorem build_eq_ok {d : PlanDefinition} {p : Plan} : d.build = .ok p ↔ p.Realises d := by
  simp only [build, Except.bind_eq_ok, Except.mapM_eq_ok, Except.pure_eq_ok,
    FixDefinition.build_eq_ok]
  constructor
  · rintro ⟨fixes, hfixes, rfl⟩
    exact ⟨rfl, rfl, rfl, hfixes⟩
  · rintro ⟨name, description, versionRange, hfixes⟩
    exact ⟨p.fixes, hfixes, by rw [← name, ← description, ← versionRange]⟩

/-- A plan is built if each rule of each of its fixes is. -/
theorem exists_build_eq_ok {d : PlanDefinition} :
    (∃ p, d.build = .ok p) ↔
      ∀ fix ∈ d.fixes, ∀ rule ∈ fix.rules, ∃ r,
        Rule.build rule.pattern rule.replacement (rule.flags d.about.defaultFlags) = .ok r := by
  simp only [← RuleDefinition.exists_build_eq_ok]
  simp only [← FixDefinition.exists_build_eq_ok]
  rw [← Except.exists_mapM_eq_ok]
  simp only [build, Except.exists_bind_eq_ok, Except.pure_eq_ok, exists_eq', and_true]

end PlanDefinition

namespace Plan

/-- A plan of a sound definition has fixes, and each of them has rules. -/
theorem Realises.rules_ne_nil {d : PlanDefinition} {p : Plan} (h : p.Realises d)
    (sound : ∀ x ∈ d.fixes, x.Sound) : ∀ fix ∈ p.fixes, fix.rules.rules ≠ [] := by
  intro fix hfix
  obtain ⟨x, hx, realises⟩ := h.fixes.exists_of_mem_right hfix
  have hlength := realises.rules.length_eq
  intro hnil
  rw [hnil] at hlength
  exact (sound x hx).rules (List.eq_nil_of_length_eq_zero hlength)

/-- If each fix has rules, there are no more fixes than rules. -/
theorem length_le_ruleCount {p : Plan} (h : ∀ fix ∈ p.fixes, fix.rules.rules ≠ []) :
    p.fixes.length ≤ p.ruleCount := by
  rw [ruleCount]
  generalize p.fixes = fixes at h
  induction fixes with
  | nil => exact Nat.zero_le 0
  | cons fix rest ih =>
    have hpos : 0 < fix.rules.rules.length := List.length_pos_iff.mpr (h fix List.mem_cons_self)
    have hrest := ih fun fix' hfix => h fix' (List.mem_cons_of_mem fix hfix)
    rw [List.length_cons, List.foldr_cons]
    omega

end Plan

end Emend
