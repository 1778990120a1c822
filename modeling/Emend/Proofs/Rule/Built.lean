import Emend.Proofs.Except
import Emend.Proofs.Pattern.Layout
import Emend.Rule.Basic

/-!
# Rules that exist

A rule comes about by `Rule.build` and may be described afterwards (`Rule.Built`). So its pattern is
one that compiles, and its template is one that parses and refers to groups of the pattern only.
-/

namespace Emend

/-- A pattern that compiles is the program of an expression. -/
theorem Pattern.compile_closed {flags : PatternFlags} {source : String} {p : Pattern}
    (h : compile flags source = .ok p) : p.program.Closed := by
  obtain ⟨read, -, -, rfl⟩ := compile_eq_ok.mp h
  exact Program.ofRegex_closed read.regex

namespace Rule

/-- A rule is built if its pattern is not empty and compiles, its template parses, and the pattern
has the groups that the template refers to. -/
theorem build_eq_ok {pattern replacement : String} {flags : RuleFlags} {r : Rule} :
    build pattern replacement flags = .ok r ↔
      pattern.isEmpty = false ∧ ∃ compiled template,
        Pattern.compile flags.patternFlags pattern = .ok compiled ∧
        Template.parse replacement = .ok template ∧ template.unknownGroup? compiled = none ∧
        r = { pattern := compiled, flags, template } := by
  rw [build]
  cases hp : pattern.isEmpty with
  | true => simp [Except.bind_eq_ok, Except.throw_ne_ok]
  | false =>
    simp only [Bool.false_eq_true, if_false, Except.bind_eq_ok, Except.mapError_eq_ok, true_and]
    constructor
    · rintro ⟨compiled, hc, template, ht, h⟩
      refine ⟨compiled, template, hc, ht, ?_⟩
      cases hu : template.unknownGroup? compiled with
      | some group =>
        rw [hu] at h
        exact absurd h Except.throw_ne_ok
      | none =>
        rw [hu] at h
        exact ⟨rfl, (Except.pure_eq_ok.mp h).symm⟩
    · rintro ⟨compiled, template, hc, ht, hu, rfl⟩
      refine ⟨compiled, hc, template, ht, ?_⟩
      rw [hu]
      rfl

/-- How rules come about. -/
inductive Built : Rule → Prop
  | build {pattern replacement : String} {flags : RuleFlags} {r : Rule}
      (builds : Rule.build pattern replacement flags = .ok r) : Built r
  | describe {r : Rule} (h : Built r) (description : Option String) : Built (r.describe description)

/-- A rule that is there is the one that is built. -/
theorem build_of_isOk {pattern replacement : String} {flags : RuleFlags}
    (h : (build pattern replacement flags).isOk = true) :
    build pattern replacement flags =
      .ok ((build pattern replacement flags).toOption.getD default) := by
  cases hr : build pattern replacement flags with
  | ok r => rfl
  | error fault =>
    rw [hr] at h
    cases h

theorem built_of_isOk {pattern replacement : String} {flags : RuleFlags}
    (h : (build pattern replacement flags).isOk = true) :
    ((build pattern replacement flags).toOption.getD default).Built :=
  .build (build_of_isOk h)

/-- The pattern of a rule is the program of an expression. -/
theorem Built.closed {r : Rule} (h : r.Built) : r.pattern.program.Closed := by
  induction h with
  | build builds =>
    obtain ⟨-, compiled, template, hc, -, -, rfl⟩ := build_eq_ok.mp builds
    exact Pattern.compile_closed hc
  | describe _ _ ih => exact ih

end Rule

end Emend
