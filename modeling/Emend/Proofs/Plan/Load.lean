import Emend.Plan.Load
import Emend.Proofs.Patch.Policy
import Emend.Proofs.Plan.Definition

/-!
# Loading keeps a plan whole

A text is loaded exactly if it writes a definition (`PlanDefinition.Written`) whose structure is
sound and whose rules can all be built, each under its own flags. The plan then has all that was
written, in order, and nothing else (`Plan.ofText_realises`).
-/

namespace Emend

/-- Whether a text writes a definition. What this definition is worth is another question. -/
def PlanDefinition.Written (source : String) (d : PlanDefinition) : Prop :=
  ∃ value, Toml.parse source = .ok value ∧ ofToml? value = some d

/-- A definition is read if it is written and its structure is sound. -/
theorem PlanDefinition.parse_eq_ok {source : String} {d : PlanDefinition} :
    parse source = .ok d ↔ Written source d ∧ d.issues = [] := by
  simp only [parse, Except.bind_eq_ok, Except.mapError_eq_ok]
  constructor
  · rintro ⟨value, hvalue, h⟩
    split at h
    · exact absurd h Except.throw_ne_ok
    · next d' hd =>
      split at h
      · next sound =>
        obtain rfl := Except.pure_eq_ok.mp h
        exact ⟨⟨value, hvalue, hd⟩, List.isEmpty_iff.mp sound⟩
      · exact absurd h Except.throw_ne_ok
  · rintro ⟨⟨value, hvalue, hd⟩, sound⟩
    refine ⟨value, hvalue, ?_⟩
    rw [hd]
    dsimp only
    rw [if_pos (List.isEmpty_iff.mpr sound)]
    rfl

namespace Plan

/-- A text is loaded if it writes a sound definition that can be built. -/
theorem ofText_eq_ok {source : String} {p : Plan} :
    ofText source = .ok p ↔
      ∃ d, PlanDefinition.Written source d ∧ d.fixes ≠ [] ∧ (∀ fix ∈ d.fixes, fix.Sound) ∧
        p.Realises d := by
  simp only [ofText, Except.bind_eq_ok, PlanDefinition.parse_eq_ok, PlanDefinition.issues_eq_nil,
    PlanDefinition.build_eq_ok, and_assoc]

theorem exists_ofText_eq_ok {source : String} :
    (∃ p, ofText source = .ok p) ↔
      ∃ d, PlanDefinition.Written source d ∧ d.fixes ≠ [] ∧
        ∀ fix ∈ d.fixes, fix.Sound ∧ ∀ rule ∈ fix.rules, ∃ r,
          Rule.build rule.pattern rule.replacement (rule.flags d.about.defaultFlags) = .ok r := by
  simp only [ofText, Except.exists_bind_eq_ok, PlanDefinition.parse_eq_ok,
    PlanDefinition.issues_eq_nil, PlanDefinition.exists_build_eq_ok, and_assoc, forall₂_and]

/-- Results of runs are never failures of a definition. -/
theorem kind_run {σ : Type} (e : Engine) (policy : FailurePolicy) (watch : Observer σ) (p : Plan)
    (t : Tree) (known : σ) {r : FixResult} (hr : r ∈ (e.run policy watch p t known).1.results)
    {fault : PatchFault} (h : r.fault? = some fault) : fault.kind ≠ .definition := by
  have attempted := (e.runs policy watch p.fixes t known).attempted
  rw [Engine.run, attempted.results] at hr
  obtain ⟨u, fix, -, rfl⟩ := Engine.exists_apply_of_mem_attempts hr
  exact Engine.kind_apply h

/-- **Loading keeps a plan whole.** A text is loaded exactly if it writes a definition with fixes,
each of which names a file and has rules, and each rule can be built under its own flags or else
those of the plan. The plan then has a fix for each fix and a rule for each rule as they are
written, in order; it has fixes, and at least as many rules; and in no run of it does a fix fail for
the definition of a rule. -/
theorem ofText_realises (source : String) :
    ((∃ p, ofText source = .ok p) ↔
      ∃ d, PlanDefinition.Written source d ∧ d.fixes ≠ [] ∧
        ∀ fix ∈ d.fixes, fix.Sound ∧ ∀ rule ∈ fix.rules, ∃ r,
          Rule.build rule.pattern rule.replacement
            ⟨rule.multiline.getD d.about.multiline,
              rule.dotMatchesNewLine.getD d.about.dotMatchesNewLine⟩ = .ok r) ∧
    ∀ p, ofText source = .ok p →
      (∃ d, PlanDefinition.Written source d ∧ p.Realises d) ∧
      p.fixes ≠ [] ∧ p.fixes.length ≤ p.ruleCount ∧
      ∀ (σ : Type) (e : Engine) (policy : FailurePolicy) (watch : Observer σ) (t : Tree)
        (known : σ), ∀ r ∈ (e.run policy watch p t known).1.results, ∀ fault,
          r.fault? = some fault → fault.kind ≠ .definition := by
  refine ⟨exists_ofText_eq_ok, fun p hp => ?_⟩
  obtain ⟨d, written, nonempty, sound, realises⟩ := ofText_eq_ok.mp hp
  refine ⟨⟨d, written, realises⟩, ?_, length_le_ruleCount (realises.rules_ne_nil sound), ?_⟩
  · intro hnil
    have hlength := realises.fixes.length_eq
    rw [hnil] at hlength
    exact nonempty (List.eq_nil_of_length_eq_zero hlength)
  · intro σ e policy watch t known r hr fault hfault
    exact kind_run e policy watch p t known hr hfault

/-- A plan of two fixes, the second one without the names of its fields. The flag of the plan is for
all rules but the first one. -/
def sampleText : String :=
  "meta = \x7bmultiline = true\x7d\n" ++
  "fixes = [\x7bfile = 'a', rules = [['first', '^x', 'y', false], ['then', 'y$', 'z']]\x7d, " ++
  "['b', [['last', 'z', '']]]]"

theorem ofText_realises_sampleText :
    ∃ p, ofText sampleText = .ok p ∧ p.targets = ["a", "b"] ∧
      p.fixes.map (fun fix => fix.rules.rules.map (·.flags.multiline)) = [[false, true], [true]] ∧
      (∃ d, PlanDefinition.Written sampleText d ∧ p.Realises d) ∧ p.fixes.length ≤ p.ruleCount := by
  have loaded : (ofText sampleText).toOption.map (fun p => (p.targets,
      p.fixes.map fun fix => fix.rules.rules.map (·.flags.multiline))) =
        some (["a", "b"], [[false, true], [true]]) := by
    decide +kernel
  obtain ⟨p, hp, hview⟩ := Option.map_eq_some_iff.mp loaded
  have hp := Except.toOption_eq_some.mp hp
  obtain ⟨htargets, hflags⟩ := Prod.mk.inj hview
  obtain ⟨whole, -, count, -⟩ := (ofText_realises sampleText).2 p hp
  exact ⟨p, hp, htargets, hflags, whole, count⟩

end Plan

end Emend
