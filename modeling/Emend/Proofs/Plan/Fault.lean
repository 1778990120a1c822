import Emend.Proofs.Plan.Load
import Mathlib.Data.List.Sort

/-!
# What is wrong with a plan, and where

The two passes over a definition tell of faults in two ways. The first one looks at the structure
and lists all issues: `PlanDefinition.Flaw` says which issues there are, each with the number of its
fix, and what is listed is the full account of them, each once and in order
(`PlanDefinition.account_iff`). The second one builds the rules of a sound definition and stops at
the first that cannot be built, which it names by the file of its fix and by its number there
(`PlanDefinition.build_eq_error`).

No rule is built before the first pass is over. So an issue anywhere is told before whatever is
wrong with a rule, and a rule is to blame only if all before it are good (`Plan.ofText_diagnosed`).
-/

namespace Emend

/-! ### Issues -/

/-- What can be wrong with the structure of the fix of a number. -/
inductive FixDefinition.Flaw (number : Nat) (d : FixDefinition) : PlanIssue → Prop
  /-- It names no file, just blanks. -/
  | missingFile (blank : ∀ c ∈ d.file.toList, Unicode.isWhiteSpace c = true) :
      Flaw number d (.missingFile number)
  | noRules (none : d.rules = []) : Flaw number d (.noRules d.file)

/-- What can be wrong with the structure of a definition, and in which fix. There is no fix 0: what
has this number is wrong with the whole. -/
inductive PlanDefinition.Flaw (d : PlanDefinition) : Nat → PlanIssue → Prop
  | noFixes (none : d.fixes = []) : Flaw d 0 .noFixes
  | inFix {index : Nat} {fix : FixDefinition} {issue : PlanIssue}
      (stands : d.fixes[index]? = some fix) (flaw : fix.Flaw (index + 1) issue) :
      Flaw d (index + 1) issue

namespace PlanIssue

/-- The place of an issue among those of one fix: first the file, then the rules. -/
def rank : PlanIssue → Nat
  | noFixes | missingFile _ => 0
  | noRules _ => 1

/-- Whether an issue is told before another one: it is that of an earlier fix, or of the same fix
and comes first there. -/
def Before (a b : Nat × PlanIssue) : Prop :=
  a.1 < b.1 ∨ a.1 = b.1 ∧ a.2.rank < b.2.rank

instance : Std.Irrefl Before where
  irrefl a h := by
    unfold Before at h
    omega

instance : Std.Antisymm Before where
  antisymm a b h h' := by
    unfold Before at h h'
    omega

end PlanIssue

/-- Whether a list is the full account of what is wrong with the structure of a definition: all of
it, in order, and nothing else. -/
def PlanDefinition.Account (d : PlanDefinition) (issues : List PlanIssue) : Prop :=
  ∃ numbered : List (Nat × PlanIssue), numbered.Pairwise PlanIssue.Before ∧
    (∀ number issue, (number, issue) ∈ numbered ↔ d.Flaw number issue) ∧
      issues = numbered.map (·.2)

namespace FixDefinition

theorem mem_issues {number : Nat} {d : FixDefinition} {issue : PlanIssue} :
    issue ∈ d.issues number ↔ d.Flaw number issue := by
  have blank : Text.isBlank d.file = true ↔
      ∀ c ∈ d.file.toList, Unicode.isWhiteSpace c = true := List.all_eq_true
  rw [issues, List.mem_append]
  constructor
  · rintro (h | h)
    · split at h
      · next hblank =>
        obtain rfl := List.mem_singleton.mp h
        exact .missingFile (blank.mp hblank)
      · cases h
    · split at h
      · next hrules =>
        obtain rfl := List.mem_singleton.mp h
        exact .noRules (List.isEmpty_iff.mp hrules)
      · cases h
  · rintro (hblank | hrules)
    · rw [if_pos (blank.mpr hblank)]
      exact .inl (List.mem_singleton_self _)
    · rw [if_pos (List.isEmpty_iff.mpr hrules)]
      exact .inr (List.mem_singleton_self _)

theorem pairwise_issues (number : Nat) (d : FixDefinition) :
    (d.issues number).Pairwise fun a b => a.rank < b.rank := by
  rw [issues]
  split <;> split <;> simp [PlanIssue.rank]

end FixDefinition

namespace PlanDefinition

/-- The issues of fixes, numbered from a number on, each with the number of its fix. -/
def numberedFrom (number : Nat) (fixes : List FixDefinition) : List (Nat × PlanIssue) :=
  (fixes.zipIdx number).flatMap fun entry => (entry.1.issues entry.2).map (entry.2, ·)

theorem numberedFrom_cons (number : Nat) (fix : FixDefinition) (rest : List FixDefinition) :
    numberedFrom number (fix :: rest) =
      (fix.issues number).map (number, ·) ++ numberedFrom (number + 1) rest := by
  rw [numberedFrom, List.zipIdx_cons, List.flatMap_cons, ← numberedFrom]

/-- Without the numbers, these are the issues that are listed. -/
theorem map_numberedFrom (number : Nat) (fixes : List FixDefinition) :
    (numberedFrom number fixes).map (·.2) = issuesFrom number fixes := by
  induction fixes generalizing number with
  | nil => rfl
  | cons fix rest ih =>
    rw [numberedFrom_cons, List.map_append, List.map_map, ih, issuesFrom]
    exact congrArg (· ++ issuesFrom (number + 1) rest) (List.map_id _)

theorem mem_numberedFrom {number n : Nat} {fixes : List FixDefinition} {issue : PlanIssue} :
    (n, issue) ∈ numberedFrom number fixes ↔
      ∃ index fix, fixes[index]? = some fix ∧ n = number + index ∧ fix.Flaw n issue := by
  simp only [numberedFrom, List.mem_flatMap, List.mem_map, Prod.mk.injEq, Prod.exists,
    List.mem_zipIdx_iff_le_and_getElem?_sub, FixDefinition.mem_issues]
  constructor
  · rintro ⟨fix, m, ⟨le, stands⟩, issue, flaw, rfl, rfl⟩
    exact ⟨m - number, fix, stands, by omega, flaw⟩
  · rintro ⟨index, fix, stands, rfl, flaw⟩
    exact ⟨fix, number + index, ⟨by omega, by simpa using stands⟩, issue, flaw, rfl, rfl⟩

/-- They are told in order. -/
theorem pairwise_numberedFrom (number : Nat) (fixes : List FixDefinition) :
    (numberedFrom number fixes).Pairwise PlanIssue.Before := by
  induction fixes generalizing number with
  | nil => exact .nil
  | cons fix rest ih =>
    rw [numberedFrom_cons, List.pairwise_append]
    refine ⟨?_, ih (number + 1), ?_⟩
    · rw [List.pairwise_map]
      exact (fix.pairwise_issues number).imp fun h => .inr ⟨rfl, h⟩
    · rintro a ha ⟨n, issue⟩ hb
      obtain ⟨_, -, rfl⟩ := List.mem_map.mp ha
      obtain ⟨index, _, -, rfl, -⟩ := mem_numberedFrom.mp hb
      exact .inl (by dsimp only; omega)

/-- The first pass lists the full account. -/
theorem account_issues (d : PlanDefinition) : d.Account d.issues := by
  by_cases none : d.fixes = []
  · refine ⟨[(0, .noFixes)], List.pairwise_singleton _ _, fun number issue => ?_, ?_⟩
    · rw [List.mem_singleton, Prod.mk.injEq]
      constructor
      · rintro ⟨rfl, rfl⟩
        exact .noFixes none
      · rintro (- | ⟨stands, -⟩)
        · exact ⟨rfl, rfl⟩
        · rw [none] at stands
          cases stands
    · rw [issues, none]
      rfl
  · refine ⟨numberedFrom 1 d.fixes, pairwise_numberedFrom 1 d.fixes, fun number issue => ?_, ?_⟩
    · rw [mem_numberedFrom]
      constructor
      · rintro ⟨index, fix, stands, rfl, flaw⟩
        rw [Nat.add_comm] at flaw ⊢
        exact .inFix stands flaw
      · rintro (hnone | @⟨index, fix, _, stands, flaw⟩)
        · exact absurd hnone none
        · exact ⟨index, fix, stands, Nat.add_comm index 1, flaw⟩
    · rw [map_numberedFrom, issues, if_neg (by simpa using none), List.nil_append]

/-- There is one full account. -/
theorem account_iff {d : PlanDefinition} {issues : List PlanIssue} :
    d.Account issues ↔ issues = d.issues := by
  constructor
  · rintro ⟨numbered, ordered, whole, rfl⟩
    obtain ⟨listed, ordered', whole', hissues⟩ := d.account_issues
    have same : numbered = listed :=
      ordered.eq_of_mem_iff ordered' fun entry =>
        (whole entry.1 entry.2).trans (whole' entry.1 entry.2).symm
    rw [hissues, same]
  · rintro rfl
    exact d.account_issues

end PlanDefinition

/-! ### Rules that cannot be built -/

/-- Whether a rule can be built. -/
def RuleDefinition.Builds (defaults : RuleFlags) (d : RuleDefinition) : Prop :=
  ∃ r, Rule.build d.pattern d.replacement (d.flags defaults) = .ok r

/-- Whether the rule of a number is the first of a fix that cannot be built, and why it cannot. -/
inductive FixDefinition.FirstFault (defaults : RuleFlags) (d : FixDefinition) :
    Nat → DefinitionFault → Prop
  | intro {before after : List RuleDefinition} {rule : RuleDefinition} {fault : DefinitionFault}
      (split : d.rules = before ++ rule :: after) (earlier : ∀ b ∈ before, b.Builds defaults)
      (fails : Rule.build rule.pattern rule.replacement (rule.flags defaults) = .error fault) :
      FirstFault defaults d (before.length + 1) fault

/-- Whether the rule of a number, in a fix for a file, is the first of all that cannot be built. -/
inductive PlanDefinition.FirstFault (d : PlanDefinition) : String → Nat → DefinitionFault → Prop
  | intro {before after : List FixDefinition} {fix : FixDefinition} {number : Nat}
      {fault : DefinitionFault} (split : d.fixes = before ++ fix :: after)
      (earlier : ∀ b ∈ before, ∀ rule ∈ b.rules, rule.Builds d.about.defaultFlags)
      (first : fix.FirstFault d.about.defaultFlags number fault) :
      FirstFault d fix.file number fault

namespace FixDefinition

variable {defaults : RuleFlags} {fault : PlanFault}

/-- Rules are built one after the other, each with its number. -/
theorem buildRules_eq_mapM (file : String) (defaults : RuleFlags) (number : Nat)
    (ds : List RuleDefinition) :
    buildRules file defaults number ds = (ds.zipIdx number).mapM fun entry =>
      (entry.1.build defaults).mapError (.definition none file entry.2) := by
  induction ds generalizing number with
  | nil => rfl
  | cons d rest ih => rw [buildRules, ih, List.zipIdx_cons, List.mapM_cons]

theorem buildRules_eq_error {file : String} {number : Nat} {ds : List RuleDefinition} :
    buildRules file defaults number ds = .error fault ↔
      ∃ before rule after e, ds = before ++ rule :: after ∧ (∀ b ∈ before, b.Builds defaults) ∧
        Rule.build rule.pattern rule.replacement (rule.flags defaults) = .error e ∧
          fault = .definition none file (number + before.length) e := by
  have builds_iff (before : List RuleDefinition) : (∀ b ∈ before, b.Builds defaults) ↔
      ∀ entry ∈ before.zipIdx number, ∃ r,
        (entry.1.build defaults).mapError (PlanFault.definition none file entry.2) = .ok r := by
    rw [← List.zipIdx_map_fst number before, List.forall_mem_map, List.zipIdx_map_fst]
    simp only [Except.mapError_eq_ok, RuleDefinition.exists_build_eq_ok, RuleDefinition.Builds]
  rw [buildRules_eq_mapM, Except.mapM_eq_error]
  -- Each rule carries its number with it, so the place of the first that fails tells the number.
  constructor
  · rintro ⟨before, entry, after, split, earlier, fails⟩
    obtain ⟨before, later, rfl, rfl, hlater⟩ := List.zipIdx_eq_append_iff.mp split
    obtain ⟨rule, after, rfl, rfl, -⟩ := List.zipIdx_eq_cons_iff.mp hlater.symm
    obtain ⟨e, reason, told⟩ := Except.mapError_eq_error.mp fails
    exact ⟨before, rule, after, e, rfl, (builds_iff before).mpr earlier,
      Except.map_eq_error.mp reason, told.symm⟩
  · rintro ⟨before, rule, after, e, rfl, earlier, fails, rfl⟩
    refine ⟨before.zipIdx number, (rule, number + before.length),
      after.zipIdx (number + before.length + 1), ?_, (builds_iff before).mp earlier, ?_⟩
    · rw [List.zipIdx_append, List.zipIdx_cons]
    · exact Except.mapError_eq_error.mpr ⟨e, Except.map_eq_error.mpr fails, rfl⟩

/-- A fix fails to be built with its first rule that does. -/
theorem build_eq_error {d : FixDefinition} :
    d.build defaults = .error fault ↔
      ∃ number e, d.FirstFault defaults number e ∧ fault = .definition none d.file number e := by
  simp only [build, Except.bind_eq_error, Except.pure_ne_error, and_false, exists_false, or_false,
    buildRules_eq_error]
  constructor
  · rintro ⟨before, rule, after, e, split, earlier, fails, rfl⟩
    rw [Nat.add_comm]
    exact ⟨before.length + 1, e, .intro split earlier fails, rfl⟩
  · rintro ⟨_, e, ⟨split, earlier, fails⟩, rfl⟩
    refine ⟨_, _, _, e, split, earlier, fails, ?_⟩
    rw [Nat.add_comm]

end FixDefinition

/-- A plan fails to be built with the first rule that does, in the order of the fixes and of the
rules in each. -/
theorem PlanDefinition.build_eq_error {d : PlanDefinition} {fault : PlanFault} :
    d.build = .error fault ↔
      ∃ file number e, d.FirstFault file number e ∧ fault = .definition none file number e := by
  simp only [build, Except.bind_eq_error, Except.pure_ne_error, and_false, exists_false, or_false,
    Except.mapM_eq_error, FixDefinition.exists_build_eq_ok, RuleDefinition.exists_build_eq_ok,
    FixDefinition.build_eq_error]
  constructor
  · rintro ⟨before, fix, after, split, earlier, number, e, first, rfl⟩
    exact ⟨fix.file, number, e, .intro split earlier first, rfl⟩
  · rintro ⟨_, number, e, ⟨split, earlier, first⟩, rfl⟩
    exact ⟨_, _, _, split, earlier, number, e, first, rfl⟩

namespace PlanDefinition

/-- Not all rules can be built if one of them is the first that cannot. -/
theorem exists_firstFault {d : PlanDefinition} :
    (∃ file number e, d.FirstFault file number e) ↔
      ∃ fix ∈ d.fixes, ∃ rule ∈ fix.rules, ¬ rule.Builds d.about.defaultFlags := by
  have builds : (∃ p, d.build = .ok p) ↔
      ∀ fix ∈ d.fixes, ∀ rule ∈ fix.rules, rule.Builds d.about.defaultFlags := exists_build_eq_ok
  constructor
  · rintro ⟨file, number, e, first⟩
    have fails := build_eq_error.mpr ⟨file, number, e, first, rfl⟩
    by_contra good
    push Not at good
    obtain ⟨p, hp⟩ := builds.mpr good
    rw [hp] at fails
    cases fails
  · rintro ⟨fix, hfix, rule, hrule, faulty⟩
    cases hbuild : d.build with
    | ok p => exact absurd (builds.mp ⟨p, hbuild⟩ fix hfix rule hrule) faulty
    | error fault =>
      obtain ⟨file, number, e, first, -⟩ := build_eq_error.mp hbuild
      exact ⟨file, number, e, first⟩

/-! ### Which fault is told -/

/-- Why a text writes no definition. -/
inductive Illegible (source : String) : PlanTextFault → Prop
  | toml {e : TomlFault} (fails : Toml.parse source = .error e) : Illegible source (.toml e)
  | wrongShape {value : Toml} (reads : Toml.parse source = .ok value)
      (shapeless : ofToml? value = none) : Illegible source .wrongShape

variable {source : String} {d : PlanDefinition}

theorem written_iff : Written source d ↔ (Toml.parse source).toOption.bind ofToml? = some d := by
  simp only [Written, Option.bind_eq_some_iff, Except.toOption_eq_some]

instance (source : String) (d : PlanDefinition) : Decidable (Written source d) :=
  decidable_of_iff _ written_iff.symm

/-- A definition is not read if none is written, or if the structure of the one that is written is
not sound. -/
theorem parse_eq_error {fault : PlanFault} :
    parse source = .error fault ↔
      (∃ reason, Illegible source reason ∧ fault = .text none reason) ∨
        ∃ d, Written source d ∧ d.issues ≠ [] ∧ fault = .invalid none d.issues := by
  rw [parse, Except.bind_eq_error, Except.mapError_eq_error]
  constructor
  · rintro (⟨e, fails, rfl⟩ | ⟨value, reads, h⟩)
    · exact .inl ⟨_, .toml fails, rfl⟩
    · have reads := Except.mapError_eq_ok.mp reads
      split at h
      · next shapeless => exact .inl ⟨_, .wrongShape reads shapeless, (Except.error.inj h).symm⟩
      · next d written =>
        split at h
        · cases h
        · next unsound =>
          exact .inr ⟨d, ⟨value, reads, written⟩, by simpa using unsound, (Except.error.inj h).symm⟩
  · rintro (⟨_, fails | ⟨reads, shapeless⟩, rfl⟩ | ⟨d, ⟨value, reads, written⟩, unsound, rfl⟩)
    · exact .inl ⟨_, fails, rfl⟩
    · refine .inr ⟨_, Except.mapError_eq_ok.mpr reads, ?_⟩
      rw [shapeless]
      rfl
    · refine .inr ⟨_, Except.mapError_eq_ok.mpr reads, ?_⟩
      rw [written]
      dsimp only
      rw [if_neg (by simpa using unsound)]
      rfl

/-- No fixes are an issue of their own. -/
theorem noFixes_mem_issues : .noFixes ∈ d.issues ↔ d.issues = [.noFixes] ∧ d.fixes = [] := by
  obtain ⟨numbered, -, whole, hissues⟩ := d.account_issues
  constructor
  · intro h
    rw [hissues] at h
    obtain ⟨⟨number, _⟩, listed, rfl⟩ := List.mem_map.mp h
    have none : d.fixes = [] := by
      rcases (whole _ _).mp listed with none | ⟨-, flaw⟩
      · exact none
      · cases flaw
    exact ⟨by rw [issues, none]; rfl, none⟩
  · rintro ⟨h, -⟩
    rw [h]
    exact List.mem_singleton_self _

/-- From a text whose definition is not read no rule is built. -/
theorem rulesBuilt_of_parse_eq_error {t : Tree} {path : Path} {fault : PlanFault}
    (holds : t.Holds path source) (fails : parse source = .error fault) (rest : List Path) :
    LoadedPlan.rulesBuilt t (path :: rest) = [] := by
  have unread : ofFile t path = .error (fault.within path) := by
    rw [ofFile, Tree.readText_eq_ok.mpr holds, Except.mapError_ok, Except.ok_bind, fails]
    rfl
  rw [LoadedPlan.rulesBuilt, unread]

end PlanDefinition

namespace Plan

/-- **Faults are told where they are.** The issues that are listed are the full account of what is
wrong with the structure of a definition, in order; that it has no fixes is told alone. A definition
fails to be built with the first rule that does, and there is a first one if there is any. A text
that writes a definition is refused for its issues if there are any, whatever its rules are worth,
and no rule of it is built; it is up to the rules only if there are none. -/
theorem ofText_diagnosed (d : PlanDefinition) :
    (∀ issues, d.Account issues ↔ issues = d.issues) ∧
    (d.fixes = [] ↔ d.issues = [.noFixes]) ∧ (.noFixes ∈ d.issues → d.fixes = []) ∧
    (∀ fault, d.build = .error fault ↔
      ∃ file number e, d.FirstFault file number e ∧ fault = .definition none file number e) ∧
    ((∃ file number e, d.FirstFault file number e) ↔
      ∃ fix ∈ d.fixes, ∃ rule ∈ fix.rules, ¬ rule.Builds d.about.defaultFlags) ∧
    ∀ source, PlanDefinition.Written source d →
      (PlanDefinition.parse source = .ok d ↔ d.issues = []) ∧
      (d.issues ≠ [] →
        PlanDefinition.parse source = .error (.invalid none d.issues) ∧
        ofText source = .error (.invalid none d.issues) ∧
        ∀ t path rest, t.Holds path source → LoadedPlan.rulesBuilt t (path :: rest) = []) ∧
      (d.issues = [] → ofText source = d.build) := by
  refine ⟨fun _ => PlanDefinition.account_iff, ⟨fun none => ?_, fun h => ?_⟩,
    fun h => (PlanDefinition.noFixes_mem_issues.mp h).2, fun _ => PlanDefinition.build_eq_error,
    PlanDefinition.exists_firstFault, fun source written => ⟨?_, ?_, ?_⟩⟩
  · rw [PlanDefinition.issues, none]
    rfl
  · exact (PlanDefinition.noFixes_mem_issues.mp (h ▸ List.mem_singleton_self _)).2
  · exact PlanDefinition.parse_eq_ok.trans (and_iff_right written)
  · intro unsound
    have fails : PlanDefinition.parse source = .error (.invalid none d.issues) :=
      PlanDefinition.parse_eq_error.mpr (.inr ⟨d, written, unsound, rfl⟩)
    refine ⟨fails, ?_, fun t path rest holds =>
      PlanDefinition.rulesBuilt_of_parse_eq_error holds fails rest⟩
    rw [ofText, fails]
    rfl
  · intro sound
    rw [ofText, PlanDefinition.parse_eq_ok.mpr ⟨written, sound⟩, Except.ok_bind]

/-- A plan of three fixes, of which none is sound; the only rule cannot be built either. -/
def unsoundText : String :=
  "fixes = [[' ', [['', '(', '']]], \x7bfile = 'b'\x7d, ['', []]]"

def unsoundPlan : PlanDefinition :=
  ⟨{}, [⟨" ", [⟨some "", "(", "", none, none⟩]⟩, ⟨"b", []⟩, ⟨"", []⟩]⟩

/-- The file `p` with this plan in it. -/
def unsoundTree : Tree where
  entries := [(["p"], .file { content := unsoundText.toUTF8 })]

/-- A plan whose second fix has two rules that cannot be built, and its third fix one more. -/
def faultyText : String :=
  "fixes = [['a', [['', 'x', '']]], ['b', [['', 'y', ''], ['', 'z', '\\2'], ['', '(', '']]], " ++
  "['c', [['', ')', '']]]]"

def faultyPlan : PlanDefinition :=
  ⟨{}, [⟨"a", [⟨some "", "x", "", none, none⟩]⟩,
    ⟨"b", [⟨some "", "y", "", none, none⟩, ⟨some "", "z", "\\2", none, none⟩,
      ⟨some "", "(", "", none, none⟩]⟩,
    ⟨"c", [⟨some "", ")", "", none, none⟩]⟩]⟩

theorem ofText_diagnosed_faultyPlan :
    unsoundPlan.Account [.missingFile 1, .noRules "b", .missingFile 3, .noRules ""] ∧
      ofText unsoundText =
        .error (.invalid none [.missingFile 1, .noRules "b", .missingFile 3, .noRules ""]) ∧
      LoadedPlan.rulesBuilt unsoundTree ["p"] = [] ∧
      ofText faultyText = .error (.definition none "b" 2 (.unknownGroup "z" "2" 0)) ∧
      faultyPlan.FirstFault "b" 2 (.unknownGroup "z" "2" 0) := by
  have unsound : unsoundPlan.issues =
      [.missingFile 1, .noRules "b", .missingFile 3, .noRules ""] := by
    decide +kernel
  have sound : faultyPlan.issues = [] := by decide +kernel
  obtain ⟨account, -, -, -, -, texts⟩ := ofText_diagnosed unsoundPlan
  obtain ⟨-, refused, -⟩ := texts unsoundText (by decide +kernel)
  obtain ⟨-, told, unbuilt⟩ := refused (unsound ▸ List.cons_ne_nil _ _)
  obtain ⟨-, -, -, blames, -, texts⟩ := ofText_diagnosed faultyPlan
  obtain ⟨-, -, built⟩ := texts faultyText (by decide +kernel)
  have computed : (ofText faultyText).map (fun _ => ()) =
      .error (.definition none "b" 2 (.unknownGroup "z" "2" 0)) := by
    decide +kernel
  have fails := Except.map_eq_error.mp computed
  obtain ⟨_, _, _, first, same⟩ := (blames _).mp (built sound ▸ fails)
  obtain ⟨-, rfl, rfl, rfl⟩ := PlanFault.definition.inj same
  refine ⟨(account _).mpr unsound.symm, unsound ▸ told, unbuilt unsoundTree "p" [] ?_, fails, first⟩
  exact ⟨["p"], { content := unsoundText.toUTF8 }, by rfl, by decide +kernel, rfl⟩

end Plan

end Emend
