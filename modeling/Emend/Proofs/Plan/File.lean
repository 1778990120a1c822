import Emend.Proofs.Plan.Fault
import Emend.Proofs.Tree.Name

/-!
# Loading a plan from a file

A file is loaded like the text that it holds (`Plan.ofFile_agrees`), with two differences. A plan
without a name takes that of its file: this comes between the two passes over the definition, but
neither of them looks at the name (`PlanDefinition.build_named`). And what is wrong with the text is
told with the path of the file (`PlanFault.Attached`).
-/

namespace Emend

/-- Whether a fault of a text is told with a path as another one, which has the same data. -/
inductive PlanFault.Attached (path : Path) : PlanFault → PlanFault → Prop
  | text (reason : PlanTextFault) : Attached path (.text none reason) (.text (some path) reason)
  | invalid (issues : List PlanIssue) :
      Attached path (.invalid none issues) (.invalid (some path) issues)
  | definition (file : String) (rule : Nat) (fault : DefinitionFault) :
      Attached path (.definition none file rule fault) (.definition (some path) file rule fault)

namespace Plan

variable {t : Tree} {path : Path} {source : String} {fault : PlanFault} {p : Plan}

/-- What is wrong with a text is told without a path, to which one can be attached. -/
theorem attached_of_ofText_eq_error (h : ofText source = .error fault) (path : Path) :
    fault.Attached path (fault.within path) := by
  rw [ofText, Except.bind_eq_error, PlanDefinition.parse_eq_error] at h
  rcases h with (⟨reason, -, rfl⟩ | ⟨d, -, -, rfl⟩) | ⟨d, -, h⟩
  · exact .text reason
  · exact .invalid d.issues
  · obtain ⟨file, number, e, -, rfl⟩ := PlanDefinition.build_eq_error.mp h
    exact .definition file number e

/-! ### Names -/

/-- The plan with another name, if it has none and there is one. -/
def orNamed (name : Option String) (p : Plan) : Plan :=
  if Text.isBlank p.name then { p with name := name.getD p.name } else p

end Plan

/-- It makes no difference whether a plan is named before it is built or after. -/
theorem PlanDefinition.build_named (name : Option String) (d : PlanDefinition) :
    (d.named name).build = d.build.map (·.orNamed name) := by
  cases blank : Text.isBlank d.about.name with
  | false =>
    have kept : d.named name = d := by rw [named, blank, if_neg Bool.false_ne_true]
    rw [kept]
    cases h : d.build with
    | error => rfl
    | ok p =>
      rw [Except.map, Plan.orNamed, (build_eq_ok.mp h).name, blank, if_neg Bool.false_ne_true]
  | true =>
    -- What rules take over from what is said of the plan are flags, and no name.
    rw [named, blank, if_pos rfl, build, build]
    dsimp only [PlanMetadata.defaultFlags]
    cases d.fixes.mapM (·.build ⟨d.about.multiline, d.about.dotMatchesNewLine⟩) with
    | error => rfl
    | ok fixes =>
      rw [Except.ok_bind, Except.ok_bind]
      simp [Except.map, pure, Except.pure, Plan.orNamed, blank]

namespace Plan

/-- A file is loaded like its text, but for the name of the plan and the path of a fault. -/
theorem ofFile_of_holds (holds : t.Holds path source) :
    ofFile t path =
      ((ofText source).map (·.orNamed (Path.stem? path))).mapError (.within path) := by
  rw [ofFile, PlanDefinition.ofFile, Tree.readText_eq_ok.mpr holds, Except.mapError_ok,
    Except.ok_bind, ofText]
  cases PlanDefinition.parse source with
  | error => rfl
  | ok d =>
    rw [Except.mapError_ok, Except.ok_bind, Except.ok_bind, ← PlanDefinition.build_named]
    rfl

/-- **A file is loaded like its text.** A plan is loaded from a path to a text exactly if it is
loaded from this text. If it has a name, both plans are the same; if not, they are the same but for
the name, which is that of the file without what follows its last dot. (Relative paths have to start
at a directory.) What is wrong with the text is wrong with the file, and is told with the path. Where
no text is held, it is told why none is read, with the path too; if a file stands there, its bytes are
to blame. -/
theorem ofFile_agrees (t : Tree) (path : Path) :
    (∀ source, t.Holds path source →
      ((∃ p, ofFile t path = .ok p) ↔ ∃ p, ofText source = .ok p) ∧
      (∀ p, ofText source = .ok p →
        ((∃ c ∈ p.name.toList, Unicode.isWhiteSpace c = false) → ofFile t path = .ok p) ∧
        ((∀ c ∈ p.name.toList, Unicode.isWhiteSpace c = true) → t.Canonical t.here →
          ∃ stem, Path.stem? path = some stem ∧ ofFile t path = .ok { p with name := stem })) ∧
      ∀ fault, ofText source = .error fault →
        ∃ told, ofFile t path = .error told ∧ fault.Attached path told) ∧
    ((∀ source, ¬ t.Holds path source) →
      ∃ fault, t.readText path = .error fault ∧ ofFile t path = .error (.unreadable path fault) ∧
        (t.isFile path = true → fault = .notText)) := by
  constructor
  · intro source holds
    rw [ofFile_of_holds holds]
    refine ⟨?_, fun p hp => ⟨fun named => ?_, fun blank here => ?_⟩, fun fault fails => ?_⟩
    · simp only [Except.mapError_eq_ok, Except.map_eq_ok]
      constructor
      · rintro ⟨_, p, hp, -⟩
        exact ⟨p, hp⟩
      · rintro ⟨p, hp⟩
        exact ⟨_, p, hp, rfl⟩
    · refine Except.mapError_eq_ok.mpr (Except.map_eq_ok.mpr ⟨p, hp, ?_⟩)
      rw [orNamed, FixDefinition.isBlank_eq_false.mpr named, if_neg Bool.false_ne_true]
    · obtain ⟨place, f, leads, stands, -⟩ := holds
      obtain ⟨name, hname⟩ := here.exists_fileName? (Tree.find_eq_ok.mp leads).2 stands
      have hstem : Path.stem? path = some (Path.splitName name).1 := by
        rw [Path.stem?, hname, Option.map_some]
      have isBlank : Text.isBlank p.name = true := List.all_eq_true.mpr blank
      refine ⟨_, hstem, Except.mapError_eq_ok.mpr (Except.map_eq_ok.mpr ⟨p, hp, ?_⟩)⟩
      rw [orNamed, isBlank, if_pos rfl, hstem, Option.getD_some]
    · refine ⟨fault.within path, ?_, attached_of_ofText_eq_error fails path⟩
      rw [fails]
      rfl
  · intro unheld
    cases hread : t.readText path with
    | ok source => exact absurd (Tree.readText_eq_ok.mp hread) (unheld source)
    | error fault =>
      refine ⟨fault, rfl, ?_, fun isFile => Tree.readText_eq_error_of_isFile isFile hread⟩
      rw [ofFile, PlanDefinition.ofFile, hread]
      rfl

/-- A plan without a name. -/
def namelessText : String := "fixes = [['a', [['', 'x', 'y']]]]"

/-- Plans in the directory `d`: one without a name, one with a rule that cannot be built, and one
that is no text. A link at the top leads to the first. -/
def shelfTree : Tree where
  entries := [(["d"], .directory), (["d", "plan.toml"], .file { content := namelessText.toUTF8 }),
    (["d", "faulty.toml"], .file { content := faultyText.toUTF8 }),
    (["d", "raw"], .file { content := ⟨#[0xff]⟩ }), (["latest.v2.toml"], .link "d/./plan.toml")]
  here := ["d"]

theorem ofFile_agrees_shelfTree :
    (∃ p, ofText namelessText = .ok p ∧
      ofFile shelfTree "../latest.v2.toml" = .ok { p with name := "latest.v2" }) ∧
    ofFile shelfTree "faulty.toml" =
      .error (.definition (some "faulty.toml") "b" 2 (.unknownGroup "z" "2" 0)) ∧
    ofFile shelfTree "raw" = .error (.unreadable "raw" .notText) := by
  have here : shelfTree.Canonical shelfTree.here :=
    .down .top rfl ⟨by decide, by decide⟩ ⟨by decide, by decide, by decide, .inr rfl⟩
  have first : shelfTree.Holds "../latest.v2.toml" namelessText :=
    ⟨["d", "plan.toml"], _, by rfl, rfl, rfl⟩
  have second : shelfTree.Holds "faulty.toml" faultyText :=
    ⟨["d", "faulty.toml"], _, by rfl, rfl, rfl⟩
  have third : shelfTree.readText "raw" = .error .notText := by rfl
  have loads : (ofText namelessText).toOption.map (·.name) = some "" := by decide +kernel
  obtain ⟨p, hp, nameless⟩ := Option.map_eq_some_iff.mp loads
  have hp := Except.toOption_eq_some.mp hp
  have fails : (ofText faultyText).map (fun _ => ()) =
      .error (.definition none "b" 2 (.unknownGroup "z" "2" 0)) := by
    decide +kernel
  obtain ⟨-, plans, -⟩ := (ofFile_agrees shelfTree "../latest.v2.toml").1 _ first
  obtain ⟨stem, hstem, named⟩ := (plans p hp).2 (by rw [nameless]; exact nofun) here
  obtain rfl : "latest.v2" = stem := by
    rw [← Option.some_inj, ← hstem]
    decide +kernel
  obtain ⟨-, -, faults⟩ := (ofFile_agrees shelfTree "faulty.toml").1 _ second
  obtain ⟨_, refused, ⟨⟩⟩ := faults _ (Except.map_eq_error.mp fails)
  obtain ⟨_, -, told, blamed⟩ := (ofFile_agrees shelfTree "raw").2 fun source holds => by
    rw [Tree.readText_eq_ok.mpr holds] at third
    cases third
  obtain rfl := blamed (by rfl)
  exact ⟨⟨p, hp, named⟩, refused, told⟩

end Plan

end Emend
