import Emend.Proofs.Tree.Reading
import Emend.Version.Project

/-!
# Where a project declares its version

A project declares its version in the first place that holds a text (`Project.Declares`): in its
`package.json`, for the package of its `Cargo.toml`, or for the packages of the workspace there.
What is missing and what is no text is passed over, and a manifest that is looked at has to be one
(`Project.Undeclared`).

`projectVersion` finds this version with one exception: if the package of the `Cargo.toml` has a
version that is no text, such as one taken over from the workspace, that of the workspace is hidden
(`Project.Hidden`). It is declared and yet not found (`Project.projectVersion_declared`).
-/

namespace Emend

/-! ### Manifests -/

namespace Manifest

section

variable {α : Type} (t : Tree) (path : Path) (parse? : String → Option α)

/-- What is found where a manifest may stand: nothing, or what its text writes. -/
inductive Found : Option α → Prop
  | absent (gone : t.isFile path = false) : Found none
  | stands {text : String} {value : α} (holds : t.Holds path text)
      (parses : parse? text = some value) : Found (some value)

/-- What is wrong with a manifest that stands there: its bytes are no text, or the text does not
follow the grammar. -/
inductive Spoilt : ManifestFault → Prop
  | unreadable (stands : t.isFile path = true) (unheld : ∀ text, ¬ t.Holds path text) :
      Spoilt (.unreadable path .notText)
  | malformed {text : String} (holds : t.Holds path text) (fails : parse? text = none) :
      Spoilt (.malformed path)

end

variable {α : Type} {t : Tree} {path : Path} {parse? : String → Option α}

theorem found_iff {m : Option α} : Found t path parse? m ↔ manifest? t path parse? = .ok m := by
  constructor
  · rintro (gone | ⟨holds, parses⟩)
    · rw [manifest?, gone, if_neg Bool.false_ne_true]
    · rw [manifest?, if_pos holds.isFile, Tree.readText_eq_ok.mpr holds]
      dsimp only
      rw [parses]
  · intro h
    rw [manifest?] at h
    split at h
    · split at h
      · cases h
      · next text reads =>
        split at h
        · cases h
        · next value parses =>
          obtain rfl := Except.ok.inj h
          exact .stands (Tree.readText_eq_ok.mp reads) parses
    · next gone =>
      obtain rfl := Except.ok.inj h
      exact .absent (by simpa using gone)

theorem spoilt_iff {fault : ManifestFault} :
    Spoilt t path parse? fault ↔ manifest? t path parse? = .error fault := by
  constructor
  · rintro (⟨stands, unheld⟩ | ⟨holds, fails⟩)
    · rw [manifest?, if_pos stands]
      cases reads : t.readText path with
      | ok text => exact absurd (Tree.readText_eq_ok.mp reads) (unheld text)
      | error fault => rw [Tree.readText_eq_error_of_isFile stands reads]
    · rw [manifest?, if_pos holds.isFile, Tree.readText_eq_ok.mpr holds]
      dsimp only
      rw [fails]
  · intro h
    rw [manifest?] at h
    split at h
    · next stands =>
      split at h
      · next fault' reads =>
        obtain rfl := Except.error.inj h
        obtain rfl := Tree.readText_eq_error_of_isFile stands reads
        refine .unreadable stands fun text holds => ?_
        rw [Tree.readText_eq_ok.mpr holds] at reads
        cases reads
      · next text reads =>
        split at h
        · next fails =>
          obtain rfl := Except.error.inj h
          exact .malformed (Tree.readText_eq_ok.mp reads) fails
        · cases h
    · cases h

end Manifest

/-- The version in a `package.json` is the text under its name. -/
theorem packageVersion?_eq_some {manifest : Json} {v : String} :
    packageVersion? manifest = some v ↔ manifest.get? "version" = some (.string v) := by
  rw [packageVersion?, Option.bind_eq_some_iff]
  constructor
  · rintro ⟨value, heq, h⟩
    cases value with
    | string s =>
      obtain rfl := Option.some.inj h
      exact heq
    | _ => cases h
  · intro heq
    exact ⟨_, heq, rfl⟩

namespace Toml

/-- The value under keys, one inside the other. -/
def under? (keys : List String) (value : Toml) : Option Toml :=
  keys.foldlM (fun inner key => inner.get? key) value

/-- The text under keys. -/
def textUnder? (value : Toml) (keys : List String) : Option String :=
  (value.under? keys).bind string?

/-- The keys under which a `Cargo.toml` may have a version, in order. -/
def versionKeys : List (List String) :=
  [["package", "version"], ["workspace", "package", "version"]]

/-- Whether the package of a `Cargo.toml` has a version that is no text, although the workspace has
one that is. -/
structure HidesVersion (manifest : Toml) : Prop where
  own : ∃ value, manifest.under? ["package", "version"] = some value ∧ value.string? = none
  shared : ∃ v, manifest.textUnder? ["workspace", "package", "version"] = some v

variable {manifest : Toml}

theorem cargoVersion?_eq_or (manifest : Toml) :
    cargoVersion? manifest =
      ((manifest.under? ["package", "version"]).or
        (manifest.under? ["workspace", "package", "version"])).bind string? := by
  simp [cargoVersion?, under?]

/-- A version that is hidden is not found, nor any other. -/
theorem HidesVersion.cargoVersion?_eq (h : manifest.HidesVersion) :
    cargoVersion? manifest = none := by
  obtain ⟨value, own, no_text⟩ := h.own
  rw [cargoVersion?_eq_or, own]
  exact no_text

/-- Otherwise the version of a `Cargo.toml` is the first text. -/
theorem cargoVersion?_eq (h : ¬ manifest.HidesVersion) :
    cargoVersion? manifest = versionKeys.findSome? manifest.textUnder? := by
  rw [cargoVersion?_eq_or, versionKeys, List.findSome?_cons, List.findSome?_cons,
    List.findSome?_nil]
  cases own : manifest.under? ["package", "version"] with
  | none =>
    rw [textUnder?, own, Option.bind_none, Option.none_or, ← textUnder?]
    cases manifest.textUnder? ["workspace", "package", "version"] <;> rfl
  | some value =>
    have first : manifest.textUnder? ["package", "version"] = value.string? := by
      rw [textUnder?, own, Option.bind_some]
    rw [first]
    cases no_text : value.string? with
    | some v => exact no_text
    | none =>
      -- Then the workspace has no text either, or else it would be hidden.
      have shared : manifest.textUnder? ["workspace", "package", "version"] = none := by
        rw [Option.eq_none_iff_forall_ne_some]
        exact fun v hv => h ⟨⟨value, own, no_text⟩, v, hv⟩
      rw [shared]
      exact no_text

/-- A version that is hidden is declared. -/
theorem HidesVersion.declared (h : manifest.HidesVersion) :
    ∃ v, versionKeys.findSome? manifest.textUnder? = some v := by
  obtain ⟨value, own, no_text⟩ := h.own
  obtain ⟨v, shared⟩ := h.shared
  refine ⟨v, ?_⟩
  rw [versionKeys, List.findSome?_cons, textUnder?, own, Option.bind_some, no_text,
    List.findSome?_cons, shared]

end Toml

/-! ### Projects -/

namespace Project

section

variable (t : Tree) (root : Path)

/-- What is found of the `package.json` of a project. -/
def PackageFound : Option Json → Prop :=
  Manifest.Found t (Path.join root "package.json") Json.parse?

/-- What is found of its `Cargo.toml`. -/
def CargoFound : Option Toml → Prop :=
  Manifest.Found t (Path.join root "Cargo.toml") fun text => (Toml.parse text).toOption

/-- Whether the `package.json` of a project is missing, or is there and has no version that is a
text. -/
def Silent : Prop :=
  ∃ m, PackageFound t root m ∧ ∀ manifest v, m = some manifest →
    manifest.get? "version" ≠ some (.string v)

/-- The version that a project declares. -/
inductive Declares : String → Prop
  | package {manifest : Json} {v : String} (found : PackageFound t root (some manifest))
      (states : manifest.get? "version" = some (.string v)) : Declares v
  | cargo {manifest : Toml} {v : String} (silent : Silent t root)
      (found : CargoFound t root (some manifest))
      (first : Toml.versionKeys.findSome? manifest.textUnder? = some v) : Declares v

/-- Why a project declares no version. A `Cargo.toml` is looked at only if the `package.json` has
none. -/
inductive Undeclared : ManifestFault → Prop
  | package {fault : ManifestFault}
      (spoilt : Manifest.Spoilt t (Path.join root "package.json") Json.parse? fault) :
      Undeclared fault
  | cargo {fault : ManifestFault} (silent : Silent t root)
      (spoilt : Manifest.Spoilt t (Path.join root "Cargo.toml")
        (fun text => (Toml.parse text).toOption) fault) :
      Undeclared fault
  | nowhere {m : Option Toml} (silent : Silent t root) (found : CargoFound t root m)
      (no_text : ∀ manifest, m = some manifest →
        Toml.versionKeys.findSome? manifest.textUnder? = none) :
      Undeclared .noVersion

/-- Whether a project declares a version that is hidden. -/
def Hidden : Prop :=
  Silent t root ∧ ∃ manifest, CargoFound t root (some manifest) ∧ manifest.HidesVersion

end

variable {t : Tree} {root : Path}

theorem silent_iff : Silent t root ↔
    ∃ m, manifest? t (Path.join root "package.json") Json.parse? = .ok m ∧
      m.bind packageVersion? = none := by
  simp only [Silent, PackageFound, Manifest.found_iff, Option.eq_none_iff_forall_ne_some, ne_eq,
    Option.bind_eq_some_iff, packageVersion?_eq_some, not_exists, not_and]
  refine exists_congr fun m => and_congr_right fun _ => ?_
  exact ⟨fun h v manifest => h manifest v, fun h manifest v => h v manifest⟩

/-- A hidden version is declared. -/
theorem Hidden.declares (h : Hidden t root) : ∃ v, Declares t root v := by
  obtain ⟨silent, manifest, found, hides⟩ := h
  obtain ⟨v, first⟩ := hides.declared
  exact ⟨v, .cargo silent found first⟩

/-! ### What is found -/

variable {v : String} {fault : ManifestFault}

/-- If the `package.json` is silent, it is all up to the `Cargo.toml`. -/
theorem Silent.projectVersion_eq (h : Silent t root) :
    projectVersion t root =
      (manifest? t (Path.join root "Cargo.toml") fun text => (Toml.parse text).toOption) >>=
        fun cargo => (cargo.bind cargoVersion?).elim (.error .noVersion) .ok := by
  obtain ⟨m, found, no_version⟩ := silent_iff.mp h
  rw [projectVersion, found, Except.ok_bind, no_version]
  refine congrArg (Except.bind _) (funext fun cargo => ?_)
  cases cargo.bind cargoVersion? <;> rfl

theorem Declares.projectVersion_eq (h : Declares t root v) (shown : ¬ Hidden t root) :
    projectVersion t root = .ok v := by
  cases h with
  | package found states =>
    rw [projectVersion, Manifest.found_iff.mp found, Except.ok_bind, Option.bind_some,
      packageVersion?_eq_some.mpr states]
    rfl
  | @cargo manifest _ silent found first =>
    have shows : ¬ manifest.HidesVersion := fun hides => shown ⟨silent, manifest, found, hides⟩
    rw [silent.projectVersion_eq, Manifest.found_iff.mp found, Except.ok_bind, Option.bind_some,
      Toml.cargoVersion?_eq shows, first]
    rfl

theorem Hidden.projectVersion_eq (h : Hidden t root) :
    projectVersion t root = .error .noVersion := by
  obtain ⟨silent, manifest, found, hides⟩ := h
  rw [silent.projectVersion_eq, Manifest.found_iff.mp found, Except.ok_bind, Option.bind_some,
    hides.cargoVersion?_eq]
  rfl

theorem Undeclared.projectVersion_eq (h : Undeclared t root fault) :
    projectVersion t root = .error fault := by
  cases h with
  | package spoilt =>
    rw [projectVersion, Manifest.spoilt_iff.mp spoilt]
    rfl
  | cargo silent spoilt =>
    rw [silent.projectVersion_eq, Manifest.spoilt_iff.mp spoilt]
    rfl
  | @nowhere m silent found no_text =>
    rw [silent.projectVersion_eq, Manifest.found_iff.mp found, Except.ok_bind]
    cases m with
    | none => rfl
    | some manifest =>
      have none := no_text manifest rfl
      have shows : ¬ manifest.HidesVersion := fun hides => by
        obtain ⟨v, some⟩ := hides.declared
        rw [none] at some
        cases some
      rw [Option.bind_some, Toml.cargoVersion?_eq shows, none]
      rfl

/-- Each project declares a version or does not, and if it does, the version may be hidden. -/
theorem declares_or (t : Tree) (root : Path) :
    (∃ v, Declares t root v ∧ ¬ Hidden t root) ∨ (∃ fault, Undeclared t root fault) ∨
      Hidden t root := by
  by_cases hidden : Hidden t root
  · exact .inr (.inr hidden)
  -- Each manifest is looked at in turn, and only a silent one leads on to the next.
  cases package : manifest? t (Path.join root "package.json") Json.parse? with
  | error fault => exact .inr (.inl ⟨fault, .package (Manifest.spoilt_iff.mpr package)⟩)
  | ok m =>
    cases states : m.bind packageVersion? with
    | some v =>
      obtain ⟨manifest, rfl, states⟩ := Option.bind_eq_some_iff.mp states
      exact .inl ⟨v, .package (Manifest.found_iff.mpr package) (packageVersion?_eq_some.mp states),
        hidden⟩
    | none =>
      have silent : Silent t root := silent_iff.mpr ⟨m, package, states⟩
      cases cargo : manifest? t (Path.join root "Cargo.toml")
          (fun text => (Toml.parse text).toOption) with
      | error fault =>
        exact .inr (.inl ⟨fault, .cargo silent (Manifest.spoilt_iff.mpr cargo)⟩)
      | ok c =>
        have found : CargoFound t root c := Manifest.found_iff.mpr cargo
        cases first : c.bind fun manifest => Toml.versionKeys.findSome? manifest.textUnder? with
        | some v =>
          obtain ⟨manifest, rfl, first⟩ := Option.bind_eq_some_iff.mp first
          exact .inl ⟨v, .cargo silent found first, hidden⟩
        | none =>
          refine .inr (.inl ⟨_, .nowhere silent found ?_⟩)
          rintro manifest rfl
          exact first

/-- **The version of a project is the first that it declares, unless it is hidden.** A version is
found exactly if it is declared and not hidden. None is found exactly if none is declared, which is
told with the reason, or if the one that is declared is hidden, which is told as if there were
none. -/
theorem projectVersion_declared (t : Tree) (root : Path) :
    (∀ v, projectVersion t root = .ok v ↔ Declares t root v ∧ ¬ Hidden t root) ∧
      ∀ fault, projectVersion t root = .error fault ↔
        Undeclared t root fault ∨
          (∃ v, Declares t root v) ∧ Hidden t root ∧ fault = .noVersion := by
  refine ⟨fun v => ⟨fun finds => ?_, fun h => h.1.projectVersion_eq h.2⟩,
    fun fault => ⟨fun fails => ?_, ?_⟩⟩
  · rcases declares_or t root with ⟨w, declares, shown⟩ | ⟨fault, undeclared⟩ | hidden
    · rw [declares.projectVersion_eq shown] at finds
      obtain rfl := Except.ok.inj finds
      exact ⟨declares, shown⟩
    · rw [undeclared.projectVersion_eq] at finds
      cases finds
    · rw [hidden.projectVersion_eq] at finds
      cases finds
  · rcases declares_or t root with ⟨w, declares, shown⟩ | ⟨fault', undeclared⟩ | hidden
    · rw [declares.projectVersion_eq shown] at fails
      cases fails
    · rw [undeclared.projectVersion_eq] at fails
      obtain rfl := Except.error.inj fails
      exact .inl undeclared
    · rw [hidden.projectVersion_eq] at fails
      exact .inr ⟨hidden.declares, hidden, (Except.error.inj fails).symm⟩
  · rintro (undeclared | ⟨-, hidden, rfl⟩)
    · exact undeclared.projectVersion_eq
    · exact hidden.projectVersion_eq

/-- A workspace with a package that takes its version over from the workspace. -/
def inheritingText : String :=
  "[package]\nversion.workspace = true\n\n[workspace.package]\nversion = \"0.9.0\"\n"

def inheritingTree : Tree where
  entries := [(["Cargo.toml"], .file { content := inheritingText.toUTF8 })]

/-- Not every version that is declared is found. -/
theorem not_forall_projectVersion :
    ¬ ∀ (t : Tree) (root : Path) (v : String),
      Declares t root v → projectVersion t root = .ok v := by
  intro all_found
  have states : ((Toml.parse inheritingText).toOption.bind fun manifest =>
      Toml.versionKeys.findSome? manifest.textUnder?) = some "0.9.0" := by
    decide +kernel
  obtain ⟨manifest, parses, first⟩ := Option.bind_eq_some_iff.mp states
  have silent : Silent inheritingTree "" := ⟨none, .absent (by rfl), nofun⟩
  have found : CargoFound inheritingTree "" (some manifest) :=
    .stands ⟨["Cargo.toml"], _, by rfl, rfl, rfl⟩ parses
  have finds := all_found _ _ _ (.cargo silent found first)
  have fails : projectVersion inheritingTree "" = .error .noVersion := by decide +kernel
  rw [fails] at finds
  cases finds

end Project

end Emend
