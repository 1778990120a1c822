import Emend.Command.Gate
import Emend.Proofs.Except
import Emend.Proofs.Text.Trim

/-!
# Gating plan by plan

A plan by itself is for the project, or is not, or cannot be judged (`LoadedPlan.Suits`,
`LoadedPlan.Excluded`, `LoadedPlan.Unjudged`), by its range and the version of the project. The plain
gate judges one plan after the other, up to the first that cannot be judged, and reads the version
again for each plan that asks for it (`Gates`).

`gate` reads the version when the first plan asks for it, and keeps it for the plans that come later.
Since reading it again would give the same, it does what the plain gate does (`gate_gates`): it keeps
the plans that suit, in their order, with a notice for each of the others, and fails with the first
that cannot be judged (`gate_filters`).

A range of blanks takes in all versions, but a plan with such a range asks for the version all the
same. If it cannot be read, the plan is not kept but a fault (`gate_unbounded`).
-/

namespace Emend

/-! ### A plan by itself -/

/-- Whether a plan is for the project at a root. Only a plan with a range asks for the version. -/
def LoadedPlan.suits (t : Tree) (root : Path) (p : LoadedPlan) : Except GateFault Bool :=
  match p.plan.versionRange with
  | none => .ok true
  | some _ => do
    let version ← (projectVersion t root).mapError .unknownVersion
    (p.plan.appliesTo version).mapError .range

namespace LoadedPlan

section

variable (t : Tree) (root : Path) (p : LoadedPlan)

/-- Whether a plan is for the project at a root. -/
inductive Suits : Prop
  | always (everywhere : p.plan.versionRange = none)
  | within {range version : String} (ranged : p.plan.versionRange = some range)
      (reads : projectVersion t root = .ok version) (meets : p.plan.appliesTo version = .ok true)

/-- Whether a plan is not for the project, and what is told of it. -/
inductive Excluded : GateNotice → Prop
  | outside {range version : String} (ranged : p.plan.versionRange = some range)
      (reads : projectVersion t root = .ok version) (misses : p.plan.appliesTo version = .ok false) :
      Excluded (.skipped p.plan.name version range)

/-- Why it cannot be said whether a plan is for the project. -/
inductive Unjudged : GateFault → Prop
  | unread {range : String} {fault : ManifestFault} (ranged : p.plan.versionRange = some range)
      (fails : projectVersion t root = .error fault) : Unjudged (.unknownVersion fault)
  | unmet {range version : String} {fault : VersionFault}
      (ranged : p.plan.versionRange = some range) (reads : projectVersion t root = .ok version)
      (fails : p.plan.appliesTo version = .error fault) : Unjudged (.range fault)

end

variable {t : Tree} {root : Path} {p : LoadedPlan}

theorem suits_of_range {range version : String} (h : p.plan.versionRange = some range)
    (hversion : projectVersion t root = .ok version) :
    p.suits t root = (p.plan.appliesTo version).mapError .range := by
  simp only [suits, h, hversion, Except.mapError_ok, Except.ok_bind]

theorem suits_iff : p.Suits t root ↔ p.suits t root = .ok true := by
  constructor
  · rintro (everywhere | ⟨ranged, reads, meets⟩)
    · rw [suits, everywhere]
    · rw [suits_of_range ranged reads, meets, Except.mapError_ok]
  · intro h
    cases ranged : p.plan.versionRange with
    | none => exact .always ranged
    | some range =>
      rw [suits, ranged, Except.bind_eq_ok] at h
      obtain ⟨version, reads, meets⟩ := h
      exact .within ranged (Except.mapError_eq_ok.mp reads) (Except.mapError_eq_ok.mp meets)

instance (t : Tree) (root : Path) (p : LoadedPlan) : Decidable (p.Suits t root) :=
  decidable_of_iff _ suits_iff.symm

theorem Excluded.suits_eq {notice : GateNotice} (h : p.Excluded t root notice) :
    p.suits t root = .ok false := by
  obtain ⟨ranged, reads, misses⟩ := h
  rw [suits_of_range ranged reads, misses, Except.mapError_ok]

theorem unjudged_iff {fault : GateFault} :
    p.Unjudged t root fault ↔ p.suits t root = .error fault := by
  constructor
  · rintro (⟨ranged, fails⟩ | ⟨ranged, reads, fails⟩)
    · rw [suits, ranged]
      simp only [fails, Except.mapError_error, Except.error_bind]
    · rw [suits_of_range ranged reads, fails, Except.mapError_error]
  · intro h
    rw [suits] at h
    split at h
    · cases h
    · next range ranged =>
      rcases Except.bind_eq_error.mp h with h | ⟨version, reads, h⟩
      · obtain ⟨fault, fails, rfl⟩ := Except.mapError_eq_error.mp h
        exact .unread ranged fails
      · obtain ⟨fault, fails, rfl⟩ := Except.mapError_eq_error.mp h
        exact .unmet ranged (Except.mapError_eq_ok.mp reads) fails

/-- A plan can be judged if it suits or does not. -/
theorem judged_iff :
    (∀ fault, ¬ p.Unjudged t root fault) ↔ ∃ suits, p.suits t root = .ok suits := by
  simp only [unjudged_iff]
  cases p.suits t root <;> simp

theorem Suits.judged (h : p.Suits t root) (fault : GateFault) : ¬ p.Unjudged t root fault :=
  judged_iff.mpr ⟨true, suits_iff.mp h⟩ fault

theorem Excluded.judged {notice : GateNotice} (h : p.Excluded t root notice) (fault : GateFault) :
    ¬ p.Unjudged t root fault :=
  judged_iff.mpr ⟨false, h.suits_eq⟩ fault

theorem Excluded.not_suits {notice : GateNotice} (h : p.Excluded t root notice) :
    ¬ p.Suits t root := by
  rw [suits_iff, h.suits_eq]
  exact nofun

end LoadedPlan

/-! ### One plan after the other -/

/-- The plain gate: what is kept of plans, and what is told of those that are left out. -/
inductive Gates (t : Tree) (root : Path) :
    List LoadedPlan → List GateNotice → Except GateFault (List LoadedPlan) → Prop
  | done : Gates t root [] [] (.ok [])
  | keeps {p : LoadedPlan} {rest : List LoadedPlan} {skips : List GateNotice}
      {kept : Except GateFault (List LoadedPlan)} (suits : p.Suits t root)
      (more : Gates t root rest skips kept) : Gates t root (p :: rest) skips (kept.map (p :: ·))
  | skips {p : LoadedPlan} {rest : List LoadedPlan} {notice : GateNotice} {skips : List GateNotice}
      {kept : Except GateFault (List LoadedPlan)} (excluded : p.Excluded t root notice)
      (more : Gates t root rest skips kept) : Gates t root (p :: rest) (notice :: skips) kept
  | fails {p : LoadedPlan} {rest : List LoadedPlan} {fault : GateFault}
      (unjudged : p.Unjudged t root fault) : Gates t root (p :: rest) [] (.error fault)

namespace Gates

variable {t : Tree} {root : Path} {plans : List LoadedPlan} {skips : List GateNotice}
  {out : Except GateFault (List LoadedPlan)}

/-- If plans are kept, all could be judged, and they are those that suit. -/
theorem eq_ok_iff (h : Gates t root plans skips out) {kept : List LoadedPlan} :
    out = .ok kept ↔ (∀ p ∈ plans, ∀ fault, ¬ p.Unjudged t root fault) ∧
      kept = plans.filter (·.Suits t root) := by
  induction h generalizing kept with
  | done => simp [eq_comm]
  | @keeps p rest skips out suits more ih =>
    rw [Except.map_eq_ok, List.forall_mem_cons, and_iff_right suits.judged,
      List.filter_cons_of_pos (by simpa using suits)]
    constructor
    · rintro ⟨kept, hkept, rfl⟩
      obtain ⟨judged, rfl⟩ := ih.mp hkept
      exact ⟨judged, rfl⟩
    · rintro ⟨judged, rfl⟩
      exact ⟨_, ih.mpr ⟨judged, rfl⟩, rfl⟩
  | @skips p rest notice skips out excluded more ih =>
    rw [List.forall_mem_cons, and_iff_right excluded.judged,
      List.filter_cons_of_neg (by simpa using excluded.not_suits)]
    exact ih
  | fails unjudged =>
    constructor
    · exact nofun
    · rintro ⟨judged, -⟩
      exact absurd unjudged (judged _ List.mem_cons_self _)

/-- It fails with the first plan that cannot be judged. -/
theorem eq_error_iff (h : Gates t root plans skips out) {fault : GateFault} :
    out = .error fault ↔ ∃ before p after, plans = before ++ p :: after ∧
      (∀ q ∈ before, ∀ fault, ¬ q.Unjudged t root fault) ∧ p.Unjudged t root fault := by
  have judging : out = .error fault ↔ plans.mapM (·.suits t root) = .error fault := by
    induction h with
    | done => simp [Except.pure_ne_error]
    | keeps suits more ih =>
      simp only [Except.map_eq_error, ih, List.mapM_cons, LoadedPlan.suits_iff.mp suits,
        Except.ok_bind, Except.bind_eq_error, Except.pure_ne_error, and_false, exists_false, or_false]
    | skips excluded more ih =>
      simp only [ih, List.mapM_cons, excluded.suits_eq, Except.ok_bind, Except.bind_eq_error,
        Except.pure_ne_error, and_false, exists_false, or_false]
    | fails unjudged =>
      rw [List.mapM_cons, LoadedPlan.unjudged_iff.mp unjudged, Except.error_bind]
      simp
  simp only [judging, Except.mapM_eq_error, ← LoadedPlan.judged_iff, LoadedPlan.unjudged_iff]

/-- If plans are kept, there is a notice for each of the others. -/
theorem forall₂_skips (h : Gates t root plans skips out) {kept : List LoadedPlan}
    (hkept : out = .ok kept) :
    List.Forall₂ (·.Excluded t root ·) (plans.filter (¬ ·.Suits t root)) skips := by
  induction h generalizing kept with
  | done => exact .nil
  | keeps suits more ih =>
    obtain ⟨kept, hkept, -⟩ := Except.map_eq_ok.mp hkept
    rw [List.filter_cons_of_neg (by simpa using suits)]
    exact ih hkept
  | skips excluded more ih =>
    rw [List.filter_cons_of_pos (by simpa using excluded.not_suits)]
    exact .cons excluded (ih hkept)
  | fails => cases hkept

end Gates

/-! ### The turns of a gate -/

variable {t : Tree} {root : Path} {p : LoadedPlan} {range version : String}

/-- A plan without a range is kept. -/
theorem gateFrom_always (everywhere : p.plan.versionRange = none) (known : Option String)
    (rest : List LoadedPlan) :
    gateFrom t root known (p :: rest) = (gateFrom t root known rest).keeping p := by
  rw [gateFrom.eq_def]
  simp only [everywhere]

/-- A plan with a range is judged by the version that is known. -/
theorem gateFrom_known (ranged : p.plan.versionRange = some range) (version : String)
    (rest : List LoadedPlan) :
    gateFrom t root (some version) (p :: rest) =
      match p.plan.appliesTo version with
      | .error fault => ⟨[], .error (.range fault)⟩
      | .ok true => (gateFrom t root (some version) rest).keeping p
      | .ok false =>
        (gateFrom t root (some version) rest).telling [.skipped p.plan.name version range] := by
  rw [gateFrom.eq_def]
  simp only [ranged]
  cases p.plan.appliesTo version with
  | error fault => rfl
  | ok suits => cases suits <;> rfl

/-- If no version is known, it is read and told first, and known from then on. -/
theorem gateFrom_read (ranged : p.plan.versionRange = some range)
    (reads : projectVersion t root = .ok version) (rest : List LoadedPlan) :
    gateFrom t root none (p :: rest) =
      (gateFrom t root (some version) (p :: rest)).telling [.version version] := by
  rw [gateFrom_known ranged, gateFrom.eq_def]
  simp only [ranged, reads, Except.map]
  cases p.plan.appliesTo version with
  | error fault => rfl
  | ok suits => cases suits <;> rfl

theorem gateFrom_unread (ranged : p.plan.versionRange = some range) {fault : ManifestFault}
    (fails : projectVersion t root = .error fault) (rest : List LoadedPlan) :
    gateFrom t root none (p :: rest) = ⟨[], .error (.unknownVersion fault)⟩ := by
  rw [gateFrom.eq_def]
  simp only [ranged, fails, Except.map]

/-! ### A whole gate -/

/-- What is told of the version: once, if it can be read and a plan asks for it. -/
def announcement (t : Tree) (root : Path) (plans : List LoadedPlan) : List GateNotice :=
  match projectVersion t root with
  | .ok version => if plans.any (·.plan.versionRange.isSome) then [.version version] else []
  | .error _ => []

/-- From when the version is known, a gate is the plain one. -/
theorem gateFrom_known_gates (reads : projectVersion t root = .ok version)
    (plans : List LoadedPlan) :
    Gates t root plans (gateFrom t root (some version) plans).notices
      (gateFrom t root (some version) plans).kept := by
  induction plans with
  | nil => exact .done
  | cons p rest ih =>
    cases ranged : p.plan.versionRange with
    | none =>
      rw [gateFrom_always ranged]
      exact .keeps (.always ranged) ih
    | some range =>
      rw [gateFrom_known ranged]
      cases judged : p.plan.appliesTo version with
      | error fault => exact .fails (.unmet ranged reads judged)
      | ok suits =>
        cases suits with
        | true => exact .keeps (.within ranged reads judged) ih
        | false => exact .skips (.outside ranged reads judged) ih

/-- A gate is the plain one, but that it tells the version, before all else. -/
theorem gate_gates (t : Tree) (root : Path) (plans : List LoadedPlan) :
    ∃ skips, Gates t root plans skips (gate t root plans).kept ∧
      (gate t root plans).notices = announcement t root plans ++ skips := by
  rw [gate]
  induction plans with
  | nil =>
    refine ⟨[], .done, ?_⟩
    rw [announcement]
    split <;> rfl
  | cons p rest ih =>
    cases ranged : p.plan.versionRange with
    | none =>
      obtain ⟨skips, gates, told⟩ := ih
      refine ⟨skips, ?_, ?_⟩
      · rw [gateFrom_always ranged]
        exact .keeps (.always ranged) gates
      · rw [gateFrom_always ranged, Gated.keeping, told, announcement, announcement]
        simp only [List.any_cons, ranged, Option.isSome_none, Bool.false_or]
    | some range =>
      -- This plan asks for the version, which is known for the rest.
      cases read : projectVersion t root with
      | error fault =>
        refine ⟨[], ?_, ?_⟩
        · rw [gateFrom_unread ranged read]
          exact .fails (.unread ranged read)
        · rw [gateFrom_unread ranged read, announcement, read]
          rfl
      | ok version =>
        refine ⟨(gateFrom t root (some version) (p :: rest)).notices, ?_, ?_⟩
        · rw [gateFrom_read ranged read]
          exact gateFrom_known_gates read (p :: rest)
        · rw [gateFrom_read ranged read, announcement, read]
          simp [Gated.telling, ranged]

/-- If plans are kept, each plan could be judged. -/
theorem suits_of_gate_eq_ok {plans kept : List LoadedPlan} (h : (gate t root plans).kept = .ok kept) :
    ∀ p ∈ plans, ∃ suits, p.suits t root = .ok suits := by
  obtain ⟨skips, gates, -⟩ := gate_gates t root plans
  intro p hp
  exact LoadedPlan.judged_iff.mp ((gates.eq_ok_iff.mp h).1 p hp)

/-- What it means that the outcome of a gate is that of a filter. -/
structure Gated.Filters (t : Tree) (root : Path) (plans : List LoadedPlan) (g : Gated) : Prop where
  /-- It is the outcome of the plain gate, but that the version is told at most once. -/
  plain : ∃ skips, Gates t root plans skips g.kept ∧
    g.notices = announcement t root plans ++ skips
  /-- The plans that are kept are those that suit, in their order. -/
  kept : ∀ kept, g.kept = .ok kept ↔ (∀ p ∈ plans, ∀ fault, ¬ p.Unjudged t root fault) ∧
    kept = plans.filter (·.Suits t root)
  /-- Each of the others has its notice, in the same order. -/
  skipped : ∀ kept, g.kept = .ok kept → ∃ skips,
    List.Forall₂ (·.Excluded t root ·) (plans.filter (¬ ·.Suits t root)) skips ∧
    g.notices = announcement t root plans ++ skips
  /-- It fails with the first plan that cannot be judged. -/
  failed : ∀ fault, g.kept = .error fault ↔ ∃ before p after, plans = before ++ p :: after ∧
    (∀ q ∈ before, ∀ fault, ¬ q.Unjudged t root fault) ∧ p.Unjudged t root fault

/-- **A gate is a filter.** Whatever plans with and without ranges come in whatever order, a gate that
reads the version once keeps, leaves out and refuses the same plans as one that reads it again for
each. -/
theorem gate_filters (t : Tree) (root : Path) (plans : List LoadedPlan) :
    (gate t root plans).Filters t root plans := by
  obtain ⟨skips, gates, told⟩ := gate_gates t root plans
  exact {
    plain := ⟨skips, gates, told⟩
    kept := fun _ => gates.eq_ok_iff
    skipped := fun _ hkept => ⟨skips, gates.forall₂_skips hkept, told⟩
    failed := fun _ => gates.eq_error_iff }

/-! ### Ranges of blanks -/

/-- Whether the range of a plan takes in all versions: there is none, or it is all blanks. -/
def Plan.Unbounded (p : Plan) : Prop :=
  ∀ range, p.versionRange = some range → ∀ c ∈ range.toList, Unicode.isWhiteSpace c = true

/-- Such plans are those that are for every version, be it well-formed or not. -/
theorem Plan.unbounded_iff {p : Plan} :
    p.Unbounded ↔ ∀ version, p.appliesTo version = .ok true := by
  have blank : p.Unbounded ↔ (Text.trim (p.versionRange.getD "")).isEmpty = true := by
    rw [Text.isEmpty_trim, Text.isBlank, List.all_eq_true, Unbounded]
    cases p.versionRange <;> simp
  rw [blank]
  constructor
  · intro wanted version
    rw [appliesTo, meetsRequirement]
    simp only [wanted, if_true]
    rfl
  · intro all
    -- A range that is wanted refuses the text without characters, which is no version.
    by_contra wanted
    have refused := all ""
    rw [appliesTo, meetsRequirement] at refused
    simp only [wanted, if_false] at refused
    cases refused

variable {plans : List LoadedPlan}

/-- A plan for every version can be judged unless it asks for a version that cannot be read. -/
theorem Plan.Unbounded.unjudged_iff (h : p.plan.Unbounded) {fault : GateFault} :
    p.Unjudged t root fault ↔ p.plan.versionRange ≠ none ∧
      ∃ unread, projectVersion t root = .error unread ∧ fault = .unknownVersion unread := by
  constructor
  · rintro (⟨ranged, fails⟩ | ⟨-, -, fails⟩)
    · exact ⟨by simp [ranged], _, fails, rfl⟩
    · rw [Plan.unbounded_iff.mp h] at fails
      cases fails
  · rintro ⟨asks, unread, fails, rfl⟩
    obtain ⟨range, ranged⟩ := Option.ne_none_iff_exists'.mp asks
    exact .unread ranged fails

theorem Plan.Unbounded.suits (h : p.plan.Unbounded)
    (judged : ∀ fault, ¬ p.Unjudged t root fault) : p.Suits t root := by
  cases ranged : p.plan.versionRange with
  | none => exact .always ranged
  | some range =>
    cases read : projectVersion t root with
    | ok version => exact .within ranged read (Plan.unbounded_iff.mp h version)
    | error unread => exact absurd (.unread ranged read) (judged _)

/-- **Plans for every version are all kept if none of them asks for the version, or if it can be
read.** Otherwise, if one of them has a range, be it all blanks, none is kept. -/
theorem gate_unbounded (unbounded : ∀ p ∈ plans, p.plan.Unbounded) :
    ((gate t root plans).kept = .ok plans ↔
      (∀ p ∈ plans, p.plan.versionRange = none) ∨ ∃ version, projectVersion t root = .ok version) ∧
    ∀ fault, (gate t root plans).kept = .error fault ↔
      (∃ p ∈ plans, p.plan.versionRange ≠ none) ∧
        ∃ unread, projectVersion t root = .error unread ∧ fault = .unknownVersion unread := by
  obtain ⟨skips, gates, -⟩ := gate_gates t root plans
  have fails {fault : GateFault} (h : (gate t root plans).kept = .error fault) :
      (∃ p ∈ plans, p.plan.versionRange ≠ none) ∧
        ∃ unread, projectVersion t root = .error unread ∧ fault = .unknownVersion unread := by
    obtain ⟨before, p, after, split, -, unjudged⟩ := gates.eq_error_iff.mp h
    have hp : p ∈ plans := by simp [split]
    obtain ⟨asks, unread⟩ := (unbounded p hp).unjudged_iff.mp unjudged
    exact ⟨⟨p, hp, asks⟩, unread⟩
  constructor
  · rw [gates.eq_ok_iff]
    constructor
    · rintro ⟨judged, -⟩
      cases read : projectVersion t root with
      | ok version => exact .inr ⟨version, rfl⟩
      | error unread =>
        refine .inl fun p hp => ?_
        by_contra asks
        exact judged p hp _ ((unbounded p hp).unjudged_iff.mpr ⟨asks, unread, read, rfl⟩)
    · intro h
      have judged : ∀ p ∈ plans, ∀ fault, ¬ p.Unjudged t root fault := by
        intro p hp fault unjudged
        obtain ⟨asks, unread, read, -⟩ := (unbounded p hp).unjudged_iff.mp unjudged
        rcases h with open_ended | ⟨version, reads⟩
        · exact asks (open_ended p hp)
        · rw [reads] at read
          cases read
      refine ⟨judged, (List.filter_eq_self.mpr fun p hp => ?_).symm⟩
      exact decide_eq_true ((unbounded p hp).suits (judged p hp))
  · refine fun fault => ⟨fails, ?_⟩
    rintro ⟨⟨p, hp, asks⟩, unread, read, rfl⟩
    -- Plans are not kept, and there is one way only to fail.
    cases hkept : (gate t root plans).kept with
    | ok kept =>
      have judged := (gates.eq_ok_iff.mp hkept).1 p hp
      exact absurd ((unbounded p hp).unjudged_iff.mpr ⟨asks, unread, read, rfl⟩) (judged _)
    | error fault =>
      obtain ⟨-, unread', read', rfl⟩ := fails hkept
      rw [read] at read'
      cases read'
      rfl

/-- A plan with a range of blanks, and a project that declares no version. -/
def blankPlan : LoadedPlan :=
  ⟨"fixes/a.toml", { name := "a", versionRange := some " \t", fixes := [] }⟩

def unversionedTree : Tree where
  entries := [(["package.json"], .file { content := "{}".toUTF8 })]

theorem blankPlan_unbounded : ∀ p ∈ [blankPlan], p.plan.Unbounded := by
  intro p hp
  obtain rfl := List.mem_singleton.mp hp
  rintro range ⟨⟩
  have blank : Text.isBlank " \t" = true := by decide +kernel
  exact List.all_eq_true.mp blank

theorem projectVersion_unversionedTree :
    projectVersion unversionedTree "" = .error .noVersion := by
  decide +kernel

theorem gate_unbounded_blankPlan :
    (∀ p ∈ [blankPlan], p.plan.Unbounded) ∧ (∃ p ∈ [blankPlan], p.plan.versionRange ≠ none) ∧
      (gate unversionedTree "" [blankPlan]).kept = .error (.unknownVersion .noVersion) := by
  have asks : ∃ p ∈ [blankPlan], p.plan.versionRange ≠ none := ⟨blankPlan, by simp, nofun⟩
  refine ⟨blankPlan_unbounded, asks, ?_⟩
  exact ((gate_unbounded blankPlan_unbounded).2 _).mpr
    ⟨asks, _, projectVersion_unversionedTree, rfl⟩

/-- A plan that is for every version is not always kept. -/
theorem not_forall_gate_unbounded :
    ¬ ∀ (t : Tree) (root : Path) (plans : List LoadedPlan),
      (∀ p ∈ plans, p.plan.Unbounded) → (gate t root plans).kept = .ok plans := by
  intro all_kept
  have kept := all_kept unversionedTree "" _ blankPlan_unbounded
  rw [gate, gateFrom_unread rfl projectVersion_unversionedTree] at kept
  cases kept

end Emend
