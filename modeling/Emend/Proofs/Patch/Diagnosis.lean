import Emend.Proofs.Patch.Depth
import Emend.Proofs.Patch.Validation

/-!
# Why a fix fails

A fix is made exactly if its target is there and its place can be told, if that may be changed, can be
read, is a file and holds a text, and if the file may be written and the system takes the new text, if
it is to be; otherwise the first of these that fails is reported (`Engine.apply_diagnosed`).
`Engine.Denied` lists the reasons in this order, each with the fault that is reported and the path
that it carries: the joined path for what is not there, and the path of the place to which it leads
for all else.

Whether a path is there is asked before the workspace is, and the root of an engine is that of its
workspace, as it is for each engine that comes about (`Engine.Assembled`). This is why only one thing
can keep a path from being resolved then, its length. To a superuser all is open, and the system takes
each text but for the length of a path (`Engine.apply_diagnosed_misses_depth`).
-/

namespace Emend

/-- Whether nobody may write to a file is told by its permissions. -/
theorem File.isReadOnly_eq_true {f : File} : f.isReadOnly = true ↔ f.mode &&& 0o222 = 0 :=
  beq_iff_eq

/-- A fault of the system is not blamed on a workspace. -/
theorem PatchFault.ofSystem_ne_safety (path : Path) (fault : SystemFault) (safety : SafetyFault) :
    ofSystem path fault ≠ .safety safety := by
  cases fault <;> exact nofun

namespace Engine

variable {e : Engine} {t : Tree} {target : Path} {place : Location} {fault : PatchFault} {fix : Fix}

/-! ### Engines -/

/-- How engines come about. An engine that is confined to a workspace starts from its root. -/
inductive Assembled : Engine → Prop
  | new (root : Path) : Assembled { root }
  | confine {e : Engine} (h : Assembled e) (w : Workspace) : Assembled (e.confine w)
  | inMode {e : Engine} (h : Assembled e) (mode : WriteMode) : Assembled { e with mode }
  | capturing {e : Engine} (h : Assembled e) (captureDiff : Bool) :
      Assembled { e with captureDiff }
  | under {e : Engine} (h : Assembled e) (system : System) : Assembled { e with system }

theorem Assembled.root_eq (h : e.Assembled) {w : Workspace} (guarded : e.workspace = some w) :
    e.root = w.root.path := by
  induction h with
  | new => cases guarded
  | confine =>
    obtain rfl := Option.some.inj guarded
    rfl
  | inMode _ _ ih => exact ih guarded
  | capturing _ _ ih => exact ih guarded
  | under _ _ ih => exact ih guarded

/-- The path below the root is the one that the system is asked about. -/
theorem Assembled.pathOf_eq (h : e.Assembled) (target : Path) :
    e.pathOf target = Path.join e.root target := by
  rw [pathOf]
  cases guarded : e.workspace with
  | none => rfl
  | some w =>
    rw [h.root_eq guarded]
    exact Path.join_join w.root.isAbsolute_path target

/-! ### What is looked for -/

/-- Whether a target leads to a place that may be changed. -/
structure Reaches (e : Engine) (t : Tree) (target : Path) (place : Location) : Prop where
  present : t.exists (Path.join e.root target) = true
  leads : t.canonicalize (Path.join e.root target) = .ok place
  permitted : ∀ w, e.workspace = some w →
    w.root <+: place ∧ ∀ d ∈ w.protectedPlaces, ¬ d <+: place

/-- Whether a target leads to a file that may be read. -/
structure Opens (e : Engine) (t : Tree) (target : Path) (place : Location) (f : File) : Prop
    extends Reaches e t target place where
  readable : e.system.refuses place .read = none
  stands : t.at? place = some (.file f)

/-- Why a fix is not made. Each reason takes that none of those before it is there. -/
inductive Denied (e : Engine) (t : Tree) (fix : Fix) : PatchFault → Prop
  /-- Nothing is there: a name is missing, or something that is no directory is walked through, or
  links lead nowhere or to each other. -/
  | missing (absent : t.exists (Path.join e.root fix.target) = false) :
      Denied e t fix (.fileNotFound (Path.join e.root fix.target))
  /-- Something is there, but its path is too long. -/
  | unresolved (present : t.exists (Path.join e.root fix.target) = true)
      (fails : t.canonicalize (Path.join e.root fix.target) = .error .nameTooLong)
      (free : e.workspace = none) :
      Denied e t fix (.system (Path.join e.root fix.target) .nameTooLong)
  | unresolvedWithin {w : Workspace} (present : t.exists (Path.join e.root fix.target) = true)
      (fails : t.canonicalize (Path.join e.root fix.target) = .error .nameTooLong)
      (guarded : e.workspace = some w) : Denied e t fix (.safety (.unresolved .nameTooLong))
  | barred {w : Workspace} {place : Location} {fault : SafetyFault}
      (present : t.exists (Path.join e.root fix.target) = true)
      (leads : t.canonicalize (Path.join e.root fix.target) = .ok place)
      (guarded : e.workspace = some w) (bars : w.Bars place fault) :
      Denied e t fix (.safety fault)
  | unread {place : Location} {r : Refusal} (reaches : e.Reaches t fix.target place)
      (refused : e.system.refuses place .read = some r) :
      Denied e t fix (.ofSystem place.path r.fault)
  | notFile {place : Location} (reaches : e.Reaches t fix.target place)
      (readable : e.system.refuses place .read = none) (other : ∀ f, t.at? place ≠ some (.file f)) :
      Denied e t fix (.system place.path .isDirectory)
  | notText {place : Location} {f : File} (opens : e.Opens t fix.target place f)
      (garbled : ∀ text : String, f.content ≠ text.toUTF8) :
      Denied e t fix (.encoding place.path)
  | readOnly {place : Location} {f : File} {text : String} (opens : e.Opens t fix.target place f)
      (encodes : f.content = text.toUTF8) (writes : e.mode = .write)
      (locked : f.mode &&& 0o222 = 0) :
      Denied e t fix (.system place.path .readOnly)
  /-- The system does not take the new text. -/
  | unwritten {place : Location} {f : File} {text : String} {fault : SystemFault}
      (opens : e.Opens t fix.target place f) (encodes : f.content = text.toUTF8)
      (writes : e.mode = .write) (unlocked : f.mode &&& 0o222 ≠ 0)
      (refused : (e.system.ending place f.mode (RuleSet.fold fix.rules.rules text)).fault? =
        some fault) :
      Denied e t fix (.ofSystem place.path fault)

/-- What is there leads to a place, or to one whose path is too long. -/
theorem canonicalize_of_exists {p : Path} (present : t.exists p = true) :
    (∃ place, t.canonicalize p = .ok place) ∨ t.canonicalize p = .error .nameTooLong := by
  rw [Tree.exists] at present
  cases found : t.find p with
  | error fault =>
    rw [found] at present
    cases present
  | ok place => exact (Tree.canonicalize_of_find found).imp_left fun leads => ⟨place, leads⟩

theorem Assembled.resolve_eq_ok (h : e.Assembled) :
    e.resolve t target = .ok place ↔ e.Reaches t target place := by
  rw [Engine.resolve_eq_ok, h.pathOf_eq]
  simp only [Workspace.check_eq_ok]
  exact ⟨fun ⟨present, leads, permitted⟩ => ⟨present, leads, permitted⟩,
    fun reaches => ⟨reaches.present, reaches.leads, reaches.permitted⟩⟩

/-- A workspace rejects the paths of targets that it rejects below its root. -/
theorem Assembled.resolve_of_rejects (h : e.Assembled) {w : Workspace} {safety : SafetyFault}
    (present : t.exists (Path.join e.root target) = true) (guarded : e.workspace = some w)
    (rejects : w.Rejects t target safety) : e.resolve t target = .error (.safety safety) := by
  have root := h.root_eq guarded
  rw [resolve, present, guarded, Bool.not_true, if_neg Bool.false_ne_true]
  dsimp only
  rw [root, Workspace.validate_join, Workspace.validate_eq_error.mpr rejects, Except.mapError_error]

/-- What a target leads to, said of the tree and the system alone. -/
theorem Assembled.finds_iff (h : e.Assembled) {f : File} {text : String} :
    e.Finds t target place f text ↔ e.Opens t target place f ∧ f.content = text.toUTF8 := by
  constructor
  · intro finds
    exact ⟨{ h.resolve_eq_ok.mp finds.resolved with
      readable := (readAt_eq_ok.mp finds.reads).1, stands := finds.stands },
      File.text?_eq_some.mp finds.readable⟩
  · rintro ⟨opens, encodes⟩
    exact ⟨h.resolve_eq_ok.mpr opens.toReaches,
      readAt_eq_ok.mpr ⟨opens.readable, opens.stands, File.text?_eq_some.mpr encodes⟩⟩

/-- The system is asked only to write to files that may be written. -/
theorem ending_of_unlocked {f : File} (writes : e.mode = .write) (unlocked : f.mode &&& 0o222 ≠ 0)
    (text : String) : e.ending place f text = e.system.ending place f.mode text := by
  have free : f.isReadOnly = false :=
    Bool.eq_false_iff.mpr fun locked => unlocked (File.isReadOnly_eq_true.mp locked)
  rw [ending, writes]
  dsimp only
  rw [free, if_neg Bool.false_ne_true]

/-! ### What is reported -/

/-- The fault of a fix that goes astray. -/
theorem fault_of_astray (fails : e.resolve t fix.target = .error fault) :
    (e.apply t fix).1.fault? = some fault := by
  rw [course_iff.mp (.astray fails)]
  rfl

/-- The fault of a fix that finds no text in its place. -/
theorem fault_of_unread (resolved : e.resolve t fix.target = .ok place)
    (fails : e.readAt t place = .error fault) : (e.apply t fix).1.fault? = some fault := by
  rw [course_iff.mp (.unread resolved fails)]
  rfl

/-- The fault of a fix whose text is refused. -/
theorem fault_of_unwritten {f : File} {text : String} {system : SystemFault}
    (finds : e.Finds t fix.target place f text)
    (refused : (e.ending place f (RuleSet.fold fix.rules.rules text)).fault? = some system) :
    (e.apply t fix).1.fault? = some (.ofSystem place.path system) := by
  cases ends : e.ending place f (RuleSet.fold fix.rules.rules text) with
  | made =>
    rw [ends] at refused
    cases refused
  | kept fault =>
    rw [ends] at refused
    obtain rfl := Option.some.inj refused
    rw [course_iff.mp (.refused finds ends)]
    rfl
  | spoilt fault content =>
    rw [ends] at refused
    obtain rfl := Option.some.inj refused
    rw [course_iff.mp (.spoilt finds ends)]
    rfl

/-- A reason is reported. -/
theorem Denied.fault_apply (h : e.Denied t fix fault) (he : e.Assembled) :
    (e.apply t fix).1.fault? = some fault := by
  -- The path of the target is put below the root of the workspace once, or twice over.
  have below {w : Workspace} (guarded : e.workspace = some w) :
      Path.join w.root.path fix.target = Path.join e.root fix.target := by
    rw [he.root_eq guarded]
  cases h with
  | missing absent =>
    refine fault_of_astray ?_
    rw [resolve, absent]
    rfl
  | unresolved present fails free =>
    refine fault_of_astray ?_
    rw [resolve, present, free, Bool.not_true, if_neg Bool.false_ne_true]
    dsimp only
    rw [fails]
    rfl
  | unresolvedWithin present fails guarded =>
    exact fault_of_astray (he.resolve_of_rejects present guarded (.unresolved (by
      rw [below guarded, fails])))
  | barred present leads guarded bars =>
    exact fault_of_astray (he.resolve_of_rejects present guarded (.barred (by
      rw [below guarded, leads]) bars))
  | unread reaches refused =>
    refine fault_of_unread (he.resolve_eq_ok.mpr reaches) ?_
    rw [readAt, refused]
  | notFile reaches readable other =>
    refine fault_of_unread (he.resolve_eq_ok.mpr reaches) ?_
    have none_there : t.fileAt? _ = none :=
      Option.eq_none_iff_forall_ne_some.mpr fun f hf => other f (Tree.fileAt?_eq_some.mp hf)
    rw [readAt, readable, none_there]
  | @notText place f opens garbled =>
    refine fault_of_unread (he.resolve_eq_ok.mpr opens.toReaches) ?_
    have no_text : f.text? = none :=
      Option.eq_none_iff_forall_ne_some.mpr fun text h => garbled text (File.text?_eq_some.mp h)
    rw [readAt, opens.readable, Tree.fileAt?_eq_some.mpr opens.stands]
    dsimp only
    rw [no_text]
  | readOnly opens encodes writes locked =>
    refine fault_of_unwritten (he.finds_iff.mpr ⟨opens, encodes⟩) (?_ : _ = some .readOnly)
    rw [ending, writes]
    dsimp only
    rw [File.isReadOnly_eq_true.mpr locked, if_pos rfl, Ending.fault?]
  | unwritten opens encodes writes unlocked refused =>
    refine fault_of_unwritten (he.finds_iff.mpr ⟨opens, encodes⟩) ?_
    rw [ending_of_unlocked writes unlocked, refused]

/-- A fix is ready, or there is a reason why it is not made. -/
theorem Assembled.ready_or_denied (he : e.Assembled) (t : Tree) (fix : Fix) :
    (∃ place f text, e.Ready t fix place f text) ∨ ∃ fault, e.Denied t fix fault := by
  -- The reasons are gone through in their order.
  cases present : t.exists (Path.join e.root fix.target) with
  | false => exact .inr ⟨_, .missing present⟩
  | true =>
    rcases canonicalize_of_exists present with ⟨place, leads⟩ | fails
    swap
    · cases guarded : e.workspace with
      | none => exact .inr ⟨_, .unresolved present fails guarded⟩
      | some w => exact .inr ⟨_, .unresolvedWithin present fails guarded⟩
    by_cases barred : ∃ w safety, e.workspace = some w ∧ w.Bars place safety
    · obtain ⟨w, safety, guarded, bars⟩ := barred
      exact .inr ⟨_, .barred present leads guarded bars⟩
    have reaches : e.Reaches t fix.target place := by
      refine ⟨present, leads, fun w guarded => Workspace.check_eq_ok.mp ?_⟩
      cases checked : w.check place with
      | ok => rfl
      | error safety =>
        exact absurd ⟨w, safety, guarded, Workspace.check_eq_error.mp checked⟩ barred
    cases readable : e.system.refuses place .read with
    | some r => exact .inr ⟨_, .unread reaches readable⟩
    | none =>
    by_cases file : ∃ f, t.at? place = some (.file f)
    swap
    · exact .inr ⟨_, .notFile reaches readable fun f hf => file ⟨f, hf⟩⟩
    obtain ⟨f, stands⟩ := file
    have opens : e.Opens t fix.target place f := { reaches with readable, stands }
    cases decoded : f.text? with
    | none =>
      refine .inr ⟨_, .notText opens fun text encodes => ?_⟩
      rw [File.text?_eq_some.mpr encodes] at decoded
      cases decoded
    | some text =>
      have encodes := File.text?_eq_some.mp decoded
      have finds := he.finds_iff.mpr ⟨opens, encodes⟩
      cases writes : e.mode with
      | dryRun => exact .inl ⟨place, f, text, finds, by rw [ending, writes]⟩
      | write =>
        by_cases locked : f.mode &&& 0o222 = 0
        · exact .inr ⟨_, .readOnly opens encodes writes locked⟩
        · have asked (text : String) : e.ending place f text = e.system.ending place f.mode text :=
            ending_of_unlocked writes locked text
          cases ends : e.system.ending place f.mode (RuleSet.fold fix.rules.rules text) with
          | made => exact .inl ⟨place, f, text, finds, (asked _).trans ends⟩
          | kept fault | spoilt fault =>
            exact .inr ⟨_, .unwritten opens encodes writes locked (by rw [ends, Ending.fault?])⟩

/-- What is reported is the reason. -/
theorem Assembled.fault_apply_iff (he : e.Assembled) :
    (e.apply t fix).1.fault? = some fault ↔ e.Denied t fix fault := by
  constructor
  · intro h
    rcases he.ready_or_denied t fix with ⟨place, f, text, ready⟩ | ⟨fault', denied⟩
    · rw [apply_of_ready ready] at h
      cases h
    · obtain rfl := Option.some.inj (h.symm.trans (denied.fault_apply he))
      exact denied
  · exact fun denied => denied.fault_apply he

/-- What a fix needs, said of the tree and the system alone. -/
theorem Assembled.ready_iff (he : e.Assembled) {f : File} {text : String} :
    e.Ready t fix place f text ↔ e.Opens t fix.target place f ∧ f.content = text.toUTF8 ∧
      (e.mode = .dryRun ∨ f.mode &&& 0o222 ≠ 0 ∧
        e.system.ending place f.mode (RuleSet.fold fix.rules.rules text) = .made) := by
  have written : e.ending place f (RuleSet.fold fix.rules.rules text) = .made ↔
      (e.mode = .dryRun ∨ f.mode &&& 0o222 ≠ 0 ∧
        e.system.ending place f.mode (RuleSet.fold fix.rules.rules text) = .made) := by
    cases mode : e.mode with
    | dryRun => simp [ending, mode]
    | write =>
      by_cases locked : f.mode &&& 0o222 = 0
      · simp [ending, mode, File.isReadOnly_eq_true.mpr locked, locked]
      · simp [ending_of_unlocked mode locked, locked]
  constructor
  · intro h
    obtain ⟨opens, encodes⟩ := he.finds_iff.mp h.toFinds
    exact ⟨opens, encodes, written.mp h.writes⟩
  · rintro ⟨opens, encodes, writes⟩
    exact ⟨he.finds_iff.mpr ⟨opens, encodes⟩, written.mpr writes⟩

/-- To a superuser all is open, and no text is refused but for the length of a path. -/
theorem Assembled.ready_superuser_iff (he : e.Assembled) (system : e.system = .superuser) {f : File}
    {text : String} :
    e.Ready t fix place f text ↔ e.Reaches t fix.target place ∧ t.at? place = some (.file f) ∧
      f.content = text.toUTF8 ∧ (e.mode = .dryRun ∨
        f.mode &&& 0o222 ≠ 0 ∧ Path.fits (System.temporaryPath place) = true) := by
  have takes (text : String) : e.system.ending place f.mode text = .made ↔
      Path.fits (System.temporaryPath place) = true := by
    rw [system, System.ending_superuser]
    split <;> simp [*]
  rw [he.ready_iff, takes]
  constructor
  · rintro ⟨opens, encodes, writes⟩
    exact ⟨opens.toReaches, opens.stands, encodes, writes⟩
  · rintro ⟨reaches, stands, encodes, writes⟩
    exact ⟨{ reaches with readable := by rw [system]; rfl, stands }, encodes, writes⟩

/-- What stands at the place of a target is a file or a directory. -/
theorem Reaches.stands (h : e.Reaches t target place) (here : t.Canonical t.here) :
    t.Stands place :=
  (Tree.canonical_of_canonicalize (here.startOf _) h.leads).stands

/-- A project in which a fix can fail for each reason, and more than one at a time. -/
def faultyTree : Tree where
  entries := [
    (["b"], .file { content := "b".toUTF8 }),
    (["w"], .directory),
    (["w", "a"], .file { content := "a".toUTF8 }),
    (["w", "dangling"], .link "gone"),
    (["w", "loop"], .link "./loop"),
    (["w", "out"], .link "../b"),
    (["w", "target"], .directory),
    (["w", "target", "c"], .file { content := ⟨#[0xff]⟩, mode := 0o444 }),
    (["w", "d"], .directory),
    (["w", "raw"], .file { content := ⟨#[0xff]⟩, mode := 0o444 }),
    (["w", "locked"], .file { content := "a".toUTF8, mode := 0o555 })]

/-- An engine that is confined to the project. -/
def faultyEngine : Engine := ({ root := "/w" } : Engine).confine ⟨["w"], [["w", "target"]]⟩

/-- Targets in the project and what is reported of them. -/
def diagnoses : List (Path × PatchFault) := [
  ("dangling", .fileNotFound "/w/dangling"),
  ("loop", .fileNotFound "/w/loop"),
  ("a/x", .fileNotFound "/w/a/x"),
  ("../gone", .fileNotFound "/w/../gone"),
  ("out", .safety (.outside ["b"] ["w"])),
  ("target/c", .safety (.forbidden ["w", "target", "c"] ["w", "target"])),
  ("d", .system "/w/d" .isDirectory),
  ("d/../raw", .encoding "/w/raw"),
  ("/w/locked", .system "/w/locked" .readOnly)]

/-- The same engine for a user to whom the project does not belong. -/
def guestEngine : Engine := { faultyEngine with system := .guest }

/-- An engine that is confined to the whole tree. -/
def topEngine : Engine := freeEngine.confine ⟨[], []⟩

end Engine

end Emend
