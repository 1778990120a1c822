import Mathlib.Data.Prod.Lex
import Emend.Proofs.Version.Reading

/-!
# Ranges of bounds

A bound is a release with a sign in front (`Bound`). Releases are compared by their numbers, from
the most to the least important one. Bounds are written between commas with any number of spaces
around them and after the signs (`Writes`), and are read as comparators with all three numbers
(`Writes.parse`).

A written range is met by the releases that each of its bounds admits, whatever build metadata they
have and whatever blanks stand around the texts, and by no pre-release (`meetsRequirement_bounds`).
-/

namespace Emend

/-! ### Bounds -/

namespace Release

/-- The numbers of a release, in lexicographic order. -/
def key (r : Release) : Nat ×ₗ Nat ×ₗ Nat :=
  toLex (r.major.toNat, toLex (r.minor.toNat, r.patch.toNat))

instance : LT Release := ⟨fun a b => a.key < b.key⟩

instance : LE Release := ⟨fun a b => a.key ≤ b.key⟩

instance (a b : Release) : Decidable (a < b) := inferInstanceAs (Decidable (a.key < b.key))

instance (a b : Release) : Decidable (a ≤ b) := inferInstanceAs (Decidable (a.key ≤ b.key))

theorem lt_iff {a b : Release} :
    a < b ↔ a.major.toNat < b.major.toNat ∨ a.major.toNat = b.major.toNat ∧
      (a.minor.toNat < b.minor.toNat ∨ a.minor.toNat = b.minor.toNat ∧
        a.patch.toNat < b.patch.toNat) := by
  show a.key < b.key ↔ _
  simp only [key, Prod.Lex.toLex_lt_toLex]

theorem eq_iff {a b : Release} :
    a = b ↔ a.major.toNat = b.major.toNat ∧ a.minor.toNat = b.minor.toNat ∧
      a.patch.toNat = b.patch.toNat := by
  obtain ⟨major, minor, patch⟩ := a
  obtain ⟨major', minor', patch'⟩ := b
  simp only [mk.injEq, UInt64.toNat_inj]

theorem le_iff {a b : Release} : a ≤ b ↔ a = b ∨ a < b := by
  have key_eq : a.key = b.key ↔ a = b := by
    rw [eq_iff, key, key, toLex_inj, Prod.mk.injEq, toLex_inj, Prod.mk.injEq]
  show a.key ≤ b.key ↔ a = b ∨ a.key < b.key
  rw [← key_eq, le_iff_eq_or_lt]

end Release

/-- How a bound compares. -/
inductive BoundOp where
  | equal
  | above
  | atLeast
  | below
  | atMost
  deriving DecidableEq, Repr

namespace BoundOp

/-- The sign of a bound. -/
def sign : BoundOp → List Char
  | equal => ['=']
  | above => ['>']
  | atLeast => ['>', '=']
  | below => ['<']
  | atMost => ['<', '=']

/-- Whether a release compares so with the one of a bound. -/
def Relates : BoundOp → Release → Release → Prop
  | equal, r, bound => r = bound
  | above, r, bound => bound < r
  | atLeast, r, bound => bound ≤ r
  | below, r, bound => r < bound
  | atMost, r, bound => r ≤ bound

instance : (op : BoundOp) → (r bound : Release) → Decidable (op.Relates r bound)
  | equal, r, bound => inferInstanceAs (Decidable (r = bound))
  | above, r, bound => inferInstanceAs (Decidable (bound < r))
  | atLeast, r, bound => inferInstanceAs (Decidable (bound ≤ r))
  | below, r, bound => inferInstanceAs (Decidable (r < bound))
  | atMost, r, bound => inferInstanceAs (Decidable (r ≤ bound))

/-- The operator of comparators that a sign stands for. -/
def comparatorOp : BoundOp → ComparatorOp
  | equal => .exact
  | above => .greater
  | atLeast => .greaterEq
  | below => .less
  | atMost => .lessEq

end BoundOp

/-- A bound of releases. -/
structure Bound where
  op : BoundOp
  release : Release
  deriving DecidableEq, Repr

namespace Bound

/-- Whether a bound admits a release. -/
def Admits (b : Bound) (r : Release) : Prop := b.op.Relates r b.release

instance (b : Bound) (r : Release) : Decidable (b.Admits r) :=
  inferInstanceAs (Decidable (b.op.Relates r b.release))

/-- The comparator that a bound is read as. -/
def comparator (b : Bound) : Comparator where
  op := b.op.comparatorOp
  major := b.release.major.toNat
  minor := some b.release.minor.toNat
  patch := some b.release.patch.toNat

end Bound

/-! ### What bounds admit -/

namespace WrittenVersion

variable {v : WrittenVersion}

/-- A version has a tag if one is written. -/
theorem prerelease_eq_nil : v.value.prerelease = [] ↔ v.tag = none := by
  rw [value]
  cases v.tag with
  | none => exact ⟨fun _ => rfl, fun _ => rfl⟩
  | some tag => exact ⟨nofun, nofun⟩

end WrittenVersion

namespace Comparator

/-- A number that is greater decides, and one that is the same leaves it to the rest. -/
theorem ite_gt_iff {m n : Nat} {rest : Bool} :
    (if m ≠ n then compare m n == .gt else rest) = true ↔ n < m ∨ n = m ∧ rest = true := by
  by_cases same : m = n
  · rw [if_neg (not_not_intro same)]
    simp only [same, Nat.lt_irrefl, false_or, true_and]
  · rw [if_pos same, beq_iff_eq, Nat.compare_eq_gt]
    simp only [Ne.symm same, false_and, or_false]

theorem ite_lt_iff {m n : Nat} {rest : Bool} :
    (if m ≠ n then compare m n == .lt else rest) = true ↔ m < n ∨ m = n ∧ rest = true := by
  by_cases same : m = n
  · rw [if_neg (not_not_intro same)]
    simp only [same, Nat.lt_irrefl, false_or, true_and]
  · rw [if_pos same, beq_iff_eq, Nat.compare_eq_lt]
    simp only [same, false_and, or_false]

end Comparator

namespace Bound

variable {b : Bound} {v : WrittenVersion}

/-- Equal numbers and no tag are all that is given. -/
theorem agrees_comparator (h : v.tag = none) :
    b.comparator.agrees v.value = true ↔ v.release = b.release := by
  have no_tag := WrittenVersion.prerelease_eq_nil.mpr h
  rw [Comparator.agrees, no_tag]
  simp only [comparator, WrittenVersion.value, Option.all_some, Bool.and_eq_true, beq_iff_eq,
    Release.eq_iff, and_assoc, and_true]

theorem liesOn_gt_comparator (h : v.tag = none) :
    b.comparator.liesOn .gt v.value = true ↔ b.release < v.release := by
  have no_tag := WrittenVersion.prerelease_eq_nil.mpr h
  have same : ¬ (Prerelease.compare [] [] == Ordering.gt) = true := by decide
  rw [Comparator.liesOn, no_tag, Release.lt_iff]
  simp only [comparator, WrittenVersion.value, Comparator.ite_gt_iff, same,
    Bool.false_eq_true, and_false, or_false]

theorem liesOn_lt_comparator (h : v.tag = none) :
    b.comparator.liesOn .lt v.value = true ↔ v.release < b.release := by
  have no_tag := WrittenVersion.prerelease_eq_nil.mpr h
  have same : ¬ (Prerelease.compare [] [] == Ordering.lt) = true := by decide
  rw [Comparator.liesOn, no_tag, Release.lt_iff]
  simp only [comparator, WrittenVersion.value, Comparator.ite_lt_iff, same,
    Bool.false_eq_true, and_false, or_false]

/-- A comparator holds of the releases that its bound admits. -/
theorem holds_comparator (h : v.tag = none) :
    b.comparator.holds v.value = true ↔ b.Admits v.release := by
  have equal := agrees_comparator (b := b) h
  have above := liesOn_gt_comparator (b := b) h
  have below := liesOn_lt_comparator (b := b) h
  obtain ⟨op, bound⟩ := b
  cases op with
  | equal => exact equal
  | above => exact above
  | atLeast =>
    show (Comparator.agrees _ _ || Comparator.liesOn .gt _ _) = true ↔ bound ≤ v.release
    rw [Bool.or_eq_true, equal, above, Release.le_iff]
    exact or_congr eq_comm Iff.rfl
  | below => exact below
  | atMost =>
    show (Comparator.agrees _ _ || Comparator.liesOn .lt _ _) = true ↔ v.release ≤ bound
    rw [Bool.or_eq_true, equal, below, Release.le_iff]

/-- No pre-release is named by a bound. -/
theorem admitsPrerelease_comparator (v : Version) : b.comparator.admitsPrerelease v = false := by
  rw [Comparator.admitsPrerelease, comparator]
  exact Bool.and_false _

end Bound

/-- A requirement of bounds is met by the releases that all of them admit, and by no
pre-release. -/
theorem admits_bounds (v : WrittenVersion) (bounds : List Bound) :
    Requirement.admits ⟨bounds.map Bound.comparator⟩ v.value =
      decide (v.tag = none ∧ ∀ b ∈ bounds, b.Admits v.release) := by
  have unnamed : (bounds.map Bound.comparator).any (·.admitsPrerelease v.value) = false := by
    simp only [List.any_map, List.any_eq_false, Function.comp_apply,
      Bound.admitsPrerelease_comparator, Bool.false_eq_true, not_false_eq_true, implies_true]
  rw [Bool.eq_iff_iff, Requirement.admits, unnamed, Bool.or_false, Bool.and_eq_true,
    List.isEmpty_iff, WrittenVersion.prerelease_eq_nil, decide_eq_true_eq, and_comm]
  apply and_congr_right
  intro no_tag
  rw [List.all_map, List.all_eq_true]
  exact forall₂_congr fun b _ => Bound.holds_comparator no_tag

/-! ### How bounds are written -/

/-- A number of spaces. -/
def spaces (n : Nat) : List Char := List.replicate n ' '

/-- A bound in text, with spaces after its sign. -/
def Bound.text (b : Bound) (n : Nat) : List Char := b.op.sign ++ spaces n ++ b.release.text

/-- The texts of some bounds: between commas, with any number of spaces around each comma. -/
inductive Writes : List Bound → List Char → Prop
  | one (b : Bound) (n : Nat) : Writes [b] (b.text n)
  | more (b : Bound) (n before after : Nat) {bounds : List Bound} {text : List Char}
      (rest : Writes bounds text) :
      Writes (b :: bounds) (b.text n ++ spaces before ++ ',' :: (spaces after ++ text))

namespace Requirement

/-- Spaces are left out up to the first character that is none. -/
theorem skipSpaces_spaces (n : Nat) {text : List Char} (h : ∀ c more, text = c :: more → c ≠ ' ') :
    skipSpaces (spaces n ++ text) = text := by
  have spaces_skipped : ∀ c ∈ spaces n, (c == ' ') = true := by
    intro c hc
    rw [List.eq_of_mem_replicate hc]
    rfl
  rw [skipSpaces, List.dropWhile_append_of_pos spaces_skipped]
  cases text with
  | nil => rfl
  | cons c more => exact List.dropWhile_cons_of_neg (by simp [h c more rfl])

/-- What can follow a bound. -/
def EndsBound (rest : List Char) : Prop := ∀ c more, rest = c :: more → c = ' ' ∨ c = ','

theorem endsBound_spaces (n : Nat) {rest : List Char} (h : EndsBound rest) :
    EndsBound (spaces n ++ rest) := by
  cases n with
  | zero => exact h
  | succ n =>
    rintro c more ⟨⟩
    exact .inl rfl

theorem EndsBound.noDigit {rest : List Char} (h : EndsBound rest) : NoDigit rest := by
  intro c more first
  obtain rfl | rfl := h c more first
  · decide
  · decide

theorem EndsBound.readPrerelease {rest : List Char} (h : EndsBound rest) :
    Version.readPrerelease rest = .ok (none, rest) := by
  rw [Version.readPrerelease]
  · rfl
  · intro text hyphen
    exact absurd (h _ _ hyphen) (by decide)

theorem EndsBound.readBuild {rest : List Char} (h : EndsBound rest) :
    Version.readBuild rest = .ok (none, rest) := by
  rw [Version.readBuild]
  · rfl
  · intro text plus
    exact absurd (h _ _ plus) (by decide)

/-- A sign is read up to what is no further sign. -/
theorem readOp_sign (op : BoundOp) {rest : List Char} (h : ∀ more, rest ≠ '=' :: more) :
    readOp (op.sign ++ rest) = (some op.comparatorOp, rest) := by
  cases op with
  | equal => rfl
  | atLeast => rfl
  | atMost => rfl
  | above =>
    show readOp ('>' :: rest) = _
    rw [readOp]
    · rfl
    · intro more longer
      exact h more longer
  | below =>
    show readOp ('<' :: rest) = _
    rw [readOp]
    · rfl
    · intro more longer
      exact h more longer

theorem readWildcard?_cons {c : Char} (h : c ∉ ['*', 'x', 'X']) (more : List Char) :
    readWildcard? (c :: more) = none := by
  rw [readWildcard?, if_neg]
  simpa only [List.mem_cons, List.not_mem_nil, or_false, Bool.or_eq_true, beq_iff_eq, or_assoc]
    using h

/-- A number after a dot is read. -/
theorem readPart_decimal (field : VersionField) (n : UInt64) {rest : List Char} (h : NoDigit rest) :
    readPart field false ('.' :: (decimal n ++ rest)) = .ok (.number n.toNat, rest) := by
  have no_wildcard : readWildcard? (decimal n ++ rest) = none := by
    obtain ⟨c, more, first, digit⟩ := exists_decimal_eq_cons n
    have no_digit : ['*', 'x', 'X'].all (!·.isDigit) = true := by decide
    have wildcard : c ∉ ['*', 'x', 'X'] := by
      intro wildcard
      have := List.all_eq_true.mp no_digit c wildcard
      rw [digit] at this
      cases this
    rw [first, List.cons_append]
    exact readWildcard?_cons wildcard _
  rw [readPart, no_wildcard]
  simp only [Version.readNumber_decimal field n h, Bool.false_eq_true, if_false, Except.ok_bind]
  rfl

/-- A bound is read with the spaces after it. -/
theorem readComparator_text (b : Bound) (n after : Nat) {rest : List Char}
    (h : ∀ c more, rest = c :: more → c = ',') :
    readComparator (b.text n ++ spaces after ++ rest) = .ok ((b.comparator, .patch), rest) := by
  have after_bound : EndsBound (spaces after ++ rest) :=
    endsBound_spaces after fun c more first => .inr (h c more first)
  have after_spaces : skipSpaces (spaces after ++ rest) = rest := by
    apply skipSpaces_spaces
    intro c more first
    rw [h c more first]
    decide
  have number : ∀ more, skipSpaces (spaces n ++ (decimal b.release.major ++ more)) =
      decimal b.release.major ++ more := by
    intro more
    apply skipSpaces_spaces
    obtain ⟨c, digits, first, digit⟩ := exists_decimal_eq_cons b.release.major
    rw [first]
    rintro d rest ⟨⟩ rfl
    exact absurd digit (by decide)
  have sign_ends : ∀ rest more, spaces n ++ (decimal b.release.major ++ rest) ≠ '=' :: more := by
    intro rest more longer
    cases n with
    | succ n => exact absurd (List.cons.inj longer).1 (by decide)
    | zero =>
      obtain ⟨c, digits, first, digit⟩ := exists_decimal_eq_cons b.release.major
      rw [first] at longer
      obtain rfl : c = '=' := (List.cons.inj longer).1
      exact absurd digit (by decide)
  have ends_dot : ∀ rest, NoDigit ('.' :: rest) := noDigit_cons (by decide)
  have parted : b.text n ++ spaces after ++ rest = b.op.sign ++ (spaces n ++
      (decimal b.release.major ++ '.' :: (decimal b.release.minor ++
        '.' :: (decimal b.release.patch ++ (spaces after ++ rest))))) := by
    simp only [Bound.text, Release.text, List.append_assoc, List.cons_append]
  have given : ∀ n, (Part.number n == .wildcard) = false := fun _ => rfl
  rw [readComparator, parted, readOp_sign b.op (sign_ends _)]
  simp only [number, Version.readNumber_decimal _ _ (ends_dot _), readPart_decimal _ _ (ends_dot _),
    readPart_decimal _ _ after_bound.noDigit, after_bound.readPrerelease, after_bound.readBuild,
    after_spaces, given, Part.number?, Option.isSome_some, if_true, Except.ok_bind]
  rfl

end Requirement

theorem Bound.exists_text_eq_cons (b : Bound) (n : Nat) :
    ∃ c more, b.text n = c :: more ∧ c ∈ ['=', '>', '<'] := by
  obtain ⟨op, release⟩ := b
  cases op <;> exact ⟨_, _, rfl, by decide⟩

/-- No blank begins a bound or ends it. -/
theorem Bound.bare_text (b : Bound) (n : Nat) : Text.Bare (b.text n) := by
  have sign : Text.Bare b.op.sign := by
    apply Text.Bare.of_visible
    · cases b.op <;> exact List.cons_ne_nil _ _
    · cases b.op <;> simp [BoundOp.sign, Text.Visible]
  have release : Text.Bare b.release.text :=
    Text.Bare.of_visible b.release.text_ne_nil b.release.visible_of_mem_text
  exact sign.append (spaces n) release

namespace Writes

variable {bounds : List Bound} {text : List Char}

/-- The first sign begins the text. -/
theorem exists_eq_cons (h : Writes bounds text) :
    ∃ c more, text = c :: more ∧ c ∈ ['=', '>', '<'] := by
  cases h with
  | one b n => exact b.exists_text_eq_cons n
  | more b n before after rest =>
    obtain ⟨c, more, first, sign⟩ := b.exists_text_eq_cons n
    rw [first]
    exact ⟨c, _, rfl, sign⟩

theorem bare (h : Writes bounds text) : Text.Bare text := by
  induction h with
  | one b n => exact b.bare_text n
  | @more b n before after bounds text rest ih =>
    have between := (b.bare_text n).append (spaces before ++ ',' :: spaces after) ih
    simpa only [List.append_assoc, List.cons_append] using between

/-- A text of bounds does not go on with spaces before it. -/
theorem ne_space (h : Writes bounds text) : ∀ c more, text = c :: more → c ≠ ' ' := by
  obtain ⟨c, more, rfl, sign⟩ := h.exists_eq_cons
  rintro d rest ⟨⟩ rfl
  exact absurd sign (by decide)

/-- Bounds are read one by one, if there is room for them. -/
theorem readComparators (h : Writes bounds text) {room : Nat} (few : bounds.length ≤ room) :
    Requirement.readComparators room text = .ok (bounds.map Bound.comparator) := by
  induction h generalizing room with
  | one b n =>
    obtain ⟨room, rfl⟩ : ∃ less, room = less + 1 := Nat.exists_eq_add_one.mpr few
    have ended : ∀ c more, ([] : List Char) = c :: more → c = ',' := nofun
    have last : b.text n = b.text n ++ spaces 0 ++ [] := by
      rw [List.append_nil]
      exact (List.append_nil _).symm
    rw [last, Requirement.readComparators, Requirement.readComparator_text b n 0 ended,
      Except.mapError_ok, Except.ok_bind]
    rfl
  | @more b n before after bounds text rest ih =>
    obtain ⟨room, rfl⟩ : ∃ less, room = less + 1 :=
      Nat.exists_eq_add_one.mpr (Nat.lt_of_lt_of_le (Nat.succ_pos _) few)
    have comma : ∀ c more, ',' :: (spaces after ++ text) = c :: more → c = ',' := by
      rintro c more ⟨⟩
      rfl
    have after_spaces : Requirement.skipSpaces (spaces after ++ text) = text :=
      Requirement.skipSpaces_spaces after rest.ne_space
    rw [Requirement.readComparators, Requirement.readComparator_text b n before comma,
      Except.mapError_ok, Except.ok_bind]
    simp only [after_spaces, ih (Nat.le_of_succ_le_succ few), Except.ok_bind]
    rfl

/-- Bounds are read as comparators, as many as a requirement may have. -/
theorem parse (h : Writes bounds text) (few : bounds.length ≤ 32) :
    Requirement.parse (.ofList text) = .ok ⟨bounds.map Bound.comparator⟩ := by
  obtain ⟨c, more, first, sign⟩ := h.exists_eq_cons
  have read : Requirement.readComparators Requirement.maxComparators text =
      .ok (bounds.map Bound.comparator) := h.readComparators few
  have unspaced : Requirement.skipSpaces text = text :=
    Requirement.skipSpaces_spaces 0 h.ne_space
  have no_wildcard : Requirement.readWildcard? text = none := by
    have apart : List.Disjoint ['*', 'x', 'X'] ['=', '>', '<'] := by simp
    rw [first]
    exact Requirement.readWildcard?_cons (fun wildcard => apart wildcard sign) more
  rw [Requirement.parse, String.toList_ofList]
  simp only [unspaced, no_wildcard, read]
  rfl

end Writes

/-! ### What a written range is met by -/

/-- **A range is the conjunction of its bounds.** Up to 32 bounds are met by the versions without a tag
whose numbers all of them admit, whatever stands in the build metadata and whatever blanks stand
around both texts. -/
theorem meetsRequirement_bounds {v : WrittenVersion} {bounds : List Bound} {text : List Char}
    {version range : String} (writes : Writes bounds text) (few : bounds.length ≤ 32)
    (version_written : Text.Padded v.text version) (range_written : Text.Padded text range) :
    meetsRequirement version (some range) =
      .ok (decide (v.tag = none ∧ ∀ b ∈ bounds, b.Admits v.release)) := by
  have wanted : Text.trim range = .ofList text := Text.trim_padded range_written writes.bare
  have found : Text.trim version = .ofList v.text := Text.trim_padded version_written v.bare_text
  rw [meetsRequirement, Option.getD_some, wanted, writes.bare.isEmpty_ofList,
    if_neg Bool.false_ne_true, found, v.parse_text, writes.parse few]
  simp only [Except.mapError_ok, Except.ok_bind]
  rw [admits_bounds]
  rfl

/-- From 1.2.0 up to but not including 2.0.0. -/
def halfOpen : List Bound := [⟨.atLeast, ⟨1, 2, 0⟩⟩, ⟨.below, ⟨2, 0, 0⟩⟩]

/-- The release 1.9.9 with build metadata. -/
def builtVersion : WrittenVersion :=
  ⟨⟨1, 9, 9⟩, none, some ⟨"build".toList, ["07".toList], by decide⟩⟩

/-- A release candidate of 1.9.9. -/
def candidateVersion : WrittenVersion :=
  ⟨⟨1, 9, 9⟩, some ⟨⟨"rc".toList, ["1".toList], by decide⟩, by decide⟩, none⟩

theorem meetsRequirement_halfOpen :
    Writes halfOpen ">= 1.2.0  ,<2.0.0".toList ∧
      Text.Padded ">= 1.2.0  ,<2.0.0".toList "\u2003>= 1.2.0  ,<2.0.0\n" ∧
      meetsRequirement "\t1.9.9+build.07" (some "\u2003>= 1.2.0  ,<2.0.0\n") = .ok true ∧
      meetsRequirement "2.0.0" (some "\u2003>= 1.2.0  ,<2.0.0\n") = .ok false ∧
      meetsRequirement "1.9.9-rc.1" (some "\u2003>= 1.2.0  ,<2.0.0\n") = .ok false := by
  have writes : Writes halfOpen ">= 1.2.0  ,<2.0.0".toList := .more _ 1 2 0 (.one _ 0)
  have few : halfOpen.length ≤ 32 := by decide
  have range : Text.Padded ">= 1.2.0  ,<2.0.0".toList "\u2003>= 1.2.0  ,<2.0.0\n" :=
    ⟨['\u2003'], ['\n'], by decide, by decide, by decide⟩
  have built : Text.Padded builtVersion.text "\t1.9.9+build.07" :=
    ⟨['\t'], [], by decide, by decide, by decide⟩
  have end_of_range : Text.Padded (WrittenVersion.text ⟨⟨2, 0, 0⟩, none, none⟩) "2.0.0" :=
    ⟨[], [], by decide, by decide, by decide⟩
  have candidate : Text.Padded candidateVersion.text "1.9.9-rc.1" :=
    ⟨[], [], by decide, by decide, by decide⟩
  exact ⟨writes, range, meetsRequirement_bounds writes few built range,
    meetsRequirement_bounds writes few end_of_range range,
    meetsRequirement_bounds writes few candidate range⟩

end Emend
