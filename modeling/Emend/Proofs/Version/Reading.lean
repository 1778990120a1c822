import Mathlib.Data.List.DropRight
import Emend.Proofs.Except
import Emend.Proofs.Rule.Escape
import Emend.Proofs.Text.Trim
import Emend.Version.Reader

/-!
# Versions as they are written

A version is written as three numbers of 64 bits in decimal, with a pre-release tag and build
metadata if there are any (`WrittenVersion`). It is read as what is written
(`WrittenVersion.parse_text`).

What ends a number or an identifier is the character after it, so each part is read whatever
follows, as long as that does not go on with the part (`NoDigit`, `EndsIdentifiers`).
-/

namespace Emend

/-! ### Numbers -/

/-- Whether a text does not go on with a number before it. -/
def NoDigit (rest : List Char) : Prop := ∀ c more, rest = c :: more → c.isDigit = false

theorem noDigit_nil : NoDigit [] := nofun

theorem noDigit_cons {c : Char} (h : c.isDigit = false) (rest : List Char) : NoDigit (c :: rest) := by
  rintro d more ⟨⟩
  exact h

theorem digitChar_eq_zero : ∀ n < 10, Nat.digitChar n = '0' → n = 0 := by decide

/-- Only zero is written with a zero in front. -/
theorem eq_zero_of_toDigits {n : Nat} {more : List Char} (h : Nat.toDigits 10 n = '0' :: more) :
    n = 0 := by
  induction n using Nat.strongRecOn generalizing more with
  | ind n ih =>
    by_cases small : n < 10
    · rw [Nat.toDigits_of_lt_base small] at h
      exact digitChar_eq_zero n small (List.cons.inj h).1
    · rw [Nat.toDigits_of_base_le (by decide) (by omega)] at h
      -- The digits of a tenth are in front of the last one.
      cases tenth : Nat.toDigits 10 (n / 10) with
      | nil => exact absurd tenth Nat.toDigits_ne_nil
      | cons c rest =>
        rw [tenth] at h
        obtain rfl : c = '0' := (List.cons.inj h).1
        have := ih (n / 10) (by omega) tenth
        omega

/-- A number of 64 bits in decimal. -/
def decimal (n : UInt64) : List Char := Nat.toDigits 10 n.toNat

theorem isDigit_of_mem_decimal {n : UInt64} {c : Char} (h : c ∈ decimal n) : c.isDigit = true :=
  Nat.isDigit_of_mem_toDigits (by decide) (by decide) h

/-- A number begins with a digit. -/
theorem exists_decimal_eq_cons (n : UInt64) :
    ∃ c more, decimal n = c :: more ∧ c.isDigit = true := by
  have some_written : decimal n ≠ [] := Nat.toDigits_ne_nil
  obtain ⟨c, more, h⟩ := List.exists_cons_of_ne_nil some_written
  have first : c ∈ decimal n := by
    rw [h]
    exact List.mem_cons_self
  exact ⟨c, more, h, isDigit_of_mem_decimal first⟩

namespace Version

/-- A number is read up to the first character that is no digit. -/
theorem readNumber_decimal (field : VersionField) (n : UInt64) {rest : List Char}
    (h : NoDigit rest) : readNumber field (decimal n ++ rest) = .ok (n.toNat, rest) := by
  have digits : ∀ c ∈ decimal n, c.isDigit = true := fun c hc => isDigit_of_mem_decimal hc
  have value : Decimal.value (decimal n) = n.toNat := by
    rw [Decimal.value_eq, decimal, Nat.ofDigitChars_ten_toDigits]
  have ended : rest.takeWhile Char.isDigit = [] ∧ rest.dropWhile Char.isDigit = rest := by
    cases rest with
    | nil => exact ⟨rfl, rfl⟩
    | cons c more =>
      have hc := h c more rfl
      exact ⟨List.takeWhile_cons_of_neg (by simp [hc]), List.dropWhile_cons_of_neg (by simp [hc])⟩
  have fits : n.toNat < numberBound := n.toNat_lt
  rw [readNumber]
  simp only [List.takeWhile_append_of_pos digits, List.dropWhile_append_of_pos digits, ended,
    List.append_nil]
  split
  · next _ _ none_written => exact absurd none_written Nat.toDigits_ne_nil
  · next _ none_written => exact absurd none_written Nat.toDigits_ne_nil
  · next written =>
    rw [decimal] at written
    rw [eq_zero_of_toDigits written] at written
    cases written
  · rw [value, if_pos fits]

end Version

/-! ### Releases -/

/-- Three numbers of 64 bits, from the most to the least important. -/
structure Release where
  major : UInt64
  minor : UInt64
  patch : UInt64
  deriving DecidableEq, Repr

/-- A release in decimal, its numbers between dots. -/
def Release.text (r : Release) : List Char :=
  decimal r.major ++ '.' :: (decimal r.minor ++ '.' :: decimal r.patch)

theorem visible_of_mem_decimal {n : UInt64} {c : Char} (h : c ∈ decimal n) : Text.Visible c := by
  obtain ⟨low, high⟩ := Char.isDigit_iff_toNat.mp (isDigit_of_mem_decimal h)
  exact ⟨Nat.le_trans (by decide) low, Nat.le_trans high (by decide)⟩

theorem Release.text_ne_nil (r : Release) : r.text ≠ [] := by
  obtain ⟨c, more, first, -⟩ := exists_decimal_eq_cons r.major
  rw [text, first]
  exact List.cons_ne_nil c _

theorem Release.visible_of_mem_text (r : Release) : ∀ c ∈ r.text, Text.Visible c := by
  have dot : Text.Visible '.' := by decide
  intro c hc
  simp only [text, List.mem_append, List.mem_cons] at hc
  rcases hc with number | rfl | number | rfl | number
  · exact visible_of_mem_decimal number
  · exact dot
  · exact visible_of_mem_decimal number
  · exact dot
  · exact visible_of_mem_decimal number

/-! ### Identifiers -/

/-- Whether a text is an identifier: some letters, digits and hyphens. -/
def IsIdentifier (part : List Char) : Prop :=
  part ≠ [] ∧ part.all Version.isIdentifierChar = true

instance (part : List Char) : Decidable (IsIdentifier part) := inferInstanceAs (Decidable (_ ∧ _))

/-- Some identifiers, as in build metadata. -/
structure Identifiers where
  first : List Char
  others : List (List Char)
  well_formed : ∀ part ∈ first :: others, IsIdentifier part

namespace Identifiers

/-- All of the identifiers. -/
def parts (i : Identifiers) : List (List Char) := i.first :: i.others

/-- Identifiers between dots. -/
def text (i : Identifiers) : List Char := i.first ++ i.others.flatMap ('.' :: ·)

theorem visible_of_isIdentifierChar {c : Char} (h : Version.isIdentifierChar c = true) :
    Text.Visible c := by
  have upper : c.isUpper = decide (65 ≤ c.val ∧ c.val ≤ 90) := rfl
  have lower : c.isLower = (decide (97 ≤ c.val) && decide (c.val ≤ 122)) := rfl
  have plain : c.isAlphanum = (c.isUpper || c.isLower || c.isDigit) := rfl
  rw [Version.isIdentifierChar, plain, upper, lower] at h
  simp only [Bool.or_eq_true, Bool.and_eq_true, decide_eq_true_eq, beq_iff_eq,
    UInt32.le_iff_toNat_le, Char.isDigit_iff_toNat] at h
  rcases h with ((⟨low, high⟩ | ⟨low, high⟩) | ⟨low, high⟩) | rfl
  · exact ⟨Nat.le_trans (by decide) low, Nat.le_trans high (by decide)⟩
  · exact ⟨Nat.le_trans (by decide) low, Nat.le_trans high (by decide)⟩
  · exact ⟨Nat.le_trans (by decide) low, Nat.le_trans high (by decide)⟩
  · exact ⟨by decide, by decide⟩

theorem visible_of_mem_text (i : Identifiers) : ∀ c ∈ i.text, Text.Visible c := by
  have parts : ∀ part ∈ i.first :: i.others, ∀ c ∈ part, Text.Visible c :=
    fun part hpart c hc =>
      visible_of_isIdentifierChar (List.all_eq_true.mp (i.well_formed part hpart).2 c hc)
  obtain ⟨first, others⟩ := List.forall_mem_cons.mp parts
  refine List.forall_mem_append.mpr ⟨first, ?_⟩
  intro c hc
  obtain ⟨part, hpart, hc⟩ := List.mem_flatMap.mp hc
  exact List.forall_mem_cons.mpr ⟨by decide, others part hpart⟩ c hc

end Identifiers

/-- The identifiers of a pre-release tag. One of digits has no zero in front. -/
structure Tag extends Identifiers where
  canonical : ∀ part ∈ first :: others, part.all Char.isDigit = true → part.head? = some '0' →
    part = ['0']

/-- Whether a text does not go on with identifiers before it. -/
def EndsIdentifiers (rest : List Char) : Prop :=
  ∀ c more, rest = c :: more → Version.isIdentifierChar c = false ∧ c ≠ '.'

namespace Version

theorem readSegments_cons (field : VersionField) (segment : List Char) {c : Char}
    (h : isIdentifierChar c = true) (text : List Char) :
    readSegments field segment (c :: text) = readSegments field (c :: segment) text := by
  rw [readSegments, if_pos h]

/-- What can stand in an identifier goes on with the present segment. -/
theorem readSegments_append (field : VersionField) (segment : List Char) {part : List Char}
    (h : ∀ c ∈ part, isIdentifierChar c = true) (text : List Char) :
    readSegments field segment (part ++ text) =
      readSegments field (part.reverse ++ segment) text := by
  induction part generalizing segment with
  | nil => rfl
  | cons c part ih =>
    obtain ⟨hc, hpart⟩ := List.forall_mem_cons.mp h
    rw [List.cons_append, readSegments_cons field segment hc, ih _ hpart, List.reverse_cons,
      List.append_assoc, List.singleton_append]

/-- Whether a text can be a segment of a field. -/
def IsSegment (field : VersionField) (part : List Char) : Prop :=
  IsIdentifier part ∧
    (field = .prerelease → part.all Char.isDigit = true → part.head? = some '0' → part = ['0'])

theorem closeSegment_reverse {field : VersionField} {part : List Char} (h : IsSegment field part) :
    closeSegment field part.reverse = .ok part := by
  obtain ⟨⟨some_written, -⟩, canonical⟩ := h
  rw [closeSegment, List.reverse_reverse]
  split
  · exact absurd rfl some_written
  · next c more =>
    -- With a zero in front there is a character that is no digit.
    rw [if_neg]
    rw [Bool.and_eq_true, beq_iff_eq]
    rintro ⟨tag, digits⟩
    have all_digits : ('0' :: c :: more).all Char.isDigit = true := digits
    cases canonical tag all_digits rfl
  · rfl

/-- Segments between dots are read one by one. -/
theorem readSegments_text {field : VersionField} {first : List Char} {others : List (List Char)}
    (h : ∀ part ∈ first :: others, IsSegment field part) {rest : List Char}
    (ended : EndsIdentifiers rest) :
    readSegments field [] (first ++ others.flatMap ('.' :: ·) ++ rest) =
      .ok (first :: others, rest) := by
  induction others generalizing first with
  | nil =>
    obtain ⟨hfirst, -⟩ := List.forall_mem_cons.mp h
    rw [List.flatMap_nil, List.append_nil, readSegments_append field [] (List.all_eq_true.mp hfirst.1.2), List.append_nil]
    cases rest with
    | nil => rw [readSegments, closeSegment_reverse hfirst]; rfl
    | cons c more =>
      obtain ⟨foreign, no_dot⟩ := ended c more rfl
      rw [readSegments, if_neg (by simp [foreign]), closeSegment_reverse hfirst, Except.ok_bind,
        if_neg (by simp [no_dot])]
      rfl
  | cons second others ih =>
    obtain ⟨hfirst, hothers⟩ := List.forall_mem_cons.mp h
    rw [List.flatMap_cons, List.append_assoc, readSegments_append field [] (List.all_eq_true.mp hfirst.1.2),
      List.append_nil, List.cons_append, List.cons_append, readSegments,
      if_neg (by decide), closeSegment_reverse hfirst, Except.ok_bind, if_pos (by decide),
      ih hothers]
    rfl

/-- A character that neither starts a tag nor goes on with one. -/
theorem endsIdentifiers_plus (rest : List Char) : EndsIdentifiers ('+' :: rest) := by
  rintro c more ⟨⟩
  exact ⟨by decide, by decide⟩

end Version

/-! ### Versions -/

/-- A version with all that can be written of it. -/
structure WrittenVersion where
  release : Release
  tag : Option Tag
  build : Option Identifiers

namespace WrittenVersion

/-- The text of the build metadata, with its sign. -/
def buildText (v : WrittenVersion) : List Char := v.build.elim [] ('+' :: ·.text)

/-- The text of the tag, with its sign. -/
def tagText (v : WrittenVersion) : List Char := v.tag.elim [] ('-' :: ·.text)

/-- The text of a version. -/
def text (v : WrittenVersion) : List Char := v.release.text ++ v.tagText ++ v.buildText

/-- The version that is written. -/
def value (v : WrittenVersion) : Version where
  major := v.release.major.toNat
  minor := v.release.minor.toNat
  patch := v.release.patch.toNat
  prerelease := (v.tag.map (·.parts.map Version.identifier)).getD []
  build := (v.build.map (·.parts.map String.ofList)).getD []

theorem readBuild_buildText (v : WrittenVersion) :
    Version.readBuild v.buildText = .ok (v.build.map (·.parts.map String.ofList), []) := by
  rw [buildText]
  cases v.build with
  | none => rfl
  | some build =>
    have segments : ∀ part ∈ build.first :: build.others, Version.IsSegment .build part :=
      fun part hpart => ⟨build.well_formed part hpart, nofun⟩
    have read : Version.readSegments .build [] (build.text ++ []) = .ok (build.parts, []) :=
      Version.readSegments_text segments nofun
    rw [List.append_nil] at read
    rw [Option.elim_some, Version.readBuild, read]
    rfl

theorem readPrerelease_tagText (v : WrittenVersion) :
    Version.readPrerelease (v.tagText ++ v.buildText) =
      .ok (v.tag.map (·.parts.map Version.identifier), v.buildText) := by
  have ended : EndsIdentifiers v.buildText := by
    rw [buildText]
    cases v.build with
    | none => exact nofun
    | some build => exact Version.endsIdentifiers_plus build.text
  rw [tagText]
  cases v.tag with
  | none =>
    rw [Option.elim_none, List.nil_append, Version.readPrerelease]
    · rfl
    · intro text hyphen
      rw [hyphen] at ended
      exact absurd (ended '-' text rfl).1 (by decide)
  | some tag =>
    have segments : ∀ part ∈ tag.first :: tag.others, Version.IsSegment .prerelease part :=
      fun part hpart => ⟨tag.well_formed part hpart, fun _ => tag.canonical part hpart⟩
    rw [Option.elim_some, List.cons_append, Version.readPrerelease, Identifiers.text,
      Version.readSegments_text segments ended]
    rfl

/-- No part of a version is a blank. -/
theorem bare_text (v : WrittenVersion) : Text.Bare v.text := by
  apply Text.Bare.of_visible
  · rw [text, List.append_assoc]
    exact List.append_ne_nil_of_left_ne_nil v.release.text_ne_nil _
  · have build : ∀ c ∈ v.buildText, Text.Visible c := by
      rw [buildText]
      cases v.build with
      | none => exact nofun
      | some build => exact List.forall_mem_cons.mpr ⟨by decide, build.visible_of_mem_text⟩
    have tag : ∀ c ∈ v.tagText, Text.Visible c := by
      rw [tagText]
      cases v.tag with
      | none => exact nofun
      | some tag => exact List.forall_mem_cons.mpr ⟨by decide, tag.visible_of_mem_text⟩
    exact List.forall_mem_append.mpr
      ⟨List.forall_mem_append.mpr ⟨v.release.visible_of_mem_text, tag⟩, build⟩

/-- What is written of a version is read. -/
theorem parse_text (v : WrittenVersion) : Version.parse (.ofList v.text) = .ok v.value := by
  have ends_patch : NoDigit (v.tagText ++ v.buildText) := by
    rw [tagText, buildText]
    cases v.tag with
    | some tag => exact noDigit_cons (by decide) _
    | none =>
      cases v.build with
      | some build => exact noDigit_cons (by decide) _
      | none => exact noDigit_nil
  have parted : v.text = decimal v.release.major ++ '.' :: (decimal v.release.minor ++
      '.' :: (decimal v.release.patch ++ (v.tagText ++ v.buildText))) := by
    simp only [text, Release.text, List.append_assoc, List.cons_append]
  have ends_dot : ∀ rest, NoDigit ('.' :: rest) := noDigit_cons (by decide)
  rw [Version.parse, v.bare_text.isEmpty_ofList, if_neg Bool.false_ne_true, String.toList_ofList, parted]
  simp only [Except.ok_bind, Version.readDot, readPrerelease_tagText,
    readBuild_buildText, Version.readNumber_decimal _ _ (ends_dot _),
    Version.readNumber_decimal _ _ ends_patch]
  rfl

end WrittenVersion

end Emend
