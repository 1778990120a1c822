import Mathlib.Data.List.DropRight
import Emend.Text.Trim

/-!
# What is left of a text between blanks

A text that neither begins nor ends with a blank is what is left when the blanks around it are
trimmed (`Text.trim_padded`), and nothing is left of a text of blanks (`Text.isEmpty_trim`).
-/

namespace Emend.Text

/-- Whether a text has characters, and the first and the last of them are no blanks. -/
structure Bare (text : List Char) : Prop where
  first : ∃ c rest, text = c :: rest ∧ Unicode.isWhiteSpace c = false
  last : ∃ rest c, text = rest ++ [c] ∧ Unicode.isWhiteSpace c = false

/-- Whether a character is a visible one of the first 128. -/
def Visible (c : Char) : Prop := 0x21 ≤ c.toNat ∧ c.toNat ≤ 0x7E

instance (c : Char) : Decidable (Visible c) := inferInstanceAs (Decidable (_ ∧ _))

theorem Visible.isWhiteSpace {c : Char} (h : Visible c) : Unicode.isWhiteSpace c = false := by
  obtain ⟨low, high⟩ := h
  rw [Bool.eq_false_iff]
  simp only [Unicode.isWhiteSpace, Bool.or_eq_true, Bool.and_eq_true, decide_eq_true_eq, beq_iff_eq,
    ne_eq]
  omega

/-- A text of visible characters. -/
theorem Bare.of_visible {text : List Char} (some_written : text ≠ []) (h : ∀ c ∈ text, Visible c) :
    Bare text where
  first := by
    obtain ⟨c, rest, rfl⟩ := List.exists_cons_of_ne_nil some_written
    exact ⟨c, rest, rfl, (h c List.mem_cons_self).isWhiteSpace⟩
  last := ⟨text.dropLast, text.getLast some_written, (List.dropLast_concat_getLast some_written).symm,
    (h _ (List.getLast_mem some_written)).isWhiteSpace⟩

theorem Bare.isEmpty_ofList {text : List Char} (h : Bare text) :
    (String.ofList text).isEmpty = false := by
  obtain ⟨c, rest, rfl, -⟩ := h.first
  rw [Bool.eq_false_iff, Ne, String.isEmpty_iff, String.ofList_eq_empty_iff]
  exact List.cons_ne_nil c rest

/-- Whatever stands between its parts, a text of two parts begins as the one and ends as the
other. -/
theorem Bare.append {front back : List Char} (h : Bare front) (between : List Char)
    (h' : Bare back) : Bare (front ++ between ++ back) where
  first := by
    obtain ⟨c, rest, rfl, hc⟩ := h.first
    exact ⟨c, rest ++ between ++ back, by simp only [List.cons_append], hc⟩
  last := by
    obtain ⟨rest, c, rfl, hc⟩ := h'.last
    exact ⟨front ++ between ++ rest, c, by simp only [List.append_assoc], hc⟩

/-- Blanks at the start are left out up to the first character that is none. -/
theorem trimStart_append {blanks rest : List Char} {c : Char}
    (hblanks : ∀ b ∈ blanks, Unicode.isWhiteSpace b = true)
    (hc : Unicode.isWhiteSpace c = false) : trimStart (blanks ++ c :: rest) = c :: rest := by
  rw [trimStart, List.dropWhile_append_of_pos hblanks, List.dropWhile_cons_of_neg (by simp [hc])]

theorem trimEnd_append {blanks rest : List Char} {c : Char}
    (hblanks : ∀ b ∈ blanks, Unicode.isWhiteSpace b = true)
    (hc : Unicode.isWhiteSpace c = false) : trimEnd (rest ++ [c] ++ blanks) = rest ++ [c] := by
  have reversed : ∀ b ∈ blanks.reverse, Unicode.isWhiteSpace b = true :=
    fun b hb => hblanks b (List.mem_reverse.mp hb)
  rw [trimEnd, List.reverse_append, List.reverse_concat, trimStart_append reversed hc,
    List.reverse_cons, List.reverse_reverse]

/-- Whether a string is a text with blanks around it. -/
def Padded (text : List Char) (s : String) : Prop :=
  ∃ before after : List Char, before.all Unicode.isWhiteSpace = true ∧
    after.all Unicode.isWhiteSpace = true ∧ s = .ofList (before ++ text ++ after)

/-- What stands between blanks is left. -/
theorem trim_padded {text : List Char} {s : String} (h : Padded text s) (bare : Bare text) :
    trim s = .ofList text := by
  obtain ⟨before, after, hbefore, hafter, rfl⟩ := h
  rw [List.all_eq_true] at hbefore hafter
  obtain ⟨c, rest, first, hc⟩ := bare.first
  obtain ⟨rest', d, last, hd⟩ := bare.last
  have start : trimStart (before ++ text ++ after) = text ++ after := by
    rw [first, List.append_assoc, List.cons_append, trimStart_append hbefore hc]
  rw [trim, String.toList_ofList, start, last, trimEnd_append hafter hd]

/-- Nothing is left of blanks, and only of them. -/
theorem isEmpty_trim (s : String) : (trim s).isEmpty = isBlank s := by
  have start : trimStart s.toList = [] ↔ ∀ c ∈ s.toList, Unicode.isWhiteSpace c = true :=
    List.dropWhile_eq_nil_iff
  rw [Bool.eq_iff_iff, String.isEmpty_iff, trim, String.ofList_eq_empty_iff, isBlank,
    List.all_eq_true, ← start]
  constructor
  · intro none_left
    -- The first character that is left from the start would be left in the end.
    by_contra some_left
    have first := List.head_dropWhile_not Unicode.isWhiteSpace some_left
    rw [trimEnd, List.reverse_eq_nil_iff, trimStart, List.dropWhile_eq_nil_iff] at none_left
    have blank := none_left _ (List.mem_reverse.mpr (List.head_mem some_left))
    exact absurd blank (by simp [first, trimStart])
  · intro none_left
    rw [none_left]
    rfl

end Emend.Text
