import Emend.Proofs.Pattern.Literal
import Emend.Proofs.Rule.Fold
import Emend.Proofs.Rule.Parse

/-!
# Rules that replace one text by another

A rule whose pattern stands for a text and whose template has no backslash replaces that text: it goes
through the content from left to right, puts the template in the place of each occurrence, goes on
behind it, and leaves every other character as it is (`replaceAll`). Under which flags the pattern is
read makes no difference, and neither do the dollar signs, braces and occurrences in the template
(`Rule.apply_literal`).
-/

namespace Emend

/-! ### Plain replacement -/

/-- A text with each occurrence of a text from left to right replaced by a new one, and the number
of them. -/
def replaceAll (old new : List Char) : List Char → List Char × Nat
  | [] => ([], 0)
  | c :: rest =>
    if old <+: c :: rest then
      let behind := replaceAll old new (rest.drop (old.length - 1))
      (new ++ behind.1, behind.2 + 1)
    else
      let behind := replaceAll old new rest
      (c :: behind.1, behind.2)
termination_by text => text.length
decreasing_by
  · rw [List.length_drop, List.length_cons]
    omega
  · exact Nat.lt_succ_self _

variable {old new : List Char}

/-- An occurrence is replaced, and what follows it is gone through. -/
theorem replaceAll_occurrence (some_old : old ≠ []) (rest : List Char) :
    replaceAll old new (old ++ rest) =
      (new ++ (replaceAll old new rest).1, (replaceAll old new rest).2 + 1) := by
  obtain ⟨c, old, rfl⟩ := List.exists_cons_of_ne_nil some_old
  have occurs : c :: old <+: c :: (old ++ rest) := List.prefix_append (c :: old) rest
  rw [List.cons_append, replaceAll, if_pos occurs, List.length_cons, Nat.add_sub_cancel,
    List.drop_left]

/-- What stands before the first occurrence is left as it is. -/
theorem replaceAll_append {before : List Char} (rest : List Char)
    (none_before : ∀ k < before.length, ¬ old <+: (before ++ rest).drop k) :
    replaceAll old new (before ++ rest) =
      (before ++ (replaceAll old new rest).1, (replaceAll old new rest).2) := by
  induction before with
  | nil => rfl
  | cons c before ih =>
    have none_here : ¬ old <+: c :: (before ++ rest) := none_before 0 (Nat.succ_pos _)
    have none_later : ∀ k < before.length, ¬ old <+: (before ++ rest).drop k :=
      fun k hk => none_before (k + 1) (Nat.succ_lt_succ hk)
    rw [List.cons_append, replaceAll, if_neg none_here, ih none_later]
    rfl

/-- There is nothing to replace if there is no occurrence, and only then. -/
theorem count_replaceAll_eq_zero (some_old : old ≠ []) (text : List Char) :
    (replaceAll old new text).2 = 0 ↔ ¬ old <:+: text := by
  induction text using replaceAll.induct old new with
  | case1 =>
    rw [replaceAll, List.infix_nil]
    exact ⟨fun _ => some_old, fun _ => rfl⟩
  | case2 c rest occurs =>
    rw [replaceAll, if_pos occurs]
    exact ⟨nofun, fun none_inside => absurd occurs.isInfix none_inside⟩
  | case3 c rest none_here ih =>
    rw [replaceAll, if_neg none_here, List.infix_cons_iff, not_or]
    exact ih.trans ⟨fun h => ⟨none_here, h⟩, And.right⟩

/-! ### What the matches are -/

namespace Program

variable {p : Program} {text : List Char} {last : Option Nat} {c : Cursor} {ms : List Match}

/-- The matches of a text in another are the occurrences that are replaced. -/
theorem Spells.spliced_eq (h : p.Spells old) (some_old : old ≠ []) (iterates : p.Iterates last c ms)
    (on : c.On text) :
    (spliced (fun _ => new) text c.position ms, ms.length) =
      replaceAll old new (text.drop c.position) := by
  -- A match has the length of the text, so none is passed over.
  have never_idle {c : Cursor} {last : Option Nat} {m : Match} (on : c.On text)
      (finds : p.search? c = some m) : ¬ m.Idle last := by
    intro idle
    have long : 0 < old.length := List.length_pos_of_ne_nil some_old
    have empty := Match.isEmpty_iff.mp idle.1
    have stop := (h.search?_eq_some on finds).stop
    omega
  induction iterates with
  | @ended last c none_left =>
    have no_occurrence : ∀ k < (text.drop c.position).length,
        ¬ old <+: (text.drop c.position ++ []).drop k := by
      intro k hk
      rw [List.length_drop] at hk
      rw [List.append_nil, List.drop_drop]
      exact h.search?_eq_none on none_left _ (Nat.le_add_right _ k) (by omega)
    have unchanged : replaceAll old new (text.drop c.position ++ []) = _ :=
      replaceAll_append [] no_occurrence
    rw [List.append_nil, replaceAll, List.append_nil] at unchanged
    exact unchanged.symm
  | @found last c m rest finds counts more ih =>
    obtain ⟨within, occurs, stop, earlier⟩ := h.search?_eq_some on finds
    -- The text from the place on: up to the match, the match, and what follows.
    have from_start : text.drop m.start.position = old ++ text.drop m.stop.position := by
      rw [stop, ← List.drop_drop]
      exact (List.prefix_iff_eq_append.mp occurs).symm
    have parted : text.drop c.position =
        slice text c.position m.start.position ++ (old ++ text.drop m.stop.position) := by
      rw [← from_start, slice_append_drop text within.start_le]
    have none_before : ∀ k < (slice text c.position m.start.position).length,
        ¬ old <+: (slice text c.position m.start.position ++
          (old ++ text.drop m.stop.position)).drop k := by
      intro k hk
      rw [slice, List.length_take] at hk
      rw [← parted, List.drop_drop]
      exact earlier _ (Nat.le_add_right _ k) (by omega)
    rw [parted, replaceAll_append _ none_before, replaceAll_occurrence some_old,
      ← ih within.stop_on, spliced, List.length_cons, List.append_assoc]
  | passed finds idle => exact absurd idle (never_idle on finds)
  | spent finds idle => exact absurd idle (never_idle on finds)

end Program

/-! ### Rules -/

namespace Template

/-- A text without a backslash is a sequence of characters. -/
theorem reads_plain {text : List Char} (plain : '\\' ∉ text) : Reads text (text.map .char) := by
  induction text with
  | nil => exact .nil
  | cons c text ih =>
    have hc : c ≠ '\\' := fun h => plain (by simp [h])
    have htext : '\\' ∉ text := fun h => plain (List.mem_cons_of_mem c h)
    exact .cons (.plain hc) (greedy_plain c text) (ih htext)

/-- A template without a backslash stands for itself, whatever is matched. -/
theorem expand_plain {s : String} {t : Template} (parses : parse s = .ok t)
    (plain : '\\' ∉ s.toList) (pattern : Pattern) (m : Match) : t.expand pattern m = s.toList := by
  obtain ⟨-, packed, reads⟩ := parse_eq_ok.mp parses
  have characters : items t.pieces = s.toList.map .char := reads.unique (reads_plain plain)
  have pieces : t.pieces = pack (s.toList.map .char) := by
    rw [← characters, pack_items packed]
  by_cases empty : s.toList = []
  · rw [expand, pieces, empty]
    rfl
  · have one : t.pieces = [.literal s.toList] := by
      rw [pieces, pack, foldr_chars empty]
      rfl
    rw [expand, one, List.flatMap_singleton]
    rfl

end Template

namespace Rule

/-- **A literal rule is plain replacement.** A rule for an escaped text and a template without a
backslash replaces the occurrences of the text from left to right by the template as it is written,
and counts them; it counts none if the text does not occur in the content, and only then. -/
theorem apply_literal {text replacement : String} {flags : RuleFlags} {r : Rule}
    (builds : Rule.build (.ofList (Pattern.escape text.toList)) replacement flags = .ok r)
    (plain : '\\' ∉ replacement.toList) (content : String) :
    ((r.apply content).text.toList, (r.apply content).count) =
        replaceAll text.toList replacement.toList content.toList ∧
      ((r.apply content).count = 0 ↔ ¬ text.toList <:+: content.toList) := by
  obtain ⟨some_pattern, compiled, template, compiles, parses, -, rfl⟩ := build_eq_ok.mp builds
  have some_text : text.toList ≠ [] := by
    rw [Bool.eq_false_iff, Ne, String.isEmpty_iff, String.ofList_eq_empty_iff,
      Pattern.escape_eq_nil] at some_pattern
    exact some_pattern
  have spells : compiled.program.Spells text.toList := by
    obtain ⟨read, reads, -, rfl⟩ := Pattern.compile_eq_ok.mp compiles
    rw [String.toList_ofList, Reading.readPattern_escape rfl rfl] at reads
    cases reads
    exact Program.ofRegex_spells text.toList
  have replaced : (spliced (fun _ => replacement.toList) content.toList 0
      (compiled.program.allMatches content.toList),
      (compiled.program.allMatches content.toList).length) =
      replaceAll text.toList replacement.toList content.toList :=
    spells.spliced_eq some_text (compiled.program.allMatches_iterates content.toList)
      (Cursor.start_on content.toList)
  have filled : spliced (template.expand compiled) content.toList 0
      (compiled.program.allMatches content.toList) =
      spliced (fun _ => replacement.toList) content.toList 0
        (compiled.program.allMatches content.toList) :=
    spliced_congr (fun m _ => Template.expand_plain parses plain compiled m) 0
  have result : ((apply ⟨compiled, flags, template, none⟩ content).text.toList,
      (apply ⟨compiled, flags, template, none⟩ content).count) =
      replaceAll text.toList replacement.toList content.toList := by
    rw [text_apply, count_apply, ← replaced, ← filled]
    rfl
  refine ⟨result, ?_⟩
  rw [← count_replaceAll_eq_zero some_text, ← result]

/-- A rule that puts a dollar sign, and the text itself in braces, in the place of a text that can
overlap with itself. -/
def wrapping : Rule :=
  (Rule.build (.ofList (Pattern.escape "é.é".toList)) "$1\x7bé.é\x7d" ⟨true, true⟩).toOption.getD
    default

theorem wrapping_builds :
    Rule.build (.ofList (Pattern.escape "é.é".toList)) "$1\x7bé.é\x7d" ⟨true, true⟩ =
      .ok wrapping :=
  build_of_isOk (by decide +kernel)

theorem apply_literal_wrapping :
    Rule.build (.ofList (Pattern.escape "é.é".toList)) "$1\x7bé.é\x7d" ⟨true, true⟩ =
        .ok wrapping ∧
      wrapping.apply "é.é.é éxé" = { text := "$1\x7bé.é\x7d.é éxé", count := 1 } ∧
      replaceAll "é.é".toList "$1\x7bé.é\x7d".toList "é.é.é éxé".toList =
        ("$1\x7bé.é\x7d.é éxé".toList, 1) := by
  have applied : wrapping.apply "é.é.é éxé" = { text := "$1\x7bé.é\x7d.é éxé", count := 1 } := by
    decide +kernel
  have replaced := (apply_literal wrapping_builds (by decide) "é.é.é éxé").1
  rw [applied] at replaced
  exact ⟨wrapping_builds, applied, replaced.symm⟩

end Rule

end Emend
