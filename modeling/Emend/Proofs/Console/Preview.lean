import Emend.Console.Report
import Emend.Proofs.Diff.Script
import Emend.Proofs.Text.Lines

/-!
# What the difference of a file shows

The difference of a file is printed as a heading and signed lines, each with a line break. It is an
edit script for the lines of the two texts (`lineScript_leads`), so the lines that are kept or
deleted are those of the text before, in order, and the lines that are kept or inserted are those of
the text after. Without their signs they make up these texts, but for a line feed after a last line
that has no line break (`Reporter.diff_replays`). Since no line begins with a line feed once there is
a sign before it, a reader tells the lines apart just as they were printed.
-/

namespace Emend

variable {before after : String}

/-- The sign of a line. -/
def ChunkKind.sign : ChunkKind → String
  | keep => " "
  | delete => "-"
  | insert => "+"

/-! ### The script of two texts -/

/-- The script of two texts makes the lines of the one those of the other. -/
theorem lineScript_leads (before after : String) :
    (lineScript before after).Leads (Text.lines before) (Text.lines after) :=
  (Script.inBlocks_agree _).leads ((Script.compact_agree _).leads (Script.between_leads _ _))

/-- The lines that are not inserted are those of the text before, -/
theorem lineDiff_before (before after : String) :
    ((lineDiff before after).filter (·.1 ≠ .insert)).map (·.2) = Text.lines before :=
  (Script.before_marked _).trans (lineScript_leads before after).before

/-- and those that are not deleted are those of the text after. -/
theorem lineDiff_after (before after : String) :
    ((lineDiff before after).filter (·.1 ≠ .delete)).map (·.2) = Text.lines after :=
  (Script.after_marked _).trans (lineScript_leads before after).after

/-- For a text and itself, all lines are kept. -/
theorem lineScript_self (text : String) : (lineScript text text).Keeps := by
  have keeps := Script.between_self (Text.lines text)
  rwa [lineScript, keeps.compact_eq, keeps.inBlocks_eq]

/-- All lines are kept only for a text and itself. -/
theorem lineDiff_keeps : (∀ c ∈ lineDiff before after, c.1 = .keep) ↔ before = after := by
  constructor
  · intro keeps
    have none_inserted : (lineDiff before after).filter (·.1 ≠ .insert) = lineDiff before after :=
      List.filter_eq_self.mpr fun c hc => by simp [keeps c hc]
    have none_deleted : (lineDiff before after).filter (·.1 ≠ .delete) = lineDiff before after :=
      List.filter_eq_self.mpr fun c hc => by simp [keeps c hc]
    have lines_before := lineDiff_before before after
    have lines_after := lineDiff_after before after
    rw [none_inserted] at lines_before
    rw [none_deleted] at lines_after
    exact Text.lines_inj.mp (lines_before.symm.trans lines_after)
  · rintro rfl c hc
    obtain ⟨chunk, hchunk, hline⟩ := List.mem_flatMap.mp hc
    obtain ⟨line, -, rfl⟩ := List.mem_map.mp hline
    exact lineScript_self before chunk hchunk

/-- A line that is shown is a line of one of the texts. -/
theorem mem_lineDiff {c : ChunkKind × String} (h : c ∈ lineDiff before after) :
    c.2 ∈ Text.lines before ∨ c.2 ∈ Text.lines after := by
  by_cases inserted : c.1 = .insert
  · refine .inr ?_
    rw [← lineDiff_after before after]
    exact List.mem_map_of_mem (List.mem_filter.mpr ⟨h, by simp [inserted]⟩)
  · refine .inl ?_
    rw [← lineDiff_before before after]
    exact List.mem_map_of_mem (List.mem_filter.mpr ⟨h, by simp [inserted]⟩)

/-- The lines of two texts as they are printed, each with a line break and with what becomes of
it. -/
def shownLines (before after : String) : List (ChunkKind × String) :=
  (lineDiff before after).map fun (kind, line) => (kind, Text.closed line)

/-- If the lines that are shown with some of the signs are those of a text, they make it up. -/
theorem join_shownLines {p : ChunkKind → Bool} {text : String}
    (h : ((lineDiff before after).filter fun c => p c.1).map (·.2) = Text.lines text) :
    String.join (((shownLines before after).filter fun c => p c.1).map (·.2)) =
      Text.ended text := by
  rw [← Text.join_closed_lines, ← h, shownLines, List.filter_map, List.map_map, List.map_map]
  rfl

/-- What is shown is a line with its line break. -/
theorem line_of_mem_shownLines {c : ChunkKind × String} (h : c ∈ shownLines before after) :
    Text.Line c.2.toList := by
  obtain ⟨⟨kind, line⟩, hmem, rfl⟩ := List.mem_map.mp h
  rcases mem_lineDiff hmem with old | new
  · exact Text.line_closed old
  · exact Text.line_closed new

/-! ### What is printed -/

namespace Reporter

variable (r : Reporter)

/-- What is printed before the lines of a difference. -/
def heading (r : Reporter) (target : Path) : String :=
  "\n" ++ r.palette.paint .dimmed ("--- " ++ target ++ " (original)") ++ "\n" ++
    r.palette.paint .dimmed ("+++ " ++ target ++ " (patched)") ++ "\n"

/-- How a line is printed after its sign. -/
def signed (r : Reporter) (c : ChunkKind × String) : String :=
  match c.1 with
  | .keep => c.1.sign ++ c.2
  | .delete => r.palette.paint .red (c.1.sign ++ c.2)
  | .insert => r.palette.paint .green (c.1.sign ++ c.2)

theorem diffLine_eq (c : ChunkKind × String) :
    r.diffLine c = r.signed (c.1, Text.closed c.2) := by
  obtain ⟨kind, line⟩ := c
  cases kind <;> rfl

/-- The lines of a difference are printed with their signs. -/
theorem map_diffLine (before after : String) :
    (lineDiff before after).map r.diffLine = (shownLines before after).map r.signed := by
  rw [shownLines, List.map_map]
  exact List.map_congr_left fun c _ => r.diffLine_eq c

/-- Without colours, a sign and a line is all that is printed. -/
theorem signed_of_plain (plain : r.palette.coloured = false) (c : ChunkKind × String) :
    r.signed c = c.1.sign ++ c.2 := by
  rw [signed]
  split
  · rfl
  · rw [Palette.paint, plain, if_neg Bool.false_ne_true]
  · rw [Palette.paint, plain, if_neg Bool.false_ne_true]

/-- **The printed difference is a correct edit script.** What is printed after the heading are lines
with signs; where nothing is painted, these are the lines that a reader finds in it. Those that are
kept or deleted make up the text before, and those that are kept or inserted the text after, up to
the line feed that is supplied after a last line without a line break. There are only kept lines if
and only if the texts are the same. -/
theorem diff_replays (target : Path) (change : ContentChange) :
    let shown := shownLines change.before change.after
    r.diff target change = r.heading target ++ String.join (shown.map r.signed) ∧
    (r.palette.coloured = false →
      Text.lines (String.join (shown.map r.signed)) = shown.map fun c => c.1.sign ++ c.2) ∧
    String.join ((shown.filter (·.1 ≠ .insert)).map (·.2)) = Text.ended change.before ∧
    String.join ((shown.filter (·.1 ≠ .delete)).map (·.2)) = Text.ended change.after ∧
    ((∀ c ∈ shown, c.1 = .keep) ↔ change.before = change.after) := by
  intro shown
  have joined_before :=
    join_shownLines (p := (· ≠ .insert)) (lineDiff_before change.before change.after)
  have joined_after :=
    join_shownLines (p := (· ≠ .delete)) (lineDiff_after change.before change.after)
  refine ⟨?_, fun plain => ?_, joined_before, joined_after, ?_⟩
  · rw [diff, map_diffLine, heading]
  · rw [List.map_congr_left fun c _ => r.signed_of_plain plain c]
    -- A sign neither breaks a line nor completes a line break before it.
    refine Text.lines_join (List.forall_mem_map.mpr fun c hc => ?_)
      (List.forall_mem_map.mpr fun c _ => ?_)
    · have line := line_of_mem_shownLines hc
      rw [String.toList_append]
      cases c.1 <;> exact .cons (by decide) line
    · rw [String.toList_append]
      cases c.1 <;> simp [ChunkKind.sign]
  · rw [← lineDiff_keeps]
    exact List.forall_mem_map

/-- Of two texts that differ in their first line break, and whose last lines have none, both are
found again, each with a line feed at its end. -/
theorem diff_replays_lastLine :
    let r : Reporter := default
    let shown := shownLines "one\r\ntwo" "one\ntwo"
    r.palette.coloured = false ∧
    Text.lines (String.join (shown.map r.signed)) = shown.map (fun c => c.1.sign ++ c.2) ∧
    String.join ((shown.filter (·.1 ≠ .insert)).map (·.2)) = "one\r\ntwo\n" ∧
    String.join ((shown.filter (·.1 ≠ .delete)).map (·.2)) = "one\ntwo\n" ∧
    ∃ c ∈ shown, c.1 ≠ .keep := by
  intro r shown
  have plain : r.palette.coloured = false := rfl
  obtain ⟨-, printed, joined_before, joined_after, keeps⟩ :=
    r.diff_replays "notes.txt" ⟨"one\r\ntwo", "one\ntwo"⟩
  have differ : ¬ ∀ c ∈ shown, c.1 = .keep := fun all => absurd (keeps.mp all) (by decide)
  exact ⟨plain, printed plain, joined_before.trans (by decide), joined_after.trans (by decide),
    by simpa using differ⟩

end Reporter

end Emend
