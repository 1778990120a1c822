import Emend.Text.Lines
import Mathlib.Data.List.Basic

/-!
# Lines of a text

How a text is made of lines is said by a grammar: a line ends in a line break and has none before
(`Text.Line`), the last line of a text may be without one, and a carriage return is not parted from
the line feed after it (`Text.Lined`). Reading lines off a text is this grammar
(`Text.charLines_lined`), which has one reading of each text (`Text.Lined.charLines_eq`). So what is
known of lines is known by induction on the grammar:

- no character is lost (`Text.join_lines`);
- if each line is closed, the text gets at most one line feed more, at its end
  (`Text.join_closed_lines`);
- lines that are put after each other with a mark before each are told apart again
  (`Text.lines_join`).
-/

namespace Emend.Text

/-- Whether a character breaks lines. -/
def breaks (c : Char) : Bool := c == '\n' || c == '\r'

/-! ### The grammar of lines -/

/-- A line with its line break. -/
inductive Line : List Char → Prop
  | lineFeed : Line ['\n']
  | carriageReturn : Line ['\r']
  | both : Line ['\r', '\n']
  | cons {c : Char} {line : List Char} (plain : breaks c = false) (more : Line line) :
      Line (c :: line)

/-- A carriage return at the end of a line, and a line feed at the start of what follows, would be
one line break. -/
def Apart (line rest : List Char) : Prop := line.getLast? = some '\r' → rest.head? ≠ some '\n'

/-- A text and its lines. -/
inductive Lined : List Char → List (List Char) → Prop
  | nil : Lined [] []
  /-- The last line may be without a line break. -/
  | last {line : List Char} (ne : line ≠ []) (plain : ∀ c ∈ line, breaks c = false) :
      Lined line [line]
  | cons {line rest : List Char} {lines : List (List Char)} (h : Line line)
      (apart : Apart line rest) (more : Lined rest lines) : Lined (line ++ rest) (line :: lines)

/-- Puts a character at the start of the first line. -/
def onFirst (c : Char) : List (List Char) → List (List Char)
  | [] => [[c]]
  | line :: lines => (c :: line) :: lines

theorem charLines_cons (c : Char) (rest : List Char) :
    charLines (c :: rest) =
      if endsLine c rest then [c] :: charLines rest else onFirst c (charLines rest) := by
  rw [charLines]
  cases charLines rest <;> rfl

namespace Line

variable {line rest : List Char}

theorem ne_nil (h : Line line) : line ≠ [] := by
  cases h <;> exact List.cons_ne_nil _ _

/-- A line ends in a character that breaks lines. -/
theorem getLast? (h : Line line) : line.getLast? = some '\n' ∨ line.getLast? = some '\r' := by
  induction h with
  | lineFeed => exact .inl rfl
  | carriageReturn => exact .inr rfl
  | both => exact .inl rfl
  | @cons c line _ more ih => rwa [List.getLast?_cons_of_ne_nil more.ne_nil]

/-- A line is read off as it is. -/
theorem charLines_append (h : Line line) (apart : Apart line rest) :
    charLines (line ++ rest) = line :: charLines rest := by
  induction h with
  | lineFeed => rfl
  | carriageReturn =>
    have ends : endsLine '\r' rest = true := by
      have h := apart rfl
      simpa [endsLine] using h
    rw [List.singleton_append, charLines_cons, if_pos ends]
  | both => rfl
  | @cons c line plain more ih =>
    have apart' : Apart line rest := by
      intro h
      exact apart (by rwa [List.getLast?_cons_of_ne_nil more.ne_nil])
    have goesOn : ¬ endsLine c (line ++ rest) = true := by
      have h : c ≠ '\n' ∧ c ≠ '\r' := by simpa [breaks] using plain
      simp [endsLine, h]
    rw [List.cons_append, charLines_cons, if_neg goesOn, ih apart', onFirst]

end Line

/-- A text without line breaks is one line. -/
theorem charLines_of_plain {line : List Char} (ne : line ≠ [])
    (plain : ∀ c ∈ line, breaks c = false) : charLines line = [line] := by
  induction line with
  | nil => exact absurd rfl ne
  | cons c line ih =>
    obtain ⟨first, others⟩ := List.forall_mem_cons.mp plain
    have goesOn : ¬ endsLine c line = true := by
      have h : c ≠ '\n' ∧ c ≠ '\r' := by simpa [breaks] using first
      simp [endsLine, h]
    rw [charLines_cons, if_neg goesOn]
    by_cases empty : line = []
    · subst empty
      rfl
    · rw [ih empty others, onFirst]

namespace Lined

variable {text rest : List Char} {lines : List (List Char)} {c : Char}

/-- The lines of a text are those that are read off it. -/
theorem charLines_eq (h : Lined text lines) : charLines text = lines := by
  induction h with
  | nil => rfl
  | last ne plain => exact charLines_of_plain ne plain
  | cons h apart _ ih => rw [h.charLines_append apart, ih]

/-- A character that breaks no lines belongs to the first line of what follows. -/
theorem cons_plain (h : Lined rest lines) (plain : breaks c = false) :
    Lined (c :: rest) (onFirst c lines) := by
  cases h with
  | nil => exact .last (List.cons_ne_nil c []) (by simpa using plain)
  | last ne plain' =>
    exact .last (List.cons_ne_nil _ _) (List.forall_mem_cons.mpr ⟨plain, plain'⟩)
  | @cons line rest lines h apart more =>
    refine .cons (.cons plain h) ?_ more
    intro ends
    exact apart (by rwa [List.getLast?_cons_of_ne_nil h.ne_nil] at ends)

/-- A carriage return belongs to the line feed after it. -/
theorem cons_carriageReturn (h : Lined ('\n' :: rest) lines) :
    Lined ('\r' :: '\n' :: rest) (onFirst '\r' lines) := by
  generalize htext : '\n' :: rest = text at h
  cases h with
  | nil => cases htext
  | last ne plain =>
    subst htext
    exact absurd (plain '\n' List.mem_cons_self) (by decide)
  | @cons line rest' lines h apart more =>
    -- The line feed stands first, so it is the whole line.
    cases h with
    | lineFeed =>
      obtain rfl : rest = rest' := (List.cons.inj htext).2
      exact .cons .both nofun more
    | carriageReturn => cases htext
    | both => cases htext
    | cons plain =>
      obtain ⟨rfl, -⟩ := List.cons.inj htext
      cases plain

end Lined

/-- The lines that are read off a text are its lines. -/
theorem charLines_lined (text : List Char) : Lined text (charLines text) := by
  induction text with
  | nil => exact .nil
  | cons c rest ih =>
    rw [charLines_cons]
    by_cases feed : c = '\n'
    · subst feed
      exact Lined.cons Line.lineFeed nofun ih
    by_cases carriage : c = '\r'
    · subst carriage
      by_cases next : rest.head? = some '\n'
      · obtain ⟨rest', rfl⟩ : ∃ rest', rest = '\n' :: rest' := by
          cases rest with
          | nil => cases next
          | cons d rest' => exact ⟨rest', by rw [Option.some.inj next]⟩
        exact ih.cons_carriageReturn
      · have ends : endsLine '\r' rest = true := by simpa [endsLine] using next
        rw [if_pos ends]
        exact Lined.cons Line.carriageReturn (fun _ => next) ih
    · have goesOn : ¬ endsLine c rest = true := by simp [endsLine, feed, carriage]
      rw [if_neg goesOn]
      exact ih.cons_plain (by simp [breaks, feed, carriage])

/-! ### Texts put together from lines -/

/-- The lines of a text, put together, are the text. -/
theorem join_lines (s : String) : String.join (lines s) = s := by
  have flatten {text : List Char} {ls : List (List Char)} (h : Lined text ls) :
      ls.flatten = text := by
    induction h with
    | nil => rfl
    | last => exact List.append_nil _
    | cons _ _ _ ih => rw [List.flatten_cons, ih]
  refine String.toList_inj.mp ?_
  rw [lines, String.toList_join, List.flatMap_map]
  simpa using flatten (charLines_lined s.toList)

/-- Texts with the same lines are the same. -/
theorem lines_inj {s s' : String} : lines s = lines s' ↔ s = s' := by
  constructor
  · intro h
    rw [← join_lines s, h, join_lines s']
  · rintro rfl
    rfl

/-- A text with a line break at its end, if it has any lines. -/
def ended (s : String) : String := if s.isEmpty then s else closed s

theorem closed_of_line {line : List Char} (h : Line line) :
    closed (String.ofList line) = String.ofList line := by
  rw [closed, if_pos]
  rcases h.getLast? with ends | ends <;> simp [ends]

theorem closed_of_plain {line : List Char} (plain : ∀ c ∈ line, breaks c = false) :
    closed (String.ofList line) = String.ofList (line ++ ['\n']) := by
  rw [closed, if_neg]
  · rw [String.ofList_append]
  · intro ends
    have last : line.getLast? = some '\n' ∨ line.getLast? = some '\r' := by simpa using ends
    rcases last with last | last <;>
      exact absurd (plain _ (List.mem_of_getLast? last)) (by decide)

/-- A text ends as its second part does, if there is one. -/
theorem ended_append {line : List Char} (h : Line line) (rest : List Char) :
    ended (String.ofList (line ++ rest)) = String.ofList line ++ ended (String.ofList rest) := by
  have written : (String.ofList (line ++ rest)).isEmpty = false := by
    simp [h.ne_nil]
  rw [ended, written, if_neg Bool.false_ne_true, ended]
  by_cases empty : rest = []
  · subst empty
    rw [List.append_nil, closed_of_line h]
    simp
  · have written' : (String.ofList rest).isEmpty = false := by simp [empty]
    rw [written', if_neg Bool.false_ne_true, closed, closed, String.toList_ofList,
      String.toList_ofList, List.getLast?_append_of_ne_nil line empty, String.ofList_append]
    split
    · rfl
    · rw [String.append_assoc]

/-- If each line is closed, the text gets a line feed at its end, if there is no line break. -/
theorem join_closed_lines (s : String) : String.join ((lines s).map closed) = ended s := by
  have join {text : List Char} {ls : List (List Char)} (h : Lined text ls) :
      String.join (ls.map fun line => closed (String.ofList line)) =
        ended (String.ofList text) := by
    induction h with
    | nil => rfl
    | @last line ne plain =>
      have written : (String.ofList line).isEmpty = false := by simp [ne]
      rw [ended, written, if_neg Bool.false_ne_true, List.map_cons, List.map_nil, String.join_cons,
        String.join_nil, String.append_empty]
    | cons h _ _ ih =>
      rw [List.map_cons, String.join_cons, ih, closed_of_line h, ended_append h]
  have h := join (charLines_lined s.toList)
  rwa [String.ofList_toList, ← Function.comp_def, ← List.map_map] at h

/-- A line of a text that has been closed is a line with a line break. -/
theorem line_closed {s line : String} (h : line ∈ lines s) : Line (closed line).toList := by
  have closes {text : List Char} {ls : List (List Char)} (h : Lined text ls) :
      ∀ line ∈ ls, Line (closed (String.ofList line)).toList := by
    induction h with
    | nil => exact nofun
    | @last line ne plain =>
      refine List.forall_mem_singleton.mpr ?_
      rw [closed_of_plain plain, String.toList_ofList]
      clear ne
      induction line with
      | nil => exact .lineFeed
      | cons c line ih =>
        obtain ⟨first, others⟩ := List.forall_mem_cons.mp plain
        exact .cons first (ih others)
    | cons h _ _ ih =>
      refine List.forall_mem_cons.mpr ⟨?_, ih⟩
      rwa [closed_of_line h, String.toList_ofList]
  obtain ⟨text, htext, rfl⟩ := List.mem_map.mp h
  exact closes (charLines_lined s.toList) text htext

/-- Lines that do not begin with a line feed are told apart again after they have been put
together. -/
theorem lines_join {texts : List String} (each : ∀ text ∈ texts, Line text.toList)
    (marked : ∀ text ∈ texts, text.toList.head? ≠ some '\n') :
    lines (String.join texts) = texts := by
  have lined : Lined (texts.flatMap String.toList) (texts.map String.toList) := by
    induction texts with
    | nil => exact .nil
    | cons text texts ih =>
      obtain ⟨first, others⟩ := List.forall_mem_cons.mp each
      obtain ⟨-, marks⟩ := List.forall_mem_cons.mp marked
      refine .cons first (fun _ => ?_) (ih others marks)
      -- What follows starts with the mark of the next line, if there is one.
      cases texts with
      | nil => exact nofun
      | cons next texts =>
        have ne := (others next List.mem_cons_self).ne_nil
        rw [List.map_cons, List.flatten_cons, List.head?_append_of_ne_nil _ ne]
        exact marks next List.mem_cons_self
  rw [lines, String.toList_join, lined.charLines_eq, List.map_map]
  simp

end Emend.Text
