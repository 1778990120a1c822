import Emend.Proofs.Rule.Parse

/-!
# Templates one after the other

A template that is followed by another text is read as if each of the two stood alone
(`Template.parse_append`). Only one thing could be read across the seam: a reference by one digit
takes a digit that follows it (`Template.EndsInDigit`).

On both sides of a seam that is clear of this stand sequences of tokens, and both together are one
such sequence (`Template.Reads.append`). This settles what is accepted, and what is reported too,
since a fault stands behind a sequence of tokens. The parts of the whole are those of the two, with
the literal texts at the seam put together (`Template.join`).
-/

namespace Emend.Template

/-! ### Seams -/

/-- Whether the last token of a text takes nothing of another text that follows it: not both is the
token a reference by one digit and the first character of the other text a digit. -/
def Apart (text more : List Char) : Prop :=
  ∀ before d is, text = before ++ ['\\', d] → d.isDigit = true → Reads before is →
    ∀ e others, more = e :: others → e.isDigit = false

/-- Whether a text ends in a reference by one digit. What stands before its backslash is a template,
so the backslash is not itself escaped. -/
def EndsInDigit (s : String) : Prop :=
  ∃ (before : String) (d : Char), s = before ++ .ofList ['\\', d] ∧ d.isDigit = true ∧
    ∃ t, parse before = .ok t

/-- Whether a text begins with a digit. -/
def BeginsWithDigit (s : String) : Prop :=
  ∃ (d : Char) (rest : List Char), s.toList = d :: rest ∧ d.isDigit = true

theorem apart_of_not {s more : String} (h : ¬ (EndsInDigit s ∧ BeginsWithDigit more)) :
    Apart s.toList more.toList := by
  intro before d is hs hd reads e others hmore
  refine Bool.eq_false_iff.mpr fun he => h ⟨⟨.ofList before, d, ?_, hd, ?_⟩, e, others, hmore, he⟩
  · rw [← String.toList_inj, hs]
    simp
  · rw [exists_parse_eq_ok, String.toList_ofList]
    exact ⟨is, reads⟩

/-- Only the first character after a seam counts. -/
theorem Apart.of_append {text more rest : List Char} (h : Apart text (more ++ rest)) :
    Apart text more := by
  intro before d is htext hd reads e others hmore
  refine h before d is htext hd reads e (others ++ rest) ?_
  rw [hmore, List.cons_append]

/-- What ends in a reference by one digit does so with a token in front of it. -/
theorem Apart.tail {token rest more : List Char} {item : Item} (first : Token token item)
    (greedy : Greedy token rest) (h : Apart (token ++ rest) more) : Apart rest more := by
  intro before d is hrest hd reads
  subst hrest
  have longer : Reads (token ++ before) (item :: is) := .cons first greedy.of_append reads
  exact h (token ++ before) d (item :: is) (List.append_assoc ..).symm hd longer

/-- The last token of a text does not take what is apart from it. -/
theorem Greedy.across {token rest more : List Char} (greedy : Greedy token rest)
    (h : Apart (token ++ rest) more) : Greedy token (rest ++ more) := by
  cases rest with
  | cons c rest =>
    -- The token is followed by the same character as before.
    intro d e others htoken hd hrest
    obtain ⟨rfl, -⟩ := List.cons.inj hrest
    exact greedy d c rest htoken hd rfl
  | nil =>
    intro d e others htoken hd hmore
    have ends : token ++ [] = [] ++ ['\\', d] := by rw [htoken]; rfl
    exact h [] d [] ends hd .nil e others hmore

/-- Sequences of tokens that are apart are one sequence. -/
theorem Reads.append {text more : List Char} {is js : List Item} (h : Reads text is)
    (apart : Apart text more) (h' : Reads more js) : Reads (text ++ more) (is ++ js) := by
  induction h with
  | nil => exact h'
  | @cons token rest item is first greedy reads ih =>
    have later : Reads (rest ++ more) (is ++ js) := ih (apart.tail first greedy)
    have across : Greedy token (rest ++ more) := greedy.across apart
    rw [List.append_assoc, List.cons_append]
    exact .cons first across later

/-! ### Parts -/

/-- Parts followed by others. Two literal texts that meet become one. -/
def join : List Piece → List Piece → List Piece
  | [.literal text], .literal more :: rest => .literal (text ++ more) :: rest
  | [], others => others
  | p :: rest, others => p :: join rest others

/-- What does not look across the ends of literal texts is made of joined parts as of each. -/
theorem flatMap_join {α : Type} (f : Piece → List α)
    (h : ∀ text more, f (.literal (text ++ more)) = f (.literal text) ++ f (.literal more))
    (pieces others : List Piece) :
    (join pieces others).flatMap f = pieces.flatMap f ++ others.flatMap f := by
  fun_induction join pieces others with
  | case1 text more rest => simp [h]
  | case2 others => rfl
  | case3 p rest others _ ih => rw [List.flatMap_cons, List.flatMap_cons, ih, List.append_assoc]

theorem items_join (pieces others : List Piece) :
    items (join pieces others) = items pieces ++ items others :=
  flatMap_join _ (fun _ _ => List.map_append) pieces others

theorem packed_join {pieces others : List Piece} (h : Packed pieces) (h' : Packed others) :
    Packed (join pieces others) := by
  fun_induction join pieces others with
  | case1 text more rest =>
    obtain ⟨hne, -, -⟩ := h
    obtain ⟨-, alone, hrest⟩ := h'
    exact ⟨List.append_ne_nil_of_left_ne_nil hne more, alone, hrest⟩
  | case2 others => exact h'
  | case3 p rest others apart ih =>
    cases p with
    | group index => exact ih h h'
    | named name => exact ih h h'
    | literal text =>
      obtain ⟨hne, alone, hrest⟩ := h
      refine ⟨hne, fun more tail hjoin => ?_, ih hrest h'⟩
      -- A literal text after it would be one of the same parts, or one that it was joined with.
      cases rest with
      | nil => exact apart text more tail hjoin rfl rfl
      | cons q rest =>
        cases q with
        | group index => simp [join] at hjoin
        | named name => simp [join] at hjoin
        | literal next => exact alone next rest rfl

/-! ### Templates -/

section

variable {s more : String} {t : Template} (h : parse s = .ok t)
  (apart : ¬ (EndsInDigit s ∧ BeginsWithDigit more))
include h apart

/-- What is read of two templates in a row. -/
theorem parse_append_of_ok {u : Template} (hu : parse more = .ok u) :
    parse (s ++ more) = .ok ⟨s ++ more, join t.pieces u.pieces⟩ := by
  obtain ⟨-, packed, reads⟩ := parse_eq_ok.mp h
  obtain ⟨-, packed', reads'⟩ := parse_eq_ok.mp hu
  have clear : Apart s.toList more.toList := apart_of_not apart
  refine parse_eq_ok.mpr ⟨rfl, packed_join packed packed', ?_⟩
  rw [items_join, String.toList_append]
  exact reads.append clear reads'

/-- What is reported of a faulty text after a template. -/
theorem parse_append_of_error {f : TemplateFault} (hf : parse more = .error f) :
    parse (s ++ more) = .error ⟨s.utf8ByteSize + f.offset, f.fault⟩ := by
  obtain ⟨-, -, reads⟩ := parse_eq_ok.mp h
  obtain ⟨before, after, rfl, hoffset, ⟨u, hu⟩, malformed⟩ := parse_eq_error.mp hf
  obtain ⟨-, -, reads'⟩ := parse_eq_ok.mp hu
  -- What is read before the fault goes on from the first text.
  have clear : Apart s.toList before.toList := by
    have seam := apart_of_not apart
    rw [String.toList_append, String.toList_append] at seam
    exact seam.of_append.of_append
  have whole : Reads (s ++ before).toList (items t.pieces ++ items u.pieces) := by
    rw [String.toList_append]
    exact reads.append clear reads'
  have assoc : s ++ (before ++ "\\" ++ after) = s ++ before ++ "\\" ++ after := by
    simp only [String.append_assoc]
  have offset : (s ++ before).utf8ByteSize = s.utf8ByteSize + f.offset := by
    rw [String.utf8ByteSize_append, hoffset]
  exact parse_eq_error.mpr ⟨s ++ before, after, assoc, offset.symm,
    exists_parse_eq_ok.mpr ⟨_, whole⟩, malformed⟩

end

/-- **A template followed by another.** A text after a template is accepted exactly if it is by
itself. The parts of the whole are then those of both, and it is filled in as they are, one after
the other; a fault is the one of the second text, further on by the bytes of the first. -/
theorem parse_append {s more : String} {t : Template} (h : parse s = .ok t)
    (apart : ¬ (EndsInDigit s ∧ BeginsWithDigit more)) :
    ((∃ whole, parse (s ++ more) = .ok whole) ↔ ∃ u, parse more = .ok u) ∧
    (∀ u, parse more = .ok u → ∃ whole, parse (s ++ more) = .ok whole ∧
      whole.source = s ++ more ∧ whole.pieces = join t.pieces u.pieces ∧
      ∀ pattern m, whole.expand pattern m = t.expand pattern m ++ u.expand pattern m) ∧
    ∀ f, parse more = .error f →
      parse (s ++ more) = .error ⟨s.utf8ByteSize + f.offset, f.fault⟩ := by
  refine ⟨⟨?_, ?_⟩, ?_, fun f hf => parse_append_of_error h apart hf⟩
  · rintro ⟨whole, hwhole⟩
    cases hmore : parse more with
    | ok u => exact ⟨u, rfl⟩
    | error f =>
      rw [parse_append_of_error h apart hmore] at hwhole
      cases hwhole
  · rintro ⟨u, hu⟩
    exact ⟨_, parse_append_of_ok h apart hu⟩
  · intro u hu
    refine ⟨_, parse_append_of_ok h apart hu, rfl, rfl, fun pattern m => ?_⟩
    exact flatMap_join _ (fun _ _ => rfl) t.pieces u.pieces

/-- A digit after a template that ends in something else than a reference by one digit. -/
theorem parse_append_digit :
    (∃ whole, parse ("\\12x" ++ "3\\1") = .ok whole ∧
      whole.pieces = [.group 12, .literal ['x', '3'], .group 1]) ∧
    parse ("\\12x" ++ "3\\q") = .error ⟨5, .unknown⟩ := by
  have first : parse "\\12x" = .ok ⟨"\\12x", [.group 12, .literal ['x']]⟩ := by decide +kernel
  have second : parse "3\\1" = .ok ⟨"3\\1", [.literal ['3'], .group 1]⟩ := by decide +kernel
  have faulty : parse "3\\q" = .error ⟨1, .unknown⟩ := by decide +kernel
  have apart (more : String) : ¬ (EndsInDigit "\\12x" ∧ BeginsWithDigit more) := by
    rintro ⟨⟨before, d, hs, hd, -⟩, -⟩
    have last := congrArg (fun s => s.toList.getLast?) hs
    obtain rfl : 'x' = d := by simpa using last
    exact absurd hd (by decide)
  obtain ⟨whole, hwhole, -, hpieces, -⟩ := (parse_append first (apart _)).2.1 _ second
  exact ⟨⟨whole, hwhole, hpieces⟩, (parse_append first (apart _)).2.2 _ faulty⟩

example : (parse ("\\1" ++ "2")).map (·.pieces) = .ok [.group 12] := by decide +kernel

end Emend.Template
