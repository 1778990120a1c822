import Emend.Proofs.Rule.Escape

/-!
# Reading templates

`Template.parse` accepts the sequences of tokens, and no others, and its parts denote the sequence;
otherwise it says where the first faulty escape begins and what is wrong with it
(`Template.parse_grammar`).

Reading goes on after a token as it would from the start (`Template.Token.parseFrom`), and therefore
after a sequence of tokens too (`Template.Reads.parseFrom_append`). That all texts are sequences of
tokens, or such sequences in front of a faulty escape (`Template.reads_or_malformed`), makes of this
both what is accepted and what is reported.
-/

namespace Emend.Template

/-! ### Bytes -/

theorem byteLength_append (text more : List Char) :
    byteLength (text ++ more) = byteLength text + byteLength more := by
  induction text with
  | nil => simp [byteLength]
  | cons c text ih => rw [List.cons_append, byteLength, byteLength, ih, Nat.add_assoc]

/-- The bytes of a text are those of its characters. -/
theorem byteLength_toList (s : String) : byteLength s.toList = s.utf8ByteSize := by
  have chars : ∀ text : List Char, byteLength text = (String.ofList text).utf8ByteSize := by
    intro text
    induction text with
    | nil => rfl
    | cons c text ih =>
      rw [byteLength, ih, ← List.singleton_append, String.ofList_append,
        String.utf8ByteSize_append, ← String.singleton_eq_ofList, String.utf8ByteSize_singleton]
  rw [chars, String.ofList_toList]

/-! ### One token -/

theorem Greedy.of_append {token rest more : List Char} (h : Greedy token (rest ++ more)) :
    Greedy token rest := by
  rintro d e others htoken hd rfl
  exact h d e (others ++ more) htoken hd rfl

theorem Greedy.append {token rest more : List Char} (h : Greedy token rest)
    (seam : ∀ e others, more = e :: others → e.isDigit = false) : Greedy token (rest ++ more) := by
  intro d e others htoken hd hrest
  cases rest with
  | nil => exact seam e others hrest
  | cons e' rest =>
    obtain rfl : e' = e := by simpa using congrArg List.head? hrest
    exact h d e' rest htoken hd rfl

/-- Only an escape looks at what follows it. -/
theorem greedy_plain (c : Char) (rest : List Char) : Greedy [c] rest :=
  fun _ _ _ htoken => by simp at htoken

theorem parseFrom_escape {text rest : List Char} {p : Piece} (h : readEscape text = .ok (p, rest))
    (offset : Nat) : parseFrom offset ('\\' :: text) =
      (parseFrom (offset + byteLength ('\\' :: text) - byteLength rest) rest).map (glue p) := by
  rw [parseFrom, if_pos rfl]
  split
  · next h' =>
    rw [h] at h'
    cases h'
  · next h' =>
    rw [h] at h'
    cases h'
    rfl

theorem parseFrom_malformed {text : List Char} {fault : EscapeFault}
    (h : readEscape text = .error fault) (offset : Nat) :
    parseFrom offset ('\\' :: text) = .error ⟨offset, fault⟩ := by
  rw [parseFrom, if_pos rfl]
  split
  · next h' =>
    rw [h] at h'
    cases h'
    rfl
  · next h' =>
    rw [h] at h'
    cases h'

/-- A token is read, and what follows is read as if it stood alone. -/
theorem Token.parseFrom {token : List Char} {item : Item} (h : Token token item)
    {rest : List Char} (greedy : Greedy token rest) (offset : Nat) :
    parseFrom offset (token ++ rest) =
      (parseFrom (offset + byteLength token) rest).map (glue item.piece) := by
  cases h with
  | @plain c hc =>
    rw [List.singleton_append, Template.parseFrom, if_neg hc]
    rfl
  | @escape text item he =>
    -- The reader takes the bytes of the token for the difference of two lengths.
    have bytes : offset + byteLength ('\\' :: (text ++ rest)) - byteLength rest =
        offset + byteLength ('\\' :: text) := by
      rw [← List.cons_append, byteLength_append]
      omega
    rw [List.cons_append, parseFrom_escape (he.readEscape greedy), bytes]

/-! ### Sequences of tokens -/

/-- After a sequence of tokens what follows is read as if it stood alone, unless it could go on with
a reference by one digit. -/
theorem Reads.parseFrom_append {text : List Char} {is : List Item} (h : Reads text is)
    {rest : List Char} (seam : ∀ e others, rest = e :: others → e.isDigit = false) (offset : Nat) :
    parseFrom offset (text ++ rest) = (parseFrom (offset + byteLength text) rest).map
      fun pieces => is.foldr (fun i pieces => glue i.piece pieces) pieces := by
  induction h generalizing offset with
  | nil =>
    cases hp : parseFrom offset rest <;> simp [byteLength, hp, Except.map]
  | @cons token more item is first greedy reads ih =>
    rw [List.append_assoc, first.parseFrom (greedy.append seam), ih, byteLength_append,
      Nat.add_assoc]
    cases parseFrom (offset + (byteLength token + byteLength more)) rest <;> rfl

/-- A sequence of tokens is read. -/
theorem Reads.parseFrom {text : List Char} {is : List Item} (h : Reads text is) (offset : Nat) :
    parseFrom offset text = .ok (pack is) := by
  have whole : Template.parseFrom offset (text ++ []) = _ := h.parseFrom_append (by simp) offset
  rw [List.append_nil, Template.parseFrom] at whole
  exact whole

/-- A text is a sequence of tokens in one way. -/
theorem Reads.unique {text : List Char} {is js : List Item} (h : Reads text is)
    (h' : Reads text js) : is = js := by
  have same : pack is = pack js := Except.ok.inj ((h.parseFrom 0).symm.trans (h'.parseFrom 0))
  rw [← items_pack is, same, items_pack]

/-- Every text is a sequence of tokens, up to its end or up to a faulty escape. -/
theorem reads_or_malformed (text : List Char) :
    (∃ is, Reads text is) ∨ ∃ before after message, text = before ++ '\\' :: after ∧
      (∃ is, Reads before is) ∧ Malformed after message := by
  -- The first token is followed by a shorter text, of which the same is true.
  have step : ∀ {token rest item}, Token token item → Greedy token rest →
      ((∃ is, Reads rest is) ∨ ∃ before after message, rest = before ++ '\\' :: after ∧
        (∃ is, Reads before is) ∧ Malformed after message) →
      (∃ is, Reads (token ++ rest) is) ∨ ∃ before after message,
        token ++ rest = before ++ '\\' :: after ∧ (∃ is, Reads before is) ∧
          Malformed after message := by
    rintro token rest item first greedy
      (⟨is, reads⟩ | ⟨before, after, message, rfl, ⟨is, reads⟩, hm⟩)
    · exact .inl ⟨_, .cons first greedy reads⟩
    · exact .inr ⟨token ++ before, after, message, by simp,
        ⟨_, .cons first greedy.of_append reads⟩, hm⟩
  match text with
  | [] => exact .inl ⟨[], .nil⟩
  | c :: text =>
    by_cases hc : c = '\\'
    · subst hc
      rcases escape_or_malformed text with ⟨escape, item, rest, he, greedy, htext⟩ | ⟨message, hm⟩
      · rw [htext]
        exact step (.escape he) greedy (reads_or_malformed rest)
      · exact .inr ⟨[], text, message, rfl, ⟨[], .nil⟩, hm⟩
    · exact step (.plain hc) (greedy_plain c text) (reads_or_malformed text)
termination_by text.length
decreasing_by
  · rw [List.length_cons, htext, List.length_append]
    omega
  · exact Nat.lt_succ_self _

/-- A faulty escape after a sequence of tokens is reported. -/
theorem Reads.parseFrom_malformed {before after : List Char} {is : List Item}
    (h : Reads before is) {fault : EscapeFault} (hm : Malformed after fault.message)
    (offset : Nat) : Template.parseFrom offset (before ++ '\\' :: after) =
      .error ⟨offset + byteLength before, fault⟩ := by
  have seam : ∀ e others, '\\' :: after = e :: others → e.isDigit = false := by
    rintro e others ⟨⟩
    decide
  rw [h.parseFrom_append seam, Template.parseFrom_malformed (readEscape_eq_error.mpr hm)]
  rfl

/-- What is accepted from a place on. -/
theorem parseFrom_eq_ok {text : List Char} {offset : Nat} {pieces : List Piece} :
    parseFrom offset text = .ok pieces ↔ ∃ is, Reads text is ∧ pieces = pack is := by
  constructor
  · intro h
    -- A text is one or the other, and what is read of it says which.
    rcases reads_or_malformed text with ⟨is, reads⟩ | ⟨before, after, m, rfl, ⟨is, reads⟩, hm⟩
    · exact ⟨is, reads, Except.ok.inj (h.symm.trans (reads.parseFrom offset))⟩
    · obtain ⟨fault, -, rfl⟩ := hm.readEscape
      rw [reads.parseFrom_malformed hm] at h
      cases h
  · rintro ⟨is, reads, rfl⟩
    exact reads.parseFrom offset

/-- What is reported from a place on. -/
theorem parseFrom_eq_error {text : List Char} {offset : Nat} {f : TemplateFault} :
    parseFrom offset text = .error f ↔ ∃ before after, text = before ++ '\\' :: after ∧
      f.offset = offset + byteLength before ∧ (∃ is, Reads before is) ∧
      Malformed after f.fault.message := by
  constructor
  · intro h
    rcases reads_or_malformed text with ⟨is, reads⟩ | ⟨before, after, m, rfl, ⟨is, reads⟩, hm⟩
    · rw [reads.parseFrom offset] at h
      cases h
    · obtain ⟨fault, -, rfl⟩ := hm.readEscape
      obtain rfl := Except.error.inj (h.symm.trans (reads.parseFrom_malformed hm offset))
      exact ⟨before, after, rfl, rfl, ⟨is, reads⟩, hm⟩
  · rintro ⟨before, after, rfl, hoffset, ⟨is, reads⟩, hm⟩
    rw [reads.parseFrom_malformed hm, ← hoffset]

/-! ### Whole templates -/

theorem parse_eq_ok {s : String} {t : Template} :
    parse s = .ok t ↔ t.source = s ∧ Packed t.pieces ∧ Reads s.toList (items t.pieces) := by
  simp only [parse, Except.map_eq_ok, parseFrom_eq_ok]
  constructor
  · rintro ⟨pieces, ⟨is, reads, rfl⟩, rfl⟩
    refine ⟨rfl, packed_pack is, ?_⟩
    rw [items_pack]
    exact reads
  · rintro ⟨rfl, packed, reads⟩
    exact ⟨t.pieces, ⟨_, reads, (pack_items packed).symm⟩, rfl⟩

/-- A template is accepted if it is a sequence of tokens. -/
theorem exists_parse_eq_ok {s : String} : (∃ t, parse s = .ok t) ↔ ∃ is, Reads s.toList is := by
  constructor
  · rintro ⟨t, h⟩
    exact ⟨_, (parse_eq_ok.mp h).2.2⟩
  · rintro ⟨is, reads⟩
    exact ⟨⟨s, pack is⟩, parse_eq_ok.mpr ⟨rfl, packed_pack is, by rwa [items_pack]⟩⟩

theorem parse_eq_error {s : String} {f : TemplateFault} :
    parse s = .error f ↔ ∃ before after : String, s = before ++ "\\" ++ after ∧
      f.offset = before.utf8ByteSize ∧ (∃ t, parse before = .ok t) ∧
      Malformed after.toList f.fault.message := by
  rw [parse, Except.map_eq_error, parseFrom_eq_error]
  constructor
  · rintro ⟨before, after, htext, hoffset, reads, hm⟩
    refine ⟨.ofList before, .ofList after, ?_, ?_, ?_, ?_⟩
    · rw [← String.toList_inj, htext]
      simp
    · rw [hoffset, Nat.zero_add, ← byteLength_toList, String.toList_ofList]
    · rwa [exists_parse_eq_ok, String.toList_ofList]
    · rwa [String.toList_ofList]
  · rintro ⟨before, after, rfl, hoffset, accepted, hm⟩
    refine ⟨before.toList, after.toList, ?_, ?_, exists_parse_eq_ok.mp accepted, hm⟩
    · simp
    · rw [hoffset, Nat.zero_add, byteLength_toList]

/-- **The grammar of templates.** A template is accepted if it is a sequence of tokens. Its parts
are that sequence, with literal texts as long as can be. A template that is not accepted has a
faulty escape after a part that is; the fault is what is wrong with the text after the backslash,
and its offset is the byte at which the backslash stands. -/
theorem parse_grammar (s : String) :
    ((∃ t, parse s = .ok t) ↔ ∃ is, Reads s.toList is) ∧
      (∀ t, parse s = .ok t ↔
        t.source = s ∧ Packed t.pieces ∧ Reads s.toList (items t.pieces)) ∧
      ∀ f, parse s = .error f ↔ ∃ before after : String, s = before ++ "\\" ++ after ∧
        f.offset = before.utf8ByteSize ∧ (∃ t, parse before = .ok t) ∧
        Malformed after.toList f.fault.message :=
  ⟨exists_parse_eq_ok, fun _ => parse_eq_ok, fun _ => parse_eq_error⟩

end Emend.Template
