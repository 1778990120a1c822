import Emend.Proofs.Rule.Parse

/-!
# Writing templates

Parts can be written as a template that is read as just these parts (`Template.parse_render`):
backslashes are written twice, and all references between angle brackets. This takes that the parts
are canonical (`Template.Canonical`), which the parts of all templates are, so there is a written
form for each of them. In particular each text is what some template without references stands for.

A written item is a token that does not depend on what follows it (`Template.Item.greedy_render`),
so written items are read one by one (`Template.reads_render`).
-/

namespace Emend.Template

/-! ### Canonical parts -/

/-- What parts must be to be those of a template. -/
structure Canonical (pieces : List Piece) : Prop where
  /-- No literal text is empty, and no two are neighbours. -/
  packed : Packed pieces
  numbers : ∀ index, .group index ∈ pieces → index < groupBound
  names : ∀ name, .named name ∈ pieces → isGroupName name.toList = true

/-- Whether a template can refer to what an item refers to. -/
def Item.Referable : Item → Prop
  | char _ => True
  | group index => index < groupBound
  | named name => isGroupName name.toList = true

/-- Canonical parts are made of items that can be referred to. -/
theorem canonical_iff {pieces : List Piece} :
    Canonical pieces ↔ Packed pieces ∧ ∀ i ∈ items pieces, i.Referable := by
  constructor
  · intro h
    refine ⟨h.packed, fun i hi => ?_⟩
    obtain ⟨p, hp, hi⟩ := List.mem_flatMap.mp hi
    cases p with
    | literal text =>
      obtain ⟨c, -, rfl⟩ := List.mem_map.mp hi
      trivial
    | group index =>
      obtain rfl := List.mem_singleton.mp hi
      exact h.numbers index hp
    | named name =>
      obtain rfl := List.mem_singleton.mp hi
      exact h.names name hp
  · rintro ⟨packed, referable⟩
    refine ⟨packed, fun index h => ?_, fun name h => ?_⟩
    · exact referable (.group index) (List.mem_flatMap.mpr ⟨_, h, List.mem_singleton_self _⟩)
    · exact referable (.named name) (List.mem_flatMap.mpr ⟨_, h, List.mem_singleton_self _⟩)

/-! ### Items that are read -/

/-- A number of one or two digits is small. -/
theorem ofDigitChars_pair {d e : Char} (hd : d.isDigit = true) (he : e.isDigit = true) :
    Nat.ofDigitChars 10 [d] 0 < 100 ∧ Nat.ofDigitChars 10 [d, e] 0 < 100 := by
  have first : d.toNat ≤ 57 := (Char.isDigit_iff_toNat.mp hd).2
  have second : e.toNat ≤ 57 := (Char.isDigit_iff_toNat.mp he).2
  have zero : '0'.toNat = 48 := rfl
  simp only [Nat.ofDigitChars_cons, Nat.ofDigitChars_nil, zero]
  omega

theorem Refers.referable {body : List Char} {item : Item} (h : Refers body item) :
    item.Referable := by
  cases h with
  | number _ numeral => exact numeral.fits
  | @name c rest first others =>
    show isGroupName (String.ofList (c :: rest)).toList = true
    rw [String.toList_ofList]
    exact isGroupName_iff.mpr (.name first others)

theorem Token.referable {token : List Char} {item : Item} (h : Token token item) :
    item.Referable := by
  have large : 100 < groupBound := by decide
  cases h with
  | plain => trivial
  | escape h =>
    cases h with
    | oneDigit digit => exact Nat.lt_trans (ofDigitChars_pair digit digit).1 large
    | twoDigits digit _ digit' => exact Nat.lt_trans (ofDigitChars_pair digit digit').2 large
    | reference _ refers => exact refers.referable
    | newline => trivial
    | tab => trivial
    | carriageReturn => trivial
    | itself => trivial

theorem Reads.referable {text : List Char} {is : List Item} (h : Reads text is) :
    ∀ i ∈ is, i.Referable := by
  induction h with
  | nil => intro i hi; cases hi
  | cons first _ _ ih => exact List.forall_mem_cons.mpr ⟨first.referable, ih⟩

/-- The parts of a template are canonical. -/
theorem canonical_of_parse_eq_ok {s : String} {t : Template} (h : parse s = .ok t) :
    Canonical t.pieces := by
  obtain ⟨-, packed, reads⟩ := parse_eq_ok.mp h
  exact canonical_iff.mpr ⟨packed, reads.referable⟩

/-! ### Written items -/

/-- How an item is written. -/
def Item.render : Item → List Char
  | char c => if c = '\\' then ['\\', '\\'] else [c]
  | group index => '\\' :: 'g' :: '<' :: (Nat.toDigits 10 index ++ ['>'])
  | named name => '\\' :: 'g' :: '<' :: (name.toList ++ ['>'])

/-- How a part is written. Each backslash of a literal text is written twice. -/
def Piece.render : Piece → List Char
  | literal text => text.flatMap fun c => (Item.char c).render
  | group index => (Item.group index).render
  | named name => (Item.named name).render

/-- How parts are written. -/
def render (pieces : List Piece) : String := .ofList (pieces.flatMap Piece.render)

theorem numeral_toDigits {index : Nat} (h : index < groupBound) :
    Numeral (Nat.toDigits 10 index) where
  ne_nil := Nat.toDigits_ne_nil
  all_digits c hc := Nat.isDigit_of_mem_toDigits (by decide) (by decide) hc
  fits := by
    rw [Nat.ofDigitChars_ten_toDigits]
    exact h

/-- No number and no name goes on past the closing bracket. -/
theorem not_mem_toDigits (index : Nat) : '>' ∉ Nat.toDigits 10 index := by
  intro h
  have digit := Nat.isDigit_of_mem_toDigits (by decide) (by decide) h
  exact absurd digit (by decide)

theorem not_mem_of_isGroupName {body : List Char} (h : isGroupName body = true) :
    '>' ∉ body := by
  have letter : Unicode.isAlphabetic '>' = false := by decide +kernel
  have other : Unicode.isAlphanumeric '>' = false := by decide +kernel
  intro hmem
  cases body with
  | nil => cases hmem
  | cons c rest =>
    rw [isGroupName, Bool.and_eq_true, List.all_eq_true] at h
    rcases List.mem_cons.mp hmem with rfl | hmem
    · simp [letter] at h
    · simpa [other] using h.2 '>' hmem

/-- What is written of an item stands for it. -/
theorem Item.token_render {i : Item} (h : i.Referable) : Token i.render i := by
  cases i with
  | char c =>
    rw [render]
    split
    · next hc =>
      -- A backslash is written as the escape that stands for itself.
      subst hc
      exact .escape (.itself (by decide +kernel))
    · next hc => exact .plain hc
  | group index =>
    have refers : Refers (Nat.toDigits 10 index) (.group index) := by
      have number : Refers ([] ++ Nat.toDigits 10 index) _ := .number (.inl rfl) (numeral_toDigits h)
      rwa [Nat.ofDigitChars_ten_toDigits] at number
    exact .escape (.reference (not_mem_toDigits index) refers)
  | named name =>
    have refers : Refers name.toList (.named name) := by
      have named := isGroupName_iff.mp h
      rwa [String.ofList_toList] at named
    exact .escape (.reference (not_mem_of_isGroupName h) refers)

/-- No item is written as a reference by one digit. -/
theorem Item.greedy_render (i : Item) (rest : List Char) : Greedy i.render rest := by
  intro d e more htoken hd _
  cases i with
  | char c =>
    rw [render] at htoken
    split at htoken
    · -- What follows the backslash is another one, not a digit.
      obtain rfl : '\\' = d := by simpa using htoken
      exact absurd hd (by decide)
    · simp at htoken
  | group index => simp [render] at htoken
  | named name => simp [render] at htoken

/-- Written items are read one by one. -/
theorem reads_render {is : List Item} (h : ∀ i ∈ is, i.Referable) :
    Reads (is.flatMap Item.render) is := by
  induction is with
  | nil => exact .nil
  | cons i is ih =>
    obtain ⟨first, later⟩ := List.forall_mem_cons.mp h
    rw [List.flatMap_cons]
    exact .cons (Item.token_render first) (i.greedy_render _) (ih later)

/-! ### Written parts -/

/-- Parts are written item by item. -/
theorem toList_render (pieces : List Piece) :
    (render pieces).toList = (items pieces).flatMap Item.render := by
  have part : Piece.render = fun p => p.items.flatMap Item.render := by
    funext p
    cases p with
    | literal text => rw [Piece.render, Piece.items, List.flatMap_map]
    | group index => simp [Piece.render, Piece.items]
    | named name => simp [Piece.render, Piece.items]
  rw [render, String.toList_ofList, items, List.flatMap_assoc, part]

theorem parse_render_of_canonical {pieces : List Piece} (h : Canonical pieces) :
    parse (render pieces) = .ok ⟨render pieces, pieces⟩ := by
  obtain ⟨packed, referable⟩ := canonical_iff.mp h
  refine parse_eq_ok.mpr ⟨rfl, packed, ?_⟩
  rw [toList_render]
  exact reads_render referable

theorem canonical_literal {text : List Char} (h : text ≠ []) : Canonical [.literal text] where
  packed := ⟨h, nofun, trivial⟩
  numbers index hmem := by simp at hmem
  names name hmem := by simp at hmem

/-- **Templates can be written.** The parts of each template are canonical, canonical parts are what
is read of their written form, and each text is what the written form of a literal text stands for,
whatever is matched. -/
theorem parse_render :
    (∀ s t, parse s = .ok t → Canonical t.pieces) ∧
    (∀ pieces, Canonical pieces → parse (render pieces) = .ok ⟨render pieces, pieces⟩) ∧
    ∀ text : List Char, ∃ t, parse (render [.literal text]) = .ok t ∧ t.isLiteral = true ∧
      ∀ pattern m, t.expand pattern m = text := by
  refine ⟨fun s t => canonical_of_parse_eq_ok, fun pieces => parse_render_of_canonical, ?_⟩
  intro text
  by_cases empty : text = []
  · -- The empty text is written as the template without parts.
    subst empty
    exact ⟨⟨"", []⟩, parse_eq_ok.mpr ⟨rfl, trivial, .nil⟩, rfl, fun _ _ => rfl⟩
  · refine ⟨_, parse_render_of_canonical (canonical_literal empty), rfl, fun pattern m => ?_⟩
    simp [expand, Piece.expand]

/-- What looks like references and escapes in these parts is text, a digit follows a reference, and
the number is the largest that there is. -/
def trickyParts : List Piece :=
  [.literal ['\\', '1', '$', '\x7b'], .group 18446744073709551615, .literal ['7', '\n'],
    .named "n", .group 0]

theorem parse_render_trickyParts :
    render trickyParts = "\\\\1$\x7b\\g<18446744073709551615>7\n\\g<n>\\g<0>" ∧
      Canonical trickyParts ∧ parse (render trickyParts) = .ok ⟨render trickyParts, trickyParts⟩ ∧
      parse "\\12$\\n" = .ok ⟨"\\12$\\n", [.group 12, .literal ['$', '\n']]⟩ ∧
      Canonical [.group 12, .literal ['$', '\n']] := by
  have canonical : Canonical trickyParts := by
    refine ⟨by simp [Packed, trickyParts], fun index h => ?_, fun name h => ?_⟩
    · have either : index = 18446744073709551615 ∨ index = 0 := by simpa [trickyParts] using h
      rcases either with rfl | rfl <;> decide
    · obtain rfl : name = "n" := by simpa [trickyParts] using h
      decide +kernel
  have read : parse "\\12$\\n" = .ok ⟨"\\12$\\n", [.group 12, .literal ['$', '\n']]⟩ := by
    decide +kernel
  exact ⟨by decide +kernel, canonical, parse_render.2.1 trickyParts canonical, read,
    parse_render.1 _ _ read⟩

end Emend.Template
