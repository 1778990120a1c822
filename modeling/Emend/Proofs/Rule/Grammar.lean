import Emend.Rule.Template

/-!
# The grammar of templates

What a template may be, said without a reader: a sequence of characters other than the backslash and
of escapes, each of which stands for a character or for a group (`Template.Reads`). A reference by
one digit takes the digit after it too, if there is one (`Template.Greedy`); nothing else in a
template depends on what follows.

`Template.Malformed` says what is wrong with a text after a backslash that no escape begins.

A template keeps its parts with the characters between groups put together. `Template.pack` does
that to a sequence of single ones and `Template.items` undoes it (`items_pack`, `pack_items`), so
the parts are one way only to write a sequence.
-/

namespace Emend.Template

/-- What a template is a sequence of. -/
inductive Item where
  | char (c : Char)
  | group (index : Nat)
  | named (name : String)
  deriving DecidableEq, Repr, Inhabited

/-! ### Escapes -/

/-- Digits that write a number which fits into 64 bits. -/
structure Numeral (digits : List Char) : Prop where
  ne_nil : digits ≠ []
  all_digits : ∀ c ∈ digits, c.isDigit = true
  fits : Nat.ofDigitChars 10 digits 0 < Nat.pow 2 64

/-- The text between angle brackets refers to a group: by a number, perhaps with a plus sign, or by
a name. -/
inductive Refers : List Char → Item → Prop
  | number {sign digits : List Char} (signed : sign = [] ∨ sign = ['+'])
      (numeral : Numeral digits) :
      Refers (sign ++ digits) (.group (Nat.ofDigitChars 10 digits 0))
  | name {c : Char} {rest : List Char} (first : Unicode.isAlphabetic c = true ∨ c = '_')
      (others : ∀ d ∈ rest, Unicode.isAlphanumeric d = true ∨ d = '_') :
      Refers (c :: rest) (.named (.ofList (c :: rest)))

/-- An escape, without its backslash, and what it stands for. -/
inductive Escape : List Char → Item → Prop
  | oneDigit {d : Char} (digit : d.isDigit = true) (not_zero : d ≠ '0') :
      Escape [d] (.group (Nat.ofDigitChars 10 [d] 0))
  | twoDigits {d e : Char} (digit : d.isDigit = true) (not_zero : d ≠ '0')
      (digit' : e.isDigit = true) : Escape [d, e] (.group (Nat.ofDigitChars 10 [d, e] 0))
  | reference {body : List Char} {item : Item} (within : '>' ∉ body) (refers : Refers body item) :
      Escape ('g' :: '<' :: (body ++ ['>'])) item
  | newline : Escape ['n'] (.char '\n')
  | tab : Escape ['t'] (.char '\t')
  | carriageReturn : Escape ['r'] (.char '\r')
  | itself {c : Char} (plain : Unicode.isAlphanumeric c = false) : Escape [c] (.char c)

/-- What stands for one item. -/
inductive Token : List Char → Item → Prop
  | plain {c : Char} (h : c ≠ '\\') : Token [c] (.char c)
  | escape {text : List Char} {item : Item} (h : Escape text item) : Token ('\\' :: text) item

/-- A reference by one digit is not followed by a digit. -/
def Greedy (token rest : List Char) : Prop :=
  ∀ d e more, token = ['\\', d] → d.isDigit = true → rest = e :: more → e.isDigit = false

/-- A text is a sequence of tokens, from left to right. -/
inductive Reads : List Char → List Item → Prop
  | nil : Reads [] []
  | cons {token rest : List Char} {item : Item} {items : List Item} (first : Token token item)
      (greedy : Greedy token rest) (more : Reads rest items) : Reads (token ++ rest) (item :: items)

/-- What is said of a text after a backslash with which no escape begins. -/
inductive Malformed : List Char → String → Prop
  | trailingBackslash : Malformed [] "trailing backslash"
  | zero {rest : List Char} : Malformed ('0' :: rest) "use \\g<0> to insert the whole match"
  | noBracket {rest : List Char} (h : ∀ more, rest ≠ '<' :: more) :
      Malformed ('g' :: rest) "expected `<` after \\g"
  | unterminated {rest : List Char} (h : '>' ∉ rest) :
      Malformed ('g' :: '<' :: rest) "unterminated group reference"
  | badName {body rest : List Char} (within : '>' ∉ body) (h : ∀ item, ¬ Refers body item) :
      Malformed ('g' :: '<' :: (body ++ '>' :: rest)) "bad group name"
  | unknown {c : Char} {rest : List Char} (h : Unicode.isAlphanumeric c = true)
      (not_digit : c.isDigit = false) (other : c ∉ ['g', 'n', 't', 'r']) :
      Malformed (c :: rest) "unknown escape"

/-! ### The parts of a template -/

/-- The part that is one item. -/
def Item.piece : Item → Piece
  | char c => .literal [c]
  | group index => .group index
  | named name => .named name

/-- The items that a part is made of. -/
def Piece.items : Piece → List Item
  | literal text => text.map .char
  | group index => [.group index]
  | named name => [.named name]

/-- The items that parts are made of. -/
def items (pieces : List Piece) : List Item := pieces.flatMap Piece.items

/-- The parts that items make up. -/
def pack (is : List Item) : List Piece := is.foldr (fun i pieces => glue i.piece pieces) []

/-- Whether literal texts are as long as can be: none is empty, and no two are neighbours. -/
def Packed : List Piece → Prop
  | [] => True
  | .literal text :: rest =>
    text ≠ [] ∧ (∀ more others, rest ≠ .literal more :: others) ∧ Packed rest
  | _ :: rest => Packed rest

@[simp] theorem items_piece (i : Item) : i.piece.items = [i] := by
  cases i <;> rfl

theorem items_glue (p : Piece) (pieces : List Piece) :
    items (glue p pieces) = p.items ++ items pieces := by
  unfold glue
  split
  · simp [items, Piece.items]
  · rfl

/-- No item is lost when items are put together. -/
theorem items_pack (is : List Item) : items (pack is) = is := by
  induction is with
  | nil => rfl
  | cons i is ih =>
    rw [pack, List.foldr_cons, items_glue, items_piece]
    exact congrArg _ ih

theorem packed_glue (i : Item) {pieces : List Piece} (h : Packed pieces) :
    Packed (glue i.piece pieces) := by
  cases i with
  | char c =>
    rw [Item.piece]
    unfold glue
    split
    · next heq =>
      cases heq
      exact ⟨by simp, h.2⟩
    · next hne =>
      exact ⟨by simp, fun more others hmore => hne _ _ _ rfl hmore, h⟩
  | group index => exact h
  | named name => exact h

theorem packed_pack (is : List Item) : Packed (pack is) := by
  induction is with
  | nil => trivial
  | cons i is ih => exact packed_glue i ih

/-- A character in front of a literal text in front of parts. -/
theorem glue_char_glue (c : Char) (text : List Char) (pieces : List Piece) :
    glue (.literal [c]) (glue (.literal text) pieces) = glue (.literal (c :: text)) pieces := by
  cases pieces with
  | nil => rfl
  | cons p rest =>
    cases p with
    | literal other => rfl
    | group index => rfl
    | named name => rfl

theorem foldr_chars {text : List Char} (h : text ≠ []) (pieces : List Piece) :
    (text.map Item.char).foldr (fun i pieces => glue i.piece pieces) pieces =
      glue (.literal text) pieces := by
  induction text with
  | nil => exact absurd rfl h
  | cons c text ih =>
    rw [List.map_cons, List.foldr_cons]
    cases text with
    | nil => rfl
    | cons d text =>
      rw [ih (by simp)]
      exact glue_char_glue c (d :: text) pieces

/-- There is one way only to put items together. -/
theorem pack_items {pieces : List Piece} (h : Packed pieces) : pack (items pieces) = pieces := by
  induction pieces with
  | nil => rfl
  | cons p rest ih =>
    rw [items, List.flatMap_cons, pack, List.foldr_append]
    cases p with
    | literal text =>
      -- Its characters come together again, and no literal text follows that would join them.
      obtain ⟨hne, alone, hrest⟩ := h
      rw [show List.foldr _ _ (List.flatMap _ rest) = rest from ih hrest, Piece.items,
        foldr_chars hne]
      unfold glue
      split
      · next heq _ => exact absurd rfl (alone _ _)
      · rfl
    | group index => exact congrArg (Piece.group index :: ·) (ih h)
    | named name => exact congrArg (Piece.named name :: ·) (ih h)

end Emend.Template
