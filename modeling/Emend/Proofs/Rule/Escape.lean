import Emend.Proofs.Except
import Emend.Proofs.Rule.Grammar

/-!
# Reading escapes

What follows a backslash is read as an escape exactly if one begins there
(`Template.readEscape_eq_ok`), and otherwise the fault is the one that the text has
(`Template.readEscape_eq_error`).

`Template.readEscape` chooses by the first character. There is first one equation for each choice;
both directions of both results then only put these together.
-/

namespace Emend

/-! ### Digits -/

theorem Decimal.value_eq (digits : List Char) : value digits = Nat.ofDigitChars 10 digits 0 := by
  rw [Nat.ofDigitChars_eq_foldl]
  rfl

namespace Unicode

theorem isAscii_digit {c : Char} (h : c.isDigit = true) : isAscii c = true := by
  have last : c.toNat ≤ 57 := (Char.isDigit_iff_toNat.mp h).2
  simp only [isAscii, decide_eq_true_eq]
  omega

/-- No plain digit is a letter. -/
theorem isAlphabetic_digit {c : Char} (h : c.isDigit = true) : isAlphabetic c = false := by
  have last : c.toNat ≤ 57 := (Char.isDigit_iff_toNat.mp h).2
  have upper : c.isUpper = decide (65 ≤ c.val ∧ c.val ≤ 90) := rfl
  have lower : c.isLower = (decide (97 ≤ c.val) && decide (c.val ≤ 122)) := rfl
  have letter : c.isAlpha = (c.isUpper || c.isLower) := rfl
  have notUpper : ¬ 65 ≤ c.toNat := by omega
  have notLower : ¬ 97 ≤ c.toNat := by omega
  rw [isAlphabetic, if_pos (isAscii_digit h), letter, upper, lower]
  simp [UInt32.le_iff_toNat_le, notUpper, notLower]

theorem isAlphanumeric_digit {c : Char} (h : c.isDigit = true) : isAlphanumeric c = true := by
  rw [isAlphanumeric, if_pos (isAscii_digit h), Char.isAlphanum, h, Bool.or_true]

end Unicode

/-- Each fault has a message of its own. -/
theorem EscapeFault.message_inj {f g : EscapeFault} (h : f.message = g.message) : f = g := by
  cases f <;> cases g <;> first | rfl | exact absurd h (by decide)

namespace Template

/-! ### References -/

theorem numeral_iff {digits : List Char} :
    (!digits.isEmpty && digits.all Char.isDigit && decide (Decimal.value digits < groupBound)) =
      true ↔ Numeral digits := by
  simp only [Bool.and_eq_true, Bool.not_eq_true', List.isEmpty_eq_false_iff, List.all_eq_true,
    decide_eq_true_eq, Decimal.value_eq]
  exact ⟨fun ⟨⟨ne, all⟩, fits⟩ => ⟨ne, all, fits⟩, fun h => ⟨⟨h.ne_nil, h.all_digits⟩, h.fits⟩⟩

theorem groupNumber?_plus {digits : List Char} {n : Nat} :
    groupNumber? ('+' :: digits) = some n ↔ Numeral digits ∧ Nat.ofDigitChars 10 digits 0 = n := by
  unfold groupNumber?
  rw [Option.ite_none_right_eq_some, numeral_iff, Decimal.value_eq, Option.some.injEq]
  exact Iff.rfl

theorem groupNumber?_of_ne {body : List Char} (h : ∀ digits, body ≠ '+' :: digits) {n : Nat} :
    groupNumber? body = some n ↔ Numeral body ∧ Nat.ofDigitChars 10 body 0 = n := by
  unfold groupNumber?
  split
  · exact absurd rfl (h _)
  · rw [Option.ite_none_right_eq_some, numeral_iff, Decimal.value_eq, Option.some.injEq]

/-- A digit is no sign. -/
theorem Numeral.ne_plus {digits : List Char} (h : Numeral digits) (more : List Char) :
    digits ≠ '+' :: more := by
  rintro rfl
  exact absurd (h.all_digits '+' (by simp)) (by decide)

/-- A number is read if there is one. -/
theorem groupNumber?_eq_some {body : List Char} {n : Nat} :
    groupNumber? body = some n ↔ Refers body (.group n) := by
  constructor
  · intro h
    by_cases plus : ∃ digits, body = '+' :: digits
    · obtain ⟨digits, rfl⟩ := plus
      obtain ⟨numeral, rfl⟩ := groupNumber?_plus.mp h
      exact .number (.inr rfl) numeral
    · obtain ⟨numeral, rfl⟩ := (groupNumber?_of_ne fun digits h => plus ⟨digits, h⟩).mp h
      exact .number (.inl rfl) numeral
  · intro h
    generalize hitem : Item.group n = item at h
    cases h with
    | name => cases hitem
    | number signed numeral =>
      obtain rfl := Item.group.inj hitem
      rcases signed with rfl | rfl
      · exact (groupNumber?_of_ne numeral.ne_plus).mpr ⟨numeral, rfl⟩
      · exact groupNumber?_plus.mpr ⟨numeral, rfl⟩

/-- A name is read if there is one. -/
theorem isGroupName_iff {body : List Char} :
    isGroupName body = true ↔ Refers body (.named (.ofList body)) := by
  constructor
  · intro h
    cases body with
    | nil => cases h
    | cons c rest =>
      obtain ⟨first, others⟩ := by simpa [isGroupName] using h
      exact .name first others
  · intro h
    generalize hitem : Item.named (.ofList body) = item at h
    cases h with
    | number => cases hitem
    | name first others => simpa [isGroupName] using ⟨first, others⟩

/-- No name is a number. -/
theorem Refers.not_number {c : Char} {rest : List Char}
    (first : Unicode.isAlphabetic c = true ∨ c = '_') (n : Nat) :
    ¬ Refers (c :: rest) (.group n) := by
  have digit : c.isDigit = false := by
    rcases first with first | rfl
    · refine Bool.eq_false_iff.mpr fun h => ?_
      rw [Unicode.isAlphabetic_digit h] at first
      cases first
    · decide
  rw [← groupNumber?_eq_some, groupNumber?_of_ne]
  · rintro ⟨numeral, -⟩
    rw [numeral.all_digits c (by simp)] at digit
    cases digit
  · rintro digits ⟨⟩
    rcases first with first | first
    · exact absurd first (by decide +kernel)
    · exact absurd first (by decide)

/-- What is between angle brackets is read as a reference if it is one. -/
theorem reference_eq_ok {body : List Char} {p : Piece} :
    reference body = .ok p ↔ ∃ item, Refers body item ∧ p = item.piece := by
  rw [reference]
  constructor
  · intro h
    split at h
    · next n hn =>
      obtain rfl := Except.ok.inj h
      exact ⟨_, groupNumber?_eq_some.mp hn, rfl⟩
    · split at h
      · next hname =>
        obtain rfl := Except.ok.inj h
        exact ⟨_, isGroupName_iff.mp hname, rfl⟩
      · cases h
  · rintro ⟨item, refers, rfl⟩
    cases refers with
    | number signed numeral =>
      rw [groupNumber?_eq_some.mpr (.number signed numeral)]
      rfl
    | @name c rest first others =>
      have number : groupNumber? (c :: rest) = none :=
        Option.eq_none_iff_forall_ne_some.mpr fun n hn =>
          Refers.not_number first n (groupNumber?_eq_some.mp hn)
      rw [number, isGroupName_iff.mpr (.name first others)]
      rfl

theorem reference_eq_error {body : List Char} {fault : EscapeFault} :
    reference body = .error fault ↔ (∀ item, ¬ Refers body item) ∧ fault = .badName := by
  have only : ∀ f, reference body = .error f → f = .badName := by
    intro f h
    rw [reference] at h
    split at h
    · cases h
    · split at h
      · cases h
      · exact (Except.error.inj h).symm
  -- What is no reference fails, so it fails in the only way there is.
  constructor
  · intro h
    refine ⟨fun item refers => ?_, only fault h⟩
    rw [reference_eq_ok.mpr ⟨item, refers, rfl⟩] at h
    cases h
  · rintro ⟨none_refers, rfl⟩
    cases h : reference body with
    | ok p =>
      obtain ⟨item, refers, -⟩ := reference_eq_ok.mp h
      exact absurd refers (none_refers item)
    | error f => rw [only f h]

/-! ### The choices of the reader -/

theorem ne_of_within {body : List Char} (h : '>' ∉ body) : ∀ c ∈ body, (c != '>') = true := by
  intro c hc
  rw [bne_iff_ne]
  rintro rfl
  exact h hc

theorem readEscape_closed {body : List Char} (h : '>' ∉ body) (after : List Char) :
    readEscape ('g' :: '<' :: (body ++ '>' :: after)) = (reference body).map (·, after) := by
  have inside := ne_of_within h
  simp only [readEscape, List.dropWhile_append_of_pos inside, List.takeWhile_append_of_pos inside]
  simp

theorem readEscape_unterminated {rest : List Char} (h : '>' ∉ rest) :
    readEscape ('g' :: '<' :: rest) = .error .unterminated := by
  have none_closes : (rest ++ []).dropWhile (· != '>') = [] :=
    List.dropWhile_append_of_pos (ne_of_within h)
  rw [List.append_nil] at none_closes
  rw [readEscape, none_closes]

theorem readEscape_noBracket {rest : List Char} (h : ∀ more, rest ≠ '<' :: more) :
    readEscape ('g' :: rest) = .error .noBracket := by
  cases rest with
  | nil => rfl
  | cons c more =>
    have hc : c ≠ '<' := by
      rintro rfl
      exact h more rfl
    unfold readEscape
    split <;> grind

/-- A character that is none of those with a choice of their own. -/
theorem readEscape_other {c : Char} (h : c ∉ ['n', 't', 'r', '0', 'g']) (rest : List Char) :
    readEscape (c :: rest) =
      if c.isDigit then
        match rest with
        | e :: more =>
          if e.isDigit then .ok (.group (Decimal.value [c, e]), more)
          else .ok (.group (Decimal.value [c]), rest)
        | [] => .ok (.group (Decimal.value [c]), [])
      else if Unicode.isAlphanumeric c then .error .unknown
      else .ok (.literal [c], rest) := by
  unfold readEscape
  split <;> grind

theorem digit_other {d : Char} (digit : d.isDigit = true) (not_zero : d ≠ '0') :
    d ∉ ['n', 't', 'r', '0', 'g'] := by
  simp only [List.mem_cons, List.not_mem_nil, or_false, not_or]
  refine ⟨?_, ?_, ?_, not_zero, ?_⟩ <;> (rintro rfl; revert digit; decide)

/-! ### What the reader accepts -/

/-- What is read of an escape. -/
theorem Escape.readEscape {escape : List Char} {item : Item} (h : Escape escape item)
    {rest : List Char} (greedy : Greedy ('\\' :: escape) rest) :
    readEscape (escape ++ rest) = .ok (item.piece, rest) := by
  cases h with
  | @oneDigit d digit not_zero =>
    -- The second digit that the reader looks for is not there.
    rw [List.singleton_append, readEscape_other (digit_other digit not_zero), if_pos digit,
      Decimal.value_eq]
    cases rest with
    | nil => rfl
    | cons e more =>
      have last : e.isDigit = false := greedy d e more rfl digit rfl
      dsimp only
      rw [last]
      rfl
  | @twoDigits d e digit not_zero digit' =>
    rw [List.cons_append, readEscape_other (digit_other digit not_zero), if_pos digit,
      Decimal.value_eq]
    dsimp only [List.singleton_append]
    rw [if_pos digit']
    rfl
  | @reference body item within refers =>
    have whole : 'g' :: '<' :: (body ++ ['>']) ++ rest = 'g' :: '<' :: (body ++ '>' :: rest) := by
      simp
    rw [whole, readEscape_closed within, reference_eq_ok.mpr ⟨item, refers, rfl⟩]
    rfl
  | newline => rfl
  | tab => rfl
  | carriageReturn => rfl
  | @itself c plain =>
    have other : c ∉ ['n', 't', 'r', '0', 'g'] := by
      simp only [List.mem_cons, List.not_mem_nil, or_false, not_or]
      refine ⟨?_, ?_, ?_, ?_, ?_⟩ <;> (rintro rfl; exact absurd plain (by decide +kernel))
    have digit : c.isDigit = false := by
      refine Bool.eq_false_iff.mpr fun h => ?_
      rw [Unicode.isAlphanumeric_digit h] at plain
      cases plain
    rw [List.singleton_append, readEscape_other other, digit, plain]
    rfl

/-- What is wrong is what is reported. -/
theorem Malformed.readEscape {text : List Char} {message : String} (h : Malformed text message) :
    ∃ fault, readEscape text = .error fault ∧ fault.message = message := by
  cases h with
  | trailingBackslash => exact ⟨.trailingBackslash, rfl, rfl⟩
  | zero => exact ⟨.zero, rfl, rfl⟩
  | noBracket h => exact ⟨.noBracket, readEscape_noBracket h, rfl⟩
  | unterminated h => exact ⟨.unterminated, readEscape_unterminated h, rfl⟩
  | @badName body rest within h =>
    refine ⟨.badName, ?_, rfl⟩
    rw [readEscape_closed within, reference_eq_error.mpr ⟨h, rfl⟩]
    rfl
  | @unknown c rest h not_digit other =>
    have other : c ∉ ['n', 't', 'r', '0', 'g'] := by
      have zero : c ≠ '0' := by
        rintro rfl
        exact absurd not_digit (by decide)
      simp_all
    refine ⟨.unknown, ?_, rfl⟩
    rw [readEscape_other other, not_digit, h]
    rfl

/-- One thing is wrong with a text. -/
theorem Malformed.unique {text : List Char} {message message' : String}
    (h : Malformed text message) (h' : Malformed text message') : message = message' := by
  obtain ⟨fault, hf, rfl⟩ := h.readEscape
  obtain ⟨fault', hf', rfl⟩ := h'.readEscape
  rw [Except.error.inj (hf.symm.trans hf')]

/-- After a backslash an escape begins or something is wrong. -/
theorem escape_or_malformed (text : List Char) :
    (∃ escape item rest, Escape escape item ∧ Greedy ('\\' :: escape) rest ∧
      text = escape ++ rest) ∨ ∃ message, Malformed text message := by
  cases text with
  | nil => exact .inr ⟨_, .trailingBackslash⟩
  | cons c rest =>
    -- An escape of one character that is no digit does not look at what follows it.
    have alone : ∀ {c' item}, Escape [c'] item → c'.isDigit = false → c = c' →
        ∃ escape item rest', Escape escape item ∧ Greedy ('\\' :: escape) rest' ∧
          c :: rest = escape ++ rest' := by
      rintro c' item h digit rfl
      refine ⟨[c], item, rest, h, fun d e more hd hdigit => ?_, rfl⟩
      obtain rfl : c = d := by simpa using hd
      rw [hdigit] at digit
      cases digit
    by_cases hn : c = 'n'
    · exact .inl (alone .newline (by decide) hn)
    by_cases ht : c = 't'
    · exact .inl (alone .tab (by decide) ht)
    by_cases hr : c = 'r'
    · exact .inl (alone .carriageReturn (by decide) hr)
    by_cases hzero : c = '0'
    · subst hzero
      exact .inr ⟨_, .zero⟩
    by_cases hg : c = 'g'
    · subst hg
      by_cases bracket : ∃ more, rest = '<' :: more
      · obtain ⟨more, rfl⟩ := bracket
        by_cases closed : '>' ∈ more
        · obtain ⟨body, after, rfl, within⟩ := List.eq_append_cons_of_mem closed
          by_cases refers : ∃ item, Refers body item
          · obtain ⟨item, refers⟩ := refers
            exact .inl ⟨_, item, after, .reference within refers, by simp [Greedy], by simp⟩
          · exact .inr ⟨_, .badName within fun item h => refers ⟨item, h⟩⟩
        -- Without a closing bracket it does not matter what the rest is.
        · exact .inr ⟨_, .unterminated closed⟩
      · exact .inr ⟨_, .noBracket fun more h => bracket ⟨more, h⟩⟩
    cases digit : c.isDigit with
    | true =>
      by_cases second : ∃ e more, rest = e :: more ∧ e.isDigit = true
      · obtain ⟨e, more, rfl, digit'⟩ := second
        exact .inl ⟨[c, e], _, more, .twoDigits digit hzero digit', by simp [Greedy], rfl⟩
      · refine .inl ⟨[c], _, rest, .oneDigit digit hzero, fun d e more _ _ hrest => ?_, rfl⟩
        exact Bool.eq_false_iff.mpr fun h => second ⟨e, more, hrest, h⟩
    | false =>
      cases plain : Unicode.isAlphanumeric c with
      | true => exact .inr ⟨_, .unknown plain digit (by simp [hn, ht, hr, hg])⟩
      | false => exact .inl (alone (.itself plain) digit rfl)

/-- An escape is read if one begins. -/
theorem readEscape_eq_ok {text rest : List Char} {p : Piece} :
    readEscape text = .ok (p, rest) ↔ ∃ escape item, Escape escape item ∧
      Greedy ('\\' :: escape) rest ∧ text = escape ++ rest ∧ p = item.piece := by
  constructor
  · intro h
    rcases escape_or_malformed text with ⟨escape, item, rest', he, greedy, rfl⟩ | ⟨message, hm⟩
    · obtain ⟨rfl, rfl⟩ := by simpa using (he.readEscape greedy).symm.trans h
      exact ⟨escape, item, he, greedy, rfl, rfl⟩
    · obtain ⟨fault, hf, -⟩ := hm.readEscape
      rw [hf] at h
      cases h
  · rintro ⟨escape, item, he, greedy, rfl, rfl⟩
    exact he.readEscape greedy

example : readEscape ['1', '2', '3'] = .ok (.group 12, ['3']) := rfl

/-- A fault is reported if there is one. -/
theorem readEscape_eq_error {text : List Char} {fault : EscapeFault} :
    readEscape text = .error fault ↔ Malformed text fault.message := by
  constructor
  · intro h
    rcases escape_or_malformed text with ⟨escape, item, rest, he, greedy, rfl⟩ | ⟨message, hm⟩
    · rw [he.readEscape greedy] at h
      cases h
    · obtain ⟨fault', hf, rfl⟩ := hm.readEscape
      obtain rfl := Except.error.inj (h.symm.trans hf)
      exact hm
  · intro h
    obtain ⟨fault', hf, message⟩ := h.readEscape
    rw [hf, EscapeFault.message_inj message]

end Template

end Emend
