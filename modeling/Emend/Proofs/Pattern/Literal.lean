import Emend.Pattern.Basic
import Emend.Proofs.Pattern.Completeness

/-!
# Patterns that stand for a text

Each text is what a pattern matches: the one that has a backslash in front of each character that
means something else (`Pattern.escape`). It is read as the sequence of the characters
(`Reading.readPattern_escape`), and laid down as a chain of nodes, one for each
(`Program.ofRegex_spells`).

There is one way through such a chain from a place, and it comes to the end if the text occurs
there. As a search misses nothing, it finds the first occurrence (`Program.Spells.search?_finds`).
-/

namespace Emend

/-! ### Reading -/

namespace Pattern

/-- The characters that mean something else in a pattern, or do so in some parts of one. -/
def metacharacters : List Char :=
  ['\\', '.', '+', '*', '?', '(', ')', '|', '[', ']', '\x7b', '\x7d', '^', '$', '#', '&', '-', '~']

/-- A character as it stands for itself in a pattern. -/
def escapeChar (c : Char) : List Char := if c ∈ metacharacters then ['\\', c] else [c]

/-- A text as it stands for itself in a pattern. -/
def escape (text : List Char) : List Char := text.flatMap escapeChar

theorem escape_cons (c : Char) (text : List Char) :
    escape (c :: text) = escapeChar c ++ escape text := List.flatMap_cons

/-- A text stands for no characters only if it has none. -/
theorem escape_eq_nil {text : List Char} : escape text = [] ↔ text = [] := by
  cases text with
  | nil => exact ⟨fun _ => rfl, fun _ => rfl⟩
  | cons c text =>
    rw [escape_cons, escapeChar]
    split
    · exact ⟨nofun, nofun⟩
    · exact ⟨nofun, nofun⟩

end Pattern

/-- The expression of a text. -/
def Regex.ofText (text : List Char) : Regex := .seqAll (text.map fun c => .char (.one c))

namespace Reading

open Pattern

/-- The item of a character. -/
def literalItem (c : Char) : Item := ⟨.char (.one c), 0, true⟩

theorem readEscape_metacharacter (extended : Bool) (rest : List Char) :
    ∀ c ∈ metacharacters, readEscape extended (c :: rest) = some (.literal c false, rest) := by
  rw [metacharacters]
  iterate 18 refine List.forall_mem_cons.mpr ⟨rfl, ?_⟩
  exact nofun

variable {r : Reading}

theorem literal?_eq (sensitive : r.flags.caseInsensitive = false) (c : Char) :
    literal? r.flags c false = some (.char (.one c)) := by
  have allowed : literalAllowed r.flags c false = true := by
    rw [literalAllowed, Bool.not_false, Bool.or_true, Bool.true_or]
  have folding : r.flags.folding = none := by
    rw [PatternFlags.folding, sensitive, if_neg Bool.false_ne_true]
  rw [literal?, allowed, if_pos rfl, folding]
  rfl

/-- A character that means nothing else is an item. -/
theorem step_plain (sensitive : r.flags.caseInsensitive = false) {c : Char}
    (plain : c ∉ metacharacters) (rest : List Char) :
    r.step c rest = some (r.push (literalItem c) rest) := by
  rw [step, literal?_eq sensitive]
  · rfl
  -- What is read otherwise is special.
  all_goals
    rintro rfl
    exact absurd (by decide) plain

/-- A character that is escaped is an item. -/
theorem step_escaped (sensitive : r.flags.caseInsensitive = false) {c : Char}
    (special : c ∈ metacharacters) (rest : List Char) :
    r.step '\\' (c :: rest) = some (r.push (literalItem c) rest) := by
  rw [step, readEscape_metacharacter _ _ c special]
  simp only [Option.bind_eq_bind, Option.bind_some, escape?, literal?_eq sensitive]
  rfl

/-- Escaped or not, the first character of a text becomes an item. -/
theorem exists_step_escape (sensitive : r.flags.caseInsensitive = false) (c : Char)
    (text : List Char) : ∃ first others, escape (c :: text) = first :: others ∧
      step { r with rest := escape (c :: text) } first others =
        some { r with rest := escape text, items := literalItem c :: r.items } := by
  rw [escape_cons, escapeChar]
  by_cases special : c ∈ metacharacters
  · rw [if_pos special]
    exact ⟨'\\', c :: escape text, rfl, step_escaped sensitive special _⟩
  · rw [if_neg special]
    exact ⟨c, escape text, rfl, step_plain sensitive special _⟩

/-- The characters of a text become items, one after the other. -/
theorem run_escape (sensitive : r.flags.caseInsensitive = false)
    (dense : r.flags.extended = false) {text : List Char} {rounds : Nat}
    (enough : (escape text).length < rounds) :
    run rounds { r with rest := escape text } =
      some { r with rest := [], items := (text.map literalItem).reverse ++ r.items } := by
  have nothing_skipped : ∀ rest, skipBlanks r.flags.extended rest = rest := by
    intro rest
    rw [dense, skipBlanks, if_neg Bool.false_ne_true]
  obtain ⟨rounds, rfl⟩ : ∃ less, rounds = less + 1 :=
    Nat.exists_eq_add_one.mpr (Nat.zero_lt_of_lt enough)
  induction text generalizing r rounds with
  | nil =>
    rw [run, nothing_skipped]
    rfl
  | cons c text ih =>
    obtain ⟨first, others, begins, takes⟩ := exists_step_escape sensitive c text
    have shorter : (escape text).length < rounds := by
      have some_written : 0 < (escapeChar c).length := by
        rw [escapeChar]
        split <;> simp
      rw [escape_cons, List.length_append] at enough
      omega
    obtain ⟨rounds, rfl⟩ : ∃ less, rounds = less + 1 :=
      Nat.exists_eq_add_one.mpr (Nat.zero_lt_of_lt shorter)
    rw [run, nothing_skipped, begins]
    dsimp only
    rw [← begins, takes, Option.bind_some,
      ih (r := { r with items := literalItem c :: r.items }) sensitive dense nothing_skipped
        rounds shorter]
    simp only [List.map_cons, List.reverse_cons, List.append_assoc, List.singleton_append]

/-! ### Whole patterns -/

theorem regex_sequence (items : List Item) :
    (sequence items).regex = .seqAll (items.reverse.map (·.regex)) := by
  rw [sequence]
  split
  · next none_left => rw [none_left]; rfl
  · next one_left => rw [one_left]; rfl
  · rfl

/-- Items that are not nested make one level. -/
theorem depth_sequence_le {items : List Item} (flat : ∀ i ∈ items, i.depth = 0) :
    (sequence items).depth ≤ 1 := by
  have flat' : ∀ i ∈ items.reverse, i.depth = 0 := fun i hi => flat i (List.mem_reverse.mp hi)
  rw [sequence]
  split
  · exact Nat.zero_le 1
  · next p one_left =>
    rw [flat' p (by simp [one_left])]
    exact Nat.zero_le 1
  · have depths : items.reverse.map (·.depth) = List.replicate items.reverse.length 0 :=
      List.map_eq_replicate_iff.mpr flat'
    have none_deep : ∀ n, (List.replicate n 0).foldl max 0 = 0 := by
      intro n
      induction n with
      | zero => rfl
      | succ n ih => exact ih
    rw [depths, none_deep]

/-- An escaped text is read as its characters. -/
theorem readPattern_escape {flags : PatternFlags} (sensitive : flags.caseInsensitive = false)
    (dense : flags.extended = false) (text : List Char) :
    readPattern flags (escape text) = some ⟨.ofText text, 0, []⟩ := by
  have read := run_escape (r := ⟨[], flags, [], [], [], 0, []⟩) sensitive dense
    (Nat.lt_succ_self (escape text).length)
  refine Option.bind_eq_some_iff.mpr ⟨_, read, ?_⟩
  have flat : ∀ i ∈ (text.map literalItem).reverse ++ [], i.depth = 0 := by
    intro i hi
    rw [List.append_nil, List.mem_reverse] at hi
    obtain ⟨c, -, rfl⟩ := List.mem_map.mp hi
    rfl
  have shallow : (sequence ((text.map literalItem).reverse ++ [])).depth ≤ nestLimit :=
    Nat.le_trans (depth_sequence_le flat) (by decide)
  have regex : (sequence ((text.map literalItem).reverse ++ [])).regex = .ofText text := by
    rw [regex_sequence, List.append_nil, List.reverse_reverse, List.map_map]
    rfl
  rw [if_pos]
  · exact congrArg (fun regex => some (PatternText.mk regex 0 [])) regex
  · rw [Bool.and_eq_true, decide_eq_true_eq]
    exact ⟨rfl, shallow⟩

end Reading

/-! ### The program of a text -/

namespace Program

/-- Nodes that take the characters of a text, one after the other. -/
inductive Chain (p : Program) : Nat → List Char → Nat → Prop
  | done (n : Nat) : Chain p n [] n
  | eat {n next last : Nat} {c : Char} {text : List Char}
      (here : p.node n = some (.eat (.one c) next)) (more : Chain p next text last) :
      Chain p n (c :: text) last

/-- Whether a program takes a text between the marks of the whole match. -/
structure Spells (p : Program) (text : List Char) : Prop where
  start : ∃ first, p.node p.start = some (.mark 0 first) ∧ p.Chain first text 1
  stop : p.node 1 = some (.mark 1 0)
  accepts : p.node 0 = some .accept

/-- Whether a program has the nodes of a table, and perhaps more after them. -/
def Extends (p : Program) (nodes : Array Node) : Prop := ∀ i < nodes.size, p.node i = nodes[i]?

variable {p : Program} {nodes : Array Node}

theorem Extends.last {n : Node} (h : p.Extends (nodes.push n)) : p.node nodes.size = some n := by
  rw [h nodes.size (by rw [Array.size_push]; exact Nat.lt_succ_self _), Array.getElem?_push_size]

theorem Extends.of_push {n : Node} (h : p.Extends (nodes.push n)) : p.Extends nodes := by
  intro i hi
  rw [h i (by rw [Array.size_push]; exact Nat.lt_succ_of_lt hi), Array.getElem?_push_lt hi,
    Array.getElem?_eq_getElem hi]

/-- The layout of a text is a chain to the node that follows. -/
theorem chain_of_layout {text : List Char} {next : Nat}
    (h : p.Extends ((Regex.ofText text).layout next nodes).2) :
    p.Chain ((Regex.ofText text).layout next nodes).1 text next ∧ p.Extends nodes := by
  induction text with
  | nil => exact ⟨.done next, h⟩
  | cons c text ih =>
    cases text with
    | nil => exact ⟨.eat h.last (.done next), h.of_push⟩
    | cons d text =>
      -- The first character is laid down in front of the others.
      have others : p.Extends ((Regex.ofText (d :: text)).layout next nodes).2 := h.of_push
      obtain ⟨more, kept⟩ := ih others
      exact ⟨.eat h.last more, kept⟩

/-- The program of a text takes the text. -/
theorem ofRegex_spells (text : List Char) : (ofRegex (.ofText text)).Spells text := by
  have whole : (ofRegex (.ofText text)).Extends (ofRegex (.ofText text)).nodes := fun _ _ => rfl
  obtain ⟨chain, kept⟩ := chain_of_layout whole.of_push
  have first : (ofRegex (.ofText text)).Extends (#[].push .accept) := kept.of_push
  exact ⟨⟨_, whole.last, chain⟩, kept.last, first.last⟩

/-! ### The ways through it -/

variable {text taken : List Char} {c : Cursor} {marks : List (Nat × Cursor)} {v w : Way}

/-- A way that is at no end has more to go. -/
theorem Leads.exists_step (leads : p.Leads v w) (accepts : p.accepts w = true)
    (goes_on : p.accepts v = false) : ∃ u, p.Step v u ∧ p.Leads u w := by
  rcases leads.cases_head with rfl | more
  · rw [goes_on] at accepts
    cases accepts
  · exact more

/-- From a node that takes one character there is one step, over that character. -/
theorem step_eat_one {n next : Nat} {x : Char} (here : p.node n = some (.eat (.one x) next))
    (step : p.Step ⟨n, c, marks⟩ v) : ∃ rest, c.rest = x :: rest ∧
      v = ⟨next, ⟨c.position + 1, some x, rest⟩, marks⟩ := by
  have leads_on := mem_onward_of_step step
  obtain ⟨k, before, rest⟩ := c
  cases rest with
  | nil => simp [onward, here] at leads_on
  | cons y rest =>
    obtain ⟨rfl, rfl⟩ : y = x ∧ v = ⟨next, ⟨k + 1, some y, rest⟩, marks⟩ := by
      simpa [onward, here, CharSet.contains] using leads_on
    exact ⟨rest, rfl, rfl⟩

/-- From a node that marks there is one step. -/
theorem step_mark {n slot next : Nat} (here : p.node n = some (.mark slot next))
    (step : p.Step ⟨n, c, marks⟩ v) : v = ⟨next, c, (slot, c) :: marks⟩ := by
  simpa [onward, here] using mem_onward_of_step step

/-- From the end there is no step. -/
theorem not_step_accept {n : Nat} (here : p.node n = some .accept) :
    ¬ p.Step ⟨n, c, marks⟩ v := by
  intro step
  simpa [onward, here] using mem_onward_of_step step

/-- A chain leads over the characters that it takes, and nowhere else. -/
theorem Chain.leads_iff {n last : Nat} (chain : p.Chain n taken last) (on : c.On text)
    (accepts : p.accepts w = true) :
    p.Leads ⟨n, c, marks⟩ w ↔ ∃ d : Cursor, d.On text ∧ taken <+: c.rest ∧
      d.position = c.position + taken.length ∧ p.Leads ⟨last, d, marks⟩ w := by
  induction chain generalizing c with
  | done n =>
    constructor
    · intro leads
      exact ⟨c, on, List.nil_prefix, rfl, leads⟩
    · rintro ⟨d, hd, -, position, leads⟩
      rw [hd.ext on position] at leads
      exact leads
  | @eat n next last x taken here more ih =>
    obtain ⟨k, before, rest⟩ := c
    constructor
    · intro leads
      have goes_on : p.accepts ⟨n, ⟨k, before, rest⟩, marks⟩ = false := by simp [Program.accepts, here]
      obtain ⟨u, step, leads⟩ := Leads.exists_step leads accepts goes_on
      obtain ⟨others, first, rfl⟩ := step_eat_one here step
      obtain rfl : rest = x :: others := first
      obtain ⟨d, hd, occurs, position, leads⟩ := (ih on.next).mp leads
      refine ⟨d, hd, List.cons_prefix_cons.mpr ⟨rfl, occurs⟩, ?_, leads⟩
      rw [position, List.length_cons]
      dsimp only
      omega
    · rintro ⟨d, hd, occurs, position, leads⟩
      obtain ⟨others, rfl⟩ : ∃ others, rest = x :: others := by
        obtain ⟨after, rfl⟩ := occurs
        exact ⟨taken ++ after, rfl⟩
      have step : p.Step ⟨n, ⟨k, before, x :: others⟩, marks⟩ ⟨next, ⟨k + 1, some x, others⟩, marks⟩ :=
        .eat here (by simp [CharSet.contains])
      refine .head step ((ih on.next).mpr ⟨d, hd, (List.cons_prefix_cons.mp occurs).2, ?_, leads⟩)
      rw [position, List.length_cons]
      dsimp only
      omega

/-- There is one way through the program of a text: over the text, if it occurs. -/
theorem Spells.leads_iff (h : p.Spells taken) (on : c.On text) :
    (p.Leads ⟨p.start, c, []⟩ w ∧ p.accepts w = true) ↔ taken <+: c.rest ∧ ∃ d : Cursor,
      d.On text ∧ d.position = c.position + taken.length ∧ w = ⟨0, d, [(1, d), (0, c)]⟩ := by
  obtain ⟨first, start, chain⟩ := h.start
  have start_goes_on : p.accepts ⟨p.start, c, []⟩ = false := by simp [Program.accepts, start]
  constructor
  · rintro ⟨leads, accepts⟩
    obtain ⟨u, step, leads⟩ := Leads.exists_step leads accepts start_goes_on
    obtain rfl := step_mark start step
    obtain ⟨d, hd, occurs, position, leads⟩ := (chain.leads_iff on accepts).mp leads
    have stop_goes_on : p.accepts ⟨1, d, [(0, c)]⟩ = false := by simp [Program.accepts, h.stop]
    obtain ⟨u, step, leads⟩ := Leads.exists_step leads accepts stop_goes_on
    obtain rfl := step_mark h.stop step
    rcases leads.cases_head with rfl | ⟨u, step, -⟩
    · exact ⟨occurs, d, hd, position, rfl⟩
    · exact absurd step (not_step_accept h.accepts)
  · rintro ⟨occurs, d, hd, position, rfl⟩
    have accepts : p.accepts ⟨0, d, [(1, d), (0, c)]⟩ = true := by simp [Program.accepts, h.accepts]
    have last : p.Leads ⟨1, d, [(0, c)]⟩ ⟨0, d, [(1, d), (0, c)]⟩ := .single (.mark h.stop)
    have middle : p.Leads ⟨first, c, [(0, c)]⟩ ⟨0, d, [(1, d), (0, c)]⟩ :=
      (chain.leads_iff on accepts).mpr ⟨d, hd, occurs, position, last⟩
    exact ⟨middle.head (.mark start), accepts⟩

/-- A place is live if the text occurs there. -/
theorem Spells.live_iff (h : p.Spells taken) (on : c.On text) :
    p.Live c ↔ taken <+: text.drop c.position := by
  rw [← on.rest]
  constructor
  · rintro ⟨w, way⟩
    exact ((h.leads_iff on).mp way).1
  · intro occurs
    have short : c.position + taken.length ≤ text.length := by
      have := occurs.length_le
      have := on.le
      rw [on.rest, List.length_drop] at *
      omega
    obtain ⟨d, hd, position⟩ := Cursor.exists_on short
    exact ⟨_, (h.leads_iff on).mpr ⟨occurs, d, hd, position, rfl⟩⟩

/-- Whether a match is the first occurrence of a text at or after a place. -/
structure FirstOccurrence (taken text : List Char) (first : Nat) (m : Match) : Prop where
  within : m.Within text first
  occurs : taken <+: text.drop m.start.position
  stop : m.stop.position = m.start.position + taken.length
  earlier : ∀ k, first ≤ k → k < m.start.position → ¬ taken <+: text.drop k

/-- A search finds the first occurrence, or there is none. -/
theorem Spells.search?_finds (h : p.Spells taken) (on : c.On text) :
    (∃ m, p.search? c = some m ∧ FirstOccurrence taken text c.position m) ∨
      p.search? c = none ∧ ∀ k, c.position ≤ k → k ≤ text.length → ¬ taken <+: text.drop k := by
  have complete := p.search_complete on
  have found : p.search? c = (p.searchFrom c.position (p.enoughRounds c.rest.length) {} c.position
      c.before c.rest).bind fun w => (w.mark? 0).bind fun start => some ⟨start, w.place, w⟩ := rfl
  generalize p.searchFrom c.position (p.enoughRounds c.rest.length) {} c.position c.before c.rest =
    result at complete found
  cases complete with
  | @found start w start_on le leads accepts earlier =>
    obtain ⟨occurs, stop, -, position, rfl⟩ := (h.leads_iff start_on).mp ⟨leads, accepts⟩
    have finds : p.search? c = some ⟨start, stop, ⟨0, stop, [(1, stop), (0, start)]⟩⟩ := found
    refine .inl ⟨_, finds, {
      within := search?_within on finds
      occurs := start_on.rest ▸ occurs
      stop := position
      earlier := fun k hle hlt => ?_ }⟩
    obtain ⟨d, hd, rfl⟩ := Cursor.exists_on (Nat.le_trans (Nat.le_of_lt hlt) start_on.le)
    exact mt (h.live_iff hd).mpr (earlier d hd hle hlt)
  | missed dead =>
    refine .inr ⟨found, fun k hle inside => ?_⟩
    obtain ⟨d, hd, rfl⟩ := Cursor.exists_on inside
    exact mt (h.live_iff hd).mpr (dead d hd hle)

theorem Spells.search?_eq_some (h : p.Spells taken) (on : c.On text) {m : Match}
    (finds : p.search? c = some m) : FirstOccurrence taken text c.position m := by
  rcases h.search?_finds on with ⟨m', finds', first⟩ | ⟨fails, -⟩
  · cases finds.symm.trans finds'
    exact first
  · cases finds.symm.trans fails

theorem Spells.search?_eq_none (h : p.Spells taken) (on : c.On text) (fails : p.search? c = none) :
    ∀ k, c.position ≤ k → k ≤ text.length → ¬ taken <+: text.drop k := by
  rcases h.search?_finds on with ⟨m, finds, -⟩ | ⟨-, none_left⟩
  · cases finds.symm.trans fails
  · exact none_left

end Program

end Emend
