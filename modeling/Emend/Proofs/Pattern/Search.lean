import Emend.Pattern.Search
import Emend.Proofs.Pattern.Layout

/-!
# What a search finds

A way through a program only ever stands at places of the text that is searched, and goes forward.
So do the matches: a match that a search from a place finds starts there or further on, ends where
it starts or further on, and its groups are parts of the text (`Program.search?_within`).

`Program.Step` lists what a way can do next. The stack of `Program.explore` holds nothing but ways
that lead on from the first one, so what each step preserves is true of the way that is found
(`Program.explore_invariant`); what has been visited has no part in it.

The last step of a way through the program of an expression is the mark that closes the whole match,
so group 0 is the text of the match (`Program.Closed.search?_whole`).
-/

namespace Emend

/-- The part of a text from one place up to another. -/
def slice (text : List Char) (a b : Nat) : List Char := (text.drop a).take (b - a)

/-! ### Places of a text -/

namespace Cursor

/-- Whether a cursor is a place of a text. -/
structure On (text : List Char) (c : Cursor) : Prop where
  le : c.position ≤ text.length
  before : c.before = (text.take c.position).getLast?
  rest : c.rest = text.drop c.position

variable {text : List Char} {a b c d : Cursor}

theorem start_on (text : List Char) : (start text).On text :=
  ⟨Nat.zero_le _, rfl, rfl⟩

/-- Each number of characters is a place. -/
theorem exists_on {n : Nat} (h : n ≤ text.length) : ∃ c : Cursor, c.On text ∧ c.position = n :=
  ⟨⟨n, (text.take n).getLast?, text.drop n⟩, ⟨h, rfl, rfl⟩, rfl⟩

/-- A place is known by its number. -/
theorem On.ext (hc : c.On text) (hd : d.On text) (h : c.position = d.position) : c = d := by
  obtain ⟨n, before, rest⟩ := c
  obtain ⟨m, before', rest'⟩ := d
  obtain rfl : n = m := h
  rw [show before = _ from hc.before, show before' = _ from hd.before, show rest = _ from hc.rest,
    show rest' = _ from hd.rest]

/-- The place after the next character. -/
theorem On.next {n : Nat} {before : Option Char} {x : Char} {rest : List Char}
    (h : On text ⟨n, before, x :: rest⟩) : On text ⟨n + 1, some x, rest⟩ := by
  have hdrop : text.drop n = x :: rest := h.rest.symm
  have hn : n < text.length := by
    have := congrArg List.length hdrop
    simp only [List.length_drop, List.length_cons] at this
    omega
  have hx : text[n]? = some x := by
    rw [← List.head?_drop, hdrop]
    rfl
  refine ⟨hn, ?_, ?_⟩
  · rw [List.take_add_one, hx]
    simp
  · rw [← List.tail_drop, hdrop]
    rfl

theorem On.next? (h : c.On text) (hd : c.next? = some d) :
    d.On text ∧ d.position = c.position + 1 := by
  obtain ⟨n, before, rest⟩ := c
  cases rest with
  | nil => cases hd
  | cons x rest =>
    obtain rfl := Option.some.inj hd
    exact ⟨h.next, rfl⟩

theorem On.textTo (h : a.On text) (b : Cursor) : a.textTo b = slice text a.position b.position := by
  rw [Cursor.textTo, h.rest, slice]

end Cursor

/-! ### Ways -/

/-- Whether a way through a program has been in a text, no earlier than at a place. -/
structure Way.From (text : List Char) (origin : Nat) (w : Way) : Prop where
  place : w.place.On text
  start : origin ≤ w.place.position
  marks : ∀ mark ∈ w.marks, mark.2.On text ∧ origin ≤ mark.2.position ∧
    mark.2.position ≤ w.place.position

namespace Way.From

variable {text : List Char} {origin : Nat} {w : Way}

/-- A way that begins at a place. -/
theorem begin {c : Cursor} (node : Nat) (hc : c.On text) (h : origin ≤ c.position) :
    Way.From text origin ⟨node, c, []⟩ :=
  ⟨hc, h, by simp⟩

/-- What is said of a way does not depend on the node it has come to. -/
theorem goto (h : w.From text origin) (node : Nat) : Way.From text origin { w with node } :=
  ⟨h.place, h.start, h.marks⟩

/-- Noting the present place. -/
theorem mark (h : w.From text origin) (node slot : Nat) :
    Way.From text origin ⟨node, w.place, (slot, w.place) :: w.marks⟩ where
  place := h.place
  start := h.start
  marks mark hmark := by
    rcases List.mem_cons.mp hmark with rfl | hmark
    · exact ⟨h.place, h.start, Nat.le_refl _⟩
    · exact h.marks mark hmark

/-- Taking a character. -/
theorem eat {node n : Nat} {before : Option Char} {x : Char} {rest : List Char}
    {marks : List (Nat × Cursor)} (h : Way.From text origin ⟨node, ⟨n, before, x :: rest⟩, marks⟩)
    (next : Nat) : Way.From text origin ⟨next, ⟨n + 1, some x, rest⟩, marks⟩ where
  place := h.place.next
  start := Nat.le_succ_of_le h.start
  marks mark hmark := by
    obtain ⟨on, lower, upper⟩ := h.marks mark hmark
    exact ⟨on, lower, Nat.le_succ_of_le upper⟩

theorem mark? (h : w.From text origin) {slot : Nat} {c : Cursor} (hc : w.mark? slot = some c) :
    c.On text ∧ origin ≤ c.position ∧ c.position ≤ w.place.position := by
  obtain ⟨before, after, hmarks, -⟩ := List.lookup_eq_some_iff.mp hc
  exact h.marks (slot, c) (by simp [hmarks])

end Way.From

namespace Program

variable {p : Program} {text : List Char}

/-- All that a way can do next, one rule for each kind of node and two for a fork. -/
inductive Step (p : Program) : Way → Way → Prop
  | eat {node n next : Nat} {s : CharSet} {before : Option Char} {x : Char} {rest : List Char}
      {marks : List (Nat × Cursor)} (here : p.node node = some (.eat s next))
      (takes : s.contains x = true) :
      Step p ⟨node, ⟨n, before, x :: rest⟩, marks⟩ ⟨next, ⟨n + 1, some x, rest⟩, marks⟩
  | look {w : Way} {a : Assertion} {next : Nat} (here : p.node w.node = some (.look a next))
      (holds : a.holds w.place.before w.place.rest.head? = true) : Step p w { w with node := next }
  | mark {w : Way} {slot next : Nat} (here : p.node w.node = some (.mark slot next)) :
      Step p w ⟨next, w.place, (slot, w.place) :: w.marks⟩
  | first {w : Way} {one other : Nat} (here : p.node w.node = some (.fork one other)) :
      Step p w { w with node := one }
  | second {w : Way} {one other : Nat} (here : p.node w.node = some (.fork one other)) :
      Step p w { w with node := other }

/-- The ways that lead on are the steps. -/
theorem mem_onward {w v : Way} (hv : v ∈ p.onward w) : p.Step w v := by
  obtain ⟨node, place, marks⟩ := w
  rw [onward] at hv
  cases hnode : p.node node with
  | none => simp [hnode] at hv
  | some instruction =>
    cases instruction with
    | eat s next =>
      obtain ⟨n, before, rest⟩ := place
      cases rest with
      | nil => simp [hnode] at hv
      | cons x rest =>
        obtain ⟨takes, rfl⟩ : s.contains x = true ∧ v = ⟨next, ⟨n + 1, some x, rest⟩, marks⟩ := by
          simpa [hnode] using hv
        exact .eat hnode takes
    | look a next =>
      obtain ⟨holds, rfl⟩ : a.holds place.before place.rest.head? = true ∧
          v = ⟨next, place, marks⟩ := by
        simpa [hnode] using hv
      exact .look hnode holds
    | mark slot next =>
      obtain rfl : v = ⟨next, place, (slot, place) :: marks⟩ := by
        simpa [hnode] using hv
      exact .mark hnode
    | fork one other =>
      have hv : v = ⟨one, place, marks⟩ ∨ v = ⟨other, place, marks⟩ := by
        simpa [hnode] using hv
      rcases hv with rfl | rfl
      · exact .first hnode
      · exact .second hnode
    | accept => simp [hnode] at hv

/-- A step stays in the text and goes forward. -/
theorem Step.from {origin : Nat} {w v : Way} (step : p.Step w v) (h : w.From text origin) :
    v.From text origin := by
  cases step with
  | eat => exact h.eat _
  | look => exact h.goto _
  | mark => exact h.mark _ _
  | first => exact h.goto _
  | second => exact h.goto _

/-- What holds of the ways on the stack, and of each way that leads on from one of which it holds,
holds of the way that is found; and that way has come to the end. -/
theorem explore_invariant {Holds : Way → Prop}
    (step : ∀ w v, p.Step w v → Holds w → Holds v) {origin rounds : Nat} {stack : List Way}
    {visited : Visited} (h : ∀ w ∈ stack, Holds w) {found : Way}
    (hfound : (p.explore origin rounds stack visited).1 = some found) :
    Holds found ∧ p.accepts found = true := by
  induction rounds generalizing stack visited with
  | zero => cases hfound
  | succ rounds ih =>
    cases stack with
    | nil => cases hfound
    | cons w stack =>
      have hw := h w (by simp)
      have hstack : ∀ v ∈ stack, Holds v := fun v hv => h v (by simp [hv])
      rw [explore] at hfound
      split at hfound
      -- A way that is given up leaves the rest of the stack.
      · exact ih hstack hfound
      · split at hfound
        · next accepts =>
          obtain rfl := Option.some.inj hfound
          exact ⟨hw, accepts⟩
        · refine ih (fun v hv => ?_) hfound
          rcases List.mem_append.mp hv with hv | hv
          · exact step w v (mem_onward hv) hw
          · exact hstack v hv

/-- What holds of ways that begin at the places from one on, and is preserved by going on, holds of
the way that a search finds. -/
theorem searchFrom_invariant {Holds : Way → Prop}
    (step : ∀ w v, p.Step w v → Holds w → Holds v) {first : Nat}
    (begins : ∀ c : Cursor, c.On text → first ≤ c.position → Holds ⟨p.start, c, []⟩)
    {origin rounds : Nat} {visited : Visited} {position : Nat} {before : Option Char}
    {rest : List Char} (on : Cursor.On text ⟨position, before, rest⟩) (le : first ≤ position)
    {found : Way}
    (hfound : p.searchFrom origin rounds visited position before rest = some found) :
    Holds found ∧ p.accepts found = true := by
  induction rest generalizing visited position before with
  | nil =>
    refine explore_invariant step (fun w hw => ?_) hfound
    obtain rfl := List.mem_singleton.mp hw
    exact begins _ on le
  | cons x rest ih =>
    rw [searchFrom] at hfound
    split at hfound
    · next w visited' hexplore =>
      obtain rfl := Option.some.inj hfound
      refine explore_invariant step (fun w hw => ?_) (congrArg Prod.fst hexplore)
      obtain rfl := List.mem_singleton.mp hw
      exact begins _ on le
    · exact ih on.next (Nat.le_succ_of_le le) hfound

end Program

/-! ### Matches -/

/-- Whether a match is one of a text, no earlier than at a place. -/
structure Match.Within (text : List Char) (origin : Nat) (m : Match) : Prop where
  start_on : m.start.On text
  stop_on : m.stop.On text
  start_le : origin ≤ m.start.position
  le : m.start.position ≤ m.stop.position
  /-- What groups have taken are parts of the text, none of them behind the end of the match. -/
  groups : ∀ index taken, m.group? index = some taken → ∃ a b, origin ≤ a ∧
    b ≤ m.stop.position ∧ taken = slice text a b

namespace Match

variable {text : List Char} {origin : Nat} {m : Match}

theorem Within.mono (h : m.Within text origin) {first : Nat} (hle : first ≤ origin) :
    m.Within text first where
  start_on := h.start_on
  stop_on := h.stop_on
  start_le := Nat.le_trans hle h.start_le
  le := h.le
  groups index taken ht := by
    obtain ⟨a, b, ha, hb, rfl⟩ := h.groups index taken ht
    exact ⟨a, b, Nat.le_trans hle ha, hb, rfl⟩

theorem isEmpty_iff : m.isEmpty = true ↔ m.start.position = m.stop.position := by
  simp [isEmpty]

end Match

namespace Program

variable {p : Program} {text : List Char}

/-- What each step preserves holds of the way of a match, which starts at the mark of slot 0 and
stops where the way does. -/
theorem search?_invariant {Holds : Way → Prop} (step : ∀ w v, p.Step w v → Holds w → Holds v)
    {c : Cursor} (hc : c.On text)
    (begins : ∀ d : Cursor, d.On text → c.position ≤ d.position → Holds ⟨p.start, d, []⟩)
    {m : Match} (h : p.search? c = some m) :
    Holds m.way ∧ p.accepts m.way = true ∧ m.way.mark? 0 = some m.start ∧
      m.way.place = m.stop := by
  obtain ⟨w, hw, h⟩ := Option.bind_eq_some_iff.mp h
  obtain ⟨start, hstart, h⟩ := Option.bind_eq_some_iff.mp h
  obtain rfl := Option.some.inj h
  obtain ⟨holds, accepts⟩ := searchFrom_invariant step begins hc (Nat.le_refl _) hw
  exact ⟨holds, accepts, hstart, rfl⟩

/-- A search from a place finds a match there or further on. -/
theorem search?_within {c : Cursor} (hc : c.On text) {m : Match} (h : p.search? c = some m) :
    m.Within text c.position := by
  obtain ⟨way, -, hstart, hstop⟩ :=
    search?_invariant (fun _ _ => Step.from) hc (fun _ => Way.From.begin p.start) h
  obtain ⟨start_on, start_le, le⟩ := way.mark? hstart
  rw [hstop] at le
  refine ⟨start_on, hstop ▸ way.place, start_le, le, fun index taken ht => ?_⟩
  obtain ⟨a, ha, ht⟩ := Option.bind_eq_some_iff.mp ht
  obtain ⟨b, hb, ht⟩ := Option.bind_eq_some_iff.mp ht
  obtain rfl := Option.some.inj ht
  obtain ⟨a_on, a_le, -⟩ := way.mark? ha
  exact ⟨a.position, b.position, a_le, hstop ▸ (way.mark? hb).2.2, a_on.textTo b⟩

/-! ### The whole match -/

/-- A step to the end of a closed program marks slot 1. -/
theorem Closed.step_ends (hp : p.Closed) {w v : Way} (step : p.Step w v) (ends : v.node = 0) :
    v.mark? 1 = some v.place := by
  have last : ∀ n, p.node w.node = some n → v.node ∈ n.targets → n = .mark 1 0 := by
    rw [ends]
    exact hp.last w.node
  cases step with
  | eat here => cases last _ here (List.mem_singleton_self _)
  | look here => cases last _ here (List.mem_singleton_self _)
  | mark here =>
    cases last _ here (List.mem_singleton_self _)
    simp [Way.mark?]
  | first here => cases last _ here List.mem_cons_self
  | second here => cases last _ here (List.mem_cons_of_mem _ (List.mem_singleton_self _))

/-- The text of a match is its group 0. -/
theorem Closed.search?_whole (hp : p.Closed) {c : Cursor} (hc : c.On text) {m : Match}
    (h : p.search? c = some m) :
    m.group? 0 = some (slice text m.start.position m.stop.position) := by
  obtain ⟨ends, accepts, hstart, hstop⟩ :=
    search?_invariant (fun _ _ step _ => hp.step_ends step) hc
      (fun _ _ _ hz => absurd hz hp.start) h
  -- The way has come to the end, which is node 0, by a step.
  have hzero : m.way.node = 0 := hp.accepts _ (by simpa [Program.accepts] using accepts)
  have hend : m.way.mark? 1 = some m.stop := hstop ▸ ends hzero
  simp only [Match.group?, hstart, hend, Option.bind_eq_bind, Option.bind_some, Nat.mul_zero,
    Nat.zero_add]
  rw [(search?_within hc h).start_on.textTo]

end Program

end Emend
