import Mathlib.Data.Finset.Prod
import Mathlib.Logic.Relation
import Emend.Proofs.Pattern.Search

/-!
# A search misses nothing

A search finds the first place from which some way through the program comes to the end, and a way
from there that does; it finds none only if there is no such place (`Program.search_complete`).

A way is given up where another has come to the same node at the same place. That loses nothing, as
what a way can still come to does not depend on what it has marked (`Program.Step.meets`), and what
has been visited leads to nothing but what has been visited or is still on the stack
(`Program.Explored`). When the stack is empty, what has been visited therefore leads to no end.

The rounds suffice: each takes a way off the stack, and for the two that it may put there it works
on a pair of a node and a place that was left (`Program.remaining`).
-/

namespace Emend

/-! ### What has been visited -/

namespace Visited

theorem getElem?_growTo (rows : Array Nat) (place k : Nat) :
    ((growTo rows place)[k]?).getD 0 = rows[k]?.getD 0 := by
  rw [growTo]
  split
  · rfl
  · rw [Array.getElem?_append]
    split
    · rfl
    · next outside =>
      rw [Array.getElem?_eq_none (Nat.le_of_not_lt outside), Array.getElem?_replicate]
      split <;> rfl

theorem lt_size_growTo (rows : Array Nat) (place : Nat) : place < (growTo rows place).size := by
  rw [growTo]
  split
  · assumption
  · rw [Array.size_append, Array.size_replicate]
    omega

/-- One more pair has been worked on. -/
theorem contains_insert (v : Visited) (node place node' place' : Nat) :
    (v.insert node place).contains node' place' = true ↔
      node' = node ∧ place' = place ∨ v.contains node' place' = true := by
  have row := getElem?_growTo v.rows place place'
  have inside := lt_size_growTo v.rows place
  rw [contains, contains, insert, ← row, Array.getElem?_modify]
  by_cases same : place = place'
  · subst same
    rw [if_pos rfl, Array.getElem?_eq_getElem inside]
    simp only [Option.map_some, Option.getD_some, Nat.testBit_or, Nat.one_shiftLeft,
      Nat.testBit_two_pow, Bool.or_eq_true, decide_eq_true_eq, and_true]
    rw [or_comm, eq_comm]
  · rw [if_neg same]
    simp only [Ne.symm same, and_false, false_or]

theorem contains_empty (node place : Nat) : ({} : Visited).contains node place = false := by
  rw [contains, Array.getElem?_eq_none (Nat.zero_le _)]
  exact Nat.zero_testBit node

/-- Whether a way has come to a pair that has been worked on. -/
def Has (origin : Nat) (v : Visited) (w : Way) : Prop :=
  v.contains w.node (w.place.position - origin) = true

end Visited

/-! ### Ways that meet -/

/-- Whether two ways have come to the same node at the same place. -/
structure Way.Meets (w v : Way) : Prop where
  node : w.node = v.node
  place : w.place = v.place

namespace Program

variable {p : Program} {w v : Way}

theorem accepts_congr (h : w.Meets v) : p.accepts w = p.accepts v := by
  rw [accepts, accepts, h.node]

/-- The steps are all that leads on. -/
theorem mem_onward_of_step (step : p.Step w v) : v ∈ p.onward w := by
  cases step with
  | eat here takes => simp [onward, here, takes]
  | look here holds => simp [onward, here, holds]
  | mark here => simp [onward, here]
  | first here => simp [onward, here]
  | second here => simp [onward, here]

/-- What has been marked makes no difference to what a way can do next. -/
theorem Step.meets {w' : Way} (step : p.Step w w') (h : w.Meets v) :
    ∃ v', p.Step v v' ∧ w'.Meets v' := by
  obtain ⟨node, place, marks⟩ := w
  obtain ⟨node', place', marks'⟩ := v
  obtain ⟨rfl, rfl⟩ : node = node' ∧ place = place' := ⟨h.node, h.place⟩
  cases step with
  | eat here takes => exact ⟨_, .eat here takes, rfl, rfl⟩
  | look here holds => exact ⟨_, .look here holds, rfl, rfl⟩
  | mark here => exact ⟨_, .mark here, rfl, rfl⟩
  | first here => exact ⟨_, .first here, rfl, rfl⟩
  | second here => exact ⟨_, .second here, rfl, rfl⟩

theorem has_congr {origin : Nat} {visited : Visited} (h : w.Meets v) :
    visited.Has origin w ↔ visited.Has origin v := by
  rw [Visited.Has, Visited.Has, h.node, h.place]

/-- Whether one way leads on to another, in any number of steps. -/
abbrev Leads (p : Program) : Way → Way → Prop := Relation.ReflTransGen p.Step

/-! ### What is known when a search gives up -/

/-- Whether a way has come to a visited pair, or to one that a way on the stack has come to. -/
def Known (origin : Nat) (stack : List Way) (visited : Visited) (w : Way) : Prop :=
  visited.Has origin w ∨ ∃ u ∈ stack, w.Meets u

namespace Known

variable {origin : Nat} {stack : List Way} {visited : Visited}

/-- What a way on the stack has come to stays known when it is left out, if it has been visited. -/
theorem skip (h : Known origin (w :: stack) visited v) (seen : visited.Has origin w) :
    Known origin stack visited v := by
  rcases h with has | ⟨u, hu, meets⟩
  · exact .inl has
  · rcases List.mem_cons.mp hu with rfl | hu
    · exact .inl ((has_congr meets).mpr seen)
    · exact .inr ⟨u, hu, meets⟩

theorem nothing_stacked : Known origin [] visited v ↔ visited.Has origin v := by
  constructor
  · rintro (has | ⟨u, hu, -⟩)
    · exact has
    · cases hu
  · exact .inl

/-- It stays known when the way is worked on, whatever is put on the stack. -/
theorem work (h : Known origin (w :: stack) visited v) (next : List Way) :
    Known origin (next ++ stack) (visited.insert w.node (w.place.position - origin)) v := by
  have inserted := visited.contains_insert w.node (w.place.position - origin) v.node
    (v.place.position - origin)
  rcases h with has | ⟨u, hu, meets⟩
  · exact .inl (inserted.mpr (.inr has))
  · rcases List.mem_cons.mp hu with rfl | hu
    · exact .inl (inserted.mpr (.inl ⟨meets.node, by rw [meets.place]⟩))
    · exact .inr ⟨u, List.mem_append_right next hu, meets⟩

end Known

/-- What is known of the ways on a stack and of the pairs that have been visited: no visited pair
ends a match, and each leads to known ones only. -/
structure Explored (p : Program) (text : List Char) (origin : Nat) (stack : List Way)
    (visited : Visited) : Prop where
  stacked : ∀ w ∈ stack, w.From text origin
  endless : ∀ w : Way, w.From text origin → visited.Has origin w → p.accepts w = false
  closed : ∀ w v : Way, w.From text origin → visited.Has origin w → p.Step w v →
    Known origin stack visited v

namespace Explored

variable {text : List Char} {origin : Nat} {stack : List Way} {visited : Visited}

/-- Nothing has been visited. -/
theorem nothing : p.Explored text origin [] {} := by
  have none_visited : ∀ w, ¬ ({} : Visited).Has origin w := by
    intro w
    rw [Visited.Has, Visited.contains_empty]
    exact Bool.false_ne_true
  exact ⟨by simp, fun w _ h => absurd h (none_visited w), fun w _ _ h => absurd h (none_visited w)⟩

/-- One more way to follow. -/
theorem push (h : p.Explored text origin stack visited) (hw : w.From text origin) :
    p.Explored text origin (w :: stack) visited where
  stacked := List.forall_mem_cons.mpr ⟨hw, h.stacked⟩
  endless := h.endless
  closed u v hu has step := (h.closed u v hu has step).imp_right fun ⟨u', hu', meets⟩ =>
    ⟨u', List.mem_cons_of_mem w hu', meets⟩

/-- A way that comes to a visited pair can be left out. -/
theorem skip (h : p.Explored text origin (w :: stack) visited) (seen : visited.Has origin w) :
    p.Explored text origin stack visited where
  stacked := (List.forall_mem_cons.mp h.stacked).2
  endless := h.endless
  closed u v hu has step := (h.closed u v hu has step).skip seen

/-- A way is worked on: its pair has been visited, and what leads on from it is to be followed. -/
theorem work (h : p.Explored text origin (w :: stack) visited) (goes_on : p.accepts w = false) :
    p.Explored text origin (p.onward w ++ stack)
      (visited.insert w.node (w.place.position - origin)) := by
  obtain ⟨hw, hstack⟩ := List.forall_mem_cons.mp h.stacked
  have meets_or_has {u : Way} (hu : u.From text origin)
      (has : (visited.insert w.node (w.place.position - origin)).Has origin u) :
      u.Meets w ∨ visited.Has origin u := by
    rcases (visited.contains_insert ..).mp has with ⟨node, place⟩ | has
    · -- Both places come after the origin, so they are the same.
      have position : u.place.position = w.place.position := by
        have := hu.start
        have := hw.start
        omega
      exact .inl ⟨node, hu.place.ext hw.place position⟩
    · exact .inr has
  refine ⟨?_, ?_, ?_⟩
  · intro u hu
    rcases List.mem_append.mp hu with next | hu
    · exact (mem_onward next).from hw
    · exact hstack u hu
  · intro u hu has
    rcases meets_or_has hu has with meets | has
    · rw [accepts_congr meets, goes_on]
    · exact h.endless u hu has
  · intro u v hu has step
    rcases meets_or_has hu has with meets | has
    · obtain ⟨v', step', meets'⟩ := step.meets meets
      exact .inr ⟨v', List.mem_append_left stack (mem_onward_of_step step'), meets'⟩
    · exact (h.closed u v hu has step).work _

/-- When nothing is left to follow, no way from a visited pair comes to the end. -/
theorem dead (h : p.Explored text origin [] visited) (hw : w.From text origin)
    (has : visited.Has origin w) (leads : p.Leads w v) : p.accepts v = false := by
  have visited_all : v.From text origin ∧ visited.Has origin v := by
    induction leads with
    | refl => exact ⟨hw, has⟩
    | tail _ step ih =>
      obtain ⟨hu, has⟩ := ih
      exact ⟨step.from hu, Known.nothing_stacked.mp (h.closed _ _ hu has step)⟩
  exact h.endless v visited_all.1 visited_all.2

end Explored

/-! ### Enough rounds -/

/-- The pairs of a node and a place that are still to be worked on. -/
def remaining (p : Program) (places : Nat) (visited : Visited) : Finset (Nat × Nat) :=
  (Finset.range p.nodes.size ×ˢ Finset.range places).filter fun pair =>
    visited.contains pair.1 pair.2 = false

theorem card_remaining_le (p : Program) (places : Nat) (visited : Visited) :
    (p.remaining places visited).card ≤ p.nodes.size * places := by
  have all := Finset.card_filter_le (Finset.range p.nodes.size ×ˢ Finset.range places)
    fun pair => visited.contains pair.1 pair.2 = false
  rw [Finset.card_product, Finset.card_range, Finset.card_range] at all
  exact all

/-- To work on a pair leaves the others. -/
theorem remaining_insert (places : Nat) (visited : Visited) (node place : Nat) :
    p.remaining places (visited.insert node place) =
      (p.remaining places visited).erase (node, place) := by
  ext ⟨node', place'⟩
  have inserted := visited.contains_insert node place node' place'
  simp only [remaining, Finset.mem_filter, Finset.mem_erase, ← Bool.not_eq_true, inserted, ne_eq,
    Prod.mk.injEq, not_or]
  exact and_left_comm

theorem length_onward (p : Program) (w : Way) : (p.onward w).length ≤ 2 := by
  obtain ⟨node, ⟨n, before, rest⟩, marks⟩ := w
  rw [onward]
  cases p.node node with
  | none => simp
  | some instruction =>
    cases instruction with
    | eat s next =>
      cases rest with
      | nil => simp
      | cons x rest =>
        dsimp only
        split <;> simp
    | look a next =>
      dsimp only
      split <;> simp
    | mark slot next => simp
    | fork first second => simp
    | accept => simp

/-- What leads on is worth no more than the pair that was worked on. -/
theorem length_onward_le {places : Nat} {visited : Visited} {place : Nat} (inside : place < places)
    (new : visited.contains w.node place = false) :
    (p.onward w).length + 2 * (p.remaining places (visited.insert w.node place)).card ≤
      2 * (p.remaining places visited).card := by
  rw [remaining_insert]
  cases here : p.node w.node with
  | none =>
    have stuck : p.onward w = [] := by simp [onward, here]
    have := Finset.card_erase_le (s := p.remaining places visited) (a := (w.node, place))
    rw [stuck, List.length_nil]
    omega
  | some n =>
    have two := p.length_onward w
    have node : w.node < p.nodes.size := by
      rw [Program.node] at here
      exact (Array.getElem?_eq_some_iff.mp here).1
    have left : (w.node, place) ∈ p.remaining places visited := by
      simp [remaining, node, inside, new]
    have := Finset.card_erase_of_mem left
    have := Finset.card_pos.mpr ⟨_, left⟩
    omega

/-! ### Searches -/

variable {text : List Char} {origin : Nat}

/-- If no way on the stack comes to the end, all of them have been followed as far as they go. -/
theorem explore_none {rounds : Nat} {stack : List Way} {visited visited' : Visited}
    (h : p.Explored text origin stack visited)
    (enough : stack.length + 2 * (p.remaining (text.length - origin + 1) visited).card ≤ rounds)
    (none_found : p.explore origin rounds stack visited = (none, visited')) :
    p.Explored text origin [] visited' ∧
      ∀ w, Known origin stack visited w → visited'.Has origin w := by
  induction rounds generalizing stack visited with
  | zero =>
    cases stack with
    | cons w stack =>
      rw [List.length_cons] at enough
      omega
    | nil =>
      cases none_found
      exact ⟨h, fun _ => Known.nothing_stacked.mp⟩
  | succ rounds ih =>
    cases stack with
    | nil =>
      cases none_found
      exact ⟨h, fun _ => Known.nothing_stacked.mp⟩
    | cons w stack =>
      obtain ⟨hw, -⟩ := List.forall_mem_cons.mp h.stacked
      rw [List.length_cons] at enough
      rw [explore] at none_found
      split at none_found
      · next seen =>
        obtain ⟨explored, has⟩ := ih (h.skip seen) (by omega) none_found
        exact ⟨explored, fun v known => has v (known.skip seen)⟩
      · next new =>
        split at none_found
        · cases none_found
        · next goes_on =>
          have inside : w.place.position - origin < text.length - origin + 1 := by
            have := hw.place.le
            omega
          have worth := p.length_onward_le inside (Bool.not_eq_true _ ▸ new)
          obtain ⟨explored, has⟩ := ih (h.work (Bool.not_eq_true _ ▸ goes_on))
            (by rw [List.length_append]; omega) none_found
          exact ⟨explored, fun v known => has v (known.work _)⟩

/-- Whether some way from a place comes to the end. -/
def Live (p : Program) (c : Cursor) : Prop :=
  ∃ w, p.Leads ⟨p.start, c, []⟩ w ∧ p.accepts w = true

/-- What a search for the first live place comes to. -/
inductive Searches (p : Program) (text : List Char) (first : Nat) : Option Way → Prop
  | found {c : Cursor} {w : Way} (on : c.On text) (le : first ≤ c.position)
      (leads : p.Leads ⟨p.start, c, []⟩ w) (accepts : p.accepts w = true)
      (earlier : ∀ d : Cursor, d.On text → first ≤ d.position → d.position < c.position →
        ¬ p.Live d) : Searches p text first (some w)
  | missed (dead : ∀ d : Cursor, d.On text → first ≤ d.position → ¬ p.Live d) :
      Searches p text first none

/-- A place that is not live can be left out. -/
theorem Searches.from_before {first : Nat} {found : Option Way}
    (h : p.Searches text (first + 1) found)
    (dead : ∀ d : Cursor, d.On text → first ≤ d.position → ¬ first + 1 ≤ d.position → ¬ p.Live d) :
    p.Searches text first found := by
  cases h with
  | found on le leads accepts earlier =>
    refine .found on (Nat.le_of_succ_le le) leads accepts fun d hd hle hlt => ?_
    by_cases later : first + 1 ≤ d.position
    · exact earlier d hd later hlt
    · exact dead d hd hle later
  | missed later_dead =>
    refine .missed fun d hd hle => ?_
    by_cases later : first + 1 ≤ d.position
    · exact later_dead d hd later
    · exact dead d hd hle later

/-- Following the ways from one place either finds one that comes to the end, or leaves no more to
follow than before. -/
theorem explore_start {rounds : Nat} {visited : Visited} {c : Cursor}
    (h : p.Explored text origin [] visited) (on : c.On text) (le : origin ≤ c.position)
    (enough : p.enoughRounds (text.length - origin) ≤ rounds) :
    (∃ w visited', p.explore origin rounds [⟨p.start, c, []⟩] visited = (some w, visited') ∧
      p.Leads ⟨p.start, c, []⟩ w ∧ p.accepts w = true) ∨
    ∃ visited', p.explore origin rounds [⟨p.start, c, []⟩] visited = (none, visited') ∧
      p.Explored text origin [] visited' ∧ ¬ p.Live c := by
  have hw : Way.From text origin ⟨p.start, c, []⟩ := .begin p.start on le
  rcases result : p.explore origin rounds [⟨p.start, c, []⟩] visited with ⟨_ | w, visited'⟩
  · refine .inr ⟨visited', rfl, ?_⟩
    have few := p.card_remaining_le (text.length - origin + 1) visited
    rw [enoughRounds, Nat.mul_assoc] at enough
    obtain ⟨explored, has⟩ := explore_none (h.push hw) (by rw [List.length_singleton]; omega) result
    refine ⟨explored, ?_⟩
    rintro ⟨w, leads, accepts⟩
    have start_seen := has ⟨p.start, c, []⟩ (.inr ⟨_, List.mem_singleton_self _, rfl, rfl⟩)
    rw [explored.dead hw start_seen leads] at accepts
    cases accepts
  · have found := congrArg Prod.fst result
    have begins : ∀ w ∈ [(⟨p.start, c, []⟩ : Way)], p.Leads ⟨p.start, c, []⟩ w := by
      intro w hw
      rw [List.mem_singleton.mp hw]
    obtain ⟨leads, accepts⟩ := explore_invariant (fun _ _ step leads => leads.tail step) begins found
    exact .inl ⟨w, visited', rfl, leads, accepts⟩

theorem searchFrom_searches {rounds : Nat} {visited : Visited} {position : Nat}
    {before : Option Char} {rest : List Char} (h : p.Explored text origin [] visited)
    (on : Cursor.On text ⟨position, before, rest⟩) (le : origin ≤ position)
    (enough : p.enoughRounds (text.length - origin) ≤ rounds) :
    p.Searches text position (p.searchFrom origin rounds visited position before rest) := by
  induction rest generalizing visited position before with
  | nil =>
    -- The end is the only place that is left.
    have only : ∀ d : Cursor, d.On text → position ≤ d.position → d = ⟨position, before, []⟩ := by
      intro d hd hle
      have ended : text.length ≤ position := List.drop_eq_nil_iff.mp on.rest.symm
      exact hd.ext on (Nat.le_antisymm (Nat.le_trans hd.le ended) hle)
    rw [searchFrom]
    rcases explore_start h on le enough with ⟨w, visited', finds, leads, accepts⟩ | ⟨visited', fails, -, dead⟩
    · rw [finds]
      refine .found on (Nat.le_refl _) leads accepts fun d hd hle hlt => ?_
      exact absurd hlt (Nat.not_lt_of_le hle)
    · rw [fails]
      refine .missed fun d hd hle => ?_
      rw [only d hd hle]
      exact dead
  | cons x rest ih =>
    rw [searchFrom]
    rcases explore_start h on le enough with
      ⟨w, visited', finds, leads, accepts⟩ | ⟨visited', fails, explored, dead⟩
    · rw [finds]
      refine .found on (Nat.le_refl _) leads accepts fun d hd hle hlt => ?_
      exact absurd hlt (Nat.not_lt_of_le hle)
    · rw [fails]
      have here_or_later : ∀ d : Cursor, d.On text → position ≤ d.position →
          ¬ position + 1 ≤ d.position → ¬ p.Live d := by
        intro d hd hle early
        rw [hd.ext on (show d.position = position by omega)]
        exact dead
      exact (ih explored on.next (Nat.le_succ_of_le le)).from_before here_or_later

/-- **A search misses nothing.** From a place on it finds the first place from which some way comes
to the end, and such a way from there, if there is one. -/
theorem search_complete (p : Program) {c : Cursor} (on : c.On text) :
    p.Searches text c.position
      (p.searchFrom c.position (p.enoughRounds c.rest.length) {} c.position c.before c.rest) := by
  have length : c.rest.length = text.length - c.position := by
    rw [on.rest, List.length_drop]
  exact searchFrom_searches .nothing on (Nat.le_refl _) (by rw [length])

end Program

end Emend
