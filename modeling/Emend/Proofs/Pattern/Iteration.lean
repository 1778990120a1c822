import Emend.Proofs.Pattern.Search

/-!
# The matches of a text

The matches of a text are what single searches find, each from the end of the match before it. An
empty match right at the end of the match before it does not count, and the search goes on at the
next place. `Program.Iterates` says this, one rule for each turn that the iteration can take, and
without a bound on their number; `Program.allMatches_iterates` says that the matches of a text are
those of the whole iteration, which its bound never cuts short.

Each match ends further on than the one before it (`Program.Iterates.pairwise`). This is also why
there is at most one match more than the text has characters (`Match.length_le_of_pairwise`).
-/

namespace Emend

/-- Whether a place is at or after the end of the match before it, if there is one. -/
def Cursor.Clears (last : Option Nat) (c : Cursor) : Prop := ∀ n, last = some n → n ≤ c.position

namespace Cursor.Clears

variable {last : Option Nat} {c d : Cursor}

theorem none (c : Cursor) : c.Clears none := by
  intro n hn
  cases hn

theorem self (c : Cursor) : c.Clears (some c.position) := by
  rintro n ⟨⟩
  exact Nat.le_refl _

theorem mono (h : c.Clears last) (hle : c.position ≤ d.position) : d.Clears last :=
  fun n hn => Nat.le_trans (h n hn) hle

end Cursor.Clears

/-- Whether a match is empty and right at the end of the match before it. -/
def Match.Idle (last : Option Nat) (m : Match) : Prop :=
  m.isEmpty = true ∧ last = some m.stop.position

instance (last : Option Nat) (m : Match) : Decidable (m.Idle last) :=
  inferInstanceAs (Decidable (_ ∧ _))

/-- Whether a match stays clear of what ends at a place: it does not reach back behind the place,
and it is not empty there. -/
structure Match.Past (n : Nat) (m : Match) : Prop where
  le : n ≤ m.start.position
  lt_of_empty : m.isEmpty = true → n < m.start.position

namespace Match

variable {text : List Char} {m : Match} {n : Nat}

theorem Past.lt_stop (h : m.Past n) (hle : m.start.position ≤ m.stop.position) :
    n < m.stop.position := by
  by_cases he : m.isEmpty = true
  · exact Nat.lt_of_lt_of_le (h.lt_of_empty he) hle
  · have hne := mt isEmpty_iff.mpr he
    have := h.le
    omega

theorem Past.mono (h : m.Past n) {k : Nat} (hk : k ≤ n) : m.Past k :=
  ⟨Nat.le_trans hk h.le, fun he => Nat.lt_of_le_of_lt hk (h.lt_of_empty he)⟩

/-- Matches of which each one is past the end of those before it are no more than the places left,
of which the end of a text is one. -/
theorem length_le_of_pairwise {ms : List Match} (within : ∀ m ∈ ms, m.Within text 0)
    (ordered : ms.Pairwise fun a b => b.Past a.stop.position) (hn : n ≤ text.length + 1)
    (first : ∀ m ∈ ms, n ≤ m.stop.position) : ms.length + n ≤ text.length + 1 := by
  induction ms generalizing n with
  | nil => simpa using hn
  | cons m rest ih =>
    obtain ⟨past, ordered⟩ := List.pairwise_cons.mp ordered
    have hstop := (within m (by simp)).stop_on.le
    have hfirst := first m (by simp)
    have := ih (fun b hb => within b (by simp [hb])) ordered (n := m.stop.position + 1) (by omega)
      fun b hb => (past b hb).lt_stop (within b (by simp [hb])).le
    rw [List.length_cons]
    omega

end Match

namespace Program

/-- The matches at and after a place, when the match before them, if there is one, ends at
`last`. -/
inductive Iterates (p : Program) : (last : Option Nat) → Cursor → List Match → Prop
  | ended {last : Option Nat} {c : Cursor} (none_left : p.search? c = none) : Iterates p last c []
  | found {last : Option Nat} {c : Cursor} {m : Match} {rest : List Match}
      (finds : p.search? c = some m) (counts : ¬ m.Idle last)
      (more : Iterates p (some m.stop.position) m.stop rest) : Iterates p last c (m :: rest)
  /-- A match that does not count is passed over. -/
  | passed {last : Option Nat} {c d : Cursor} {m : Match} {rest : List Match}
      (finds : p.search? c = some m) (idle : m.Idle last) (next : c.next? = some d)
      (more : Iterates p last d rest) : Iterates p last c rest
  /-- There is no place after a match that does not count. -/
  | spent {last : Option Nat} {c : Cursor} {m : Match} (finds : p.search? c = some m)
      (idle : m.Idle last) (at_end : c.next? = none) : Iterates p last c []

variable {p : Program} {text : List Char} {last : Option Nat} {c : Cursor} {ms : List Match}

/-! ### What the iteration finds -/

/-- Single searches leave the iteration no choice. -/
theorem Iterates.unique (h : p.Iterates last c ms) {ms' : List Match}
    (h' : p.Iterates last c ms') : ms = ms' := by
  induction h generalizing ms' with
  | ended none_left => cases h' <;> simp_all
  | found finds counts more ih =>
    cases h' with
    | ended => simp_all
    | found finds' counts' more' =>
      obtain rfl := Option.some.inj (finds.symm.trans finds')
      rw [ih more']
    | passed finds' idle =>
      obtain rfl := Option.some.inj (finds.symm.trans finds')
      exact absurd idle counts
    | spent finds' idle =>
      obtain rfl := Option.some.inj (finds.symm.trans finds')
      exact absurd idle counts
  | passed finds idle next more ih =>
    cases h' with
    | ended => simp_all
    | found finds' counts' =>
      obtain rfl := Option.some.inj (finds.symm.trans finds')
      exact absurd idle counts'
    | passed finds' idle' next' more' =>
      obtain rfl := Option.some.inj (next.symm.trans next')
      exact ih more'
    | spent finds' idle' at_end => simp_all
  | spent finds idle at_end => cases h' <;> simp_all

/-- A match counts only if it is past the one before it. -/
theorem past_of_counts (hc : c.On text) {m : Match} (finds : p.search? c = some m)
    (clears : c.Clears last) (counts : ¬ m.Idle last) {n : Nat} (hn : last = some n) :
    m.Past n := by
  have within := search?_within hc finds
  refine ⟨Nat.le_trans (clears n hn) within.start_le, fun empty => ?_⟩
  have hstop := Match.isEmpty_iff.mp empty
  have hne : n ≠ m.stop.position := fun h => counts ⟨empty, h ▸ hn⟩
  have hle := clears n hn
  have := within.start_le
  omega

/-- The matches lie in the rest of the text, past the match before them. -/
theorem Iterates.within (h : p.Iterates last c ms) (hc : c.On text) (clears : c.Clears last) :
    ∀ m ∈ ms, m.Within text c.position ∧ ∀ n, last = some n → m.Past n := by
  induction h with
  | ended => simp
  | @found last c m rest finds counts more ih =>
    -- The matches after the first one are past it, and it is past the one before.
    have here := search?_within hc finds
    intro m' hm
    rcases List.mem_cons.mp hm with rfl | hm
    · exact ⟨here, fun n hn => past_of_counts hc finds clears counts hn⟩
    · obtain ⟨within, past⟩ := ih here.stop_on (.self _) m' hm
      have le : c.position ≤ m.stop.position := Nat.le_trans here.start_le here.le
      exact ⟨within.mono le, fun n hn => (past _ rfl).mono (clears.mono le n hn)⟩
  | passed finds idle next more ih =>
    obtain ⟨hd, hpos⟩ := hc.next? next
    have le := Nat.le_of_lt (Nat.lt_of_succ_le (Nat.le_of_eq hpos.symm))
    intro m' hm
    obtain ⟨within, past⟩ := ih hd (clears.mono le) m' hm
    exact ⟨within.mono le, past⟩
  | spent => simp

/-- Each match is past those before it. -/
theorem Iterates.pairwise (h : p.Iterates last c ms) (hc : c.On text) (clears : c.Clears last) :
    ms.Pairwise fun a b => b.Past a.stop.position := by
  induction h with
  | ended => exact .nil
  | found finds counts more ih =>
    have stop_on := (search?_within hc finds).stop_on
    exact .cons (fun b hb => (more.within stop_on (.self _) b hb).2 _ rfl) (ih stop_on (.self _))
  | passed finds idle next more ih =>
    obtain ⟨hd, hpos⟩ := hc.next? next
    exact ih hd (clears.mono (by omega))
  | spent => exact .nil

/-- Each match is found by one search. -/
theorem Iterates.exists_search? (h : p.Iterates last c ms) (hc : c.On text) :
    ∀ m ∈ ms, ∃ d : Cursor, d.On text ∧ p.search? d = some m := by
  induction h with
  | ended => simp
  | found finds counts more ih =>
    intro m' hm
    rcases List.mem_cons.mp hm with rfl | hm
    · exact ⟨_, hc, finds⟩
    · exact ih (search?_within hc finds).stop_on m' hm
  | passed finds idle next more ih => exact ih (hc.next? next).1
  | spent => simp

/-- Group 0 of each match is its text. -/
theorem Iterates.whole (h : p.Iterates last c ms) (hp : p.Closed) (hc : c.On text) :
    ∀ m ∈ ms, m.group? 0 = some (slice text m.start.position m.stop.position) := by
  intro m hm
  obtain ⟨d, hd, finds⟩ := h.exists_search? hc m hm
  exact hp.search?_whole hd finds

/-! ### The bound on the iteration -/

theorem searchPast?_eq (p : Program) (last : Option Nat) (c : Cursor) :
    p.searchPast? last c = (p.search? c).bind fun m =>
      if m.Idle last then c.next?.bind p.search? else some m := by
  rw [searchPast?]
  simp only [Option.bind_eq_bind, Bool.and_eq_true, beq_iff_eq]
  rfl

/-- A round that finds nothing is the last one. -/
theorem iterates_of_searchPast?_eq_none (h : p.searchPast? last c = none) :
    p.Iterates last c [] := by
  rw [searchPast?_eq] at h
  cases hm : p.search? c with
  | none => exact .ended hm
  | some m =>
    rw [hm, Option.bind_some] at h
    by_cases idle : m.Idle last
    · rw [if_pos idle] at h
      cases hd : c.next? with
      | none => exact .spent hm idle hd
      | some d => exact .passed hm idle hd (.ended (by simpa [hd] using h))
    · rw [if_neg idle] at h
      cases h

/-- A round that finds a match finds it by a search from the same place or from the next one. -/
theorem search?_of_searchPast?_eq_some (hc : c.On text)
    (clears : c.Clears last) {m : Match} (h : p.searchPast? last c = some m) :
    ∃ d, d.On text ∧ c.position ≤ d.position ∧ p.search? d = some m ∧ ¬ m.Idle last ∧
      ∀ ms, p.Iterates last d ms → p.Iterates last c ms := by
  rw [searchPast?_eq] at h
  cases hm : p.search? c with
  | none => simp [hm] at h
  | some first =>
    rw [hm, Option.bind_some] at h
    by_cases idle : first.Idle last
    · rw [if_pos idle] at h
      cases hd : c.next? with
      | none => simp [hd] at h
      | some d =>
        have finds : p.search? d = some m := by simpa [hd] using h
        obtain ⟨d_on, hpos⟩ := hc.next? hd
        refine ⟨d, d_on, by omega, finds, fun again => ?_, fun ms => .passed hm idle hd⟩
        -- The second match ends after the place that the first one is at.
        have hend := clears _ again.2
        have within := search?_within d_on finds
        have hstart := within.start_le
        have hle := within.le
        omega
    · rw [if_neg idle] at h
      obtain rfl := Option.some.inj h
      exact ⟨c, hc, Nat.le_refl _, hm, idle, fun ms hms => hms⟩

/-- The least place at which the next match may end. -/
def leastStop (last : Option Nat) (c : Cursor) : Nat :=
  match last with
  | none => c.position
  | some n => n + 1

/-- Each round that finds a match takes the least end further on, so there is a round left as long
as there are places. -/
theorem matchesFrom_iterates (hc : c.On text) (clears : c.Clears last) {rounds : Nat}
    (enough : text.length + 2 ≤ rounds + leastStop last c) :
    p.Iterates last c (p.matchesFrom rounds last c) := by
  have hleast : leastStop last c ≤ c.position + 1 := by
    cases last with
    | none => exact Nat.le_succ _
    | some n => exact Nat.succ_le_succ (clears n rfl)
  induction rounds generalizing last c with
  | zero =>
    -- There are more rounds than places left.
    have := hc.le
    omega
  | succ rounds ih =>
    rw [matchesFrom]
    cases h : p.searchPast? last c with
    | none => exact iterates_of_searchPast?_eq_none h
    | some m =>
      obtain ⟨d, d_on, hd, finds, counts, reached⟩ := search?_of_searchPast?_eq_some hc clears h
      have within := (search?_within d_on finds).mono hd
      have further : leastStop last c ≤ m.stop.position := by
        cases last with
        | none => exact Nat.le_trans within.start_le within.le
        | some n =>
          exact (past_of_counts d_on finds (clears.mono hd) counts rfl).lt_stop within.le
      refine reached _ (.found finds counts (ih within.stop_on (.self _) ?_ (Nat.le_refl _)))
      show text.length + 2 ≤ rounds + (m.stop.position + 1)
      omega

/-- The matches of a text are those of the whole iteration. -/
theorem allMatches_iterates (p : Program) (text : List Char) :
    p.Iterates none (.start text) (p.allMatches text) :=
  matchesFrom_iterates (Cursor.start_on text) (.none _) (Nat.le_refl _)

theorem allMatches_within (p : Program) (text : List Char) :
    ∀ m ∈ p.allMatches text, m.Within text 0 :=
  fun m hm => ((p.allMatches_iterates text).within (Cursor.start_on text) (.none _) m hm).1

theorem allMatches_pairwise (p : Program) (text : List Char) :
    (p.allMatches text).Pairwise fun a b => b.Past a.stop.position :=
  (p.allMatches_iterates text).pairwise (Cursor.start_on text) (.none _)

theorem Closed.allMatches_whole (hp : p.Closed) (text : List Char) :
    ∀ m ∈ p.allMatches text,
      m.group? 0 = some (slice text m.start.position m.stop.position) :=
  (p.allMatches_iterates text).whole hp (Cursor.start_on text)

end Program

end Emend
