import Emend.Pattern.Program

/-!
# How programs are laid down

Laying an expression down adds nodes to a table and keeps those that are there. None of the new
nodes ends a match, and they lead to each other and to the node that follows, so that nothing leads
to the nodes that were there before but that one (`Regex.layout_above`).

A program that was made of an expression therefore ends its matches in one way only: through the
mark that closes the whole match (`Program.ofRegex_closed`).
-/

namespace Emend

/-- The nodes that a node leads to. -/
def Node.targets : Node → List Nat
  | eat _ next | look _ next | mark _ next => [next]
  | fork first second => [first, second]
  | accept => []

/-- Whether a node goes on, to nodes from one on. -/
def Node.GoesAbove (least : Nat) (n : Node) : Prop :=
  n ≠ accept ∧ ∀ target ∈ n.targets, least ≤ target

theorem Node.goesAbove_choice {least : Nat} (greedy : Bool) {body past : Nat} (hb : least ≤ body)
    (hp : least ≤ past) : (choice greedy body past).GoesAbove least := by
  cases greedy <;> simp [choice, GoesAbove, targets, hb, hp]

namespace Layout

/-- What is laid down in front of others: the table is kept and made longer, and what is new starts
at and leads to nodes from one on. -/
structure Above (least : Nat) (nodes : Array Node) (out : Nat × Array Node) : Prop where
  entry : least ≤ out.1
  size : nodes.size ≤ out.2.size
  old : ∀ i < nodes.size, out.2[i]? = nodes[i]?
  new : ∀ i, nodes.size ≤ i → ∀ n, out.2[i]? = some n → n.GoesAbove least

/-- Whether a layout leads to nodes from one on, if the node that follows is one of them and the
next free one is. -/
def StaysAbove (least : Nat) (l : Layout) : Prop :=
  ∀ next nodes, least ≤ next → least ≤ nodes.size → Above least nodes (l next nodes)

variable {least : Nat}

/-- Laying down nothing. -/
theorem above_self {next : Nat} (nodes : Array Node) (h : least ≤ next) :
    Above least nodes (next, nodes) where
  entry := h
  size := Nat.le_refl _
  old _ _ := rfl
  new i hi n hn := by
    rw [Array.getElem?_eq_none hi] at hn
    cases hn

theorem Above.push {nodes : Array Node} {out : Nat × Array Node} (h : Above least nodes out)
    {n : Node} (hn : n.GoesAbove least) (hsize : least ≤ nodes.size) :
    Above least nodes (out.2.size, out.2.push n) where
  entry := Nat.le_trans hsize h.size
  size := by
    rw [Array.size_push]
    exact Nat.le_succ_of_le h.size
  old i hi := by
    rw [Array.getElem?_push_lt (Nat.lt_of_lt_of_le hi h.size), ← h.old i hi]
    exact (Array.getElem?_eq_getElem _).symm
  new i hi m hm := by
    rw [Array.getElem?_push] at hm
    split at hm
    · obtain rfl := Option.some.inj hm
      exact hn
    · exact h.new i hi m hm

/-- What is laid down in front of what is laid down. -/
theorem Above.trans {nodes : Array Node} {mid out : Nat × Array Node} (h : Above least nodes mid)
    (h' : Above least mid.2 out) : Above least nodes out where
  entry := h'.entry
  size := Nat.le_trans h.size h'.size
  old i hi := by
    rw [h'.old i (Nat.lt_of_lt_of_le hi h.size), h.old i hi]
  new i hi n hn := by
    by_cases hmid : mid.2.size ≤ i
    · exact h'.new i hmid n hn
    · rw [h'.old i (by omega)] at hn
      exact h.new i hi n hn

/-- A place is kept free for a node that leads back into what is laid down after it. -/
theorem Above.fill {nodes : Array Node} {free : Node} {out : Nat × Array Node}
    (h : Above least (nodes.push free) out) {n : Node} (hn : n.GoesAbove least) {entry : Nat}
    (hentry : least ≤ entry) : Above least nodes (entry, out.2.setIfInBounds nodes.size n) where
  entry := hentry
  size := by
    have hsize := h.size
    rw [Array.size_push] at hsize
    rw [Array.size_setIfInBounds]
    omega
  old i hi := by
    rw [Array.getElem?_setIfInBounds_ne (by omega), h.old i (by rw [Array.size_push]; omega),
      Array.getElem?_push_lt hi]
    exact (Array.getElem?_eq_getElem _).symm
  new i hi m hm := by
    -- A new node is the one that is filled in, or one of those after it.
    rw [Array.getElem?_setIfInBounds] at hm
    split at hm
    · split at hm
      · obtain rfl := Option.some.inj hm
        exact hn
      · cases hm
    · refine h.new i ?_ m hm
      rw [Array.size_push]
      omega

/-! ### Layouts -/

theorem staysAbove_one (node : Nat → Node)
    (h : ∀ next, least ≤ next → (node next).GoesAbove least) :
    StaysAbove least (one node) :=
  fun next nodes hnext hsize => (above_self nodes hnext).push (h next hnext) hsize

variable {l m : Layout}

theorem StaysAbove.before (hl : l.StaysAbove least) (hm : m.StaysAbove least) :
    StaysAbove least (l.before m) := by
  intro next nodes hnext hsize
  have second := hm next nodes hnext hsize
  exact second.trans (hl _ _ second.entry (Nat.le_trans hsize second.size))

theorem StaysAbove.copies (hl : l.StaysAbove least) (n : Nat) : StaysAbove least (l.copies n) := by
  induction n with
  | zero => exact fun next nodes hnext _ => above_self nodes hnext
  | succ n ih => exact ih.before hl

theorem StaysAbove.atLeastOnce (hl : l.StaysAbove least) (greedy : Bool) :
    StaysAbove least (l.atLeastOnce greedy) := by
  intro next nodes hnext hsize
  have body := hl nodes.size (nodes.push .accept) hsize (by rw [Array.size_push]; omega)
  exact body.fill (Node.goesAbove_choice greedy body.entry hnext) body.entry

theorem StaysAbove.loop (hl : l.StaysAbove least) (greedy : Bool) :
    StaysAbove least (l.loop greedy) := by
  intro next nodes hnext hsize
  have body := hl nodes.size (nodes.push .accept) hsize (by rw [Array.size_push]; omega)
  exact body.fill (Node.goesAbove_choice greedy body.entry hnext) hsize

theorem StaysAbove.orPast (hl : l.StaysAbove least) (greedy : Bool) {past : Nat}
    (hpast : least ≤ past) : StaysAbove least (l.orPast greedy past) := by
  intro next nodes hnext hsize
  have body := hl next nodes hnext hsize
  exact body.push (Node.goesAbove_choice greedy body.entry hpast) hsize

theorem StaysAbove.atMost (hl : l.StaysAbove least) (greedy : Bool) (n : Nat) :
    StaysAbove least (l.atMost greedy n) :=
  fun next nodes hnext hsize => (hl.orPast greedy hnext).copies n next nodes hnext hsize

theorem StaysAbove.either (hl : l.StaysAbove least) (hm : m.StaysAbove least) :
    StaysAbove least (l.either m) := by
  intro next nodes hnext hsize
  have second := hm next nodes hnext hsize
  have first := hl next _ hnext (Nat.le_trans hsize second.size)
  refine (second.trans first).push ⟨nofun, ?_⟩ hsize
  simpa [Node.targets] using ⟨first.entry, second.entry⟩

end Layout

open Layout in
/-- An expression leads to its own nodes and to the one that follows. -/
theorem Regex.layout_above (r : Regex) (least : Nat) : r.layout.StaysAbove least := by
  induction r with
  | empty => exact fun next nodes hnext _ => above_self nodes hnext
  | char s => exact staysAbove_one _ fun next h => ⟨nofun, by simpa [Node.targets] using h⟩
  | assertion a => exact staysAbove_one _ fun next h => ⟨nofun, by simpa [Node.targets] using h⟩
  | seq r s hr hs => exact hr.before hs
  | alt r s hr hs => exact hr.either hs
  | group index r hr =>
    have mark : ∀ slot, StaysAbove least (one (.mark slot)) :=
      fun slot => staysAbove_one _ fun next h => ⟨nofun, by simpa [Node.targets] using h⟩
    exact (mark _).before (hr.before (mark _))
  | times n most greedy r hr =>
    -- The cases are those of the layout of a repetition.
    cases most with
    | some most =>
      rw [layout]
      exact (hr.copies n).before (hr.atMost greedy _)
    | none =>
      cases n with
      | succ n => exact (hr.copies n).before (hr.atLeastOnce greedy)
      | zero =>
        rw [layout]
        split
        · exact fun next nodes hnext hsize =>
            (hr.atLeastOnce greedy).orPast greedy hnext next nodes hnext hsize
        · exact hr.loop greedy

namespace Program

/-- Whether a program ends its matches at node 0 only, to which the mark of slot 1 leads and nothing
else does. -/
structure Closed (p : Program) : Prop where
  start : p.start ≠ 0
  accepts : ∀ i, p.node i = some .accept → i = 0
  last : ∀ i n, p.node i = some n → 0 ∈ n.targets → n = .mark 1 0

/-- The whole match is laid down between its two marks. -/
theorem ofRegex_closed (r : Regex) : (ofRegex r).Closed := by
  have inner := r.layout_above 1 1 #[.accept, .mark 1 0] (Nat.le_refl _) (by simp)
  have whole := inner.trans (Layout.staysAbove_one (.mark 0)
    (fun next h => ⟨nofun, by simpa [Node.targets] using h⟩) _ _ inner.entry
    (Nat.le_trans (by simp) inner.size))
  have node : ∀ i n, (ofRegex r).node i = some n →
      (i = 0 ∧ n = .accept) ∨ n = .mark 1 0 ∨ n.GoesAbove 1 := by
    intro i n h
    by_cases hi : i < 2
    -- The two nodes that are there first are kept.
    · have hold := (whole.old i hi).symm.trans h
      match i, hi with
      | 0, _ => exact .inl ⟨rfl, (Option.some.inj hold).symm⟩
      | 1, _ => exact .inr (.inl (Option.some.inj hold).symm)
    · have new : 2 ≤ i := Nat.le_of_not_lt hi
      exact .inr (.inr (whole.new i new n h))
  refine ⟨?_, fun i h => ?_, fun i n h hlast => ?_⟩
  · have := whole.entry
    exact Nat.ne_of_gt this
  · rcases node i _ h with ⟨rfl, -⟩ | h | h
    · rfl
    · cases h
    · exact absurd rfl h.1
  · rcases node i n h with ⟨-, rfl⟩ | rfl | h
    · simp [Node.targets] at hlast
    · rfl
    · exact absurd (h.2 0 hlast) (by omega)

end Program

end Emend
