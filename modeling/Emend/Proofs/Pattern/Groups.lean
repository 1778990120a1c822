import Emend.Proofs.Pattern.Iteration
import Emend.Proofs.Pattern.Names

/-!
# The groups that take part

The groups that take part in a match are the whole match and groups that the pattern counts
(`Pattern.le_groupCount_of_group?`). So the count is large enough: a number past it stands for no
text of any match.

A group takes part by the marks of its two slots. A program marks the slots of the groups of its
expression (`Regex.layout_marksOnly`), and a way through it notes a slot only at a node that marks
it, so no match has other slots marked (`Program.marks_of_mem_allMatches`).
-/

namespace Emend

/-! ### The slots that a program marks -/

/-- Whether a node marks no slot but some. -/
def Node.MarksOnly (slots : Nat → Prop) : Node → Prop
  | mark slot _ => slots slot
  | _ => True

theorem Node.marksOnly_choice (slots : Nat → Prop) (greedy : Bool) (body past : Nat) :
    (choice greedy body past).MarksOnly slots := by
  cases greedy <;> trivial

namespace Layout

/-- Whether what is laid down marks no slot but some, if the nodes that it is laid down in front of
do so. -/
def MarksOnly (slots : Nat → Prop) (l : Layout) : Prop :=
  ∀ next nodes, (∀ n ∈ nodes, n.MarksOnly slots) → ∀ n ∈ (l next nodes).2, n.MarksOnly slots

variable {slots : Nat → Prop} {l m : Layout}

theorem marksOnly_push {nodes : Array Node} (h : ∀ n ∈ nodes, n.MarksOnly slots) {node : Node}
    (hnode : node.MarksOnly slots) : ∀ n ∈ nodes.push node, n.MarksOnly slots := by
  intro n hn
  rcases Array.mem_push.mp hn with hn | rfl
  · exact h n hn
  · exact hnode

theorem marksOnly_fill {nodes : Array Node} (h : ∀ n ∈ nodes, n.MarksOnly slots) {node : Node}
    (hnode : node.MarksOnly slots) (place : Nat) :
    ∀ n ∈ nodes.setIfInBounds place node, n.MarksOnly slots := by
  intro n hn
  rcases Array.mem_or_eq_of_mem_setIfInBounds hn with hn | rfl
  · exact h n hn
  · exact hnode

theorem marksOnly_one {node : Nat → Node} (h : ∀ next, (node next).MarksOnly slots) :
    MarksOnly slots (one node) :=
  fun next _ hnodes => marksOnly_push hnodes (h next)

theorem MarksOnly.before (hl : l.MarksOnly slots) (hm : m.MarksOnly slots) :
    MarksOnly slots (l.before m) :=
  fun next nodes hnodes => hl _ _ (hm next nodes hnodes)

theorem MarksOnly.copies (hl : l.MarksOnly slots) (n : Nat) : MarksOnly slots (l.copies n) := by
  induction n with
  | zero => exact fun _ _ hnodes => hnodes
  | succ n ih => exact ih.before hl

theorem MarksOnly.atLeastOnce (hl : l.MarksOnly slots) (greedy : Bool) :
    MarksOnly slots (l.atLeastOnce greedy) := by
  intro next nodes hnodes
  have body := hl nodes.size (nodes.push .accept) (marksOnly_push hnodes trivial)
  exact marksOnly_fill body (Node.marksOnly_choice ..) nodes.size

theorem MarksOnly.loop (hl : l.MarksOnly slots) (greedy : Bool) :
    MarksOnly slots (l.loop greedy) := by
  intro next nodes hnodes
  have body := hl nodes.size (nodes.push .accept) (marksOnly_push hnodes trivial)
  exact marksOnly_fill body (Node.marksOnly_choice ..) nodes.size

theorem MarksOnly.orPast (hl : l.MarksOnly slots) (greedy : Bool) (past : Nat) :
    MarksOnly slots (l.orPast greedy past) :=
  fun next nodes hnodes => marksOnly_push (hl next nodes hnodes) (Node.marksOnly_choice ..)

theorem MarksOnly.either (hl : l.MarksOnly slots) (hm : m.MarksOnly slots) :
    MarksOnly slots (l.either m) :=
  fun next nodes hnodes => marksOnly_push (hl next _ (hm next nodes hnodes)) trivial

end Layout

open Layout in
/-- An expression marks the slots of its groups. -/
theorem Regex.layout_marksOnly {slots : Nat → Prop} (r : Regex)
    (h : ∀ index ∈ r.groupIndices, slots (2 * index) ∧ slots (2 * index + 1)) :
    r.layout.MarksOnly slots := by
  induction r with
  | empty => exact fun _ _ hnodes => hnodes
  | char s => exact marksOnly_one fun _ => trivial
  | assertion a => exact marksOnly_one fun _ => trivial
  | seq r s hr hs =>
    obtain ⟨first, second⟩ := List.forall_mem_append.mp h
    exact (hr first).before (hs second)
  | alt r s hr hs =>
    obtain ⟨first, second⟩ := List.forall_mem_append.mp h
    exact (hr first).either (hs second)
  | group index r hr =>
    obtain ⟨⟨opens, closes⟩, inner⟩ := List.forall_mem_cons.mp h
    have mark {slot : Nat} (ok : slots slot) : MarksOnly slots (one (.mark slot)) :=
      marksOnly_one fun _ => ok
    exact (mark opens).before ((hr inner).before (mark closes))
  | times n most greedy r hr =>
    have body : r.layout.MarksOnly slots := hr h
    -- The cases are those of the layout of a repetition.
    cases most with
    | some most =>
      rw [layout]
      exact (body.copies n).before
        fun next nodes => (body.orPast greedy next).copies _ next nodes
    | none =>
      cases n with
      | succ n => exact (body.copies n).before (body.atLeastOnce greedy)
      | zero =>
        rw [layout]
        split
        · exact fun next nodes => (body.atLeastOnce greedy).orPast greedy next next nodes
        · exact body.loop greedy

/-! ### The slots that a match has marked -/

namespace Program

variable {p : Program} {slots : Nat → Prop}

/-- Whether the nodes of a program mark no slot but some. -/
def MarksOnly (slots : Nat → Prop) (p : Program) : Prop := ∀ n ∈ p.nodes, n.MarksOnly slots

/-- The program of an expression marks the slots of the whole match and of its groups. -/
theorem ofRegex_marksOnly (r : Regex) (whole : slots 0 ∧ slots 1)
    (h : ∀ index ∈ r.groupIndices, slots (2 * index) ∧ slots (2 * index + 1)) :
    (ofRegex r).MarksOnly slots := by
  have all : ∀ index ∈ (Regex.group 0 r).groupIndices, slots (2 * index) ∧ slots (2 * index + 1) :=
    List.forall_mem_cons.mpr ⟨whole, h⟩
  refine (Regex.group 0 r).layout_marksOnly all 0 #[.accept] fun n hn => ?_
  obtain rfl := Array.mem_singleton.mp hn
  trivial

/-- A step notes a slot only if a node marks it. -/
theorem Step.marks (hp : p.MarksOnly slots) {w v : Way} (step : p.Step w v)
    (h : ∀ mark ∈ w.marks, slots mark.1) : ∀ mark ∈ v.marks, slots mark.1 := by
  cases step with
  | eat => exact h
  | look => exact h
  | first => exact h
  | second => exact h
  | @mark _ slot next here =>
    have marked : slots slot := hp _ (Array.mem_of_getElem? here)
    exact List.forall_mem_cons.mpr ⟨marked, h⟩

theorem marks_of_mem_allMatches (hp : p.MarksOnly slots) {text : List Char} {m : Match}
    (h : m ∈ p.allMatches text) : ∀ mark ∈ m.way.marks, slots mark.1 := by
  obtain ⟨c, hc, finds⟩ :=
    (p.allMatches_iterates text).exists_search? (Cursor.start_on text) m h
  have step (w v : Way) (hstep : p.Step w v) (hw : ∀ mark ∈ w.marks, slots mark.1) :
      ∀ mark ∈ v.marks, slots mark.1 := hstep.marks hp hw
  obtain ⟨marks, -⟩ := search?_invariant step hc (fun _ _ _ => nofun) finds
  exact marks

end Program

/-! ### The groups that a pattern counts -/

namespace Pattern

/-- The program of a pattern marks the slots of the whole match and of groups that it counts. -/
theorem compile_marksOnly {flags : PatternFlags} {source : String} {p : Pattern}
    (h : compile flags source = .ok p) :
    p.program.MarksOnly fun slot => slot / 2 ≤ p.groupCount := by
  obtain ⟨read, -, -, rfl⟩ := compile_eq_ok.mp h
  refine Program.ofRegex_marksOnly read.regex ⟨Nat.zero_le _, Nat.zero_le _⟩ ?_
  intro index hindex
  have counted : index ≤ read.regex.groupIndices.foldl max 0 := le_foldl_max hindex 0
  have opens : 2 * index / 2 = index := by omega
  have closes : (2 * index + 1) / 2 = index := by omega
  show 2 * index / 2 ≤ _ ∧ (2 * index + 1) / 2 ≤ _
  rw [opens, closes]
  exact ⟨counted, counted⟩

/-- A group that takes part in a match is one that the pattern counts. -/
theorem le_groupCount_of_group? {flags : PatternFlags} {source : String} {p : Pattern}
    (h : compile flags source = .ok p) {text : List Char} {m : Match}
    (hm : m ∈ p.allMatches text) {index : Nat} {taken : List Char}
    (took : m.group? index = some taken) : index ≤ p.groupCount := by
  obtain ⟨a, ha, -⟩ := Option.bind_eq_some_iff.mp took
  obtain ⟨before, after, hmarks, -⟩ := List.lookup_eq_some_iff.mp ha
  have slot : 2 * index / 2 ≤ p.groupCount :=
    Program.marks_of_mem_allMatches (compile_marksOnly h) hm (2 * index, a) (by simp [hmarks])
  omega

end Pattern

end Emend
