import Emend.Diff.Compaction

/-!
# What edit scripts make of lists

A script leads from the list that it has before to the one that it has after (`Script.Leads`). The
script that is found between two lists leads from the one to the other
(`Script.between_leads`), whether or not a middle snake is found and wherever it is: that the
snake is one matters for the length of the script only.

What is done to a script afterwards moves its chunks and joins them. Each such move replaces a few
chunks that stand together by others with the same two lists (`Script.Agree`), so these moves are
stated first, each by itself, and then whole shifts by induction on them (`Script.shiftUp_agree`,
`Script.shiftDown_agree`). It does not matter how far chunks are shifted, or in which order.
-/

namespace Emend

variable {α : Type}

namespace Script

/-! ### The two lists of a script -/

section Lists

variable (s s' : Script α) (c : Chunk α)

@[simp] theorem before_nil : before ([] : Script α) = [] := rfl

@[simp] theorem after_nil : after ([] : Script α) = [] := rfl

@[simp] theorem before_cons : before (c :: s) = c.before ++ s.before := List.flatMap_cons

@[simp] theorem after_cons : after (c :: s) = c.after ++ s.after := List.flatMap_cons

@[simp] theorem before_append : before (s ++ s') = s.before ++ s'.before := List.flatMap_append

@[simp] theorem after_append : after (s ++ s') = s.after ++ s'.after := List.flatMap_append

end Lists

/-- Whether a script makes one list of another. -/
structure Leads (s : Script α) (xs ys : List α) : Prop where
  before : s.before = xs
  after : s.after = ys

/-- Whether two scripts make the same list of the same list. -/
structure Agree (s s' : Script α) : Prop where
  before : s.before = s'.before
  after : s.after = s'.after

variable {s s' s'' : Script α} {xs ys xs' ys' : List α} {c c' : Chunk α}

namespace Leads

theorem append (h : s.Leads xs ys) (h' : s'.Leads xs' ys') :
    Leads (s ++ s') (xs ++ xs') (ys ++ ys') where
  before := by rw [before_append, h.before, h'.before]
  after := by rw [after_append, h.after, h'.after]

theorem single_keep (xs : List α) : (single .keep xs).Leads xs xs := by
  cases xs with
  | nil => exact ⟨rfl, rfl⟩
  | cons x xs => exact ⟨List.append_nil _, List.append_nil _⟩

theorem replacement (xs ys : List α) : (replacement xs ys).Leads xs ys := by
  have delete : (single .delete xs).Leads xs [] := by
    cases xs with
    | nil => exact ⟨rfl, rfl⟩
    | cons x xs => exact ⟨List.append_nil _, rfl⟩
  have insert : (single .insert ys).Leads [] ys := by
    cases ys with
    | nil => exact ⟨rfl, rfl⟩
    | cons y ys => exact ⟨rfl, List.append_nil _⟩
  have both := delete.append insert
  rwa [List.append_nil, List.nil_append] at both

end Leads

namespace Agree

theorem refl (s : Script α) : Agree s s := ⟨rfl, rfl⟩

theorem symm (h : Agree s s') : Agree s' s := ⟨h.before.symm, h.after.symm⟩

theorem trans (h : Agree s s') (h' : Agree s' s'') : Agree s s'' :=
  ⟨h.before.trans h'.before, h.after.trans h'.after⟩

theorem cons (h : Agree s s') (c : Chunk α) : Agree (c :: s) (c :: s') where
  before := by rw [before_cons, before_cons, h.before]
  after := by rw [after_cons, after_cons, h.after]

/-- What stands below other chunks may be replaced, -/
theorem below (h : Agree s s') (above : Script α) : Agree (above ++ s) (above ++ s') where
  before := by rw [before_append, before_append, h.before]
  after := by rw [after_append, after_append, h.after]

/-- and so may what stands above others. -/
theorem above (h : Agree s s') (below : Script α) : Agree (s ++ below) (s' ++ below) where
  before := by rw [before_append, before_append, h.before]
  after := by rw [after_append, after_append, h.after]

theorem leads (h : Agree s s') (leads : s'.Leads xs ys) : s.Leads xs ys :=
  ⟨h.before.trans leads.before, h.after.trans leads.after⟩

end Agree

/-! ### Finding a script -/

section Between

variable [DecidableEq α]

/-- What two lists have in common at their ends is kept, and a script leads from the rest of the one
to the rest of the other. -/
theorem Leads.framed (xs ys : List α) :
    let start := commonStart xs ys
    let finish := commonEnd start.left start.right
    ∀ {inner : Script α}, inner.Leads finish.left finish.right →
      (single .keep start.shared ++ inner ++ single .keep finish.shared).Leads xs ys := by
  intro start finish inner h
  have whole := ((single_keep start.shared).append h).append (single_keep finish.shared)
  have left : start.shared ++ finish.left ++ finish.shared = xs := by
    rw [List.append_assoc, left_append_shared, shared_append_left]
  have right : start.shared ++ finish.right ++ finish.shared = ys := by
    rw [List.append_assoc, right_append_shared, shared_append_right]
  rwa [left, right] at whole

/-- A script between two lists leads from the one to the other. -/
theorem between_leads (xs ys : List α) : (between xs ys).Leads xs ys := by
  induction xs, ys using between.induct with
  | case1 xs ys start finish first second =>
    rw [between]
    refine Leads.framed xs ys ?_
    split
    · exact .replacement ..
    · split
      · exact .replacement ..
      · next x y _ =>
        split
        · next shorter =>
          have parts := (first x y shorter).append (second x y shorter)
          rwa [List.take_append_drop, List.take_append_drop] at parts
        · exact .replacement ..

end Between

/-! ### Moving chunks -/

/-- A chunk of kept items that has none is of no use. -/
theorem agree_keep_of_isEmpty {items : List α} (h : items.isEmpty = true) (s : Script α) :
    Agree (⟨.keep, items⟩ :: s) s := by
  obtain rfl := List.isEmpty_iff.mp h
  exact ⟨rfl, rfl⟩

/-- Two chunks of a kind are one. -/
theorem agree_merge (same : c.kind = c'.kind) :
    Agree [c, c'] [⟨c'.kind, c.items ++ c'.items⟩] := by
  obtain ⟨kind, items⟩ := c
  obtain rfl : kind = c'.kind := same
  cases h : c'.kind <;> constructor <;> simp [Chunk.before, Chunk.after, h]

theorem agree_merge_keep (items items' : List α) :
    Agree [⟨.keep, items⟩, ⟨.keep, items'⟩] [⟨.keep, items ++ items'⟩] := agree_merge rfl

/-- A deletion and an insertion pass each other. -/
theorem agree_swap (edits : c.kind ≠ .keep) (edits' : c'.kind ≠ .keep) (differ : c.kind ≠ c'.kind) :
    Agree [c, c'] [c', c] := by
  obtain ⟨kind, items⟩ := c
  obtain ⟨kind', items'⟩ := c'
  cases kind <;> cases kind' <;> simp at edits edits' differ <;>
    exact ⟨by simp [Chunk.before], by simp [Chunk.after]⟩

theorem keepBefore_agree (items : List α) (s : Script α) :
    Agree (keepBefore items s) (⟨.keep, items⟩ :: s) := by
  cases s with
  | nil => exact .refl _
  | cons c s =>
    rw [keepBefore]
    split
    · next kept =>
      obtain ⟨kind, items'⟩ := c
      obtain rfl : kind = .keep := kept
      exact ((agree_merge_keep items items').above s).symm
    · exact .refl _

theorem keepAfter_agree (items : List α) (s : Script α) :
    Agree (keepAfter items s).reverse (s.reverse ++ [⟨.keep, items⟩]) := by
  cases s with
  | nil => exact .refl _
  | cons c s =>
    rw [keepAfter]
    split
    · next kept =>
      obtain ⟨kind, items'⟩ := c
      obtain rfl : kind = .keep := kept
      rw [List.reverse_cons, List.reverse_cons, List.append_assoc]
      exact ((agree_merge_keep items' items).below s.reverse).symm
    · rw [List.reverse_cons]
      exact .refl _

/-- Kept items that have been passed stay below, if there are any, -/
theorem agree_passed_below (shared : List α) (s : Script α) :
    Agree (if shared.isEmpty then s else keepBefore shared s) (⟨.keep, shared⟩ :: s) := by
  split
  · next empty => exact (agree_keep_of_isEmpty empty s).symm
  · exact keepBefore_agree shared s

/-- or above. -/
theorem agree_passed_above (shared : List α) (s : Script α) :
    Agree (if shared.isEmpty then s else keepAfter shared s).reverse
      (s.reverse ++ [⟨.keep, shared⟩]) := by
  split
  · next empty =>
    have h := (agree_keep_of_isEmpty empty []).symm.below s.reverse
    rwa [List.append_nil] at h
  · exact keepAfter_agree shared s

section Compaction

variable [DecidableEq α]

/-- An insertion passes what it ends with, if the kept items above it end with the same. -/
theorem agree_passingUp (below : Script α) (keep : c'.kind = .keep) (edits : c.kind ≠ .keep) :
    let common := passingUp c'.items c
    Agree (⟨.keep, common.left⟩ :: ⟨c.kind, common.shared ++ common.right⟩ ::
      ⟨.keep, common.shared⟩ :: below) (c' :: c :: below) := by
  obtain ⟨kind', kept⟩ := c'
  obtain rfl : kind' = .keep := keep
  obtain ⟨kind, items⟩ := c
  rw [passingUp]
  cases kind with
  | keep => exact absurd rfl edits
  | delete => constructor <;> simp [Chunk.before, Chunk.after]
  | insert =>
    rw [if_pos rfl]
    have above := left_append_shared kept items
    have inserted := right_append_shared kept items
    generalize commonEnd kept items = common at above inserted ⊢
    subst above inserted
    constructor <;> simp [Chunk.before, Chunk.after]

/-- An insertion passes what it begins with, if the kept items below it begin with the same. -/
theorem agree_passingDown (below : Script α) (keep : c'.kind = .keep) (edits : c.kind ≠ .keep) :
    let common := passingDown c'.items c
    Agree (⟨.keep, common.shared⟩ :: ⟨c.kind, common.right ++ common.shared⟩ ::
      ⟨.keep, common.left⟩ :: below) (c :: c' :: below) := by
  obtain ⟨kind', kept⟩ := c'
  obtain rfl : kind' = .keep := keep
  obtain ⟨kind, items⟩ := c
  rw [passingDown]
  cases kind with
  | keep => exact absurd rfl edits
  | delete => constructor <;> simp [Chunk.before, Chunk.after]
  | insert =>
    rw [if_pos rfl]
    have kept_eq := shared_append_left kept items
    have inserted := shared_append_right kept items
    generalize commonStart kept items = common at kept_eq inserted ⊢
    subst kept_eq inserted
    constructor <;> simp [Chunk.before, Chunk.after]

/-! ### Whole shifts -/

/-- A chunk of edits that is shifted up leaves the lists of the script as they are. -/
theorem shiftUp_agree (above : Script α) (c : Chunk α) (below : Script α)
    (edits : c.kind ≠ .keep) :
    Agree (shiftUp above c below).closed (above.reverse ++ c :: below) ∧
      (shiftUp above c below).chunk.kind = c.kind := by
  induction above, c, below using shiftUp.induct with
  | case1 c below =>
    rw [shiftUp]
    exact ⟨.refl _, rfl⟩
  | case2 next above c below keep common left ih =>
    -- The chunk passes all of the kept items, and none of them stay above it.
    obtain ⟨shifted, kind⟩ := ih edits
    have passed := (agree_passingUp below keep edits).below above.reverse
    have dropped := (agree_keep_of_isEmpty left (⟨c.kind, common.shared ++ common.right⟩ ::
      ⟨.keep, common.shared⟩ :: below)).below above.reverse
    have stays := ((agree_passed_below common.shared below).cons
      ⟨c.kind, common.shared ++ common.right⟩).below above.reverse
    rw [shiftUp, if_pos keep]
    dsimp only
    rw [if_pos left, List.reverse_cons, List.append_assoc]
    exact ⟨((shifted.trans stays).trans dropped.symm).trans passed, kind⟩
  | case3 next above c below keep common left shared =>
    rw [shiftUp, if_pos keep]
    dsimp only
    rw [if_neg left, if_pos shared]
    exact ⟨.refl _, rfl⟩
  | case4 next above c below keep common left shared ih =>
    -- It passes some of them, which are kept below it.
    obtain ⟨shifted, kind⟩ := ih edits
    have passed := (agree_passingUp below keep edits).below above.reverse
    have stays := (((keepBefore_agree common.shared below).cons
      ⟨c.kind, common.shared ++ common.right⟩).cons ⟨.keep, common.left⟩).below above.reverse
    rw [List.reverse_cons, List.append_assoc] at shifted
    rw [shiftUp, if_pos keep]
    dsimp only
    rw [if_neg left, if_neg shared, List.reverse_cons, List.append_assoc]
    exact ⟨(shifted.trans stays).trans passed, kind⟩
  | case5 next above c below edits' same ih =>
    obtain ⟨shifted, kind⟩ := ih edits
    have merged := ((agree_merge same).above below).below above.reverse
    rw [shiftUp, if_neg edits', if_pos same, List.reverse_cons, List.append_assoc]
    exact ⟨shifted.trans merged.symm, kind⟩
  | case6 next above c below edits' differ ih =>
    obtain ⟨shifted, kind⟩ := ih edits
    have swapped := ((agree_swap edits' edits differ).above below).below above.reverse
    rw [shiftUp, if_neg edits', if_neg differ, List.reverse_cons, List.append_assoc]
    exact ⟨shifted.trans swapped.symm, kind⟩

/-- And so does one that is shifted down. -/
theorem shiftDown_agree (below : Script α) (c : Chunk α) (above : Script α)
    (edits : c.kind ≠ .keep) :
    Agree (shiftDown below c above).closed (above.reverse ++ c :: below) ∧
      (shiftDown below c above).chunk.kind = c.kind := by
  induction below, c, above using shiftDown.induct with
  | case1 c above =>
    rw [shiftDown]
    exact ⟨.refl _, rfl⟩
  | case2 next below c above keep common left ih =>
    obtain ⟨shifted, kind⟩ := ih edits
    have passed := (agree_passingDown below keep edits).below above.reverse
    have dropped := (((agree_keep_of_isEmpty left below).cons
      ⟨c.kind, common.right ++ common.shared⟩).cons ⟨.keep, common.shared⟩).below above.reverse
    have stays := (agree_passed_above common.shared above).above
      (⟨c.kind, common.right ++ common.shared⟩ :: below)
    rw [List.append_assoc] at stays
    rw [shiftDown, if_pos keep]
    dsimp only
    rw [if_pos left]
    exact ⟨((shifted.trans stays).trans dropped.symm).trans passed, kind⟩
  | case3 next below c above keep common left shared =>
    rw [shiftDown, if_pos keep]
    dsimp only
    rw [if_neg left, if_pos shared]
    exact ⟨.refl _, rfl⟩
  | case4 next below c above keep common left shared ih =>
    obtain ⟨shifted, kind⟩ := ih edits
    have passed := (agree_passingDown below keep edits).below above.reverse
    have stays := (keepAfter_agree common.shared above).above
      (⟨c.kind, common.right ++ common.shared⟩ :: ⟨.keep, common.left⟩ :: below)
    rw [List.append_assoc] at stays
    rw [shiftDown, if_pos keep]
    dsimp only
    rw [if_neg left, if_neg shared]
    exact ⟨(shifted.trans stays).trans passed, kind⟩
  | case5 next below c above edits' same ih =>
    obtain ⟨shifted, kind⟩ := ih edits
    have merged := ((agree_merge same.symm).above below).below above.reverse
    rw [same] at merged
    rw [shiftDown, if_neg edits', if_pos same]
    exact ⟨shifted.trans merged.symm, kind⟩
  | case6 next below c above edits' differ ih =>
    obtain ⟨shifted, kind⟩ := ih edits
    have swapped := ((agree_swap edits' edits differ).above below).below above.reverse
    rw [List.reverse_cons, List.append_assoc] at shifted
    rw [shiftDown, if_neg edits', if_neg differ]
    exact ⟨shifted.trans swapped, kind⟩

/-! ### Whole scripts -/

/-- However many chunks of edits are shifted, the lists of the script stay as they are. -/
theorem settle_agree {kind : ChunkKind} (edits : kind ≠ .keep) (steps : Nat)
    (above below : Script α) :
    Agree (settle kind steps above below) (above.reverse ++ below) := by
  induction steps generalizing above below with
  | zero => exact .refl _
  | succ steps ih =>
    cases below with
    | nil =>
      rw [settle, List.append_nil]
      · exact .refl _
      · exact nofun
    | cons c below =>
      rw [settle]
      by_cases same : c.kind = kind
      · rw [if_pos same]
        have edits_c : c.kind ≠ .keep := by rwa [same]
        obtain ⟨shiftedUp, kindUp⟩ := shiftUp_agree above c below edits_c
        generalize shiftUp above c below = up at shiftedUp kindUp ⊢
        have edits_up : up.chunk.kind ≠ .keep := by rwa [kindUp]
        obtain ⟨shiftedDown, -⟩ := shiftDown_agree up.below up.chunk up.above edits_up
        dsimp only
        generalize shiftDown up.below up.chunk up.above = down at shiftedDown ⊢
        have rest := ih (down.chunk :: down.above) down.below
        rw [List.reverse_cons, List.append_assoc] at rest
        exact (rest.trans shiftedDown).trans shiftedUp
      · rw [if_neg same]
        have rest := ih (c :: above) below
        rwa [List.reverse_cons, List.append_assoc] at rest

/-- A compacted script makes the same list of the same list. -/
theorem compact_agree (s : Script α) : Agree s.compact s :=
  (settle_agree (by decide) _ [] _).trans (settle_agree (by decide) _ [] s)

end Compaction

/-- Edits that are not yet written come before the rest of the script. -/
theorem blocksAfter_agree (deleted inserted : List α) (s : Script α) :
    Agree (blocksAfter deleted inserted s) (replacement deleted inserted ++ s) := by
  induction s generalizing deleted inserted with
  | nil =>
    rw [blocksAfter, List.append_nil]
    exact .refl _
  | cons c s ih =>
    obtain ⟨kind, items⟩ := c
    have pending := Leads.replacement deleted inserted
    cases kind with
    | keep => exact ((ih [] []).cons ⟨.keep, items⟩).below _
    | delete =>
      have more := Leads.replacement (deleted ++ items) inserted
      have rest := ih (deleted ++ items) inserted
      refine ⟨rest.before.trans ?_, rest.after.trans ?_⟩
      · simp [pending.before, more.before, Chunk.before]
      · simp [pending.after, more.after, Chunk.after]
    | insert =>
      have more := Leads.replacement deleted (inserted ++ items)
      have rest := ih deleted (inserted ++ items)
      refine ⟨rest.before.trans ?_, rest.after.trans ?_⟩
      · simp [pending.before, more.before, Chunk.before]
      · simp [pending.after, more.after, Chunk.after]

/-- A script in blocks makes the same list of the same list. -/
theorem inBlocks_agree (s : Script α) : Agree s.inBlocks s := blocksAfter_agree [] [] s

/-! ### Items with their fates -/

/-- The items that are not inserted are those of the list to change, -/
theorem before_marked (s : Script α) :
    ((s.flatMap Chunk.marked).filter (·.1 ≠ .insert)).map (·.2) = s.before := by
  induction s with
  | nil => rfl
  | cons c s ih =>
    obtain ⟨kind, items⟩ := c
    rw [List.flatMap_cons, List.filter_append, List.map_append, ih, before_cons]
    cases kind <;> simp [Chunk.marked, Chunk.before, List.filter_map, Function.comp_def]

/-- and those that are not deleted are those of the changed list. -/
theorem after_marked (s : Script α) :
    ((s.flatMap Chunk.marked).filter (·.1 ≠ .delete)).map (·.2) = s.after := by
  induction s with
  | nil => rfl
  | cons c s ih =>
    obtain ⟨kind, items⟩ := c
    rw [List.flatMap_cons, List.filter_append, List.map_append, ih, after_cons]
    cases kind <;> simp [Chunk.marked, Chunk.after, List.filter_map, Function.comp_def]

/-! ### Scripts without edits -/

/-- Whether a script keeps all items. -/
def Keeps (s : Script α) : Prop := ∀ c ∈ s, c.kind = .keep

theorem Keeps.inBlocks_eq (h : s.Keeps) : s.inBlocks = s := by
  rw [inBlocks]
  induction s with
  | nil => rfl
  | cons c s ih =>
    obtain ⟨keep, rest⟩ := List.forall_mem_cons.mp h
    rw [blocksAfter, keep]
    show replacement [] [] ++ c :: blocksAfter [] [] s = c :: s
    rw [ih rest]
    rfl

section Compaction

variable [DecidableEq α]

theorem Keeps.settle_eq {kind : ChunkKind} (edits : kind ≠ .keep) (h : s.Keeps) (steps : Nat)
    (above : Script α) : settle kind steps above s = above.reverse ++ s := by
  induction steps generalizing above s with
  | zero => rfl
  | succ steps ih =>
    cases s with
    | nil =>
      rw [settle, List.append_nil]
      exact nofun
    | cons c s =>
      obtain ⟨keep, rest⟩ := List.forall_mem_cons.mp h
      have other : ¬ c.kind = kind := by rw [keep]; exact edits.symm
      rw [settle, if_neg other, ih rest, List.reverse_cons, List.append_assoc]
      rfl

theorem Keeps.compact_eq (h : s.Keeps) : s.compact = s := by
  rw [compact, h.settle_eq (by decide), List.reverse_nil, List.nil_append,
    h.settle_eq (by decide), List.reverse_nil, List.nil_append]

/-- A list is made of itself by keeping all of it. -/
theorem between_self (xs : List α) : (between xs xs).Keeps := by
  have start : commonStart xs xs = ⟨xs, [], []⟩ := by
    induction xs with
    | nil => rfl
    | cons x xs ih => rw [commonStart, if_pos rfl, ih]
  rw [between, start]
  cases xs with
  | nil =>
    intro c hc
    cases hc
  | cons x xs => exact List.forall_mem_singleton.mpr rfl

end Compaction

end Script

end Emend
