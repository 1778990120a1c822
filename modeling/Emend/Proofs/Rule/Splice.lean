import Emend.Proofs.Pattern.Iteration
import Emend.Proofs.Rule.Built

/-!
# What a rule makes of a text

A rule leaves the parts of a text between its matches as they are, in order, and puts its filled-in
template in the place of each match (`Rule.apply_splices`). Matches and their groups are parts of
the text as it was given, so nothing that has been put into the text is ever looked at.

What `Rule.apply` does is said here with the numbers of places (`spliced`), and not with the cursors
that a search hands out.
-/

namespace Emend

/-! ### Texts with matches replaced -/

/-- A text from a place on, with other texts in the place of the matches after it. -/
def spliced (expand : Match → List Char) (text : List Char) : (here : Nat) → List Match → List Char
  | here, [] => text.drop here
  | here, m :: rest =>
    slice text here m.start.position ++ expand m ++ spliced expand text m.stop.position rest

theorem slice_append_drop (text : List Char) {a b : Nat} (h : a ≤ b) :
    slice text a b ++ text.drop b = text.drop a := by
  have hb : text.drop b = (text.drop a).drop (b - a) := by
    rw [List.drop_drop]
    congr 1
    omega
  rw [slice, hb, List.take_append_drop]

/-- With the texts of the matches themselves in their place, a text is as it was: nothing between
matches is lost, and nothing is there twice. -/
theorem spliced_self {text : List Char} {ms : List Match} (within : ∀ m ∈ ms, m.Within text 0)
    (ordered : ms.Pairwise fun a b => b.Past a.stop.position) {here : Nat}
    (first : ∀ m ∈ ms, here ≤ m.start.position) :
    spliced (fun m => slice text m.start.position m.stop.position) text here ms =
      text.drop here := by
  induction ms generalizing here with
  | nil => rfl
  | cons m rest ih =>
    obtain ⟨past, ordered⟩ := List.pairwise_cons.mp ordered
    -- The part before the match, the match, and what is left after it.
    rw [spliced, ih (fun b hb => within b (by simp [hb])) ordered fun b hb => (past b hb).le,
      List.append_assoc, slice_append_drop text (within m (by simp)).le,
      slice_append_drop text (first m (by simp))]

theorem spliced_congr {expand expand' : Match → List Char} {text : List Char} {ms : List Match}
    (h : ∀ m ∈ ms, expand m = expand' m) (here : Nat) :
    spliced expand text here ms = spliced expand' text here ms := by
  induction ms generalizing here with
  | nil => rfl
  | cons m rest ih =>
    rw [spliced, spliced, h m (by simp), ih fun b hb => h b (by simp [hb])]

namespace Rule

/-- Cursors of a text stand for the numbers of their places. -/
theorem splice_eq_spliced (expand : Match → List Char) {text : List Char} {ms : List Match}
    (within : ∀ m ∈ ms, m.Within text 0) {here : Cursor} (on : here.On text) :
    splice expand here ms = spliced expand text here.position ms := by
  induction ms generalizing here with
  | nil => exact on.rest
  | cons m rest ih =>
    rw [splice, spliced, on.textTo, ih (fun b hb => within b (by simp [hb]))
      (within m (by simp)).stop_on]

/-! ### Rules -/

/-- What it means that a text comes of another by replacing matches by a rule. -/
structure Splices (r : Rule) (content : String) (ms : List Match) (out : Substitution) : Prop where
  /-- The matches are all those of the iteration. -/
  iterates : r.pattern.program.Iterates none (.start content.toList) ms
  /-- They and their groups are parts of the content, which places between its characters bound. -/
  within : ∀ m ∈ ms, m.Within content.toList 0
  whole : ∀ m ∈ ms, m.group? 0 = some (slice content.toList m.start.position m.stop.position)
  /-- They do not overlap, and none is empty right at the end of one before it. -/
  ordered : ms.Pairwise fun a b => a.stop.position ≤ b.start.position ∧
    (b.start.position = b.stop.position → a.stop.position < b.start.position)
  few : ms.length ≤ content.toList.length + 1
  text : out.text.toList = spliced (r.template.expand r.pattern) content.toList 0 ms
  count : out.count = ms.length
  /-- The content itself is handed back if there is no match, and only then. -/
  borrowed : out.borrowed = true ↔ out.count = 0
  same : out.borrowed = true → out.text = content

/-- The text that a rule makes is the spliced one, whether there are matches or not. -/
theorem text_apply (r : Rule) (content : String) :
    (r.apply content).text.toList = spliced (r.template.expand r.pattern) content.toList 0
      (r.pattern.allMatches content.toList) := by
  have within := r.pattern.program.allMatches_within content.toList
  rw [apply]
  split
  · next none_found =>
    -- Without a match the only part is the whole content.
    rw [none_found]
    rfl
  · rw [String.toList_ofList]
    exact splice_eq_spliced _ within (Cursor.start_on content.toList)

/-- **What a rule makes of a text.** -/
theorem apply_splices {r : Rule} (built : r.Built) (content : String) :
    r.Splices content (r.pattern.allMatches content.toList) (r.apply content) := by
  have within := r.pattern.program.allMatches_within content.toList
  have ordered := r.pattern.program.allMatches_pairwise content.toList
  have count : (r.apply content).count = (r.pattern.allMatches content.toList).length := by
    rw [apply]
    split
    · next none_found => rw [none_found]; rfl
    · rfl
  refine {
    iterates := r.pattern.program.allMatches_iterates content.toList
    within
    whole := built.closed.allMatches_whole content.toList
    ordered := ordered.imp fun past =>
      ⟨past.le, fun h => past.lt_of_empty (Match.isEmpty_iff.mpr h)⟩
    few := Match.length_le_of_pairwise within ordered (Nat.zero_le _) fun m _ => Nat.zero_le _
    text := r.text_apply content
    count
    borrowed := ?_
    same := ?_ }
  · rw [count, apply]
    split
    · next none_found => simp [none_found]
    · next some_found => simpa using some_found
  · rw [apply]
    split
    · exact fun _ => rfl
    · nofun

/-- A rule that puts each run of a letter between brackets, the empty ones too. -/
def bracketing : Rule := (Rule.build "a*" "<\\g<0>>" {}).toOption.getD default

theorem bracketing_built : bracketing.Built := built_of_isOk (by decide +kernel)

theorem apply_splices_bracketing :
    bracketing.Built ∧ bracketing.apply "baac" = { text := "<>b<aa>c<>", count := 3 } ∧
      bracketing.Splices "baac" (bracketing.pattern.allMatches "baac".toList)
        (bracketing.apply "baac") :=
  ⟨bracketing_built, by decide +kernel, apply_splices bracketing_built "baac"⟩

/-- A rule that puts the whole match in its own place leaves each text as it is. -/
theorem apply_whole {r : Rule} (built : r.Built) (template : r.template.pieces = [.group 0])
    (content : String) : (r.apply content).text = content := by
  have whole := built.closed.allMatches_whole content.toList
  have expand : ∀ m ∈ r.pattern.program.allMatches content.toList,
      r.template.expand r.pattern m =
        slice content.toList m.start.position m.stop.position := by
    intro m hm
    simp [Template.expand, template, Template.Piece.expand, whole m hm]
  rw [← String.toList_inj, text_apply]
  exact (spliced_congr expand 0).trans
    (spliced_self (r.pattern.program.allMatches_within content.toList)
      (r.pattern.program.allMatches_pairwise content.toList) fun m _ => Nat.zero_le _)

end Rule

end Emend
