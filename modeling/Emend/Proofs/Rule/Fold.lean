import Mathlib.Algebra.GroupWithZero.Nat
import Emend.Proofs.Rule.Splice

/-!
# Rules one after the other

Rules that are applied as one set make of a text what they make of it one by one, each on the text
that the one before it has left, and their matches add up (`RuleSet.applyEach_eq`). That a text which
a rule hands back is kept, and not replaced by a copy, makes no difference: what is handed back is
what was given (`Rule.inPlaceOf_apply`).

Sets in a row therefore act as one set. The matches of a set add up to none exactly if no rule has
one in the text that the whole set is given, although only the first rule is sure to see that text:
as long as nothing is matched, every rule sees it (`RuleSet.totalCount_counts_eq_zero`). All this
makes up `RuleSet.apply_composes`.
-/

namespace Emend

/-! ### One rule -/

namespace Rule

/-- Whether a rule has no match in a text. -/
def Misses (r : Rule) (text : String) : Prop :=
  r.pattern.program.search? (.start text.toList) = none

instance (r : Rule) (text : String) : Decidable (r.Misses text) :=
  decidable_of_iff ((r.pattern.program.search? (.start text.toList)).isNone = true) <| by
    simp [Rule.Misses]

variable {r : Rule} {text : String}

/-- A rule without a match hands back the text. -/
theorem apply_of_misses (h : r.Misses text) :
    r.apply text = { text, count := 0, borrowed := true } := by
  have none_found : r.pattern.allMatches text.toList = [] :=
    (r.pattern.program.allMatches_iterates text.toList).unique (.ended h)
  rw [apply, none_found]

/-- A text without a match has none from its start on: there is no match before the first one that
could make it not count. -/
theorem misses_of_allMatches_eq_nil (h : r.pattern.allMatches text.toList = []) :
    r.Misses text := by
  have found : r.pattern.program.Iterates none (.start text.toList) [] := by
    rw [← h]
    exact r.pattern.program.allMatches_iterates text.toList
  -- A match is passed over only if it is empty where the last one ended: here is no last one.
  cases found with
  | ended none_left => exact none_left
  | passed _ idle => cases idle.2
  | spent _ idle => cases idle.2

theorem count_apply (r : Rule) (text : String) :
    (r.apply text).count = (r.pattern.allMatches text.toList).length := by
  rw [apply]
  split
  · next none_found => rw [none_found]; rfl
  · rfl

/-- A rule counts no match if it has none. -/
theorem count_apply_eq_zero : (r.apply text).count = 0 ↔ r.Misses text := by
  constructor
  · intro h
    rw [count_apply, List.length_eq_zero_iff] at h
    exact misses_of_allMatches_eq_nil h
  · intro h
    rw [apply_of_misses h]

/-- What a rule hands back is what it was given. -/
@[simp] theorem inPlaceOf_apply (r : Rule) (text : String) :
    (r.apply text).inPlaceOf text = (r.apply text).text := by
  rw [apply]
  split <;> rfl

end Rule

/-! ### Several rules -/

namespace RuleSet

/-- What rules make of a text, each working on what the one before it has made. -/
def fold (rules : List Rule) (text : String) : String :=
  rules.foldl (fun text r => (r.apply text).text) text

/-- How many matches each rule has in what the ones before it have made. -/
def counts : List Rule → String → List Nat
  | [], _ => []
  | r :: rest, text => (r.apply text).count :: counts rest (r.apply text).text

theorem fold_append (rules more : List Rule) (text : String) :
    fold (rules ++ more) text = fold more (fold rules text) :=
  List.foldl_append ..

theorem counts_append (rules more : List Rule) (text : String) :
    counts (rules ++ more) text = counts rules text ++ counts more (fold rules text) := by
  induction rules generalizing text with
  | nil => rfl
  | cons r rest ih =>
    have later := ih (r.apply text).text
    rw [List.cons_append, counts, counts, later]
    rfl

/-- Keeping the texts that are handed back comes to the same as replacing them. -/
theorem applyEach_eq (rules : List Rule) (text : String) :
    applyEach rules text = (fold rules text, counts rules text) := by
  induction rules generalizing text with
  | nil => rfl
  | cons r rest ih =>
    rw [applyEach, Rule.inPlaceOf_apply, ih]
    rfl

theorem applyEach_fst (rules : List Rule) (text : String) :
    (applyEach rules text).1 = fold rules text := by
  rw [applyEach_eq]

theorem totalCount_eq_sum (counts : List Nat) : totalCount counts = counts.sum := by
  induction counts with
  | nil => rfl
  | cons count rest ih => rw [totalCount, ih, List.sum_cons]

/-- Rules without a match leave a text as it is. -/
theorem fold_of_misses {rules : List Rule} {text : String} (h : ∀ r ∈ rules, r.Misses text) :
    fold rules text = text := by
  induction rules with
  | nil => rfl
  | cons r rest ih =>
    obtain ⟨first, later⟩ := List.forall_mem_cons.mp h
    have unchanged : (r.apply text).text = text := by rw [Rule.apply_of_misses first]
    show fold rest (r.apply text).text = text
    rw [unchanged]
    exact ih later

/-- There is nothing to count if no rule has a match in the text that all of them are given. -/
theorem totalCount_counts_eq_zero {rules : List Rule} {text : String} :
    totalCount (counts rules text) = 0 ↔ ∀ r ∈ rules, r.Misses text := by
  induction rules with
  | nil => simp [counts, totalCount]
  | cons r rest ih =>
    rw [counts, totalCount, Nat.add_eq_zero_iff, Rule.count_apply_eq_zero, List.forall_mem_cons]
    -- If the first rule has no match, the others are given the same text as it.
    refine and_congr_right fun first => ?_
    have unchanged : (r.apply text).text = text := by rw [Rule.apply_of_misses first]
    rw [unchanged, ih]

/-- Rules without a match leave a text as it is and have nothing to count. -/
theorem applyEach_of_misses {rules : List Rule} {text : String}
    (h : ∀ r ∈ rules, r.Misses text) :
    fold rules text = text ∧ totalCount (applyEach rules text).2 = 0 := by
  rw [applyEach_eq]
  exact ⟨fold_of_misses h, totalCount_counts_eq_zero.mpr h⟩

theorem text_apply (s : RuleSet) (content : String) :
    (s.apply content).text = fold s.rules content := by
  rw [apply, applyEach_eq]

theorem count_apply (s : RuleSet) (content : String) :
    (s.apply content).count = totalCount (counts s.rules content) := by
  rw [apply, applyEach_eq]

/-- **Rule sets compose.** Two sets in a row act as one, on the text and on the number of matches; a
set acts as its rules do one by one; and it counts no match exactly if each of its rules, taken
alone, has none in the text as it was given, which then stays as it is. -/
theorem apply_composes (s more : RuleSet) (content : String) :
    ((apply ⟨s.rules ++ more.rules⟩ content).text = (more.apply (s.apply content).text).text ∧
      (apply ⟨s.rules ++ more.rules⟩ content).count =
        (s.apply content).count + (more.apply (s.apply content).text).count) ∧
    ((s.apply content).text = s.rules.foldl (fun text r => (r.apply text).text) content ∧
      (s.apply content).count = (counts s.rules content).sum) ∧
    ((s.apply content).count = 0 ↔ ∀ r ∈ s.rules, r.Misses content) ∧
      ((s.apply content).count = 0 → (s.apply content).text = content) := by
  refine ⟨⟨?_, ?_⟩, ⟨text_apply s content, ?_⟩, ?_, ?_⟩
  · rw [text_apply, text_apply, text_apply, fold_append]
  · rw [count_apply, count_apply, count_apply, text_apply, counts_append]
    simp only [totalCount_eq_sum, List.sum_append]
  · rw [count_apply, totalCount_eq_sum]
  · rw [count_apply, totalCount_counts_eq_zero]
  · intro h
    rw [count_apply, totalCount_counts_eq_zero] at h
    rw [text_apply, fold_of_misses h]

/-- The second rule matches only what the first one has made. -/
def relay : RuleSet := (ofPairs {} [("fetchAll", "fetch"), ("fetch\\(", "load(")]).toOption.getD {}

theorem apply_composes_relay :
    relay.rules.length = 2 ∧ relay.apply "fetchAll()" = { text := "load()", count := 2 } ∧
      (relay.apply "loadAll()").count = 0 ∧ (relay.apply "loadAll()").text = "loadAll()" := by
  have idle : (relay.apply "loadAll()").count = 0 := by decide +kernel
  exact ⟨by decide +kernel, by decide +kernel, idle,
    (apply_composes relay {} "loadAll()").2.2.2 idle⟩

end RuleSet

end Emend
