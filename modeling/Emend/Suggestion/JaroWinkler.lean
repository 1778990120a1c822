/-!
# Similarity of names

The Jaro–Winkler similarity of two texts: 0 if they share nothing, 1 if they are equal. Characters
agree if they are equal and not far apart; a common beginning counts extra.

- `Similarity.agreements` finds the characters that agree;
- `Similarity.jaroWinkler` computes the similarity, in doubles;
- `Similarity.rank` puts all doubles in one order.
-/

namespace Emend.Similarity

/-- How far apart agreeing characters may stand. -/
def reach (s t : List Char) : Nat := max s.length t.length / 2 - 1

/-- Whether the `j`-th character is free, equal to `c`, and within reach of the place `i`. -/
def isFree (t : List Char) (used : List Nat) (range i j : Nat) (c : Char) : Bool :=
  t[j]? == some c && !used.contains j && i ≤ j + range && j ≤ i + range

/-- For the characters of `s` from the place `i` on, the first place of `t` that agrees and is not
yet used: pairs of a character and its place in `t`. -/
def agreementsFrom (t : List Char) (range : Nat) :
    (i : Nat) → (used : List Nat) → (s : List Char) → List (Char × Nat)
  | _, _, [] => []
  | i, used, c :: s =>
    match (List.range t.length).find? fun j => isFree t used range i j c with
    | some j => (c, j) :: agreementsFrom t range (i + 1) (j :: used) s
    | none => agreementsFrom t range (i + 1) used s

/-- The characters of `s` that agree with characters of `t`, and where those stand. -/
def agreements (s t : List Char) : List (Char × Nat) := agreementsFrom t (reach s t) 0 [] s

/-- Half the number of agreeing characters that stand in another order in `t`. -/
def transpositions (t : List Char) (found : List (Char × Nat)) : Nat :=
  let inOrder := (List.range t.length).filter fun j => found.any (·.2 == j)
  let differing := (found.zip inOrder).filter fun ((c, _), j) => t[j]? != some c
  differing.length / 2

/-- The similarity without the extra for a common beginning. -/
def jaro (s t : List Char) : Float :=
  let found := agreements s t
  if found.isEmpty then (if s.isEmpty && t.isEmpty then 1 else 0)
  else
    let n := found.length.toFloat
    let moved := (transpositions t found).toFloat
    (n / s.length.toFloat + n / t.length.toFloat + (n - moved) / n) / 3

/-- The number of characters with which both texts begin. -/
def commonStart : List Char → List Char → Nat
  | c :: s, d :: t => if c = d then commonStart s t + 1 else 0
  | _, _ => 0

/-- The similarity. A common beginning of up to four characters counts extra if the texts are not
too different anyway. -/
def jaroWinkler (s t : String) : Float :=
  let score := jaro s.toList t.toList
  if score > 0.7 then
    let start := (min 4 (commonStart s.toList t.toList)).toFloat
    score + (0.1 * start) * (1 - score)
  else score

/-- Where a double stands in the total order of all doubles, by its bits: a negative one is the
smaller, the greater its magnitude is. -/
def rank (x : Float) : Int :=
  let bits := x.toBits.toNat
  let sign : Nat := 1 <<< 63
  if bits < sign then bits else sign - 1 - (bits : Int)

end Emend.Similarity
