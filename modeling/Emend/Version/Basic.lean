/-!
# Versions

A version is three numbers, from the most to the least important, a pre-release tag and build
metadata. A tag is a list of identifiers; the empty list stands for a release.

`Prerelease.compare` orders tags: a release comes after its pre-releases, numbers come before
words, and a longer tag comes after its own beginning.
-/

namespace Emend

/-- A part of a pre-release tag. -/
inductive Identifier where
  | number (n : Nat)
  | word (text : String)
  deriving DecidableEq, Repr, Inhabited

/-- Compares numbers by value and words by their characters; numbers come first. -/
def Identifier.compare : Identifier → Identifier → Ordering
  | number m, number n => Ord.compare m n
  | number _, word _ => .lt
  | word _, number _ => .gt
  | word s, word t => Ord.compare s t

/-- A pre-release tag; a release has none. -/
abbrev Prerelease := List Identifier

namespace Prerelease

/-- Compares two tags that are there part by part. -/
def compareParts : Prerelease → Prerelease → Ordering
  | [], [] => .eq
  | [], _ :: _ => .lt
  | _ :: _, [] => .gt
  | a :: s, b :: t => (a.compare b).then (compareParts s t)

/-- Compares two tags; no tag comes last. -/
def compare : Prerelease → Prerelease → Ordering
  | [], [] => .eq
  | [], _ :: _ => .gt
  | _ :: _, [] => .lt
  | s, t => compareParts s t

end Prerelease

/-- A version. Build metadata is kept but never compared. -/
structure Version where
  major : Nat
  minor : Nat
  patch : Nat
  prerelease : Prerelease := []
  build : List String := []
  deriving DecidableEq, Repr, Inhabited

end Emend
