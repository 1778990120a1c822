import Emend.Version.Basic

/-!
# Version requirements

A requirement is a list of comparators, all of which a version has to meet. A comparator may leave
out the least important numbers of the version it compares with.

A pre-release meets a requirement only if some comparator names a pre-release of the same three
numbers, so that a range of releases takes in no pre-releases by accident.
-/

namespace Emend

/-- How a comparator compares. -/
inductive ComparatorOp where
  | exact
  | greater
  | greaterEq
  | less
  | lessEq
  /-- Differs in nothing more important than the last number given, but one. -/
  | tilde
  /-- Differs in nothing more important than the first number that is not zero, and not in it. -/
  | caret
  /-- Agrees in the numbers given. -/
  | wildcard
  deriving DecidableEq, Repr, Inhabited

/-- A comparator. Without a minor number there is no patch number. -/
structure Comparator where
  op : ComparatorOp
  major : Nat
  minor : Option Nat := none
  patch : Option Nat := none
  prerelease : Prerelease := []
  deriving DecidableEq, Repr, Inhabited

namespace Comparator

/-- Whether a version agrees in all that is given. -/
def agrees (c : Comparator) (v : Version) : Bool :=
  v.major == c.major && c.minor.all (v.minor == ·) && c.patch.all (v.patch == ·) &&
    v.prerelease == c.prerelease

/-- Whether the version lies on the side `wanted` of what is given. The first number that differs
decides; one that is left out makes no difference to either side. -/
def liesOn (wanted : Ordering) (c : Comparator) (v : Version) : Bool :=
  if v.major ≠ c.major then compare v.major c.major == wanted
  else
    match c.minor with
    | none => false
    | some minor =>
      if v.minor ≠ minor then compare v.minor minor == wanted
      else
        match c.patch with
        | none => false
        | some patch =>
          if v.patch ≠ patch then compare v.patch patch == wanted
          else v.prerelease.compare c.prerelease == wanted

/-- Whether a version is at least as far as a comparator by its tag. -/
def tagReached (c : Comparator) (v : Version) : Bool :=
  v.prerelease.compare c.prerelease != .lt

/-- Whether a version agrees up to the minor number and is not before in the rest. -/
def closeAbove (c : Comparator) (v : Version) : Bool :=
  v.major == c.major && c.minor.all (v.minor == ·) &&
    match c.patch with
    | some patch => if v.patch ≠ patch then patch < v.patch else c.tagReached v
    | none => c.tagReached v

/-- Whether a version is not before a comparator and compatible with it: the first number that is
not zero is the same. -/
def compatible (c : Comparator) (v : Version) : Bool :=
  v.major == c.major &&
    match c.minor, c.patch with
    | none, _ => true
    | some minor, none => if 0 < c.major then minor ≤ v.minor else v.minor == minor
    | some minor, some patch =>
      if 0 < c.major then
        if v.minor ≠ minor then minor < v.minor
        else if v.patch ≠ patch then patch < v.patch
        else c.tagReached v
      else if 0 < minor then
        v.minor == minor && if v.patch ≠ patch then patch < v.patch else c.tagReached v
      else v.minor == minor && v.patch == patch && c.tagReached v

/-- Whether a version meets a comparator, pre-release or not. -/
def holds (c : Comparator) (v : Version) : Bool :=
  match c.op with
  | .exact | .wildcard => c.agrees v
  | .greater => c.liesOn .gt v
  | .greaterEq => c.agrees v || c.liesOn .gt v
  | .less => c.liesOn .lt v
  | .lessEq => c.agrees v || c.liesOn .lt v
  | .tilde => c.closeAbove v
  | .caret => c.compatible v

/-- Whether a comparator names a pre-release of the same three numbers. -/
def admitsPrerelease (c : Comparator) (v : Version) : Bool :=
  c.major == v.major && c.minor == some v.minor && c.patch == some v.patch && !c.prerelease.isEmpty

end Comparator

/-- A requirement; without comparators it is met by every release. -/
structure Requirement where
  comparators : List Comparator := []
  deriving DecidableEq, Repr, Inhabited

/-- Whether a version meets a requirement. -/
def Requirement.admits (r : Requirement) (v : Version) : Bool :=
  r.comparators.all (·.holds v) &&
    (v.prerelease.isEmpty || r.comparators.any (·.admitsPrerelease v))

end Emend
