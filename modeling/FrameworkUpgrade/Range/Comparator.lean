import FrameworkUpgrade.Version.Order

/-!
# `FrameworkUpgrade.Range.Comparator`: one bound on a version

A comparator relates a version to a bound whose minor number and patch number
may be left out. A bound that is left out stands for every number, so `=1.2`
holds of all of 1.2 and `>1.2` only of what is above all of it.

A list of comparators holds of a version when each of them does. A pre-release is
held back further: some comparator of the list must itself name a pre-release of
the same three numbers. The empty list therefore holds of every release and of
nothing else.
-/

set_option autoImplicit false

namespace FrameworkUpgrade

/-- How a version has to lie with respect to a bound. -/
inductive Relation where
  | exact
  | above
  | atLeast
  | below
  | atMost
  | tilde
  | caret
deriving DecidableEq, Repr

/-- A relation to a bound. -/
structure Comparator where
  relation : Relation
  major : Nat
  minor : Option Nat := none
  patch : Option Nat := none
  pre : List Identifier := []
deriving DecidableEq, Repr

namespace Comparator

/-- The version is the bound, as far as the bound goes. -/
def isExact (c : Comparator) (v : Version) : Bool :=
  v.major == c.major && c.minor.all (v.minor == ·) && c.patch.all (v.patch == ·) && v.pre == c.pre

/-- The version is above everything that the bound stands for. -/
def isAbove (c : Comparator) (v : Version) : Bool :=
  if v.major ≠ c.major then c.major < v.major
  else match c.minor with
    | none => false
    | some minor =>
      if v.minor ≠ minor then minor < v.minor
      else match c.patch with
        | none => false
        | some patch =>
          if v.patch ≠ patch then patch < v.patch
          else (Version.comparePre v.pre c.pre).isGT

/-- The version is below everything that the bound stands for. -/
def isBelow (c : Comparator) (v : Version) : Bool :=
  if v.major ≠ c.major then v.major < c.major
  else match c.minor with
    | none => false
    | some minor =>
      if v.minor ≠ minor then v.minor < minor
      else match c.patch with
        | none => false
        | some patch =>
          if v.patch ≠ patch then v.patch < patch
          else (Version.comparePre v.pre c.pre).isLT

/-- The pre-release of the version is not below that of the bound. -/
def reachesPre (c : Comparator) (v : Version) : Bool :=
  (Version.comparePre v.pre c.pre).isGE

/-- The version is at least the bound and has its major and minor number. -/
def isTilde (c : Comparator) (v : Version) : Bool :=
  v.major == c.major && c.minor.all (v.minor == ·) &&
    match c.patch with
    | some patch => if v.patch ≠ patch then patch < v.patch else reachesPre c v
    | none => reachesPre c v

/-- The version is at least the bound and has its leftmost number that is not
zero. -/
def isCaret (c : Comparator) (v : Version) : Bool :=
  v.major == c.major &&
    match c.minor, c.patch with
    | none, _ => true
    | some minor, none => if 0 < c.major then minor ≤ v.minor else v.minor == minor
    | some minor, some patch =>
      if 0 < c.major then
        if v.minor ≠ minor then minor < v.minor
        else if v.patch ≠ patch then patch < v.patch
        else reachesPre c v
      else if 0 < minor then
        v.minor == minor && if v.patch ≠ patch then patch < v.patch else reachesPre c v
      else v.minor == minor && v.patch == patch && reachesPre c v

/-- Whether a version lies as the comparator asks. -/
def holds (c : Comparator) (v : Version) : Bool :=
  match c.relation with
  | .exact => isExact c v
  | .above => isAbove c v
  | .atLeast => isExact c v || isAbove c v
  | .below => isBelow c v
  | .atMost => isExact c v || isBelow c v
  | .tilde => isTilde c v
  | .caret => isCaret c v

/-- Whether the comparator names a pre-release of the version's three numbers. -/
def namesPreOf (c : Comparator) (v : Version) : Bool :=
  c.major == v.major && c.minor == some v.minor && c.patch == some v.patch && !c.pre.isEmpty

/-- Whether a list of comparators holds of a version. -/
def allHold (cs : List Comparator) (v : Version) : Bool :=
  cs.all (holds · v) && (v.isRelease || cs.any (namesPreOf · v))

end Comparator

end FrameworkUpgrade
