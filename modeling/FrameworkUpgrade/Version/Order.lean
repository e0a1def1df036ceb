import FrameworkUpgrade.Version.Basic

/-!
# `FrameworkUpgrade.Version.Order`: which of two versions is newer

Versions are ordered by their three numbers, then by pre-release, then by build
metadata. Every version has a pre-release below its release. Two lists of
identifiers are compared identifier by identifier, and a list that ends first is
the smaller one. An identifier of digits lies below any other. Two of digits are
compared as numbers: in a pre-release, where leading zeros are not allowed, the
shorter is the smaller; in build metadata the leading zeros are set aside first
and decide only when nothing else does. Two others are compared character by
character.

The order is total and tells apart any two versions that differ, build metadata
included. `Version.precedence` is the coarser order of the semantic-version
standard, to which build metadata is nothing.
-/

set_option autoImplicit false

namespace FrameworkUpgrade

namespace Identifier

/-- An identifier of digits alone. -/
def isNumeric (i : Identifier) : Bool :=
  i.all Char.isDigit

/-- Numeric identifiers come before the others. -/
def compareKind : Identifier → Identifier → Ordering :=
  compareOn fun i => !isNumeric i

/-- The character order of two identifiers. -/
def compareText : Identifier → Identifier → Ordering :=
  compareOn (β := List Char) fun i => i

/-- The order of two identifiers of a pre-release. -/
def comparePre : Identifier → Identifier → Ordering :=
  compareLex compareKind <|
    compareLex (compareOn fun i => if isNumeric i then i.length else 0) compareText

/-- The digits of a numeric identifier without its leading zeros, and any other
identifier as it is. -/
def significant (i : Identifier) : List Char :=
  if isNumeric i then i.dropWhile (· == '0') else i

/-- The order of two identifiers of build metadata. -/
def compareBuild : Identifier → Identifier → Ordering :=
  compareLex compareKind <|
    compareLex (compareOn fun i => if isNumeric i then (significant i).length else 0) <|
      compareLex (compareOn significant) (compareOn List.length)

end Identifier

namespace Version

/-- The order of two pre-releases. None at all is above every pre-release. -/
def comparePre : List Identifier → List Identifier → Ordering :=
  compareLex (compareOn List.isEmpty) (List.compareLex Identifier.comparePre)

/-- The order of two lists of build metadata. None at all is below all others. -/
def compareBuild : List Identifier → List Identifier → Ordering :=
  List.compareLex Identifier.compareBuild

/-- The order of two versions by their three numbers. -/
def compareCore : Version → Version → Ordering :=
  compareLex (compareOn Version.major) <|
    compareLex (compareOn Version.minor) (compareOn Version.patch)

/-- The order of two versions by the semantic-version standard: numbers, then
pre-release. Build metadata takes no part. -/
def precedence : Version → Version → Ordering :=
  compareLex compareCore fun a b => comparePre a.pre b.pre

instance : Ord Version where
  compare := compareLex precedence fun a b => compareBuild a.build b.build

instance : LT Version := ltOfOrd
instance : LE Version := leOfOrd

/-- Whether the version `a` is newer than the version `b`. -/
def isNewer (a b : Version) : Bool :=
  (compare a b).isGT

/-- The later of two versions, the second where they compare equal. -/
def later (a b : Version) : Version :=
  if isNewer a b then a else b

/-- The highest of a list of versions. -/
def highest? : List Version → Option Version
  | [] => none
  | v :: vs => some (vs.foldl later v)

end Version

end FrameworkUpgrade
