import FrameworkUpgrade.Text.Blank
import FrameworkUpgrade.Text.Hex

/-!
# `FrameworkUpgrade.Text.Ranges`: sets of characters

A set of characters is a list of ranges of code points. A table writes the ranges
as words: `a-b` is the range from `a` to `b`, in base sixteen, and `a` is the range
of one code point.
-/

set_option autoImplicit false

namespace FrameworkUpgrade.Text

/-- The first and the last code point of ranges. -/
abbrev Ranges := List (Nat × Nat)

namespace Ranges

/-- Whether a character lies in one of the ranges. -/
def holds (ranges : Ranges) (c : Char) : Bool :=
  ranges.any fun (first, last) => first ≤ c.toNat && c.toNat ≤ last

/-- The range of a word. -/
def ofWord (word : List Char) : Nat × Nat :=
  let first := word.takeWhile (· != '-')
  let last := word.drop (first.length + 1)
  (hexNumber first, if last.isEmpty then hexNumber first else hexNumber last)

/-- The ranges of a table. -/
def ofTable (table : String) : Ranges :=
  (words table.toList).map ofWord

end Ranges

end FrameworkUpgrade.Text
