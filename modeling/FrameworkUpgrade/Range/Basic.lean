import FrameworkUpgrade.Range.Reader

/-!
# `FrameworkUpgrade.Range.Basic`: ranges of versions

A range is a choice of alternatives and holds of a version when one of them
does. It keeps the text it was read from, without the blanks at its ends, and is
shown by that text.
-/

set_option autoImplicit false

namespace FrameworkUpgrade

/-- A range: its text, and the comparators of each of its alternatives. -/
structure Range where
  text : String
  alternatives : List (List Comparator)
deriving DecidableEq, Repr

namespace Range

/-- The range that a text is. -/
def read? (cs : List Char) : Option Range := do
  let alternatives ← (splitAlternatives cs).mapM fun part => readAlternative (Text.trim part)
  return { text := String.ofList (Text.trim cs), alternatives }

/-- The range that a text is. -/
def parse? (s : String) : Option Range :=
  read? s.toList

/-- Whether a range holds of a version. -/
def holds (r : Range) (v : Version) : Bool :=
  r.alternatives.any (Comparator.allHold · v)

end Range

end FrameworkUpgrade
