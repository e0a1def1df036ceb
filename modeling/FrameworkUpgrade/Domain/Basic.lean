import FrameworkUpgrade.Domain.Direction
import FrameworkUpgrade.Domain.Joiner
import FrameworkUpgrade.Domain.Mapping
import FrameworkUpgrade.Domain.Punycode

/-!
# `FrameworkUpgrade.Domain.Basic`: the name of a domain in ASCII

A name is a list of labels with full stops between them. The same name may be
spelt in many ways, of which `normal?` gives the one that all share. Machines ask
for a name in ASCII, where a label of other characters is written with a mark in
front and in digits. `ascii?` gives that form. A label that comes with the mark is
read back, and has to be one that would be written that way.
-/

set_option autoImplicit false

namespace FrameworkUpgrade.Domain

/-- The one spelling of a name, if the name has no character that is refused. -/
def normal? (name : List Char) : Option (List Char) :=
  (map? name).map compose

/-- The mark in front of a label that is written in digits. -/
def mark : List Char := "xn--".toList

/-- The characters that a label may have at most, which keeps the work on it small. -/
def maxShown : Nat := 1000

/-- The digits that a label may be written in at most. -/
def maxWritten : Nat := 2000

/-- Whether a text is in ASCII. -/
def isAscii (cs : List Char) : Bool :=
  cs.all (·.toNat < 0x80)

/-- A label as it is shown and as it is written in ASCII. -/
structure Label where
  shown : List Char
  written : List Char
deriving DecidableEq, Repr

namespace Label

/-- Whether a label that is not in ASCII may be shown. -/
def mayBeShown (cs : List Char) : Bool :=
  cs.length ≤ maxShown && !cs.head?.any Marks.holds && Joiner.fit [] cs

/-- The label of digits that stand behind a mark. -/
def ofDigits? (digits : List Char) : Option Label := do
  if maxWritten < digits.length || !isAscii digits then none
  else
    let shown ← Punycode.decode? digits
    if !isAscii shown && shown.all (fate · = .stands) && compose shown = shown
        && (Text.after? mark shown).isNone && mayBeShown shown then
      return { shown, written := mark ++ digits }
    else none

/-- The label of a text in its one spelling. -/
def read? (cs : List Char) : Option Label :=
  match Text.after? mark cs with
  | some digits => ofDigits? digits
  | none =>
    if isAscii cs then some { shown := cs, written := cs }
    else if mayBeShown cs then some { shown := cs, written := mark ++ Punycode.encode cs }
    else none

end Label

/-- A name in its one spelling, in ASCII, if there is such a name. -/
def ascii? (name : List Char) : Option (List Char) := do
  let labels ← (name.splitOn '.').mapM Label.read?
  if Direction.fit (labels.map (·.shown)) then
    return ['.'].intercalate (labels.map (·.written))
  else none

end FrameworkUpgrade.Domain
