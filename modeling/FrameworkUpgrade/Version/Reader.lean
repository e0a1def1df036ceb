import FrameworkUpgrade.Text.Quoted
import FrameworkUpgrade.Version.Basic

/-!
# `FrameworkUpgrade.Version.Reader`: reading a version

A version is read from left to right and the first fault is the one reported.
The numbers are below 2^64 and have no leading zeros. Identifiers are made of
ASCII letters, digits and hyphens, none of them is empty, and a numeric one of a
pre-release has no leading zero. Nothing may follow.

The readers of a number and of identifiers are shared with the comparators of a
range.
-/

set_option autoImplicit false

namespace FrameworkUpgrade

namespace Version

/-- The parts of a version, in the order in which they are read. -/
inductive Part where
  | major
  | minor
  | patch
  | pre
  | build
deriving DecidableEq, Repr

/-- What a message calls a part. -/
def Part.label : Part → String
  | .major => "major version number"
  | .minor => "minor version number"
  | .patch => "patch version number"
  | .pre => "pre-release identifier"
  | .build => "build metadata"

/-- Why a text is no version. -/
inductive Fault where
  | empty
  | leadingZero (part : Part)
  | tooLarge (part : Part)
  | unexpected (c : Char) (part : Part)
  | unexpectedAfter (c : Char) (part : Part)
  | endsIn (part : Part)
  | emptySegment (part : Part)
deriving DecidableEq, Repr

/-- The wording of a fault. -/
def Fault.message : Fault → String
  | .empty => "empty string, expected a semver version"
  | .leadingZero part => s!"invalid leading zero in {part.label}"
  | .tooLarge part => s!"value of {part.label} exceeds u64::MAX"
  | .unexpected c part => s!"unexpected character {Text.quoted c} while parsing {part.label}"
  | .unexpectedAfter c part => s!"unexpected character {Text.quoted c} after {part.label}"
  | .endsIn part => s!"unexpected end of input while parsing {part.label}"
  | .emptySegment part => s!"empty identifier segment in {part.label}"

/-- The numbers of a version are below this bound. -/
def numberBound : Nat := Nat.pow 2 64

/-- The digits at the front of a text as a number, and the rest of the text. -/
def readNumber (part : Part) (cs : List Char) : Except Fault (Nat × List Char) :=
  match cs.takeWhile Char.isDigit, cs.dropWhile Char.isDigit with
  | [], [] => .error (.endsIn part)
  | [], c :: _ => .error (.unexpected c part)
  | '0' :: _ :: _, _ => .error (.leadingZero part)
  | digits, rest =>
    let n := Nat.ofDigitChars 10 digits 0
    if n < numberBound then .ok (n, rest) else .error (.tooLarge part)

/-- The dot after a number, and the rest of the text. -/
def readDot (part : Part) : List Char → Except Fault (List Char)
  | '.' :: rest => .ok rest
  | c :: _ => .error (.unexpectedAfter c part)
  | [] => .error (.endsIn part)

/-- A character that an identifier may hold. -/
def isIdentifierChar (c : Char) : Bool :=
  c.isAlphanum || c == '-'

/-- A segment between two dots, when it is an identifier of the part. -/
def checkSegment (part : Part) (segment : List Char) : Except Fault Identifier :=
  if segment.isEmpty then .error (.emptySegment part)
  else if part = .pre ∧ segment.all Char.isDigit ∧ 1 < segment.length ∧
      segment.head? = some '0' then
    .error (.leadingZero part)
  else .ok segment

/-- The identifiers at the front of a text, and the rest of the text. -/
def readIdentifiers (part : Part) (cs : List Char) :
    Except Fault (List Identifier × List Char) := do
  let inPart := fun c => isIdentifierChar c || c == '.'
  let ids ← ((cs.takeWhile inPart).splitOn '.').mapM (checkSegment part)
  return (ids, cs.dropWhile inPart)

/-- The identifiers after the mark of their part, and the rest of the text. A
text without the mark has none. -/
def readPart (mark : Char) (part : Part) (cs : List Char) :
    Except Fault (List Identifier × List Char) :=
  match cs with
  | c :: rest => if c = mark then readIdentifiers part rest else .ok ([], cs)
  | [] => .ok ([], [])

/-- The part that was read last, given what was read after the numbers. -/
def lastPart (pre build : List Identifier) : Part :=
  if !build.isEmpty then .build else if !pre.isEmpty then .pre else .patch

/-- The version that a text is. -/
def read (cs : List Char) : Except Fault Version := do
  if cs.isEmpty then throw .empty
  let (major, cs) ← readNumber .major cs
  let cs ← readDot .major cs
  let (minor, cs) ← readNumber .minor cs
  let cs ← readDot .minor cs
  let (patch, cs) ← readNumber .patch cs
  let (pre, cs) ← readPart '-' .pre cs
  let (build, cs) ← readPart '+' .build cs
  match cs with
  | [] => return { major, minor, patch, pre, build }
  | c :: _ => throw (.unexpectedAfter c (lastPart pre build))

/-- The version that a text is. -/
def parse (s : String) : Except Fault Version :=
  read s.toList

/-- The version that a text is, if it is one. -/
def read? (cs : List Char) : Option Version :=
  (read cs).toOption

end Version

end FrameworkUpgrade
