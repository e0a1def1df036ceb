import FrameworkUpgrade.Text.Blank
import FrameworkUpgrade.Range.Comparator
import FrameworkUpgrade.Version.Reader

/-!
# `FrameworkUpgrade.Range.Reader`: reading the comparators of a range

A range is written as alternatives between `||`. An alternative is empty, a
wildcard, two partial versions around ` - `, or partial versions between blanks,
each with at most one operator before it. A partial version has up to three
numbers; the first wildcard among them ends it. Whatever follows three numbers
from the first `-` or `+` on is its suffix.

The numbers and the suffix are then read as comparators: the pre-release and the
build metadata of the suffix belong to the first, and each comma in the suffix
starts another one. One without an operator of its own is exact when it has a
wildcard and a caret otherwise. Build metadata is checked and set aside. A partial
version without a number bounds nothing and gives no comparator. An alternative has
at most `maxComparators`.
-/

set_option autoImplicit false

namespace FrameworkUpgrade

open Text (trim words cut?)

namespace Range

/-- The most comparators that an alternative may have. -/
def maxComparators : Nat := 32

/-- The characters that stand for any number. -/
def isWildcardChar (c : Char) : Bool :=
  c == '*' || c == 'x' || c == 'X'

/-- A component that stands for any number. -/
def isWildcard : List Char → Bool
  | [c] => isWildcardChar c
  | _ => false

/-- A version without the `v` before its first digit. -/
def dropMark : List Char → List Char
  | 'v' :: c :: rest => if c.isDigit then c :: rest else 'v' :: c :: rest
  | cs => cs

/-- A partial version: its numbers as they are written, and its suffix. -/
structure Partial where
  numbers : List (List Char)
  suffix : List Char
deriving DecidableEq, Repr

namespace Partial

/-- The components before the first wildcard, when each of them is made of
digits. -/
def readNumbers : List (List Char) → Option (List (List Char))
  | [] => some []
  | part :: parts =>
    if isWildcard part then some []
    else if !part.isEmpty && part.all Char.isDigit then (readNumbers parts).map (part :: ·)
    else none

/-- A character that starts a suffix. -/
def startsSuffix (c : Char) : Bool :=
  c == '-' || c == '+'

/-- The partial version that a text is. -/
def read? (cs : List Char) : Option Partial := do
  let cs := dropMark cs
  let suffix := cs.dropWhile (! startsSuffix ·)
  let numbers ← readNumbers ((cs.takeWhile (! startsSuffix ·)).splitOn '.')
  if numbers.length < 3 && !suffix.isEmpty then none else some { numbers, suffix }

/-- The numbers with dots between them, and the suffix. -/
def chars (p : Partial) : List Char :=
  List.intercalate ['.'] p.numbers ++ p.suffix

/-- A partial version without a number bounds nothing. -/
def isAny (p : Partial) : Bool :=
  p.numbers.isEmpty

end Partial

/-- What stands after a dot of a bound. -/
inductive Component where
  | absent
  | wildcard
  | number (n : Nat)

/-- The number of a component, if it has one. -/
def Component.number? : Component → Option Nat
  | .number n => some n
  | _ => none

/-- Whether a component is a wildcard. -/
def Component.isWildcard : Component → Bool
  | .wildcard => true
  | _ => false

/-- The component at the front of a text, and the rest of the text. -/
def readComponent (part : Version.Part) : List Char → Option (Component × List Char)
  | '.' :: c :: rest =>
    if isWildcardChar c then some (.wildcard, rest)
    else (Version.readNumber part (c :: rest)).toOption.map fun (n, rest) => (.number n, rest)
  | ['.'] => none
  | cs => some (.absent, cs)

/-- A text without the spaces at its front. -/
def dropSpaces (cs : List Char) : List Char :=
  cs.dropWhile (· == ' ')

/-- The relation of a comparator without an operator. -/
def defaultRelation (minor patch : Component) : Relation :=
  if minor.isWildcard || patch.isWildcard then .exact else .caret

/-- The comparator at the front of a text, and the rest of the text. A number may
not follow a wildcard, and a suffix follows three numbers only. -/
def readComparator (operator : Option Relation) (cs : List Char) :
    Option (Comparator × List Char) := do
  let (major, cs) ← (Version.readNumber .major cs).toOption
  let (minor, cs) ← readComponent .minor cs
  let (patch, cs) ← readComponent .patch cs
  let relation := operator.getD (defaultRelation minor patch)
  match minor, patch with
  | .wildcard, .number _ => none
  | _, .number n =>
    let (pre, cs) ← (Version.readPart '-' .pre cs).toOption
    let (_, cs) ← (Version.readPart '+' .build cs).toOption
    some ({ relation, major, minor := minor.number?, patch := some n, pre }, dropSpaces cs)
  | _, _ => some ({ relation, major, minor := minor.number? }, dropSpaces cs)

/-- The operator at the front of a text, if there is one, and the rest. -/
def splitOperator : List Char → Option Relation × List Char
  | '<' :: '=' :: rest => (some .atMost, rest)
  | '>' :: '=' :: rest => (some .atLeast, rest)
  | '~' :: '>' :: rest => (some .tilde, rest)
  | '<' :: rest => (some .below, rest)
  | '>' :: rest => (some .above, rest)
  | '=' :: rest => (some .exact, rest)
  | '^' :: rest => (some .caret, rest)
  | '~' :: rest => (some .tilde, rest)
  | cs => (none, cs)

/-- The operator of a comparator that follows a comma, if it has one, and the
rest of the text. A tilde is an operator by itself there. -/
def splitFollowing : List Char → Option Relation × List Char
  | '~' :: rest => (some .tilde, rest)
  | cs => splitOperator cs

/-- The comparators that make up a text, no more than there is room for. The
operator is that of the first one. -/
def readComparators : (room : Nat) → Option Relation → List Char → Option (List Comparator)
  | 0, _, _ => none
  | room + 1, operator, cs =>
    match readComparator operator cs with
    | none => none
    | some (c, []) => some [c]
    | some (c, ',' :: rest) =>
      let (operator, rest) := splitFollowing (dropSpaces rest)
      (readComparators room operator (dropSpaces rest)).map (c :: ·)
    | some _ => none

/-- The comparators of a partial version under a relation. -/
def boundBy (relation : Relation) (p : Partial) : Option (List Comparator) :=
  if p.isAny then some [] else readComparators maxComparators (some relation) p.chars

/-- The comparators of a list of words. An operator that is a word of its own
waits for the next partial version, which takes it unless it has its own. No
operator may wait at the end. -/
def readWords : (waiting : Option Relation) → List (List Char) → Option (List Comparator)
  | waiting, [] => if waiting.isSome then none else some []
  | waiting, word :: words =>
    match splitOperator word with
    | (operator, []) => readWords operator words
    | (operator, rest) => do
      let p ← Partial.read? rest
      let bounds ← boundBy ((operator <|> waiting).getD .exact) p
      let others ← readWords none words
      return bounds ++ others

/-- The comparators of two partial versions around a hyphen. -/
def readHyphen (low high : List Char) : Option (List Comparator) := do
  let low ← Partial.read? (trim low)
  let high ← Partial.read? (trim high)
  let lower ← boundBy .atLeast low
  let upper ← boundBy .atMost high
  return lower ++ upper

/-- The comparators of an alternative without blanks at its ends. -/
def readAlternative (cs : List Char) : Option (List Comparator) := do
  if cs.isEmpty || isWildcard cs then return []
  let comparators ← match cut? [' ', '-', ' '] cs with
    | some (low, high) => readHyphen low high
    | none => readWords none (words cs)
  if comparators.length ≤ maxComparators then return comparators else none

/-- The texts between the marks `||`. -/
def splitAlternatives : List Char → List (List Char)
  | [] => [[]]
  | '|' :: '|' :: cs => [] :: splitAlternatives cs
  | c :: cs =>
    match splitAlternatives cs with
    | [] => [[c]]
    | part :: parts => (c :: part) :: parts

end Range

end FrameworkUpgrade
