import FrameworkUpgrade.Proofs.Range.Interval
import FrameworkUpgrade.Range.Basic

/-!
# `FrameworkUpgrade.Proofs.Range.Grammar`: ranges as they are written

The ranges that npm documents, as trees. A tree knows the text it is written as (`chars`)
and the releases it admits (`Admits`), and it carries what makes it well formed: how many
components a partial version has, that its numbers are below the bound of versions, that
`<` and `>` stand before a number. Blanks are kept where they may stand, so every way of
writing a range is a tree of its own.

Nothing here reads a text. That the reader takes `chars` back to a range which holds of the
releases in `Admits` is proved in `FrameworkUpgrade.Proofs.Range.Reading`.
-/

set_option autoImplicit false

namespace FrameworkUpgrade

namespace Range

/-- Blanks, or none. -/
structure Gap where
  chars : List Char
  blank : ∀ c ∈ chars, Text.isBlank c = true

/-- No blank. -/
def Gap.none : Gap := ⟨[], nofun⟩

/-- One space. -/
def Gap.space : Gap := ⟨[' '], List.all_eq_true.mp (by decide)⟩

/-- At least one blank. -/
structure Separator extends Gap where
  nonempty : chars ≠ []

/-! ### Partial versions -/

/-- A partial version as it is written: numbers and behind them wildcards, one to three in
all, and perhaps a `v` before the first number. -/
structure Written where
  marked : Bool
  numbers : List Nat
  wildcards : List Char
  bounded : ∀ n ∈ numbers, n < Version.numberBound
  wild : wildcards.all isWildcardChar = true
  atLeastOne : 0 < numbers.length + wildcards.length
  atMostThree : numbers.length + wildcards.length ≤ 3
  markedNumber : marked = true → numbers ≠ []

namespace Written

/-- The components of a partial version, each as it is written. -/
def components (p : Written) : List (List Char) :=
  p.numbers.map Version.numberChars ++ p.wildcards.map ([·])

/-- The `v` before a partial version. -/
def markChars (p : Written) : List Char :=
  if p.marked then ['v'] else []

/-- A partial version as text. -/
def chars (p : Written) : List Char :=
  p.markChars ++ List.intercalate ['.'] p.components

end Written

/-! ### Bounds -/

/-- The operators of a bound. -/
inductive Operator where
  | below
  | atMost
  | above
  | atLeast
  | exact
  | caret
  | tilde
  | tildeAbove
deriving DecidableEq, Repr

namespace Operator

/-- An operator as text. -/
def chars : Operator → List Char
  | .below => ['<']
  | .atMost => ['<', '=']
  | .above => ['>']
  | .atLeast => ['>', '=']
  | .exact => ['=']
  | .caret => ['^']
  | .tilde => ['~']
  | .tildeAbove => ['~', '>']

/-- The relation that an operator stands for. -/
def relation : Operator → Relation
  | .below => .below
  | .atMost => .atMost
  | .above => .above
  | .atLeast => .atLeast
  | .exact => .exact
  | .caret => .caret
  | .tilde | .tildeAbove => .tilde

/-- The operators that only stand before a number. -/
def isStrict : Operator → Bool
  | .below | .above => true
  | _ => false

end Operator

/-- A bound as it is written: a partial version, and perhaps an operator and blanks before
it. -/
structure WrittenBound where
  operator : Option (Operator × Gap)
  version : Written
  numbered : ∀ o ∈ operator, o.1.isStrict = true → version.numbers ≠ []

namespace WrittenBound

/-- A bound as text. -/
def chars (b : WrittenBound) : List Char :=
  match b.operator with
  | none => b.version.chars
  | some (operator, gap) => operator.chars ++ gap.chars ++ b.version.chars

/-- The relation of a bound. Without an operator it is equality. -/
def relation (b : WrittenBound) : Relation :=
  match b.operator with
  | none => .exact
  | some (operator, _) => operator.relation

/-- The releases that a bound admits. -/
def Admits (b : WrittenBound) (v : Version) : Prop :=
  Range.Admits b.relation b.version.numbers v

instance (b : WrittenBound) (v : Version) : Decidable (b.Admits v) :=
  inferInstanceAs (Decidable (Range.Admits _ _ _))

end WrittenBound

/-! ### Alternatives -/

/-- An alternative as it is written: empty, two partial versions around a hyphen, or bounds
with blanks between them. -/
inductive WrittenAlternative where
  | any
  | hyphen (low : Written) (before after : Gap) (high : Written)
  | bounds (first : WrittenBound) (rest : List (Separator × WrittenBound))
      (room : rest.length < maxComparators)

namespace WrittenAlternative

/-- An alternative as text. -/
def chars : WrittenAlternative → List Char
  | .any => []
  | .hyphen low before after high =>
    low.chars ++ before.chars ++ ([' ', '-', ' '] ++ (after.chars ++ high.chars))
  | .bounds first rest _ => first.chars ++ rest.flatMap fun x => x.1.chars ++ x.2.chars

/-- The releases that an alternative admits. -/
def Admits : WrittenAlternative → Version → Prop
  | .any, _ => True
  | .hyphen low _ _ high, v => From low.numbers v ∧ Until high.numbers v
  | .bounds first rest _, v => ∀ b ∈ first :: rest.map Prod.snd, b.Admits v

instance : (a : WrittenAlternative) → (v : Version) → Decidable (a.Admits v)
  | .any, _ => inferInstanceAs (Decidable True)
  | .hyphen low _ _ high, v =>
    inferInstanceAs (Decidable (From low.numbers v ∧ Until high.numbers v))
  | .bounds first rest _, v =>
    inferInstanceAs (Decidable (∀ b ∈ first :: rest.map Prod.snd, b.Admits v))

end WrittenAlternative

/-! ### Ranges -/

/-- An alternative with the blanks around it. -/
structure WrittenPart where
  before : Gap
  alternative : WrittenAlternative
  after : Gap

/-- An alternative with the blanks around it, as text. -/
def WrittenPart.chars (p : WrittenPart) : List Char :=
  p.before.chars ++ p.alternative.chars ++ p.after.chars

/-- A range as it is written: alternatives with the mark `||` between them. -/
structure WrittenRange where
  first : WrittenPart
  rest : List WrittenPart

namespace WrittenRange

/-- The alternatives of a range. -/
def parts (r : WrittenRange) : List WrittenPart :=
  r.first :: r.rest

/-- A range as text. -/
def chars (r : WrittenRange) : List Char :=
  List.intercalate ['|', '|'] (r.parts.map WrittenPart.chars)

/-- The releases that a range admits. -/
def Admits (r : WrittenRange) (v : Version) : Prop :=
  ∃ p ∈ r.parts, p.alternative.Admits v

instance (r : WrittenRange) (v : Version) : Decidable (r.Admits v) :=
  inferInstanceAs (Decidable (∃ p ∈ r.parts, p.alternative.Admits v))

end WrittenRange

end Range

end FrameworkUpgrade
