import FrameworkUpgrade.Proofs.Range.Reading
import FrameworkUpgrade.Proofs.Version.Canonical

/-!
# `FrameworkUpgrade.Proofs.Range.Language`: the language of ranges

Everything that may be written for a range, as trees. `FrameworkUpgrade.Proofs.Range.Grammar`
has the ranges whose meaning npm documents; here a wildcard may also stand before a number, and
three numbers may be followed by a pre-release and by build metadata. A tree knows its text
(`chars`) and what has to come of it (`comparators`): one comparator for each partial version
that begins with a number, under the operator of that version.

The reader takes more than this language. It looks no further than the first wildcard of a
partial version, passes on whatever stands in a suffix, and lets an operator that waits be
replaced by another. `isRegular` is the check that is missing from it. It is made of the cuts
that the reader makes, and of these three things at the places where the reader lets them pass.
-/

set_option autoImplicit false

namespace FrameworkUpgrade

namespace Range

open Text (isBlank trim words cut?)

/-! ### Characters -/

/-- The characters of a partial version. -/
def isTextChar (c : Char) : Bool :=
  Version.isVersionChar c || c == '*'

/-- A letter or digit is no blank. -/
theorem isBlank_of_isAlphanum {c : Char} (h : c.isAlphanum = true) : isBlank c = false := by
  have hranges : (48 ≤ c.toNat ∧ c.toNat ≤ 57) ∨ (65 ≤ c.toNat ∧ c.toNat ≤ 90) ∨
      (97 ≤ c.toNat ∧ c.toNat ≤ 122) := by
    have h : (decide (65 ≤ c.val ∧ c.val ≤ 90) || (decide (97 ≤ c.val) && decide (c.val ≤ 122)) ||
        (decide (48 ≤ c.val) && decide (c.val ≤ 57))) = true := h
    simp [UInt32.le_iff_toNat_le] at h
    have : c.toNat = c.val.toNat := rfl
    omega
  simp [isBlank]
  omega

/-- No partial version has a blank, a bar or a comma. -/
theorem isTextChar_plain {c : Char} (h : isTextChar c = true) :
    isBlank c = false ∧ c ≠ '|' ∧ c ≠ ',' := by
  refine ⟨?_, ?_, ?_⟩
  · simp only [isTextChar, Version.isVersionChar, Bool.or_eq_true, beq_iff_eq] at h
    rcases h with (((h | rfl) | rfl) | rfl) | rfl
    · exact isBlank_of_isAlphanum h
    all_goals decide
  · rintro rfl
    exact absurd h (by decide)
  · rintro rfl
    exact absurd h (by decide)

/-- What may stand in a component may stand in a partial version. -/
theorem isTextChar_of_mem_componentChars : ∀ c ∈ componentChars, isTextChar c = true :=
  List.all_iff_forall_prop.mp (by decide)

/-! ### Partial versions -/

/-- A component of a partial version. -/
inductive Field where
  | number (n : Nat)
  | wildcard (c : Char) (wild : isWildcardChar c = true)

namespace Field

/-- A component as text. -/
def chars : Field → List Char
  | .number n => Version.numberChars n
  | .wildcard c _ => [c]

/-- The numbers before the first wildcard. -/
def leading : List Field → List Nat
  | .number n :: fields => n :: leading fields
  | _ => []

end Field

/-- A partial version: one to three components, perhaps with a `v` before them. Behind three
numbers there may be the identifiers of a pre-release and of build metadata. -/
structure PartialText where
  marked : Bool
  fields : List Field
  pre : List Identifier
  build : List Identifier
  atLeastOne : fields ≠ []
  atMostThree : fields.length ≤ 3
  preProper : ∀ i ∈ pre, Version.IsIdentifier i
  buildProper : ∀ i ∈ build, Version.IsIdentifier i
  suffixed : (Field.leading fields).length = 3 ∨ pre = [] ∧ build = []

namespace PartialText

/-- The components with dots between them. -/
def coreChars (p : PartialText) : List Char :=
  List.intercalate ['.'] (p.fields.map Field.chars)

/-- What stands behind the components. -/
def suffixChars (p : PartialText) : List Char :=
  Version.partChars '-' p.pre ++ Version.partChars '+' p.build

/-- A partial version as text. -/
def chars (p : PartialText) : List Char :=
  (if p.marked then ['v'] else []) ++ (p.coreChars ++ p.suffixChars)

/-- The comparators of a partial version: one when it begins with a number, else none. -/
def comparators (relation : Relation) (p : PartialText) : List Comparator :=
  match Field.leading p.fields with
  | [] => []
  | major :: rest => [{ comparator relation major rest with pre := p.pre }]

/-- Components are written in digits and wildcards, and are not empty. -/
theorem field_plain (p : PartialText) {part : List Char} (h : part ∈ p.fields.map Field.chars) :
    part ≠ [] ∧ ∀ c ∈ part, c ∈ componentChars := by
  obtain ⟨f, _, rfl⟩ := List.mem_map.mp h
  cases f with
  | number n =>
    exact ⟨Version.numberChars_ne_nil n, fun c hc =>
      mem_componentChars_of_isDigit (Version.isDigit_of_mem_numberChars hc)⟩
  | wildcard w wild =>
    refine ⟨List.cons_ne_nil _ _, fun c hc => ?_⟩
    rw [List.mem_singleton.mp hc]
    exact mem_componentChars_of_isWildcardChar wild

/-- A character of the core is a dot or part of a component. -/
theorem mem_coreChars {p : PartialText} {c : Char} (h : c ∈ p.coreChars) :
    c = '.' ∨ c ∈ componentChars := by
  rcases Text.mem_of_mem_intercalate h with h | ⟨part, hpart, h⟩
  · exact .inl (List.mem_singleton.mp h)
  · exact .inr ((p.field_plain hpart).2 c h)

/-- The characters of a partial version are those of versions, or a star. -/
theorem isTextChar_of_mem {p : PartialText} {c : Char} (h : c ∈ p.chars) :
    isTextChar c = true := by
  have hsuffix : ∀ d, Version.isVersionChar d = true → isTextChar d = true := by
    intro d hd
    rw [isTextChar, hd, Bool.true_or]
  rcases List.mem_append.mp h with h | h
  · split at h
    · rw [List.mem_singleton.mp h]
      decide
    · cases h
  · rcases List.mem_append.mp h with h | h
    · rcases mem_coreChars h with rfl | h
      · decide
      · exact isTextChar_of_mem_componentChars c h
    · rcases List.mem_append.mp h with h | h
      · exact hsuffix c (Version.isVersionChar_of_mem_partChars (by decide) p.preProper h)
      · exact hsuffix c (Version.isVersionChar_of_mem_partChars (by decide) p.buildProper h)

/-- No character of a partial version is a blank. -/
theorem isBlank_eq_false {p : PartialText} {c : Char} (h : c ∈ p.chars) : isBlank c = false :=
  (isTextChar_plain (isTextChar_of_mem h)).1

/-- The core starts with a character of a component. -/
theorem exists_coreChars_eq_cons (p : PartialText) :
    ∃ c cs, p.coreChars = c :: cs ∧ c ∈ componentChars := by
  obtain ⟨part, parts, hparts⟩ : ∃ part parts, p.fields.map Field.chars = part :: parts :=
    List.exists_cons_of_ne_nil (by simpa using p.atLeastOne)
  obtain ⟨hne, hplain⟩ := p.field_plain (hparts ▸ List.mem_cons_self)
  obtain ⟨c, cs, rfl⟩ := List.exists_cons_of_ne_nil hne
  refine ⟨c, cs ++ parts.flatMap (['.'] ++ ·), ?_, hplain c List.mem_cons_self⟩
  rw [coreChars, hparts, Text.intercalate_cons]
  rfl

/-- A partial version begins with the mark, a digit or a wildcard. -/
theorem exists_chars_eq_cons (p : PartialText) :
    ∃ c cs, p.chars = c :: cs ∧ c ∈ versionChars := by
  obtain ⟨c, cs, hchars, hc⟩ := p.exists_coreChars_eq_cons
  rw [chars, hchars]
  cases p.marked with
  | true => exact ⟨'v', _, rfl, by decide⟩
  | false =>
    refine ⟨c, _, rfl, ?_⟩
    simp only [versionChars, List.mem_cons, hc, or_true]

/-- The text of a partial version is not empty. -/
theorem chars_ne_nil (p : PartialText) : p.chars ≠ [] := by
  obtain ⟨c, cs, hchars, _⟩ := p.exists_chars_eq_cons
  rw [hchars]
  exact List.cons_ne_nil c cs

end PartialText

/-! ### Bounds and alternatives -/

/-- A partial version, perhaps with an operator and blanks before it. -/
structure BoundText where
  operator : Option (Operator × Gap)
  version : PartialText

namespace BoundText

/-- A bound as text. -/
def chars (b : BoundText) : List Char :=
  boundChars b.operator b.version.chars

/-- The relation of a bound. Without an operator it is equality. -/
def relation (b : BoundText) : Relation :=
  match b.operator with
  | none => .exact
  | some (operator, _) => operator.relation

/-- The comparators of a bound. -/
def comparators (b : BoundText) : List Comparator :=
  b.version.comparators b.relation

/-- A bound begins with a character that is no blank and no hyphen. -/
theorem exists_chars_eq_cons (b : BoundText) :
    ∃ c cs, b.chars = c :: cs ∧ isBlank c = false ∧ c ≠ '-' := by
  obtain ⟨operator, version⟩ := b
  cases operator with
  | none =>
    obtain ⟨c, cs, hchars, hc⟩ := version.exists_chars_eq_cons
    obtain ⟨hblank, _, hhyphen⟩ := tokenChars_plain c (mem_tokenChars_of_mem_versionChars hc)
    exact ⟨c, cs, hchars, hblank, hhyphen⟩
  | some o =>
    obtain ⟨o, gap⟩ := o
    obtain ⟨c, cs, hchars⟩ := List.exists_cons_of_ne_nil o.chars_ne_nil
    obtain ⟨hblank, _, hhyphen⟩ := tokenChars_plain c (o.mem_chars c (hchars ▸ List.mem_cons_self))
    refine ⟨c, cs ++ gap.chars ++ version.chars, ?_, hblank, hhyphen⟩
    rw [chars, boundChars, hchars]
    rfl

end BoundText

/-- Nothing, two partial versions around a hyphen, or bounds with blanks between them. -/
inductive AlternativeText where
  | any
  | hyphen (low : PartialText) (before after : Gap) (high : PartialText)
  | bounds (first : BoundText) (rest : List (Separator × BoundText))

namespace AlternativeText

/-- An alternative as text. -/
def chars : AlternativeText → List Char
  | .any => []
  | .hyphen low before after high =>
    (low.chars ++ before.chars) ++ (Text.hyphen ++ (after.chars ++ high.chars))
  | .bounds first rest => first.chars ++ rest.flatMap fun x => x.1.chars ++ x.2.chars

/-- The comparators of an alternative. -/
def comparators : AlternativeText → List Comparator
  | .any => []
  | .hyphen low _ _ high => low.comparators .atLeast ++ high.comparators .atMost
  | .bounds first rest => (first :: rest.map Prod.snd).flatMap BoundText.comparators

end AlternativeText

/-! ### Ranges -/

/-- An alternative with blanks around it. -/
structure PartText where
  before : Gap
  alternative : AlternativeText
  after : Gap

/-- An alternative with blanks around it, as text. -/
def PartText.chars (p : PartText) : List Char :=
  p.before.chars ++ (p.alternative.chars ++ p.after.chars)

/-- Alternatives with the mark `||` between them. -/
structure RangeText where
  first : PartText
  rest : List PartText

namespace RangeText

/-- The alternatives of a range. -/
def parts (r : RangeText) : List PartText :=
  r.first :: r.rest

/-- A range as text. -/
def chars (r : RangeText) : List Char :=
  List.intercalate ['|', '|'] (r.parts.map PartText.chars)

/-- The comparators of a range, for each alternative. -/
def comparators (r : RangeText) : List (List Comparator) :=
  r.parts.map (·.alternative.comparators)

end RangeText

/-- A range is what a text of the language says. -/
def Says (s : String) (r : Range) : Prop :=
  ∃ t : RangeText, t.chars = s.toList ∧ t.comparators = r.alternatives

/-! ### The check that is missing -/

/-- A decimal number without a leading zero. -/
def isNumeral : List Char → Bool
  | [] => false
  | '0' :: _ :: _ => false
  | cs => cs.all Char.isDigit

/-- A text without a `v` at its front. -/
def withoutMark : List Char → List Char
  | 'v' :: cs => cs
  | cs => cs

/-- Whether a text is a component. -/
def isField (cs : List Char) : Bool :=
  isWildcard cs || isNumeral cs

/-- Whether nothing is left unread behind a wildcard: there is no wildcard, or all are components
and not more than three. -/
def areFields (parts : List (List Char)) : Bool :=
  parts.all (! isWildcard ·) || (decide (parts.length ≤ 3) && parts.all isField)

/-- Whether a partial version has no comma and nothing unread behind a wildcard. -/
def isRegularPartial (cs : List Char) : Bool :=
  !cs.contains ',' &&
    areFields (((withoutMark cs).takeWhile (! Partial.startsSuffix ·)).splitOn '.')

/-- Whether no operator comes while another one waits, and all partial versions are regular. -/
def areRegularWords : (waiting : Bool) → List (List Char) → Bool
  | _, [] => true
  | waiting, word :: words =>
    match splitOperator word with
    | (operator, []) => !(waiting && operator.isSome) && areRegularWords true words
    | (operator, rest) =>
      !(waiting && operator.isSome) && (isRegularPartial rest && areRegularWords false words)

/-- Whether an alternative is regular on both sides of its hyphen, or in all its words. -/
def isRegularAlternative (cs : List Char) : Bool :=
  match cut? Text.hyphen cs with
  | some (low, high) => isRegularPartial (trim low) && isRegularPartial (trim high)
  | none => areRegularWords false (words cs)

/-- Whether the text of a range is regular. -/
def isRegular (s : String) : Bool :=
  (splitAlternatives s.toList).all fun part => isRegularAlternative (trim part)

end Range

end FrameworkUpgrade
