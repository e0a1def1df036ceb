import FrameworkUpgrade.Proofs.Range.Query

/-!
# `FrameworkUpgrade.Proofs.Range.Classes`: exact versions, dist-tags and ranges apart

Three checks decide what a query is. No dist-tag is an exact version, so these two may be tried
in either order. A dist-tag and a range are kept apart by their first component, which is a
wildcard or digits for a range and begins with a letter for a dist-tag. The one letter that is a
wildcard is only told from a dist-tag when it stands alone: `range?_of_isTag` states that a
dist-tag is a range exactly when its first component is a wildcard, further components follow
and no suffix does, and that it then bounds nothing.

`classes_apart` collects what this means for queries. `tag_of_wildcards` is the shortest text
that two of the checks take.
-/

set_option autoImplicit false

namespace FrameworkUpgrade

open Text (isBlank trim words cut?)

namespace Query

open Range (dropMark isWildcard isWildcardChar splitOperator Partial)
open Range.Partial (startsSuffix readNumbers)

/-! ### The three checks -/

/-- A text as an exact version. -/
def asExact (cs : List Char) : Option Query :=
  (readExact? cs).map .exact

/-- A text as a dist-tag. -/
def asTag (cs : List Char) : Option Query :=
  if isTag cs then some (.tag (String.ofList cs)) else none

/-- A text as a range. -/
def asRange (cs : List Char) : Option Query :=
  (Range.read? cs).map .range

/-- The first of some checks that takes a text decides what it is. -/
def firstOf (checks : List (List Char → Option Query)) (cs : List Char) : Option Query :=
  checks.findSome? (· cs)

/-- A query is what the first of three checks makes of it: exact version, dist-tag, range. -/
theorem readTrimmed?_eq (cs : List Char) :
    readTrimmed? cs = firstOf [asExact, asTag, asRange] cs := by
  simp only [readTrimmed?, firstOf, asExact, asTag, asRange, List.findSome?_cons,
    List.findSome?_nil]
  cases readExact? cs with
  | some v => rfl
  | none =>
    cases isTag cs with
    | true => rfl
    | false => cases Range.read? cs <;> rfl

/-! ### Dist-tags -/

/-- Whether a text has a wildcard for its first component, others behind it, and no hyphen. -/
def opensWithWildcard : List Char → Bool
  | c :: '.' :: rest => isWildcardChar c && rest.all (· != '-')
  | _ => false

/-- A letter is no digit. -/
theorem isDigit_of_isAlpha {c : Char} (h : c.isAlpha = true) : c.isDigit = false := by
  have h : (decide (65 ≤ c.val ∧ c.val ≤ 90) || (decide (97 ≤ c.val) && decide (c.val ≤ 122))) =
      true := h
  simp [UInt32.le_iff_toNat_le] at h
  simp [Char.isDigit, UInt32.le_iff_toNat_le]
  omega

/-- A character of a tag is no blank, no bar and no plus sign. -/
theorem isTagChar_plain {c : Char} (h : isTagChar c = true) :
    isBlank c = false ∧ c ≠ '|' ∧ c ≠ '+' := by
  refine ⟨?_, ?_, ?_⟩
  · simp only [isTagChar, Bool.or_eq_true, beq_iff_eq] at h
    rcases h with ((h | rfl) | rfl) | rfl
    · exact Range.isBlank_of_isAlphanum h
    all_goals decide
  · rintro rfl
    exact absurd h (by decide)
  · rintro rfl
    exact absurd h (by decide)

/-- What the check of a dist-tag asks. -/
structure IsTag (c : Char) (rest : List Char) : Prop where
  letter : c.isAlpha = true
  notWildcard : isWildcard (c :: rest) = false
  unmarked : dropMark (c :: rest) = c :: rest
  chars : ∀ d ∈ rest, isTagChar d = true

/-- A text that passes the check has a first character, and all that the check asks. -/
theorem exists_of_isTag {cs : List Char} (h : isTag cs = true) :
    ∃ c rest, cs = c :: rest ∧ IsTag c rest := by
  cases cs with
  | nil => cases h
  | cons c rest =>
    simp only [isTag, Bool.and_eq_true, Bool.not_eq_true', beq_iff_eq, List.all_eq_true] at h
    obtain ⟨⟨⟨hletter, hwildcard⟩, hmark⟩, hchars⟩ := h
    exact ⟨c, rest, rfl, hletter, hwildcard, hmark, hchars⟩

namespace IsTag

variable {c : Char} {rest : List Char} (h : IsTag c rest)
include h

/-- No character of a tag is a blank, a bar or a plus sign. -/
theorem plain : ∀ d ∈ c :: rest, isBlank d = false ∧ d ≠ '|' ∧ d ≠ '+' := by
  refine List.forall_mem_cons.mpr ⟨isTagChar_plain ?_, fun d hd => isTagChar_plain (h.chars d hd)⟩
  simp [isTagChar, Char.isAlphanum, h.letter]

/-- A tag has no blanks to trim. -/
theorem trim_eq : trim (c :: rest) = c :: rest :=
  (Text.isTrimmed_of_forall fun d hd => (h.plain d hd).1).trim_eq

/-- A tag does not start with a character that is no letter. -/
theorem ne_of_not_isAlpha {d : Char} (hd : d.isAlpha = false) : c ≠ d := by
  rintro rfl
  rw [h.letter] at hd
  cases hd

/-- A version begins with a digit, and a dist-tag with a letter. -/
theorem read?_eq_none : Version.read? (c :: rest) = none := by
  rw [Option.eq_none_iff_forall_ne_some]
  intro v hv
  obtain ⟨hchars, -⟩ := Version.chars_of_read (toOption_eq_some.mp hv)
  obtain ⟨d, ds, hdigits, hdigit⟩ := v.exists_chars_eq_cons
  rw [hchars] at hdigits
  cases hdigits
  rw [isDigit_of_isAlpha h.letter] at hdigit
  cases hdigit

/-- A tag starts with a letter that is no mark of a version, so it is no exact version. -/
theorem readExact?_eq_none : readExact? (c :: rest) = none := by
  have hkept : dropEquals (c :: rest) = c :: rest := by
    refine dropEquals_of_head ?_
    rintro _ ⟨⟩
    exact h.ne_of_not_isAlpha (by decide)
  rw [readExact?, hkept, h.trim_eq, h.unmarked, h.read?_eq_none]

/-- A tag has no operator to take off. -/
theorem splitOperator_eq : splitOperator (c :: rest) = (none, c :: rest) := by
  have hne := @ne_of_not_isAlpha c rest h
  simp [splitOperator, hne (d := '<') (by decide), hne (d := '>') (by decide),
    hne (d := '=') (by decide), hne (d := '^') (by decide), hne (d := '~') (by decide)]

/-- A tag does not start with a suffix of a version. -/
theorem startsSuffix_eq : startsSuffix c = false := by
  simp [startsSuffix, h.ne_of_not_isAlpha (d := '-') (by decide),
    h.ne_of_not_isAlpha (d := '+') (by decide)]

/-- A part of a dist-tag has no suffix when it has no hyphen. -/
theorem isEmpty_suffix (cs : List Char) (hcs : ∀ d ∈ cs, d ∈ rest) :
    (cs.dropWhile (! startsSuffix ·)).isEmpty = cs.all (· != '-') := by
  rw [Bool.eq_iff_iff, List.isEmpty_iff, List.dropWhile_eq_nil_iff, List.all_eq_true]
  refine forall₂_congr fun d hd => ?_
  have hplus := (h.plain d (List.mem_cons_of_mem c (hcs d hd))).2.2
  simp [startsSuffix, hplus]

/-- Components of which the first begins with the letter are refused, unless that is a wildcard. -/
theorem readNumbers_eq (part : List Char) (parts : List (List Char)) :
    readNumbers ((c :: part) :: parts) = if isWildcard (c :: part) then some [] else none := by
  simp [readNumbers, isDigit_of_isAlpha h.letter]

/-- The first component is a wildcard and no suffix follows when the text says so. -/
theorem opensWithWildcard_eq {part : List Char} {parts : List (List Char)}
    (hparts : (rest.takeWhile (! startsSuffix ·)).splitOn '.' = part :: parts) :
    (isWildcard (c :: part) && (rest.dropWhile (! startsSuffix ·)).isEmpty) =
      opensWithWildcard (c :: rest) := by
  cases rest with
  | nil =>
    -- The letter stands alone, and then it is no wildcard.
    obtain ⟨rfl, -⟩ := List.cons.inj hparts
    simp [h.notWildcard, opensWithWildcard]
  | cons d rest =>
    by_cases hdot : d = '.'
    · subst hdot
      have hempty := h.isEmpty_suffix rest fun _ => List.mem_cons_of_mem _
      rw [List.takeWhile_cons_of_pos rfl, List.splitOn_cons_eq_if_modifyHead,
        if_pos (beq_self_eq_true '.')] at hparts
      obtain ⟨rfl, -⟩ := List.cons.inj hparts
      rw [List.dropWhile_cons_of_pos rfl, hempty]
      rfl
    · have hopens : opensWithWildcard (c :: d :: rest) = false := by
        rw [opensWithWildcard]
        rintro _ _ heq
        exact hdot (by cases heq; rfl)
      rw [hopens]
      cases hd : startsSuffix d with
      | true => simp [hd]
      | false =>
        -- The component goes on, so it is more than one character.
        obtain ⟨first, others, hfirst⟩ :=
          List.exists_cons_of_ne_nil (List.splitOn_ne_nil '.' (rest.takeWhile (! startsSuffix ·)))
        rw [List.takeWhile_cons_of_pos (by simp [hd]), List.splitOn_cons_eq_if_modifyHead,
          if_neg (by simpa using hdot), hfirst, List.modifyHead_cons] at hparts
        obtain ⟨rfl, -⟩ := List.cons.inj hparts
        rfl

/-- Of a dist-tag the reader of partial versions takes the first component when it is a wildcard,
and it refuses any other, as well as a suffix. -/
theorem read?_partial :
    Partial.read? (c :: rest) =
      if opensWithWildcard (c :: rest) then some ⟨[], []⟩ else none := by
  have hsuffix : (!startsSuffix c) = true := by
    rw [h.startsSuffix_eq]
    rfl
  have hdot : ¬ (c == '.') = true := by simpa using h.ne_of_not_isAlpha (d := '.') (by decide)
  -- The letter belongs to the first component, whatever follows.
  obtain ⟨part, parts, hparts⟩ :=
    List.exists_cons_of_ne_nil (List.splitOn_ne_nil '.' (rest.takeWhile (! startsSuffix ·)))
  unfold Partial.read?
  rw [h.unmarked]
  dsimp only
  rw [List.takeWhile_cons_of_pos (p := (! startsSuffix ·)) hsuffix,
    List.dropWhile_cons_of_pos (p := (! startsSuffix ·)) hsuffix,
    List.splitOn_cons_eq_if_modifyHead, if_neg hdot, hparts, List.modifyHead_cons,
    h.readNumbers_eq, ← h.opensWithWildcard_eq hparts]
  cases isWildcard (c :: part) with
  | false => rfl
  | true =>
    cases rest.dropWhile (! startsSuffix ·) with
    | nil => rfl
    | cons d suffix => rfl

/-- A dist-tag is one word, which the reader of ranges takes when it opens with a wildcard. It
bounds nothing then. -/
theorem readAlternative_eq :
    Range.readAlternative (c :: rest) =
      if opensWithWildcard (c :: rest) then some [] else none := by
  have hblank : ∀ d ∈ c :: rest, isBlank d = false := fun d hd => (h.plain d hd).1
  have hhyphen : cut? Text.hyphen (c :: rest) = none :=
    Text.cut?_hyphen_eq_none (Text.tight_of_forall hblank)
  have hwords : words ((c :: rest) ++ []) = (c :: rest) :: words [] :=
    Text.words_append hblank (List.cons_ne_nil c rest) nofun
  rw [List.append_nil] at hwords
  rw [Range.readAlternative, h.notWildcard, if_neg (by simp), ← Text.hyphen, hhyphen]
  simp only [hwords, Range.readWords, h.splitOperator_eq, h.read?_partial]
  cases opensWithWildcard (c :: rest) with
  | true => rfl
  | false => rfl

end IsTag

/-- A dist-tag is a range as well exactly when it opens with a wildcard. The range is then that of
every release. -/
theorem range?_of_isTag {cs : List Char} (h : isTag cs = true) :
    Range.read? cs = if opensWithWildcard cs then some ⟨String.ofList cs, [[]]⟩ else none := by
  obtain ⟨c, rest, rfl, htag⟩ := exists_of_isTag h
  have hbar : '|' ∉ c :: rest := fun hmem => (htag.plain '|' hmem).2.1 rfl
  rw [Range.read?_eq, Range.splitAlternatives_of_not_mem hbar, List.map_singleton, htag.trim_eq]
  simp only [List.mapM_cons, List.mapM_nil, htag.readAlternative_eq]
  cases opensWithWildcard (c :: rest) with
  | true => rfl
  | false => rfl

/-- No dist-tag is a version. -/
theorem version?_of_isTag {cs : List Char} (h : isTag cs = true) : Version.read? cs = none := by
  obtain ⟨c, rest, rfl, htag⟩ := exists_of_isTag h
  exact htag.read?_eq_none

/-- No dist-tag is a version with something before it. -/
theorem readExact?_of_isTag {cs : List Char} (h : isTag cs = true) : readExact? cs = none := by
  obtain ⟨c, rest, rfl, htag⟩ := exists_of_isTag h
  exact htag.readExact?_eq_none

/-! ### The order of the checks -/

/-- The dist-tag may be tried before the exact version. -/
theorem firstOf_tag_first (cs : List Char) :
    firstOf [asTag, asExact, asRange] cs = readTrimmed? cs := by
  rw [readTrimmed?_eq]
  simp only [firstOf, asExact, asTag, List.findSome?_cons, List.findSome?_nil]
  cases htag : isTag cs with
  | false => cases readExact? cs <;> rfl
  | true =>
    rw [readExact?_of_isTag htag]
    rfl

/-- The dist-tag may be tried last, unless it opens with a wildcard. -/
theorem firstOf_tag_last_iff (cs : List Char) :
    firstOf [asExact, asRange, asTag] cs = readTrimmed? cs ↔
      (isTag cs && opensWithWildcard cs) = false := by
  rw [readTrimmed?_eq]
  simp only [firstOf, asExact, asTag, asRange, List.findSome?_cons, List.findSome?_nil]
  cases htag : isTag cs with
  | false =>
    cases readExact? cs with
    | some v => simp
    | none => cases Range.read? cs <;> simp
  | true =>
    rw [readExact?_of_isTag htag, range?_of_isTag htag]
    cases opensWithWildcard cs with
    | true => simp
    | false => simp

/-- A dist-tag is no version, and it is a range only when it opens with a wildcard. An exact
version is no dist-tag. So the dist-tag may be tried first, and for every other text also last. -/
theorem classes_apart (s : String) :
    (∀ name, parse? s = some (.tag name) →
      Version.read? name.toList = none ∧ readExact? name.toList = none ∧
      Range.parse? name = if opensWithWildcard name.toList then some ⟨name, [[]]⟩ else none) ∧
    (∀ v, parse? s = some (.exact v) → isTag (trim s.toList) = false) ∧
    firstOf [asTag, asExact, asRange] (trim s.toList) = parse? s ∧
    (firstOf [asExact, asRange, asTag] (trim s.toList) = parse? s ↔
      (isTag (trim s.toList) && opensWithWildcard (trim s.toList)) = false) := by
  refine ⟨fun name h => ?_, fun v h => ?_, firstOf_tag_first _, firstOf_tag_last_iff _⟩
  · obtain ⟨htag, rfl⟩ := parse?_eq_some h
    rw [Range.parse?, String.toList_ofList, range?_of_isTag htag]
    exact ⟨version?_of_isTag htag, readExact?_of_isTag htag, rfl⟩
  · have hexact : readExact? (trim s.toList) = some v := parse?_eq_some h
    cases htag : isTag (trim s.toList) with
    | false => rfl
    | true =>
      rw [readExact?_of_isTag htag] at hexact
      cases hexact

/-- A dist-tag that begins like a wildcard and has a hyphen is no range, and a version behind a
`v` is no dist-tag. -/
theorem classes_apart_hyphen :
    parse? " X.y-1" = some (.tag "X.y-1") ∧ Range.parse? "X.y-1" = none ∧
    parse? "v15.0.0-canary" = some (.exact ⟨15, 0, 0, ["canary".toList], []⟩) ∧
    isTag (trim "v15.0.0-canary".toList) = false := by
  have htag : parse? " X.y-1" = some (.tag "X.y-1") := by with_unfolding_all rfl
  have hexact : parse? "v15.0.0-canary" = some (.exact ⟨15, 0, 0, ["canary".toList], []⟩) := by
    with_unfolding_all rfl
  obtain ⟨-, -, hrange⟩ := (classes_apart _).1 _ htag
  refine ⟨htag, ?_, hexact, (classes_apart _).2.1 _ hexact⟩
  rw [hrange]
  decide

/-- Two wildcards with a dot between them are taken for a dist-tag, though they are a range. -/
theorem tag_of_wildcards :
    parse? "x.x" = some (.tag "x.x") ∧ Range.parse? "x.x" = some ⟨"x.x", [[]]⟩ ∧
    firstOf [asExact, asRange, asTag] "x.x".toList = some (.range ⟨"x.x", [[]]⟩) := by
  refine ⟨?_, ?_, ?_⟩ <;> with_unfolding_all rfl

end Query

end FrameworkUpgrade
