import FrameworkUpgrade.Proofs.Range.Acceptance

/-!
# `FrameworkUpgrade.Proofs.Range.Regular`: which ranges say what was read

Every text of the language is regular: the cuts that the check makes find the parts that the text
was put together from. With `says_of_isRegular` this decides when a range that was read is what
its text says, `says_iff`.

The reader refuses most texts that say nothing, but not all of them. `unsaid` has one for each
of the three things that it lets pass.
-/

set_option autoImplicit false

namespace FrameworkUpgrade

namespace Range

open Text (isBlank trim words cut?)

/-! ### Partial versions -/

/-- The text of a number passes the check of a numeral. -/
theorem isNumeral_numberChars (n : Nat) : isNumeral (Version.numberChars n) = true := by
  unfold isNumeral
  split
  · rename_i hnil
    exact absurd hnil (Version.numberChars_ne_nil n)
  · rename_i hzero
    exact absurd hzero (Version.numberChars_ne_zero_cons n _ _)
  · exact List.all_eq_true.mpr fun c hc => Version.isDigit_of_mem_numberChars hc

/-- The text of a field passes the check of one. -/
theorem isField_chars (f : Field) : isField f.chars = true := by
  cases f with
  | number n => rw [isField, Field.chars, isNumeral_numberChars, Bool.or_true]
  | wildcard c wild =>
    have hwild : isWildcard [c] = true := wild
    rw [isField, Field.chars, hwild, Bool.true_or]

namespace PartialText

/-- The mark is dropped and nothing else. -/
theorem withoutMark_chars (p : PartialText) :
    withoutMark p.chars = p.coreChars ++ p.suffixChars := by
  cases hmarked : p.marked with
  | true =>
    rw [chars, hmarked]
    rfl
  | false =>
    -- Without a mark the text begins with a component, and so with no `v`.
    obtain ⟨c, cs, hcore, hc⟩ := p.exists_coreChars_eq_cons
    have hbody : p.chars = c :: (cs ++ p.suffixChars) := by
      rw [chars, hmarked, hcore]
      rfl
    have hv : c ≠ 'v' := by
      rintro rfl
      exact absurd hc (by decide)
    rw [hbody, hcore, withoutMark]
    · rfl
    · intro _ heq
      exact hv (List.cons.inj heq).1

/-- The suffix begins with its own mark, or there is none. -/
theorem head_suffixChars (p : PartialText) :
    ∀ c ∈ p.suffixChars.head?, Partial.startsSuffix c = true := by
  rw [suffixChars]
  cases p.pre with
  | cons i pre =>
    rintro c ⟨⟩
    rfl
  | nil =>
    cases p.build with
    | cons i build =>
      rintro c ⟨⟩
      rfl
    | nil => rintro c ⟨⟩

/-- The components are found before the suffix. -/
theorem takeWhile_body (p : PartialText) :
    (p.coreChars ++ p.suffixChars).takeWhile (! Partial.startsSuffix ·) = p.coreChars := by
  have hplain : ∀ c ∈ '.' :: componentChars, (!Partial.startsSuffix c) = true :=
    List.all_eq_true.mp (by decide)
  have hcore : ∀ c ∈ p.coreChars, (!Partial.startsSuffix c) = true := by
    intro c hc
    exact hplain c (List.mem_cons.mpr (mem_coreChars hc))
  have hsuffix : p.suffixChars.takeWhile (! Partial.startsSuffix ·) = [] := by
    have hhead := p.head_suffixChars
    cases hchars : p.suffixChars with
    | nil => rfl
    | cons c cs =>
      rw [hchars] at hhead
      exact List.takeWhile_cons_of_neg (by simp [hhead c rfl])
  rw [List.takeWhile_append_of_pos hcore, hsuffix, List.append_nil]

/-- The core is parted at its dots into its fields. -/
theorem splitOn_coreChars (p : PartialText) :
    p.coreChars.splitOn '.' = p.fields.map Field.chars := by
  refine List.splitOn_intercalate '.' (fun part hpart hmem => ?_) ?_
  · exact absurd ((p.field_plain hpart).2 '.' hmem) (by decide)
  · simpa using p.atLeastOne

/-- The text of a partial version passes the check of one. -/
theorem isRegularPartial_chars (p : PartialText) : isRegularPartial p.chars = true := by
  have hcomma : ',' ∉ p.chars := fun hmem => (isTextChar_plain (isTextChar_of_mem hmem)).2.2 rfl
  have hfields : (p.fields.map Field.chars).all isField = true := by
    rw [List.all_map, List.all_eq_true]
    exact fun f _ => isField_chars f
  rw [isRegularPartial, p.withoutMark_chars, p.takeWhile_body, p.splitOn_coreChars, areFields,
    hfields, List.length_map, decide_eq_true p.atMostThree]
  simp [hcomma]

/-- In a partial version no hyphen stands behind a space, for it has no space. -/
theorem tight (p : PartialText) : Text.Tight p.chars :=
  Text.tight_of_forall fun _ => isBlank_eq_false

/-- A partial version has no blanks to trim. -/
theorem isTrimmed (p : PartialText) : Text.IsTrimmed p.chars :=
  Text.isTrimmed_of_forall fun _ => isBlank_eq_false

/-- A partial version has no bar in it. -/
theorem not_mem_chars (p : PartialText) : '|' ∉ p.chars :=
  fun h => (isTextChar_plain (isTextChar_of_mem h)).2.1 rfl

/-- A partial version does not start with a hyphen. -/
theorem head_ne_hyphen (p : PartialText) : ∀ c ∈ p.chars.head?, c ≠ '-' := by
  obtain ⟨c, cs, hchars, hc⟩ := p.exists_chars_eq_cons
  rw [hchars]
  rintro _ ⟨⟩
  exact (tokenChars_plain c (mem_tokenChars_of_mem_versionChars hc)).2.2

/-- A partial version starts with a character of versions. -/
theorem head_mem_versionChars (p : PartialText) : ∀ c ∈ p.chars.head?, c ∈ versionChars := by
  obtain ⟨c, cs, hchars, hc⟩ := p.exists_chars_eq_cons
  rw [hchars]
  rintro _ ⟨⟩
  exact hc

end PartialText

/-- In a gap no hyphen stands behind a space. -/
theorem Gap.tight (gap : Gap) : Text.Tight gap.chars :=
  Text.tight_of_not_mem fun h => (gap.unmarked '-' h).2 rfl

/-- A gap does not start with a hyphen. -/
theorem Gap.head_ne_hyphen (gap : Gap) : ∀ c ∈ gap.chars.head?, c ≠ '-' :=
  fun c hc => (gap.unmarked c (List.mem_of_mem_head? hc)).2

/-! ### Bounds -/

namespace BoundText

/-- The words of a bound. -/
def tokens (b : BoundText) : List (List Char) :=
  boundTokens b.operator b.version.chars

/-- A word with a partial version is regular unless an operator waits for it and it has its own. -/
theorem areRegularWords_version {waiting : Bool} {operator : Option Relation} {word : List Char}
    {words : List (List Char)} (p : PartialText) (h : splitOperator word = (operator, p.chars))
    (hwaiting : (waiting && operator.isSome) = false) :
    areRegularWords waiting (word :: words) = areRegularWords false words := by
  rw [areRegularWords, h]
  split
  · rename_i heq
    exact absurd (congrArg Prod.snd heq) p.chars_ne_nil
  · rename_i heq
    cases heq
    rw [hwaiting, p.isRegularPartial_chars]
    rfl

/-- The words of a bound are regular before any others. -/
theorem areRegularWords_tokens (b : BoundText) (words : List (List Char)) :
    areRegularWords false (b.tokens ++ words) = areRegularWords false words := by
  have hhead := b.version.head_mem_versionChars
  obtain ⟨operator, version⟩ := b
  cases operator with
  | none => exact areRegularWords_version version (splitOperator_version hhead) rfl
  | some o =>
    obtain ⟨o, gap⟩ := o
    rw [tokens, boundTokens]
    split
    · exact areRegularWords_version version (splitOperator_operator o hhead) rfl
    · -- The operator waits, and the version behind it has none of its own.
      have hoperator : splitOperator (o.chars ++ []) = (some o.relation, []) :=
        splitOperator_operator o (by rintro c ⟨⟩)
      rw [List.append_nil] at hoperator
      show areRegularWords false (o.chars :: version.chars :: words) = _
      rw [areRegularWords, hoperator]
      exact areRegularWords_version version (splitOperator_version hhead) rfl

/-- The words of any number of bounds are regular. -/
theorem areRegularWords_flatMap_tokens (bs : List BoundText) :
    areRegularWords false (bs.flatMap tokens) = true := by
  induction bs with
  | nil => rfl
  | cons b bs ih => rw [List.flatMap_cons, areRegularWords_tokens, ih]

/-- The text of a bound is not empty. -/
theorem chars_ne_nil (b : BoundText) : b.chars ≠ [] :=
  boundChars_ne_nil b.operator b.version.chars_ne_nil

/-- The words of a bound are its tokens, when a blank follows or nothing. -/
theorem words_chars (b : BoundText) {cs : List Char} (hcs : ∀ c ∈ cs.head?, isBlank c = true) :
    words (b.chars ++ cs) = b.tokens ++ words cs :=
  words_boundChars b.operator (fun _ => PartialText.isBlank_eq_false) b.version.chars_ne_nil hcs

/-- A bound has no blanks to trim. -/
theorem isTrimmed (b : BoundText) : Text.IsTrimmed b.chars :=
  isTrimmed_boundChars b.operator (fun _ => PartialText.isBlank_eq_false) b.version.chars_ne_nil

/-- In a bound no hyphen stands behind a space. -/
theorem tight (b : BoundText) : Text.Tight b.chars := by
  obtain ⟨operator, version⟩ := b
  cases operator with
  | none => exact version.tight
  | some o =>
    obtain ⟨o, gap⟩ := o
    have hoperator : Text.Tight o.chars := Text.tight_of_forall fun _ => Operator.isBlank_eq_false
    exact (hoperator.append gap.tight gap.head_ne_hyphen).append version.tight
      version.head_ne_hyphen

/-- A bound has no bar in it. -/
theorem not_mem_chars (b : BoundText) : '|' ∉ b.chars := by
  obtain ⟨operator, version⟩ := b
  cases operator with
  | none => exact version.not_mem_chars
  | some o =>
    obtain ⟨o, gap⟩ := o
    intro h
    rcases List.mem_append.mp h with h | h
    · exact ((o.unmarked.append gap.unmarked) '|' h).1 rfl
    · exact version.not_mem_chars h

end BoundText

/-! ### Alternatives -/

namespace AlternativeText

/-- Blanks and bounds in turn have no hyphen behind a space. -/
theorem tight_flatMap_chars (rest : List (Separator × BoundText)) :
    Text.Tight (rest.flatMap fun x => x.1.chars ++ x.2.chars) := by
  induction rest with
  | nil => exact .nil
  | cons x rest ih =>
    have hbound : ∀ c ∈ x.2.chars.head?, c ≠ '-' := by
      obtain ⟨c, cs, hchars, _, hc⟩ := x.2.exists_chars_eq_cons
      rw [hchars]
      rintro _ ⟨⟩
      exact hc
    have hrest : ∀ c ∈ (rest.flatMap fun x => x.1.chars ++ x.2.chars).head?, c ≠ '-' := by
      rintro c hc rfl
      exact absurd (head_separated rest '-' hc) (by decide)
    rw [List.flatMap_cons]
    exact (x.1.toGap.tight.append x.2.tight hbound).append ih hrest

/-- Bounds with separators between them have no bar in them. -/
theorem not_mem_flatMap_chars (rest : List (Separator × BoundText)) :
    '|' ∉ rest.flatMap fun x => x.1.chars ++ x.2.chars := by
  intro h
  obtain ⟨x, _, h⟩ := List.mem_flatMap.mp h
  rcases List.mem_append.mp h with h | h
  · exact (x.1.toGap.unmarked '|' h).1 rfl
  · exact x.2.not_mem_chars h

/-- The text of an alternative passes the check of one. -/
theorem isRegularAlternative_chars (a : AlternativeText) :
    isRegularAlternative a.chars = true := by
  cases a with
  | any => rfl
  | hyphen low before after high =>
    -- The ends have no hyphen behind a space, so the cut is at the hyphen between them.
    have hcut : cut? Text.hyphen (hyphen low before after high).chars =
        some (low.chars ++ before.chars, after.chars ++ high.chars) :=
      Text.cut?_hyphen_append (low.tight.append before.tight before.head_ne_hyphen) _
    have hlow : trim ([] ++ low.chars ++ before.chars) = low.chars :=
      Text.trim_of_blanks Gap.none.blank low.isTrimmed before.blank
    have hhigh : trim (after.chars ++ high.chars ++ []) = high.chars :=
      Text.trim_of_blanks after.blank high.isTrimmed Gap.none.blank
    rw [List.nil_append] at hlow
    rw [List.append_nil] at hhigh
    rw [isRegularAlternative, hcut]
    show (isRegularPartial (trim _) && isRegularPartial (trim _)) = true
    rw [hlow, hhigh, low.isRegularPartial_chars, high.isRegularPartial_chars]
    rfl
  | bounds first rest =>
    -- No bound starts with a hyphen, so the text is not cut.
    have htight : Text.Tight (bounds first rest).chars := by
      refine first.tight.append (tight_flatMap_chars rest) ?_
      rintro c hc rfl
      exact absurd (head_separated rest '-' hc) (by decide)
    have hwords : words (bounds first rest).chars =
        (first :: rest.map Prod.snd).flatMap BoundText.tokens := by
      rw [chars, first.words_chars (head_separated rest),
        words_separated (fun b _ => b.words_chars) rest]
      rfl
    rw [isRegularAlternative, Text.cut?_hyphen_eq_none htight, hwords]
    exact BoundText.areRegularWords_flatMap_tokens _

/-- An alternative has no blanks to trim. -/
theorem isTrimmed (a : AlternativeText) : Text.IsTrimmed a.chars := by
  cases a with
  | any => exact Text.isTrimmed_nil
  | hyphen low before after high =>
    have h := low.isTrimmed.append high.isTrimmed low.chars_ne_nil high.chars_ne_nil
      (before.chars ++ (Text.hyphen ++ after.chars))
    simpa [chars] using h
  | bounds first rest =>
    exact isTrimmed_separated BoundText.isTrimmed BoundText.chars_ne_nil first rest

/-- An alternative has no bar in it. -/
theorem not_mem_chars (a : AlternativeText) : '|' ∉ a.chars := by
  cases a with
  | any => nofun
  | hyphen low before after high =>
    have hbefore : '|' ∉ before.chars := fun h => (before.unmarked '|' h).1 rfl
    have hafter : '|' ∉ after.chars := fun h => (after.unmarked '|' h).1 rfl
    simp [chars, Text.hyphen, low.not_mem_chars, high.not_mem_chars, hbefore, hafter]
  | bounds first rest =>
    intro h
    rcases List.mem_append.mp h with h | h
    · exact first.not_mem_chars h
    · exact not_mem_flatMap_chars rest h

end AlternativeText

/-! ### Ranges -/

namespace PartText

/-- Without its blanks, a part is its alternative. -/
theorem trim_chars (p : PartText) : trim p.chars = p.alternative.chars := by
  rw [chars, ← List.append_assoc]
  exact Text.trim_of_blanks p.before.blank p.alternative.isTrimmed p.after.blank

/-- An alternative with blanks around it has no bar in it. -/
theorem not_mem_chars (p : PartText) : '|' ∉ p.chars := by
  have hbefore : '|' ∉ p.before.chars := fun h => (p.before.unmarked '|' h).1 rfl
  have hafter : '|' ∉ p.after.chars := fun h => (p.after.unmarked '|' h).1 rfl
  simp [chars, p.alternative.not_mem_chars, hbefore, hafter]

end PartText

/-- A text of the language is regular. -/
theorem isRegular_of_grammar {s : String} {r : Range} (h : Says s r) : isRegular s = true := by
  obtain ⟨t, hchars, _⟩ := h
  have hparts : splitAlternatives s.toList = t.parts.map PartText.chars := by
    rw [← hchars]
    refine splitAlternatives_intercalate (List.cons_ne_nil _ _) fun part hpart => ?_
    obtain ⟨p, _, rfl⟩ := List.mem_map.mp hpart
    exact p.not_mem_chars
  rw [isRegular, hparts, List.all_map, List.all_eq_true]
  intro p _
  show isRegularAlternative (trim p.chars) = true
  rw [p.trim_chars]
  exact p.alternative.isRegularAlternative_chars

/-- A range that was read is what its text says exactly when the text is regular. -/
theorem says_iff {s : String} {r : Range} (h : Range.parse? s = some r) :
    Says s r ↔ isRegular s = true :=
  ⟨isRegular_of_grammar, says_of_isRegular h⟩

/-- A range with a number behind a wildcard, a suffix, and a hyphen. -/
def mixed : Range :=
  ⟨">= v1.x.7 <2.0.0-rc.1+5 || 3 - 4.1",
    [[⟨.atLeast, 1, none, none, []⟩, ⟨.below, 2, some 0, some 0, ["rc".toList, "1".toList]⟩],
      [⟨.atLeast, 3, none, none, []⟩, ⟨.atMost, 4, some 1, none, []⟩]]⟩

/-- A text with every kind of bound in it is read. -/
theorem parse?_mixed : Range.parse? " >= v1.x.7 <2.0.0-rc.1+5 || 3 - 4.1" = some mixed := by
  with_unfolding_all rfl

/-- The range says what was read. -/
theorem says_mixed :
    Range.parse? " >= v1.x.7 <2.0.0-rc.1+5 || 3 - 4.1" = some mixed ∧
    (Says " >= v1.x.7 <2.0.0-rc.1+5 || 3 - 4.1" mixed ↔
      isRegular " >= v1.x.7 <2.0.0-rc.1+5 || 3 - 4.1" = true) ∧
    isRegular " >= v1.x.7 <2.0.0-rc.1+5 || 3 - 4.1" = true :=
  ⟨parse?_mixed, says_iff parse?_mixed, by decide +kernel⟩

/-- What follows a wildcard is not looked at, a comma starts a comparator that nobody wrote, and an
operator that waits gives way to another. In each case the text is read, and says nothing. -/
theorem unsaid :
    (∃ r, Range.parse? "1.x.banana" = some r ∧
      r.alternatives = [[⟨.exact, 1, none, none, []⟩]] ∧ ¬ Says "1.x.banana" r) ∧
    (∃ r, Range.parse? "1.2.3-a,>=0" = some r ∧
      r.alternatives =
        [[⟨.exact, 1, some 2, some 3, ["a".toList]⟩, ⟨.atLeast, 0, none, none, []⟩]] ∧
      ¬ Says "1.2.3-a,>=0" r) ∧
    ∃ r, Range.parse? ">= <1.2.3" = some r ∧
      r.alternatives = [[⟨.below, 1, some 2, some 3, []⟩]] ∧ ¬ Says ">= <1.2.3" r := by
  refine ⟨⟨⟨"1.x.banana", _⟩, by with_unfolding_all rfl, rfl, fun h => ?_⟩,
    ⟨⟨"1.2.3-a,>=0", _⟩, by with_unfolding_all rfl, rfl, fun h => ?_⟩,
    ⟨⟨">= <1.2.3", _⟩, by with_unfolding_all rfl, rfl, fun h => ?_⟩⟩
  · exact absurd (isRegular_of_grammar h) (by decide +kernel)
  · exact absurd (isRegular_of_grammar h) (by decide +kernel)
  · exact absurd (isRegular_of_grammar h) (by decide +kernel)

end Range

end FrameworkUpgrade
