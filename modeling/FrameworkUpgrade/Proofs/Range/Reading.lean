import FrameworkUpgrade.Proofs.Range.Bounds

/-!
# `FrameworkUpgrade.Proofs.Range.Reading`: a written range is read as what it says

The reader finds the alternatives of a range between the bars, and in each of them the two
sides of a hyphen or the words of its bounds. No character of an alternative is a bar, and
none of its bounds has a hyphen, so every text is taken apart where it was put together.

`reads_written` is the result. Every written range is read, and on releases the range holds
of exactly those that it admits.
-/

set_option autoImplicit false

namespace FrameworkUpgrade

namespace Range

open Text (isBlank trim words cut?)

/-! ### Alternatives -/

/-- An alternative that is a wildcard and nothing else has no comparator either way. -/
theorem readWords_of_isWildcard {cs : List Char} (h : isWildcard cs = true) :
    readWords none (words cs) = some [] := by
  unfold isWildcard at h
  split at h
  · simp only [isWildcardChar, Bool.or_eq_true, beq_iff_eq] at h
    rcases h with (rfl | rfl) | rfl <;> rfl
  · cases h

/-- A wildcard is no hyphen. -/
theorem not_mem_of_isWildcard {cs : List Char} (h : isWildcard cs = true) : '-' ∉ cs := by
  unfold isWildcard at h
  split at h
  · intro hmem
    rw [← List.mem_singleton.mp hmem] at h
    exact absurd h (by decide)
  · cases h

/-- Words that are read as bounds make up an alternative, when there is no hyphen and there is
room. -/
theorem readAlternative_of_words {cs : List Char} {bounds : List Comparator}
    (hhyphen : cut? [' ', '-', ' '] cs = none) (hwords : readWords none (words cs) = some bounds)
    (hroom : bounds.length ≤ maxComparators) : readAlternative cs = some bounds := by
  rw [readAlternative]
  split
  · -- Without a word, or with one that is a wildcard, there is no bound either way.
    rename_i hany
    rw [← hwords]
    rcases Bool.or_eq_true_iff.mp hany with hempty | hwildcard
    · rw [List.isEmpty_iff.mp hempty]
      rfl
    · rw [readWords_of_isWildcard hwildcard]
      rfl
  · rw [hhyphen]
    show (readWords none (words _) >>= _) = _
    rw [hwords]
    exact if_pos hroom

namespace WrittenAlternative

/-- The comparators of an alternative. -/
def comparators : WrittenAlternative → List Comparator
  | .any => []
  | .hyphen low _ _ high =>
    Range.comparators .atLeast low.numbers ++ Range.comparators .atMost high.numbers
  | .bounds first rest _ => (first :: rest.map Prod.snd).flatMap WrittenBound.comparators

/-- An alternative that is written within the limit has comparators within it. -/
theorem length_comparators_bounds (first : WrittenBound)
    (rest : List (Separator × WrittenBound)) (room : rest.length < maxComparators) :
    (bounds first rest room).comparators.length ≤ maxComparators := by
  have hlength := WrittenBound.length_flatMap_comparators (first :: rest.map Prod.snd)
  rw [List.length_cons, List.length_map] at hlength
  exact Nat.le_trans hlength room

/-- Bounds with blanks between them are read as their comparators. -/
theorem readAlternative_bounds (first : WrittenBound) (rest : List (Separator × WrittenBound))
    (room : rest.length < maxComparators) :
    readAlternative (bounds first rest room).chars = some (bounds first rest room).comparators := by
  have hwords : readWords none (words (bounds first rest room).chars) =
      some (bounds first rest room).comparators := by
    rw [chars, first.words_chars (head_separated rest),
      WrittenBound.words_flatMap_chars, ← List.flatMap_cons]
    exact WrittenBound.readWords_flatMap_tokens (first :: rest.map Prod.snd)
  have hhyphen : cut? [' ', '-', ' '] (bounds first rest room).chars = none := by
    have hunmarked := first.unmarked.append (WrittenBound.unmarked_flatMap_chars rest)
    exact Text.cut?_hyphen_eq_none (Text.tight_of_not_mem fun h => (hunmarked '-' h).2 rfl)
  exact readAlternative_of_words hhyphen hwords (length_comparators_bounds first rest room)

/-- Two partial versions around a hyphen are read as a lower and an upper bound. -/
theorem readAlternative_hyphen (low : Written) (before after : Gap) (high : Written) :
    readAlternative (hyphen low before after high).chars =
      some (hyphen low before after high).comparators := by
  have hcut : cut? [' ', '-', ' '] (hyphen low before after high).chars =
      some (low.chars ++ before.chars, after.chars ++ high.chars) := by
    have hunmarked := low.unmarked.append before.unmarked
    exact Text.cut?_hyphen_append (Text.tight_of_not_mem fun h => (hunmarked '-' h).2 rfl) _
  have hlow : trim ([] ++ low.chars ++ before.chars) = low.chars :=
    Text.trim_of_blanks Gap.none.blank low.isTrimmed before.blank
  have hhigh : trim (after.chars ++ high.chars ++ []) = high.chars :=
    Text.trim_of_blanks after.blank high.isTrimmed Gap.none.blank
  have hread : readHyphen (low.chars ++ before.chars) (after.chars ++ high.chars) =
      some (hyphen low before after high).comparators := by
    rw [List.nil_append] at hlow
    rw [List.append_nil] at hhigh
    rw [readHyphen, hlow, hhigh, low.read?_chars, high.read?_chars]
    show (boundBy _ _ >>= fun lower => boundBy _ _ >>= fun upper => some (lower ++ upper)) = _
    rw [low.boundBy_numbers, high.boundBy_numbers]
    rfl
  have hmem : '-' ∈ (hyphen low before after high).chars :=
    List.mem_append_right _ (List.mem_append_left _ (by decide))
  -- A side gives one comparator at most, so there is room for both.
  have hroom : (hyphen low before after high).comparators.length ≤ maxComparators := by
    have hl := length_comparators_le .atLeast low.numbers
    have hh := length_comparators_le .atMost high.numbers
    rw [comparators, List.length_append, maxComparators]
    omega
  rw [readAlternative, if_neg, hcut]
  · show (readHyphen _ _ >>= _) = _
    rw [hread]
    exact if_pos hroom
  · -- Neither the empty text nor a wildcard has a hyphen.
    rw [Bool.or_eq_true, List.isEmpty_iff, not_or]
    exact ⟨List.ne_nil_of_mem hmem, fun h => not_mem_of_isWildcard h hmem⟩

/-- A written alternative is read as its comparators. -/
theorem readAlternative_chars (a : WrittenAlternative) :
    readAlternative a.chars = some a.comparators := by
  cases a with
  | any => rfl
  | hyphen low before after high => exact readAlternative_hyphen low before after high
  | bounds first rest room => exact readAlternative_bounds first rest room

/-- An alternative has no bar in it. -/
theorem not_mem_chars (a : WrittenAlternative) : '|' ∉ a.chars := by
  cases a with
  | any => nofun
  | hyphen low before after high =>
    have hlow := low.unmarked.append before.unmarked
    have hhigh := after.unmarked.append high.unmarked
    intro h
    rcases List.mem_append.mp h with h | h
    · exact (hlow '|' h).1 rfl
    · rcases List.mem_append.mp h with h | h
      · exact absurd h (by decide)
      · exact (hhigh '|' h).1 rfl
  | bounds first rest room =>
    intro h
    exact (first.unmarked.append (WrittenBound.unmarked_flatMap_chars rest) '|' h).1 rfl

/-- An alternative has no blanks to trim. -/
theorem isTrimmed (a : WrittenAlternative) : Text.IsTrimmed a.chars := by
  cases a with
  | any => exact Text.isTrimmed_nil
  | hyphen low before after high =>
    have h := low.isTrimmed.append high.isTrimmed low.chars_ne_nil high.chars_ne_nil
      (before.chars ++ ([' ', '-', ' '] ++ after.chars))
    rwa [List.append_assoc, List.append_assoc, ← List.append_assoc] at h
  | bounds first rest room =>
    exact isTrimmed_separated WrittenBound.isTrimmed WrittenBound.chars_ne_nil first rest

/-- An alternative holds of the releases that it admits. -/
theorem allHold_comparators (a : WrittenAlternative) {v : Version} (hv : v.isRelease = true) :
    Comparator.allHold a.comparators v = true ↔ a.Admits v := by
  rw [Comparator.allHold, hv, Bool.true_or, Bool.and_true, List.all_eq_true]
  cases a with
  | any => exact ⟨fun _ => trivial, fun _ => nofun⟩
  | hyphen low before after high =>
    have hlow : (∀ c ∈ Range.comparators .atLeast low.numbers, c.holds v = true) ↔
        From low.numbers v := comparators_hold low.length_numbers nofun hv
    have hhigh : (∀ c ∈ Range.comparators .atMost high.numbers, c.holds v = true) ↔
        Until high.numbers v := comparators_hold high.length_numbers nofun hv
    rw [comparators, List.forall_mem_append, hlow, hhigh]
    rfl
  | bounds first rest room =>
    rw [comparators, List.forall_mem_flatMap]
    exact forall₂_congr fun b _ => b.comparators_hold hv

end WrittenAlternative

/-! ### Ranges -/

/-- A character that is no bar belongs to the first alternative. -/
theorem splitAlternatives_cons {c : Char} (hc : c ≠ '|') {cs part : List Char}
    {parts : List (List Char)} (h : splitAlternatives cs = part :: parts) :
    splitAlternatives (c :: cs) = (c :: part) :: parts := by
  rw [splitAlternatives, h]
  rintro _ rfl
  exact absurd rfl hc

/-- A text without a bar is one alternative. -/
theorem splitAlternatives_of_not_mem {part : List Char} (h : '|' ∉ part) :
    splitAlternatives part = [part] := by
  induction part with
  | nil => rfl
  | cons c part ih =>
    rw [List.mem_cons, not_or] at h
    exact splitAlternatives_cons (Ne.symm h.1) (ih h.2)

/-- Two bars part an alternative from the others. -/
theorem splitAlternatives_append {part : List Char} (h : '|' ∉ part) (cs : List Char) :
    splitAlternatives (part ++ (['|', '|'] ++ cs)) = part :: splitAlternatives cs := by
  induction part with
  | nil => rfl
  | cons c part ih =>
    rw [List.mem_cons, not_or] at h
    exact splitAlternatives_cons (Ne.symm h.1) (ih h.2)

/-- The alternatives are found between the marks. -/
theorem splitAlternatives_intercalate {parts : List (List Char)} (hne : parts ≠ [])
    (h : ∀ part ∈ parts, '|' ∉ part) :
    splitAlternatives (List.intercalate ['|', '|'] parts) = parts := by
  induction parts with
  | nil => exact absurd rfl hne
  | cons part parts ih =>
    obtain ⟨hpart, hparts⟩ := List.forall_mem_cons.mp h
    cases parts with
    | nil => rw [List.intercalate_singleton, splitAlternatives_of_not_mem hpart]
    | cons next parts =>
      rw [List.intercalate_cons_cons, List.append_assoc, splitAlternatives_append hpart,
        ih (List.cons_ne_nil _ _) hparts]

namespace WrittenPart

/-- An alternative with blanks around it has no bar in it. -/
theorem not_mem_chars (p : WrittenPart) : '|' ∉ p.chars := by
  intro h
  rcases List.mem_append.mp h with h | h
  · rcases List.mem_append.mp h with h | h
    · exact (p.before.unmarked '|' h).1 rfl
    · exact p.alternative.not_mem_chars h
  · exact (p.after.unmarked '|' h).1 rfl

/-- An alternative with blanks around it is read as its comparators. -/
theorem readAlternative_trim (p : WrittenPart) :
    readAlternative (trim p.chars) = some p.alternative.comparators := by
  rw [chars, Text.trim_of_blanks p.before.blank p.alternative.isTrimmed p.after.blank]
  exact p.alternative.readAlternative_chars

end WrittenPart

namespace WrittenRange

/-- Written alternatives are read one by one. -/
theorem mapM_readAlternative (parts : List WrittenPart) :
    (parts.map WrittenPart.chars).mapM (fun part => readAlternative (trim part)) =
      some (parts.map (·.alternative.comparators)) := by
  induction parts with
  | nil => rfl
  | cons p parts ih =>
    rw [List.map_cons, List.mapM_cons, p.readAlternative_trim, ih]
    rfl

/-- A written range is parted into its alternatives. -/
theorem splitAlternatives_chars (r : WrittenRange) :
    splitAlternatives r.chars = r.parts.map WrittenPart.chars := by
  refine splitAlternatives_intercalate (List.cons_ne_nil _ _) fun part hpart => ?_
  obtain ⟨p, _, rfl⟩ := List.mem_map.mp hpart
  exact p.not_mem_chars

/-- Every written range is read, and on releases the range holds of exactly those that it
admits. -/
theorem reads_written (r : WrittenRange) :
    ∃ range, Range.parse? (String.ofList r.chars) = some range ∧
      ∀ v, v.isRelease = true → (range.holds v = true ↔ r.Admits v) := by
  refine ⟨⟨String.ofList (trim r.chars), r.parts.map (·.alternative.comparators)⟩, ?_, ?_⟩
  · rw [Range.parse?, Range.read?, String.toList_ofList, r.splitAlternatives_chars,
      mapM_readAlternative]
    rfl
  · intro v hv
    rw [Range.holds, List.any_map, List.any_eq_true]
    exact exists_congr fun p => and_congr_right fun _ => p.alternative.allHold_comparators hv

/-- Two bounds, of which the first has a wildcard and the second a mark, or two versions
around a hyphen. -/
def sample : WrittenRange where
  first :=
    { before := .none
      alternative := .bounds
        { operator := some (.atLeast, .space)
          version := ⟨false, [1, 2], ['x'], by decide, by decide, by decide, by decide, nofun⟩
          numbered := by decide }
        [(⟨.space, by decide⟩,
          { operator := some (.below, .none)
            version := ⟨true, [3], [], by decide, by decide, by decide, by decide, by decide⟩
            numbered := by decide })]
        (by decide)
      after := .space }
  rest :=
    [{ before := .space
       alternative := .hyphen
         ⟨false, [4], [], by decide, by decide, by decide, by decide, nofun⟩ .none .none
         ⟨false, [5], ['*'], by decide, by decide, by decide, by decide, nofun⟩
       after := .none }]

/-- The sample is read, and holds of 2.9.4 and 5.7.0 but not of 3.0.0. -/
theorem reads_sample :
    String.ofList sample.chars = ">= 1.2.x <v3 || 4 - 5.*" ∧
    ∃ range, Range.parse? (String.ofList sample.chars) = some range ∧
      range.holds { major := 2, minor := 9, patch := 4 } = true ∧
      range.holds { major := 5, minor := 7, patch := 0 } = true ∧
      ¬ range.holds { major := 3, minor := 0, patch := 0 } = true := by
  obtain ⟨range, hparse, hholds⟩ := reads_written sample
  refine ⟨by decide, range, hparse, ?_, ?_, ?_⟩
  · exact (hholds { major := 2, minor := 9, patch := 4 } rfl).mpr (by decide)
  · exact (hholds { major := 5, minor := 7, patch := 0 } rfl).mpr (by decide)
  · rw [hholds { major := 3, minor := 0, patch := 0 } rfl]
    decide

end WrittenRange

end Range

end FrameworkUpgrade
