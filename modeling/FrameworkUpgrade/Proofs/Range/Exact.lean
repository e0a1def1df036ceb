import FrameworkUpgrade.Proofs.Range.Query
import FrameworkUpgrade.Proofs.Range.Regular

/-!
# `FrameworkUpgrade.Proofs.Range.Exact`: an exact version is a range as well

A text that asks for an exact version also passes the reader of ranges. The two readers go
different ways: the first takes off the equals sign, the blanks behind it and the `v` at once and
reads a version, the second cuts the text into words, lets the equals sign wait for the next one
and reads a comparator. They meet in the parts of a version, which both read alike
(`readComparator_of_read`).

* `parse?_of_exact`: the range has one comparator, which is exact and names the numbers and the
  pre-release of the version.
* `holds_exact_iff`: so it holds of the version under any build metadata and of nothing else. The
  bar to pre-releases never falls, because a pre-release that is equal is one that is named.
* `exact_agrees`: among the versions with the same build metadata the range and the exact version
  hold of the same ones.
-/

set_option autoImplicit false

namespace FrameworkUpgrade

open Text (trim words cut?)

namespace Range

/-! ### The comparator of a version -/

/-- The comparator that names the numbers and the pre-release of a version. -/
def comparatorOf (relation : Relation) (v : Version) : Comparator :=
  { relation, major := v.major, minor := some v.minor, patch := some v.patch, pre := v.pre }

/-- What is read as a number is read as a component behind a dot. -/
theorem readComponent_of_readNumber {part : Version.Part} {cs rest : List Char} {n : Nat}
    (h : Version.readNumber part cs = .ok (n, rest)) :
    readComponent part ('.' :: cs) = some (.number n, rest) := by
  obtain ⟨hchars, -⟩ := Version.readNumber_eq_ok h
  obtain ⟨c, digits, hdigits⟩ := List.exists_cons_of_ne_nil (Version.numberChars_ne_nil n)
  -- The number begins with a digit, which is not taken for a wildcard.
  have hdigit : c.isDigit = true :=
    Version.isDigit_of_mem_numberChars (hdigits ▸ List.mem_cons_self)
  rw [hdigits, List.cons_append] at hchars
  rw [hchars] at h ⊢
  rw [readComponent, isWildcardChar_of_isDigit hdigit, if_neg Bool.false_ne_true, h]
  rfl

/-- A text that is read as a version is read as the comparator of that version. The build metadata
is read and set aside. -/
theorem readComparator_of_read (relation : Relation) {cs : List Char} {v : Version}
    (h : Version.read cs = .ok v) :
    readComparator (some relation) cs = some (comparatorOf relation v, []) := by
  obtain ⟨cs₁, cs₂, cs₃, cs₄, hmajor, hminor, hpatch, hpre, hbuild⟩ := Version.read_eq_ok h
  rw [readComparator, hmajor]
  show (readComponent .minor ('.' :: cs₁) >>= _) = _
  rw [readComponent_of_readNumber hminor]
  show (readComponent .patch ('.' :: cs₂) >>= _) = _
  rw [readComponent_of_readNumber hpatch]
  -- Three numbers were read, so the suffix is read as well.
  show ((Version.readPart '-' .pre cs₃).toOption >>= _) = _
  rw [hpre]
  show ((Version.readPart '+' .build cs₄).toOption >>= _) = _
  rw [hbuild]
  rfl

/-- A version is read as the one comparator on it. -/
theorem readComparators_of_read (relation : Relation) {cs : List Char} {v : Version}
    (h : Version.read cs = .ok v) :
    readComparators maxComparators (some relation) cs = some [comparatorOf relation v] := by
  rw [maxComparators, readComparators, readComparator_of_read relation h]

/-! ### The words of an exact version -/

/-- A version as a partial version that leaves nothing out, perhaps with a `v` before it. -/
def versionText (marked : Bool) (v : Version) (h : v.Proper) : PartialText where
  marked := marked
  fields := [.number v.major, .number v.minor, .number v.patch]
  pre := v.pre
  build := v.build
  atLeastOne := List.cons_ne_nil _ _
  atMostThree := Nat.le_refl 3
  preProper := h.pre
  buildProper := h.build
  suffixed := .inl rfl

section Exact

variable {v : Version}

/-- A version that is written out has its core and its suffix. -/
theorem body_versionText (marked : Bool) (h : v.Proper) :
    (versionText marked v h).coreChars ++ (versionText marked v h).suffixChars = v.chars := by
  simp [PartialText.coreChars, PartialText.suffixChars, versionText, Field.chars, Version.chars,
    Version.coreChars, List.intercalate_cons_cons]

/-- A version that is written out has its mark, if any, and its characters. -/
theorem chars_versionText (marked : Bool) (h : v.Proper) :
    (versionText marked v h).chars = Query.markedChars marked v := by
  rw [PartialText.chars, body_versionText, Query.markedChars]
  rfl

/-- The first pass finds the three numbers, and leaves the rest for the suffix. -/
theorem readPartial_markedChars (marked : Bool) (h : v.Proper) :
    ∃ p, Partial.read? (Query.markedChars marked v) = some p ∧ p.isAny = false ∧
      p.chars = v.chars := by
  have hbody := body_versionText marked h
  have htake := (versionText marked v h).takeWhile_body
  have hsplit := (versionText marked v h).splitOn_coreChars
  have hdrop : v.chars.dropWhile (! Partial.startsSuffix ·) =
      (versionText marked v h).suffixChars := by
    -- What is taken and what is dropped are the whole text, and what is taken is the body.
    have hwhole := List.takeWhile_append_dropWhile (p := (! Partial.startsSuffix ·))
      (l := v.chars)
    rw [← hbody, htake] at hwhole
    rw [← hbody]
    exact List.append_cancel_left hwhole
  rw [hbody] at htake
  have hnumbers := readNumbers_fields (versionText marked v h).fields
  refine ⟨⟨[v.major, v.minor, v.patch].map Version.numberChars,
    (versionText marked v h).suffixChars⟩, ?_, rfl, ?_⟩
  · rw [Partial.read?, Query.dropMark_markedChars]
    simp only [htake, hdrop, hsplit, hnumbers]
    rfl
  · exact hbody

/-- An exact version as a bound: the equals sign is its operator. -/
def exactText (equals : Option Gap) (marked : Bool) (v : Version) (h : v.Proper) : BoundText where
  operator := equals.map fun gap => (.exact, gap)
  version := versionText marked v h

/-- An exact version that is written out has its equals sign, if any, its mark and its
characters. -/
theorem chars_exactText (equals : Option Gap) (marked : Bool) (h : v.Proper) :
    (exactText equals marked v h).chars = Query.exactChars equals marked v := by
  rw [BoundText.chars, exactText, chars_versionText]
  cases equals with
  | none => rfl
  | some gap => rfl

/-- However an exact version is written, its words are read as one comparator. -/
theorem readWords_exactChars (equals : Option Gap) (marked : Bool) (h : v.IsCanonical) :
    readWords none (words (Query.exactChars equals marked v)) =
      some [comparatorOf .exact v] := by
  have hread : Version.read v.chars = .ok v := by
    have hcanonical := toOption_eq_some.mp h
    rwa [Version.text, String.toList_ofList] at hcanonical
  obtain ⟨p, hpartial, hany, hchars⟩ := readPartial_markedChars marked h.proper
  have hbounds : boundBy (relationOf (exactText equals marked v h.proper).operator) p =
      some [comparatorOf .exact v] := by
    -- Both with an equals sign and without one the relation is equality.
    have hrelation : relationOf (exactText equals marked v h.proper).operator = .exact := by
      cases equals with
      | none => rfl
      | some gap => rfl
    rw [hrelation, boundBy, hany, if_neg Bool.false_ne_true, hchars]
    exact readComparators_of_read .exact hread
  have hwords : words (Query.exactChars equals marked v) =
      (exactText equals marked v h.proper).tokens ++ [] := by
    have hblank : ∀ c ∈ ([] : List Char).head?, Text.isBlank c = true := by
      simp
    have hfound := (exactText equals marked v h.proper).words_chars hblank
    rwa [List.append_nil, chars_exactText] at hfound
  rw [← chars_versionText marked h.proper] at hpartial
  rw [hwords]
  exact readWords_boundTokens (exactText equals marked v h.proper).operator
    (versionText marked v h.proper).head_mem_versionChars
    (versionText marked v h.proper).chars_ne_nil hpartial hbounds []

/-- The text of an exact version is read as one comparator that is exact. -/
theorem readAlternative_exactChars (equals : Option Gap) (marked : Bool) (h : v.IsCanonical) :
    readAlternative (Query.exactChars equals marked v) = some [comparatorOf .exact v] := by
  apply readAlternative_of_words
  · -- The hyphens of a pre-release have no space before them.
    rw [← chars_exactText equals marked h.proper]
    exact Text.cut?_hyphen_eq_none (exactText equals marked v h.proper).tight
  · exact readWords_exactChars equals marked h
  · show 1 ≤ maxComparators
    decide

/-! ### The range of an exact version -/

/-- A text that asks for an exact version is the range of its comparator. -/
theorem parse?_of_exact {s : String} (h : Query.parse? s = some (.exact v)) :
    Range.parse? s = some ⟨String.ofList (trim s.toList), [[comparatorOf .exact v]]⟩ := by
  have hexact : Query.readExact? (trim s.toList) = some v := Query.parse?_eq_some h
  obtain ⟨hcanonical, equals, marked, hchars⟩ :=
    (Query.readExact?_eq_some_iff (Text.isTrimmed_trim s.toList)).mp hexact
  have hbar : '|' ∉ trim s.toList := by
    rw [hchars, ← chars_exactText equals marked hcanonical.proper]
    exact (exactText equals marked v hcanonical.proper).not_mem_chars
  rw [Range.parse?, ← read?_trim, read?_eq, splitAlternatives_of_not_mem hbar, List.map_singleton,
    Text.trim_trim, List.mapM_cons, hchars, readAlternative_exactChars equals marked hcanonical]
  rfl

/-- The comparator of a version holds of that version, under any build metadata. -/
theorem holds_exact_iff (v w : Version) :
    Comparator.allHold [comparatorOf .exact v] w = true ↔ { w with build := v.build } = v := by
  have hexact : (comparatorOf .exact v).holds w = true ↔ { w with build := v.build } = v := by
    show Comparator.isExact (comparatorOf .exact v) w = true ↔ _
    cases v
    simp [Comparator.isExact, comparatorOf, and_assoc]
  -- A pre-release that is equal to that of the version is named by it.
  have hnamed : { w with build := v.build } = v →
      (w.isRelease || (comparatorOf .exact v).namesPreOf w) = true := by
    intro heq
    rw [← heq]
    cases hpre : w.pre with
    | nil => simp [Version.isRelease, hpre]
    | cons i pre => simp [Version.isRelease, Comparator.namesPreOf, comparatorOf, hpre]
  rw [Comparator.allHold, Bool.and_eq_true, List.all_cons, List.all_nil, Bool.and_true,
    List.any_cons, List.any_nil, Bool.or_false, hexact]
  exact and_iff_left_of_imp hnamed

end Exact

end Range

namespace Query

/-- A text that asks for an exact version is a range too, which holds of the version under any
build metadata. Where the build metadata is that of the version, the two hold of the same. -/
theorem exact_agrees {s : String} {v : Version} (h : parse? s = some (.exact v)) :
    ∃ r, Range.parse? s = some r ∧
      (∀ w, r.holds w = true ↔ { w with build := v.build } = v) ∧
      ∀ w, w.build = v.build → ((Query.exact v).holds w = true ↔ r.holds w = true) := by
  have hholds : ∀ w : Version,
      Range.holds ⟨String.ofList (trim s.toList), [[Range.comparatorOf .exact v]]⟩ w = true ↔
        { w with build := v.build } = v := by
    intro w
    rw [Range.holds, List.any_cons, List.any_nil, Bool.or_false]
    exact Range.holds_exact_iff v w
  refine ⟨_, Range.parse?_of_exact h, hholds, ?_⟩
  intro w hbuild
  rw [hholds w, ← hbuild]
  show (v == w) = true ↔ w = v
  rw [beq_iff_eq]
  exact eq_comm

/-- The text has blanks at its ends and behind the equals sign, a `v`, and both parts of a suffix.
The range holds of the candidate under other build metadata as well, and not of its release. -/
theorem exact_agrees_candidate :
    parse? "\n= \tv1.2.3-rc.1+05 " = some (.exact candidate) ∧
    ∃ r, Range.parse? "\n= \tv1.2.3-rc.1+05 " = some r ∧
      r.holds candidate = true ∧ (Query.exact candidate).holds candidate = true ∧
      r.holds { candidate with build := [] } = true ∧
      ¬ r.holds { candidate with pre := [] } = true := by
  have hparse : parse? "\n= \tv1.2.3-rc.1+05 " = some (.exact candidate) := by
    with_unfolding_all rfl
  obtain ⟨r, hrange, hholds, hagree⟩ := exact_agrees hparse
  have hself : r.holds candidate = true := (hholds candidate).mpr rfl
  refine ⟨hparse, r, hrange, hself, (hagree candidate rfl).mpr hself, ?_, ?_⟩
  · exact (hholds _).mpr rfl
  · rw [hholds]
    decide

end Query

end FrameworkUpgrade
