import FrameworkUpgrade.Codemod.Listing
import FrameworkUpgrade.Proofs.Range.Query

/-!
# `FrameworkUpgrade.Proofs.Codemod.Bound`: a bound of a listing is an exact version

A version is given in two places: as a bound of a listing (`readBound`), and as the revision of an
upgrade, where it is a query. The two readers are written apart. Both set blanks at the ends aside,
but a bound loses any `v` at its front and a query only one before a digit, and a query may have an
equals sign as well.

What is left has to be the written form of a version, and that begins with a digit. So it makes no
difference when the `v` is dropped, and the texts of a bound can be told: a version with or without
a `v` (`readBound_eq_ok_iff_written`). `readBound_eq_ok_iff` compares them with the texts of a
query. The equals sign is all that the two readers disagree on.
-/

set_option autoImplicit false

namespace FrameworkUpgrade.Catalog

open Query (exactChars equalsChars markedChars)
open Text (trim)

/-- A text that does not start with the letter has none to lose. -/
theorem dropLetter_of_head {cs : List Char} (h : ∀ c ∈ cs.head?, c ≠ 'v') : dropLetter cs = cs := by
  rw [dropLetter]
  rintro rest rfl
  exact h 'v' rfl rfl

/-- What is dropped from a bound is one `v`, or nothing. -/
theorem exists_dropLetter (cs : List Char) :
    ∃ marked : Bool, cs = (if marked then ['v'] else []) ++ dropLetter cs := by
  unfold dropLetter
  split
  · exact ⟨true, rfl⟩
  · exact ⟨false, rfl⟩

/-- The `v` before a version is dropped and nothing else. -/
theorem dropLetter_markedChars (marked : Bool) (v : Version) :
    dropLetter (markedChars marked v) = v.chars := by
  cases marked with
  | true => rfl
  | false =>
    show dropLetter v.chars = v.chars
    obtain ⟨d, cs, hchars, hdigit⟩ := v.exists_chars_eq_cons
    refine dropLetter_of_head fun c hc => ?_
    rw [hchars] at hc
    obtain rfl : d = c := Option.some.inj hc
    rintro rfl
    exact absurd hdigit (by decide)

/-- The texts of a bound, without the blanks at their ends. -/
theorem readBound_eq_ok_iff_written {raw : String} {v : Version} :
    readBound raw = .ok v ↔
      v.IsCanonical ∧ ∃ marked, trim raw.toList = markedChars marked v := by
  have hread : readBound raw = .ok v ↔ Version.read (dropLetter (trim raw.toList)) = .ok v := by
    unfold readBound
    split
    · rename_i w hw
      rw [hw, Except.ok.injEq, Except.ok.injEq]
    · rename_i cause hcause
      simp [hcause]
  rw [hread]
  constructor
  -- The canonical version has one text, so what is left behind the letter is that text.
  · intro h
    obtain ⟨hchars, -⟩ := Version.chars_of_read h
    obtain ⟨marked, hmarked⟩ := exists_dropLetter (trim raw.toList)
    rw [← hchars] at hmarked
    exact ⟨Version.isCanonical_of_read? (toOption_eq_some.mpr h), marked, hmarked⟩
  · rintro ⟨hcanonical, marked, hmarked⟩
    rw [hmarked, dropLetter_markedChars]
    rw [Version.IsCanonical, Version.text, String.toList_ofList] at hcanonical
    exact toOption_eq_some.mp hcanonical

/-- The texts of a query for an exact version, without the blanks at their ends. -/
theorem parse?_eq_exact_iff_written {raw : String} {v : Version} :
    Query.parse? raw = some (.exact v) ↔
      v.IsCanonical ∧ ∃ equals marked, trim raw.toList = exactChars equals marked v := by
  rw [← Query.readExact?_eq_some_iff (Text.isTrimmed_trim raw.toList)]
  constructor
  · exact Query.parse?_eq_some
  · intro h
    rw [Query.parse?, Query.readTrimmed?, h]

/-- A text is a bound when it is a query for an exact version and does not begin with an equals
sign. The two are then the same version. -/
theorem readBound_eq_ok_iff (raw : String) (v : Version) :
    readBound raw = .ok v ↔
      Query.parse? raw = some (.exact v) ∧ (trim raw.toList).head? ≠ some '=' := by
  rw [readBound_eq_ok_iff_written, parse?_eq_exact_iff_written]
  constructor
  · rintro ⟨hcanonical, marked, hmarked⟩
    refine ⟨⟨hcanonical, none, marked, hmarked⟩, fun hequals => ?_⟩
    -- Neither a `v` nor the digit behind it is an equals sign.
    rw [hmarked] at hequals
    rcases Query.head_markedChars marked v '=' hequals with hletter | hdigit
    · exact absurd hletter (by decide)
    · exact absurd hdigit (by decide)
  · rintro ⟨⟨hcanonical, equals, marked, hexact⟩, hequals⟩
    cases equals with
    | none => exact ⟨hcanonical, marked, hexact⟩
    | some gap =>
      rw [hexact] at hequals
      exact absurd rfl hequals

/-- The equals sign makes a query of the text, and no bound. -/
example : Query.parse? "= v1.2.3" = some (.exact { major := 1, minor := 2, patch := 3 }) ∧
    readBound "= v1.2.3" =
      .error (.revision "= v1.2.3" (.notAVersion (.unexpected '=' .major))) := by
  constructor
  · decide
  · rfl

end FrameworkUpgrade.Catalog
