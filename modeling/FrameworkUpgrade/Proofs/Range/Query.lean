import FrameworkUpgrade.Proofs.Range.Acceptance
import FrameworkUpgrade.Range.Query
import Mathlib.Data.Option.Basic

/-!
# `FrameworkUpgrade.Proofs.Range.Query`: a query and its text

A query is read from a text without regard to the blanks around it, and it is shown by a text
of its own: an exact version in its one written form, a dist-tag and a range as they were given,
without those blanks. `parse?_printed` states that the shown text is read as the same query.

For an exact version more may stand in the text than is shown. `parse?_eq_exact_iff` says what:
one equals sign with blanks behind it, and a `v`, each of them or none, and blanks at the ends.
-/

set_option autoImplicit false

namespace FrameworkUpgrade

open Text (isBlank trim IsTrimmed)

/-! ### Blanks around a range -/

namespace Range

/-- Blanks before a text belong to its first alternative. -/
theorem map_trim_blanks_append {before : List Char} (h : ∀ c ∈ before, isBlank c = true)
    (cs : List Char) :
    (splitAlternatives (before ++ cs)).map trim = (splitAlternatives cs).map trim := by
  induction before with
  | nil => rfl
  | cons c before ih =>
    obtain ⟨hc, hbefore⟩ := List.forall_mem_cons.mp h
    obtain ⟨part, parts, hparts⟩ :=
      List.exists_cons_of_ne_nil (splitAlternatives_ne_nil (before ++ cs))
    have hbar : c ≠ '|' := by
      rintro rfl
      exact absurd hc (by decide)
    have hpart : trim ([c] ++ part ++ []) = trim part :=
      Text.trim_append (by simpa using hc) (List.forall_mem_nil _)
    rw [List.append_nil] at hpart
    rw [← ih hbefore, List.cons_append, splitAlternatives_cons hbar hparts, hparts]
    simp only [List.map_cons]
    rw [← hpart]
    rfl

/-- What has no bar and stands behind a text belongs to its last alternative. -/
theorem splitAlternatives_append_of_not_mem {after : List Char} (h : '|' ∉ after)
    (cs : List Char) :
    ∃ front last, splitAlternatives cs = front ++ [last] ∧
      splitAlternatives (cs ++ after) = front ++ [last ++ after] := by
  fun_induction splitAlternatives cs with
  | case1 => exact ⟨[], [], rfl, splitAlternatives_of_not_mem h⟩
  | case2 cs ih =>
    obtain ⟨front, last, hcs, hafter⟩ := ih
    refine ⟨[] :: front, last, ?_, ?_⟩
    · rw [hcs]
      rfl
    · show [] :: splitAlternatives (cs ++ after) = _
      rw [hafter]
      rfl
  | case3 c cs _ hnil ih => exact absurd hnil (splitAlternatives_ne_nil cs)
  | case4 c cs hbars part parts hparts ih =>
    obtain ⟨front, last, hcs, hafter⟩ := ih
    -- No mark begins here: not within the text, and `after` has no bar to make one of.
    have hsplit : ∀ first others, splitAlternatives (cs ++ after) = first :: others →
        splitAlternatives (c :: (cs ++ after)) = (c :: first) :: others := by
      intro first others hfirst
      rw [splitAlternatives, hfirst]
      rintro rest rfl hrest
      cases cs with
      | nil =>
        rw [List.nil_append] at hrest
        exact h (hrest ▸ List.mem_cons_self)
      | cons d cs =>
        obtain ⟨rfl, -⟩ := List.cons.inj hrest
        exact hbars cs rfl rfl
    rw [hparts] at hcs
    cases front with
    | nil =>
      obtain ⟨rfl, rfl⟩ := List.cons.inj hcs
      exact ⟨[], c :: part, rfl, hsplit _ _ hafter⟩
    | cons first front =>
      obtain ⟨rfl, rfl⟩ := List.cons.inj hcs
      exact ⟨(c :: part) :: front, last, rfl, hsplit _ _ hafter⟩

/-- Blanks around a text make no difference to its alternatives. -/
theorem map_trim_splitAlternatives_trim (cs : List Char) :
    (splitAlternatives (trim cs)).map trim = (splitAlternatives cs).map trim := by
  obtain ⟨before, after, hcs, hbefore, hafter⟩ := Text.exists_trim cs
  have hbar : '|' ∉ after := fun hmem => absurd (hafter '|' hmem) (by decide)
  obtain ⟨front, last, hfront, hlast⟩ := splitAlternatives_append_of_not_mem hbar (trim cs)
  have htrim : trim ([] ++ last ++ after) = trim last :=
    Text.trim_append (List.forall_mem_nil _) hafter
  rw [List.nil_append] at htrim
  conv_rhs => rw [hcs, List.append_assoc, map_trim_blanks_append hbefore, hlast]
  simp only [hfront, List.map_append, List.map_cons, List.map_nil, htrim]

/-- A range is read by its alternatives, each of them trimmed. -/
theorem read?_eq (cs : List Char) :
    read? cs = (((splitAlternatives cs).map trim).mapM readAlternative).map
      fun alternatives => ⟨String.ofList (trim cs), alternatives⟩ := by
  rw [read?, List.mapM_map]
  exact bind_pure_comp _ _

/-- A range is read without regard to the blanks around its text. -/
theorem read?_trim (cs : List Char) : read? (trim cs) = read? cs := by
  rw [read?_eq, read?_eq, map_trim_splitAlternatives_trim, Text.trim_trim]

/-- A range is shown by the text that it was read from, without the blanks around it. -/
theorem text_of_read? {cs : List Char} {r : Range} (h : read? cs = some r) :
    r.text = String.ofList (trim cs) := by
  rw [read?_eq] at h
  obtain ⟨alternatives, -, rfl⟩ := Option.map_eq_some_iff.mp h
  rfl

end Range

namespace Query

open Range (Gap dropMark)

/-! ### Exact versions as they are written -/

/-- An equals sign and the blanks behind it, if there is one. -/
def equalsChars (equals : Option Gap) : List Char :=
  equals.elim [] fun gap => '=' :: gap.chars

/-- A version, perhaps with a `v` before it. -/
def markedChars (marked : Bool) (v : Version) : List Char :=
  (if marked then ['v'] else []) ++ v.chars

/-- An exact version as it may be written. -/
def exactChars (equals : Option Gap) (marked : Bool) (v : Version) : List Char :=
  equalsChars equals ++ markedChars marked v

/-- A text that does not start with an equals sign has none to drop. -/
theorem dropEquals_of_head {cs : List Char} (h : ∀ c ∈ cs.head?, c ≠ '=') :
    dropEquals cs = cs := by
  rw [dropEquals]
  rintro rest rfl
  exact h '=' rfl rfl

/-- A text that does not start with the mark of a version has none to drop. -/
theorem dropMark_of_head {cs : List Char} (h : ∀ c ∈ cs.head?, c ≠ 'v') : dropMark cs = cs := by
  rw [dropMark]
  rintro c rest rfl
  exact h 'v' rfl rfl

/-- What the equals sign of a text and trimming take away is the sign with the blanks behind it,
when no blank ends the text. -/
theorem exists_equals {cs : List Char} (hcs : IsTrimmed cs) :
    ∃ equals, cs = equalsChars equals ++ trim (dropEquals cs) := by
  by_cases hequals : ∃ rest, cs = '=' :: rest
  · obtain ⟨rest, rfl⟩ := hequals
    obtain ⟨before, after, hrest, hbefore, hafter⟩ := Text.exists_trim rest
    have hnone : after = [] := by
      cases hlast : after.getLast? with
      | none => exact List.getLast?_eq_none_iff.mp hlast
      | some c =>
        have hblank := hcs.last c (by rw [hrest]; simp [List.getLast?_cons, hlast])
        rw [hafter c (List.mem_of_getLast? hlast)] at hblank
        cases hblank
    rw [hnone, List.append_nil] at hrest
    exact ⟨some ⟨before, hbefore⟩, congrArg ('=' :: ·) hrest⟩
  · have hkept : dropEquals cs = cs := by
      rw [dropEquals]
      exact fun rest hrest => hequals ⟨rest, hrest⟩
    rw [hkept, hcs.trim_eq]
    exact ⟨none, rfl⟩

/-- An equals sign is dropped with the blanks behind it. -/
theorem trim_dropEquals {cs : List Char} (hcs : IsTrimmed cs) (hhead : ∀ c ∈ cs.head?, c ≠ '=')
    (equals : Option Gap) : trim (dropEquals (equalsChars equals ++ cs)) = cs := by
  cases equals with
  | none =>
    show trim (dropEquals cs) = cs
    rw [dropEquals_of_head hhead, hcs.trim_eq]
  | some gap =>
    show trim (gap.chars ++ cs) = cs
    have htrim := Text.trim_of_blanks gap.blank hcs Gap.none.blank
    rwa [show Gap.none.chars = [] from rfl, List.append_nil] at htrim

/-- A text has the mark of a version or has it not, and the rest is what is read. -/
theorem exists_dropMark (cs : List Char) :
    ∃ marked : Bool, cs = (if marked then ['v'] else []) ++ dropMark cs := by
  unfold dropMark
  split
  · split
    · exact ⟨true, rfl⟩
    · exact ⟨false, rfl⟩
  · exact ⟨false, rfl⟩

/-- The `v` before a version is dropped and nothing else. -/
theorem dropMark_markedChars (marked : Bool) (v : Version) :
    dropMark (markedChars marked v) = v.chars := by
  obtain ⟨c, cs, hchars, hdigit⟩ := v.exists_chars_eq_cons
  rw [markedChars, hchars]
  cases marked with
  | true => exact if_pos hdigit
  | false =>
    refine dropMark_of_head ?_
    rintro _ ⟨⟩ rfl
    exact absurd hdigit (by decide)

/-- A version begins with a digit, or with the `v` before it. -/
theorem head_markedChars (marked : Bool) (v : Version) :
    ∀ c ∈ (markedChars marked v).head?, c = 'v' ∨ c.isDigit = true := by
  obtain ⟨d, cs, hchars, hdigit⟩ := v.exists_chars_eq_cons
  rw [markedChars, hchars]
  cases marked with
  | true =>
    rintro c ⟨⟩
    exact .inl rfl
  | false =>
    rintro c ⟨⟩
    exact .inr hdigit

/-- The text of a version is not empty. -/
theorem markedChars_ne_nil (marked : Bool) (v : Version) : markedChars marked v ≠ [] := by
  obtain ⟨c, cs, hchars, -⟩ := v.exists_chars_eq_cons
  rw [markedChars, hchars]
  exact List.append_ne_nil_of_right_ne_nil _ (List.cons_ne_nil c cs)

section Canonical

variable {v : Version} (h : v.IsCanonical)
include h

/-- The text of a version has no blanks to trim. -/
theorem isTrimmed_markedChars (marked : Bool) : IsTrimmed (markedChars marked v) := by
  refine Text.isTrimmed_of_forall (List.forall_mem_append.mpr ⟨?_, fun c hc => ?_⟩)
  · cases marked with
    | true => exact List.forall_mem_singleton.mpr (by decide)
    | false => nofun
  · have hchar := h.proper.isVersionChar_of_mem hc
    exact (Range.isTextChar_plain (by simp [Range.isTextChar, hchar])).1

/-- The text of an exact version has no blanks to trim, as those behind the equals sign are
inside. -/
theorem isTrimmed_exactChars (equals : Option Gap) (marked : Bool) :
    IsTrimmed (exactChars equals marked v) := by
  have hmarked := isTrimmed_markedChars h marked
  cases equals with
  | none => exact hmarked
  | some gap =>
    have hequals : IsTrimmed ['='] :=
      Text.isTrimmed_of_forall (List.forall_mem_singleton.mpr (by decide))
    exact hequals.append hmarked (List.cons_ne_nil _ _) (markedChars_ne_nil marked v) gap.chars

/-- The text of an exact version is read as the version. -/
theorem readExact?_exactChars (equals : Option Gap) (marked : Bool) :
    readExact? (exactChars equals marked v) = some v := by
  have hhead : ∀ c ∈ (markedChars marked v).head?, c ≠ '=' := by
    rintro c hc rfl
    rcases head_markedChars marked v '=' hc with heq | hdigit
    · exact absurd heq (by decide)
    · exact absurd hdigit (by decide)
  rw [readExact?, exactChars, trim_dropEquals (isTrimmed_markedChars h marked) hhead,
    dropMark_markedChars]
  rwa [Version.IsCanonical, Version.text, String.toList_ofList] at h

end Canonical

/-- A text without blanks at its ends asks for an exact version when it is written so. -/
theorem readExact?_eq_some_iff {cs : List Char} (hcs : IsTrimmed cs) {v : Version} :
    readExact? cs = some v ↔
      v.IsCanonical ∧ ∃ equals marked, cs = exactChars equals marked v := by
  constructor
  · intro h
    obtain ⟨hchars, -⟩ := Version.chars_of_read (toOption_eq_some.mp h)
    obtain ⟨equals, hequals⟩ := exists_equals hcs
    obtain ⟨marked, hmarked⟩ := exists_dropMark (trim (dropEquals cs))
    rw [← hchars] at hmarked
    exact ⟨Version.isCanonical_of_read? h, equals, marked, by rw [hequals, hmarked]; rfl⟩
  · rintro ⟨hcanonical, equals, marked, rfl⟩
    exact readExact?_exactChars hcanonical equals marked

/-! ### Queries -/

/-- What a text is that is a query, by the query. -/
theorem parse?_eq_some {s : String} {q : Query} (h : parse? s = some q) :
    match q with
    | .exact v => readExact? (trim s.toList) = some v
    | .tag name => isTag (trim s.toList) = true ∧ name = String.ofList (trim s.toList)
    | .range r => Range.read? (trim s.toList) = some r := by
  unfold parse? readTrimmed? at h
  split at h
  · rename_i hexact
    cases h
    exact hexact
  · split at h
    · rename_i htag
      cases h
      exact ⟨htag, rfl⟩
    · obtain ⟨r, hrange, rfl⟩ := Option.map_eq_some_iff.mp h
      exact hrange

/-- The version that a text asks for is in the form in which it is written. -/
theorem isCanonical_of_exact {s : String} {v : Version} (h : parse? s = some (.exact v)) :
    v.IsCanonical :=
  Version.isCanonical_of_read? (parse?_eq_some h)

/-- A text that is a range as a query is that range. -/
theorem parse?_of_range {s : String} {r : Range} (h : parse? s = some (.range r)) :
    Range.parse? s = some r := by
  rw [Range.parse?, ← Range.read?_trim]
  exact parse?_eq_some h

/-- A text asks for an exact version when it is that version, perhaps with an equals sign and a
`v` before it, and with blanks at its ends and behind the equals sign. -/
theorem parse?_eq_exact_iff {s : String} {v : Version} :
    parse? s = some (.exact v) ↔ v.IsCanonical ∧ ∃ (before after : Gap) (equals : Option Gap)
      (marked : Bool), s.toList = before.chars ++ exactChars equals marked v ++ after.chars := by
  constructor
  · intro h
    obtain ⟨hcanonical, equals, marked, htrim⟩ :=
      (readExact?_eq_some_iff (Text.isTrimmed_trim s.toList)).mp (parse?_eq_some h)
    obtain ⟨before, after, hs, hbefore, hafter⟩ := Text.exists_trim s.toList
    rw [htrim] at hs
    exact ⟨hcanonical, ⟨before, hbefore⟩, ⟨after, hafter⟩, equals, marked, hs⟩
  · rintro ⟨hcanonical, before, after, equals, marked, hs⟩
    have htrimmed := isTrimmed_exactChars hcanonical equals marked
    rw [parse?, hs, Text.trim_of_blanks before.blank htrimmed after.blank, readTrimmed?,
      (readExact?_eq_some_iff htrimmed).mpr ⟨hcanonical, equals, marked, rfl⟩]

/-- A text is read without regard to the blanks around it. -/
theorem parse?_trim (s : String) : parse? (String.ofList (trim s.toList)) = parse? s := by
  rw [parse?, parse?, String.toList_ofList, Text.trim_trim]

/-- The text that a query is shown by is read as that query. -/
theorem parse?_text {s : String} {q : Query} (h : parse? s = some q) : parse? q.text = some q := by
  cases q with
  | exact v =>
    refine parse?_eq_exact_iff.mpr ⟨isCanonical_of_exact h, .none, .none, none, false, ?_⟩
    simp [text, Version.text, exactChars, equalsChars, markedChars, Gap.none]
  | tag name =>
    obtain ⟨-, rfl⟩ := parse?_eq_some h
    exact (parse?_trim s).trans h
  | range r =>
    have htext := Range.text_of_read? (parse?_of_range h)
    rw [text, htext]
    exact (parse?_trim s).trans h

/-- What a query is shown by is read as that query. For an exact version this holds however it
was written: with or without an equals sign, a `v`, and blanks. -/
theorem parse?_printed :
    (∀ s q, parse? s = some q → parse? q.text = some q) ∧
    ∀ s v, parse? s = some (.exact v) ↔ v.IsCanonical ∧
      ∃ (before after : Gap) (equals : Option Gap) (marked : Bool),
        s.toList = before.chars ++ exactChars equals marked v ++ after.chars :=
  ⟨fun _ _ => parse?_text, fun _ _ => parse?_eq_exact_iff⟩

/-- A version with identifiers in both of its parts. -/
def candidate : Version :=
  { major := 1, minor := 2, patch := 3, pre := ["rc".toList, "1".toList], build := ["05".toList] }

/-- The range of `^1.2 || x`. -/
def caretOrAny : Range :=
  ⟨"^1.2 || x", [[⟨.caret, 1, some 2, none, []⟩], []]⟩

/-- An exact version with everything that may stand before it, and a range with blanks around. -/
theorem parse?_printed_candidate :
    parse? " = v1.2.3-rc.1+05\n" = some (.exact candidate) ∧
    parse? "1.2.3-rc.1+05" = some (.exact candidate) ∧
    parse? "\t^1.2 || x " = some (.range caretOrAny) ∧
    parse? "^1.2 || x" = some (.range caretOrAny) := by
  have hcanonical : candidate.IsCanonical := by with_unfolding_all rfl
  have hexact : parse? " = v1.2.3-rc.1+05\n" = some (.exact candidate) := by
    refine (parse?_printed.2 _ _).mpr ⟨hcanonical, .space, ⟨['\n'], ?_⟩, some .space, true, ?_⟩
    · exact List.all_eq_true.mp (by decide)
    · decide
  have hrange : parse? "\t^1.2 || x " = some (.range caretOrAny) := by with_unfolding_all rfl
  have htext : (Query.exact candidate).text = "1.2.3-rc.1+05" := by decide
  exact ⟨hexact, htext ▸ parse?_printed.1 _ _ hexact, hrange, parse?_printed.1 _ _ hrange⟩

end Query

end FrameworkUpgrade
