import FrameworkUpgrade.Proofs.Range.Language
import Mathlib.Data.Option.Basic

/-!
# `FrameworkUpgrade.Proofs.Range.Acceptance`: what the reader takes is of the language

A range is read in two passes. The first finds the components of a partial version, the second
reads its numbers and its suffix as comparators. The lemmas follow the reader from the inside to
the outside, and each says that a text which was taken, and is regular, is that of a tree with
the comparators that were read.
-/

set_option autoImplicit false

namespace FrameworkUpgrade

namespace Range

open Text (isBlank trim words cut?)

/-! ### Components -/

/-- A wildcard is one of three characters, alone. -/
theorem isWildcard_eq_true {cs : List Char} (h : isWildcard cs = true) :
    ∃ c, cs = [c] ∧ isWildcardChar c = true := by
  unfold isWildcard at h
  split at h
  · exact ⟨_, rfl, h⟩
  · cases h

/-- A numeral is the text of a number. -/
theorem isNumeral_eq_true {cs : List Char} (h : isNumeral cs = true) :
    ∃ n, cs = Version.numberChars n := by
  unfold isNumeral at h
  split at h
  · cases h
  · cases h
  · rename_i hnil hzero
    refine ⟨Nat.ofDigitChars 10 cs 0, Eq.symm ?_⟩
    exact Version.numberChars_ofDigitChars (List.all_eq_true.mp h) hnil hzero

/-- A checked field is the text of one. -/
theorem isField_eq_true {cs : List Char} (h : isField cs = true) : ∃ f : Field, f.chars = cs := by
  rcases Bool.or_eq_true_iff.mp h with hwild | hnumeral
  · obtain ⟨c, rfl, hc⟩ := isWildcard_eq_true hwild
    exact ⟨.wildcard c hc, rfl⟩
  · obtain ⟨n, rfl⟩ := isNumeral_eq_true hnumeral
    exact ⟨.number n, rfl⟩

/-- Parts that are fields one by one are the texts of a list of fields. -/
theorem exists_fields {parts : List (List Char)} (h : parts.all isField = true) :
    ∃ fields : List Field, fields.map Field.chars = parts := by
  induction parts with
  | nil => exact ⟨[], rfl⟩
  | cons part parts ih =>
    rw [List.all_cons, Bool.and_eq_true_iff] at h
    obtain ⟨f, rfl⟩ := isField_eq_true h.1
    obtain ⟨fields, rfl⟩ := ih h.2
    exact ⟨f :: fields, rfl⟩

/-- Of the components of a tree the first pass takes the numbers before the first wildcard. -/
theorem readNumbers_fields (fields : List Field) :
    Partial.readNumbers (fields.map Field.chars) =
      some ((Field.leading fields).map Version.numberChars) := by
  induction fields with
  | nil => rfl
  | cons f fields ih =>
    cases f with
    | wildcard c wild =>
      have hc : isWildcard [c] = true := wild
      rw [List.map_cons, Field.chars, Partial.readNumbers, if_pos hc]
      rfl
    | number n =>
      have hdigits : (Version.numberChars n).all Char.isDigit = true :=
        List.all_eq_true.mpr fun c hc => Version.isDigit_of_mem_numberChars hc
      rw [List.map_cons, Field.chars, Partial.readNumbers, Written.isWildcard_numberChars, hdigits,
        ih]
      simp [Version.numberChars_ne_nil, Field.leading]

/-- Without a wildcard the first pass takes every component. -/
theorem readNumbers_of_all {parts numbers : List (List Char)}
    (h : Partial.readNumbers parts = some numbers)
    (hplain : parts.all (! isWildcard ·) = true) : numbers = parts := by
  induction parts generalizing numbers with
  | nil =>
    cases h
    rfl
  | cons part parts ih =>
    rw [List.all_cons, Bool.and_eq_true_iff, Bool.not_eq_true'] at hplain
    rw [Partial.readNumbers, hplain.1, if_neg Bool.false_ne_true] at h
    split at h
    · obtain ⟨others, hothers, rfl⟩ := Option.map_eq_some_iff.mp h
      rw [ih hothers hplain.2]
    · cases h

/-! ### Comparators -/

/-- Components with a dot before each. -/
def dotted (fields : List Field) : List Char :=
  fields.flatMap fun f => '.' :: f.chars

/-- A component that was read stands for a field, or for none. -/
inductive Component.Stands : Component → List Field → Prop where
  | absent : Stands .absent []
  | wildcard (c : Char) (wild : isWildcardChar c = true) : Stands .wildcard [.wildcard c wild]
  | number (n : Nat) : Stands (.number n) [.number n]

/-- A component that is read stands for what the text loses: a dot and a field, or nothing. -/
theorem readComponent_eq_some {part : Version.Part} {cs rest : List Char} {c : Component}
    (h : readComponent part cs = some (c, rest)) :
    ∃ fields, c.Stands fields ∧ cs = dotted fields ++ rest := by
  unfold readComponent at h
  split at h
  · rename_i w tail
    split at h
    · rename_i hwild
      cases h
      exact ⟨_, .wildcard w hwild, rfl⟩
    · obtain ⟨⟨n, tail'⟩, hread, heq⟩ := Option.map_eq_some_iff.mp h
      cases heq
      obtain ⟨hchars, _⟩ := Version.readNumber_eq_ok (toOption_eq_some.mp hread)
      refine ⟨_, .number n, ?_⟩
      rw [hchars]
      simp [dotted, Field.chars]
  · cases h
  · cases h
    exact ⟨_, .absent, rfl⟩

/-- Where no component was read before, none is read behind. -/
theorem readComponent_of_absent {part : Version.Part} {cs rest : List Char}
    (h : readComponent part cs = some (.absent, rest)) (part' : Version.Part) :
    readComponent part' rest = some (.absent, rest) := by
  unfold readComponent at h
  split at h
  · split at h
    · cases h
    · obtain ⟨⟨n, tail'⟩, _, heq⟩ := Option.map_eq_some_iff.mp h
      cases heq
  · cases h
  · rename_i hdot hend
    cases h
    unfold readComponent
    split
    · exact absurd rfl (hdot _ _)
    · exact absurd rfl hend
    · rfl

/-- What is dropped before a text is spaces and nothing else. -/
theorem exists_dropSpaces (cs : List Char) :
    ∃ spaces, cs = spaces ++ dropSpaces cs ∧ ∀ c ∈ spaces, c = ' ' := by
  refine ⟨cs.takeWhile (· == ' '), List.takeWhile_append_dropWhile.symm, fun c hc => ?_⟩
  simpa using List.mem_takeWhile_imp hc

/-- The text of several fields is the first one and each of the others behind a dot. -/
theorem coreChars_cons (f : Field) (fields : List Field) :
    List.intercalate ['.'] ((f :: fields).map Field.chars) = f.chars ++ dotted fields := by
  rw [List.map_cons, Text.intercalate_cons, List.flatMap_map]
  rfl

/-- A partial version without a third number is read without a suffix. -/
theorem exists_partialText_of_short (relation : Relation) (major : Nat) {minor : Component}
    {minors patches : List Field} (hminors : minor.Stands minors)
    (hleading : Field.leading patches = []) (hlength : patches.length ≤ 1) (cs : List Char) :
    ∃ (p : PartialText) (spaces : List Char), p.marked = false ∧
      Version.numberChars major ++ (dotted minors ++ (dotted patches ++ cs)) =
        p.chars ++ (spaces ++ dropSpaces cs) ∧ (∀ d ∈ spaces, d = ' ') ∧
      p.comparators relation = [{ relation, major, minor := minor.number? }] := by
  obtain ⟨spaces, hspaces, hblank⟩ := exists_dropSpaces cs
  have hminor : minors.length ≤ 1 := by
    cases hminors with
    | absent => exact Nat.zero_le 1
    | wildcard => exact Nat.le_refl 1
    | number => exact Nat.le_refl 1
  have hfields : (Field.number major :: (minors ++ patches)).length ≤ 3 := by
    rw [List.length_cons, List.length_append]
    omega
  -- The text is put together without a mark, a prerelease or a build.
  refine ⟨⟨false, .number major :: (minors ++ patches), [], [], nofun, hfields, nofun, nofun,
    .inr ⟨rfl, rfl⟩⟩, spaces, rfl, ?_, hblank, ?_⟩
  · rw [← hspaces, PartialText.chars, PartialText.coreChars, PartialText.suffixChars,
      coreChars_cons]
    simp [dotted, Field.chars, Version.partChars]
  · cases hminors with
    | absent => simp [PartialText.comparators, Field.leading, hleading, comparator,
        Component.number?]
    | wildcard => rfl
    | number n => simp [PartialText.comparators, Field.leading, hleading, comparator,
        Component.number?]

/-- What the second pass takes for a comparator is a partial version and spaces behind it. -/
theorem readComparator_eq_some {relation : Relation} {cs rest : List Char} {c : Comparator}
    (h : readComparator (some relation) cs = some (c, rest)) :
    ∃ (p : PartialText) (spaces : List Char), p.marked = false ∧
      cs = p.chars ++ (spaces ++ rest) ∧ (∀ d ∈ spaces, d = ' ') ∧
      p.comparators relation = [c] := by
  unfold readComparator at h
  obtain ⟨⟨major, cs₁⟩, hmajor, h₁⟩ := Option.bind_eq_some_iff.mp h
  obtain ⟨⟨minor, cs₂⟩, hminor, h₂⟩ := Option.bind_eq_some_iff.mp h₁
  obtain ⟨⟨patch, cs₃⟩, hpatch, h₃⟩ := Option.bind_eq_some_iff.mp h₂
  clear h h₁ h₂
  obtain ⟨rfl, _⟩ := Version.readNumber_eq_ok (toOption_eq_some.mp hmajor)
  -- A patch does not stand without a minor number.
  have hbehind : minor = .absent → patch = .absent := by
    rintro rfl
    rw [readComponent_of_absent hminor .patch] at hpatch
    cases hpatch
    rfl
  obtain ⟨minors, hminors, rfl⟩ := readComponent_eq_some hminor
  obtain ⟨patches, hpatches, rfl⟩ := readComponent_eq_some hpatch
  cases hpatches with
  | number n =>
    cases hminors with
    | absent => exact absurd (hbehind rfl) nofun
    | wildcard => cases h₃
    | number m =>
      -- Three numbers, so the suffix is read as well.
      obtain ⟨⟨pre, cs₄⟩, hpre, h₄⟩ := Option.bind_eq_some_iff.mp h₃
      obtain ⟨⟨build, cs₅⟩, hbuild, h₅⟩ := Option.bind_eq_some_iff.mp h₄
      cases h₅
      obtain ⟨rfl, hpreIds⟩ := Version.readPart_eq_ok (toOption_eq_some.mp hpre)
      obtain ⟨rfl, hbuildIds⟩ := Version.readPart_eq_ok (toOption_eq_some.mp hbuild)
      obtain ⟨spaces, hspaces, hblank⟩ := exists_dropSpaces cs₅
      refine ⟨⟨false, [.number major, .number m, .number n], pre, build, nofun, Nat.le_refl 3,
        hpreIds, hbuildIds, .inl rfl⟩, spaces, rfl, ?_, hblank, rfl⟩
      rw [← hspaces, PartialText.chars, PartialText.coreChars, PartialText.suffixChars,
        coreChars_cons]
      simp [dotted, Field.chars]
  | absent =>
    have hshort : some ({ relation, major, minor := minor.number? }, dropSpaces cs₃) =
        some (c, rest) := by cases minor <;> exact h₃
    cases hshort
    refine exists_partialText_of_short relation major hminors ?_ ?_ cs₃
    · rfl
    · exact Nat.zero_le 1
  | wildcard w wild =>
    have hshort : some ({ relation, major, minor := minor.number? }, dropSpaces cs₃) =
        some (c, rest) := by cases minor <;> exact h₃
    cases hshort
    refine exists_partialText_of_short relation major hminors ?_ ?_ cs₃
    · rfl
    · exact Nat.le_refl 1

/-- Without a comma there is one comparator, which takes the whole text but for the spaces at its
end. -/
theorem readComparators_eq_some {room : Nat} {relation : Relation} {cs : List Char}
    {bounds : List Comparator} (h : readComparators room (some relation) cs = some bounds)
    (hcomma : ',' ∉ cs) (hend : ∀ c ∈ cs.getLast?, isBlank c = false) :
    ∃ p : PartialText, p.marked = false ∧ p.chars = cs ∧ p.comparators relation = bounds := by
  cases room with
  | zero => cases h
  | succ room =>
    rw [readComparators] at h
    split at h
    · cases h
    · rename_i c hread
      cases h
      obtain ⟨p, spaces, hmarked, rfl, hspaces, hbounds⟩ := readComparator_eq_some hread
      -- The text does not end in a blank, so there are no spaces.
      have hnone : spaces = [] := by
        cases hlast : spaces.getLast? with
        | none => exact List.getLast?_eq_none_iff.mp hlast
        | some d =>
          have hd : d = ' ' := hspaces d (List.mem_of_getLast? hlast)
          have hblank := hend d (by simp [hlast])
          rw [hd] at hblank
          exact absurd hblank (by decide)
      exact ⟨p, hmarked, by rw [hnone, List.append_nil, List.append_nil], hbounds⟩
    · rename_i c rest hread
      obtain ⟨p, spaces, _, rfl, _, _⟩ := readComparator_eq_some hread
      exact absurd (by simp) hcomma
    · cases h

/-! ### Partial versions -/

/-- What the first pass has found. -/
theorem Partial.read?_eq_some {cs : List Char} {p : Partial} (h : Partial.read? cs = some p) :
    readNumbers (((dropMark cs).takeWhile (! startsSuffix ·)).splitOn '.') = some p.numbers ∧
      (dropMark cs).dropWhile (! startsSuffix ·) = p.suffix ∧
      (3 ≤ p.numbers.length ∨ p.suffix = []) := by
  obtain ⟨numbers, hnumbers, h⟩ := Option.bind_eq_some_iff.mp h
  split at h
  · cases h
  · rename_i hshort
    cases h
    refine ⟨hnumbers, rfl, ?_⟩
    rw [Bool.and_eq_true_iff, decide_eq_true_eq, Bool.not_eq_true', not_and] at hshort
    by_cases hlength : numbers.length < 3
    · have hsuffix := hshort hlength
      rw [Bool.not_eq_false, List.isEmpty_iff] at hsuffix
      exact .inr hsuffix
    · exact .inl (Nat.not_lt.mp hlength)

/-- No component begins with a `v`. -/
theorem readNumbers_mark (cs : List Char) :
    Partial.readNumbers (('v' :: cs).splitOn '.') = none := by
  obtain ⟨part, parts, hsplit⟩ := List.exists_cons_of_ne_nil (List.splitOn_ne_nil '.' cs)
  have hparts : ('v' :: cs).splitOn '.' = ('v' :: part) :: parts := by
    rw [List.splitOn_eq_splitOnP] at hsplit ⊢
    rw [List.splitOnP_cons_eq_if_modifyHead, if_neg (by decide), hsplit, List.modifyHead_cons]
  have hwild : isWildcard ('v' :: part) = false := by
    cases part with
    | nil => rfl
    | cons c part => rfl
  rw [hparts, Partial.readNumbers, hwild, if_neg Bool.false_ne_true, if_neg (by simp)]

/-- The mark was dropped, since a text that keeps one is refused. -/
theorem dropMark_of_read? {cs : List Char} {p : Partial} (h : Partial.read? cs = some p) :
    dropMark cs = withoutMark cs := by
  obtain ⟨hnumbers, _, _⟩ := Partial.read?_eq_some h
  cases cs with
  | nil => rfl
  | cons c cs =>
    by_cases hc : c = 'v'
    -- A mark that is not dropped would be read as a number.
    · rw [hc] at hnumbers ⊢
      by_cases hdropped : dropMark ('v' :: cs) = 'v' :: cs
      · rw [hdropped, List.takeWhile_cons_of_pos (by decide), readNumbers_mark] at hnumbers
        cases hnumbers
      · cases cs with
        | nil => exact absurd rfl hdropped
        | cons d cs =>
          rw [dropMark] at hdropped ⊢
          split
          · rfl
          · rename_i hd
            rw [if_neg hd] at hdropped
            exact absurd rfl hdropped
    · rw [dropMark, withoutMark]
      · intro _ heq
        exact hc (List.cons.inj heq).1
      · intro _ _ heq
        exact hc (List.cons.inj heq).1

/-- A text has the mark of a version or has it not, and the rest is what is read. -/
theorem exists_mark (cs : List Char) :
    ∃ marked : Bool, cs = (if marked then ['v'] else []) ++ withoutMark cs := by
  unfold withoutMark
  split
  · exact ⟨true, rfl⟩
  · exact ⟨false, rfl⟩

/-- Components that are all numbers are those before the first wildcard. -/
theorem fields_of_length_leading {fields : List Field}
    (h : fields.length ≤ (Field.leading fields).length) :
    fields = (Field.leading fields).map Field.number := by
  induction fields with
  | nil => rfl
  | cons f fields ih =>
    cases f with
    | wildcard c wild => exact absurd h (by simp [Field.leading])
    | number n =>
      rw [Field.leading, List.map_cons, ← ih (Nat.le_of_succ_le_succ h)]

/-- Components that are all numbers have no wildcard. -/
theorem all_of_length_leading {fields : List Field}
    (h : fields.length ≤ (Field.leading fields).length) :
    (fields.map Field.chars).all (! isWildcard ·) = true := by
  rw [fields_of_length_leading h, List.map_map, List.all_map, List.all_eq_true]
  intro n _
  show (! isWildcard (Version.numberChars n)) = true
  rw [Written.isWildcard_numberChars]
  rfl

/-- Without a prerelease the comparators are those of the fields up to the first wildcard. -/
theorem PartialText.comparators_of_pre (relation : Relation) (p : PartialText) (h : p.pre = []) :
    p.comparators relation = Range.comparators relation (Field.leading p.fields) := by
  rw [PartialText.comparators, h]
  cases Field.leading p.fields with
  | nil => rfl
  | cons major rest => rfl

/-- A partial version with a wildcard, all of which are components, has no suffix. -/
theorem exists_partialText_of_fields {relation : Relation} {core : List Char} {p : Partial}
    {bounds : List Comparator} (hnumbers : Partial.readNumbers (core.splitOn '.') = some p.numbers)
    (hsuffix : 3 ≤ p.numbers.length ∨ p.suffix = [])
    (hbounds : boundBy relation p = some bounds)
    (hwild : ¬ (core.splitOn '.').all (! isWildcard ·) = true)
    (hthree : (core.splitOn '.').length ≤ 3) (hall : (core.splitOn '.').all isField = true) :
    ∃ t : PartialText, t.marked = false ∧ t.chars = core ++ p.suffix ∧
      t.comparators relation = bounds := by
  obtain ⟨fields, hfields⟩ := exists_fields hall
  have hjoin : List.intercalate ['.'] (fields.map Field.chars) = core := by
    rw [hfields, List.intercalate_splitOn]
  rw [← hfields] at hnumbers hwild hthree
  rw [readNumbers_fields] at hnumbers
  obtain ⟨numbers, suffix⟩ := p
  cases hnumbers
  rw [List.length_map] at hthree
  dsimp only at hsuffix
  rw [List.length_map] at hsuffix
  -- The wildcard is one of the three components, so at most two of them are numbers.
  have hfewer : (Field.leading fields).length < fields.length := by
    by_contra hmore
    exact hwild (all_of_length_leading (Nat.not_lt.mp hmore))
  have hnone : suffix = [] := hsuffix.resolve_left (by omega)
  subst hnone
  rw [boundBy_numbers relation (by omega)] at hbounds
  split at hbounds
  · cases hbounds
    have hne : fields ≠ [] := by
      rintro rfl
      exact absurd hfewer (Nat.not_lt_zero _)
    refine ⟨⟨false, fields, [], [], hne, hthree, nofun, nofun, .inr ⟨rfl, rfl⟩⟩, rfl, ?_, ?_⟩
    · simp [PartialText.chars, PartialText.coreChars, PartialText.suffixChars, Version.partChars,
        hjoin]
    · exact PartialText.comparators_of_pre relation _ rfl
  · cases hbounds

/-- A regular text that was taken for a partial version is one. -/
theorem exists_partialText {relation : Relation} {cs : List Char} {p : Partial}
    {bounds : List Comparator} (hread : Partial.read? cs = some p)
    (hbounds : boundBy relation p = some bounds) (hregular : isRegularPartial cs = true)
    (hend : ∀ c ∈ cs.getLast?, isBlank c = false) :
    ∃ t : PartialText, t.chars = cs ∧ t.comparators relation = bounds := by
  obtain ⟨hnumbers, hsuffix, hlength⟩ := Partial.read?_eq_some hread
  rw [dropMark_of_read? hread] at hnumbers hsuffix
  obtain ⟨marked, hmark⟩ := exists_mark cs
  obtain ⟨hcomma, hfields⟩ := Bool.and_eq_true_iff.mp hregular
  have hsplit := List.takeWhile_append_dropWhile (p := (! Partial.startsSuffix ·))
    (l := withoutMark cs)
  rw [hsuffix] at hsplit
  -- It is enough to find the text without its mark.
  have hbody : ∃ t : PartialText, t.marked = false ∧ t.chars = withoutMark cs ∧
      t.comparators relation = bounds := by
    generalize (withoutMark cs).takeWhile (! Partial.startsSuffix ·) = core at *
    by_cases hplain : (core.splitOn '.').all (! isWildcard ·) = true
    · have hall := readNumbers_of_all hnumbers hplain
      have hchars : p.chars = withoutMark cs := by
        rw [Partial.chars, hall, List.intercalate_splitOn, hsplit]
      have hany : p.isAny = false := by
        rw [Partial.isAny, hall, List.isEmpty_eq_false_iff]
        exact List.splitOn_ne_nil '.' core
      rw [boundBy, hany, if_neg Bool.false_ne_true, hchars] at hbounds
      refine readComparators_eq_some hbounds (fun hmem => ?_) fun c hc => hend c ?_
      · have hmem' : ',' ∈ cs := by
          rw [hmark]
          exact List.mem_append_right _ hmem
        simp [hmem'] at hcomma
      · rw [hmark, List.getLast?_append, hc]
        rfl
    · rcases Bool.or_eq_true_iff.mp hfields with hplain' | hrest
      · exact absurd hplain' hplain
      · obtain ⟨hthree, hall⟩ := Bool.and_eq_true_iff.mp hrest
        rw [← hsplit]
        exact exists_partialText_of_fields hnumbers hlength hbounds hplain
          (of_decide_eq_true hthree) hall
  obtain ⟨t, hunmarked, hchars, hcomparators⟩ := hbody
  refine ⟨{ t with marked }, ?_, hcomparators⟩
  rw [PartialText.chars, hunmarked] at hchars
  rw [hmark, ← hchars]
  rfl

/-! ### Words -/

/-- A word starts with an operator, which is taken off, or it is left whole. -/
theorem splitOperator_eq {word rest : List Char} {operator : Option Relation}
    (h : splitOperator word = (operator, rest)) :
    (operator = none ∧ word = rest) ∨
      ∃ o : Operator, operator = some o.relation ∧ word = o.chars ++ rest := by
  unfold splitOperator at h
  split at h <;> cases h
  · exact .inr ⟨.atMost, rfl, rfl⟩
  · exact .inr ⟨.atLeast, rfl, rfl⟩
  · exact .inr ⟨.tildeAbove, rfl, rfl⟩
  · exact .inr ⟨.below, rfl, rfl⟩
  · exact .inr ⟨.above, rfl, rfl⟩
  · exact .inr ⟨.exact, rfl, rfl⟩
  · exact .inr ⟨.caret, rfl, rfl⟩
  · exact .inr ⟨.tilde, rfl, rfl⟩
  · exact .inl ⟨rfl, rfl⟩

/-- What stands behind a bound: bounds with blanks before each, and blanks. -/
def Follow (cs : List Char) (bounds : List Comparator) : Prop :=
  ∃ (rest : List (Separator × BoundText)) (last : Gap),
    cs = (rest.flatMap fun x => x.1.chars ++ x.2.chars) ++ last.chars ∧
    bounds = (rest.map Prod.snd).flatMap BoundText.comparators

/-- Bounds are the first of them, behind blanks, and those that follow. -/
inductive AreBounds : List Char → List Comparator → Prop where
  | none (gap : Gap) : AreBounds gap.chars []
  | some (gap : Gap) (first : BoundText) {cs : List Char} {bounds : List Comparator}
      (h : Follow cs bounds) :
      AreBounds (gap.chars ++ (first.chars ++ cs)) (first.comparators ++ bounds)

/-- Bounds behind a blank follow. -/
theorem AreBounds.follow {cs : List Char} {bounds : List Comparator} (h : AreBounds cs bounds)
    (hblank : ∀ c ∈ cs.head?, isBlank c = true) : Follow cs bounds := by
  cases h with
  | none gap => exact ⟨[], gap, rfl, rfl⟩
  | some gap first h =>
    obtain ⟨rest, last, rfl, rfl⟩ := h
    have hne : gap.chars ≠ [] := by
      intro hgap
      obtain ⟨c, cs, hfirst, hc, _⟩ := first.exists_chars_eq_cons
      rw [hgap, hfirst] at hblank
      rw [hblank c rfl] at hc
      cases hc
    refine ⟨(⟨gap, hne⟩, first) :: rest, last, ?_, ?_⟩
    · rw [List.flatMap_cons, List.append_assoc, List.append_assoc]
    · rfl

/-- A regular word that was read is an operator that waits, or a partial version. The partial
version may have an operator of its own, when none waits. -/
theorem readWords_cons_eq_some {waiting : Option Relation} {word : List Char}
    {ws : List (List Char)} {bounds : List Comparator} (hne : word ≠ [])
    (hword : ∀ c ∈ word, isBlank c = false) (h : readWords waiting (word :: ws) = some bounds)
    (hregular : areRegularWords waiting.isSome (word :: ws) = true) :
    (∃ o : Operator, waiting = none ∧ word = o.chars ∧
      readWords (some o.relation) ws = some bounds ∧ areRegularWords true ws = true) ∨
    ∃ (t : PartialText) (others : List Comparator),
      readWords none ws = some others ∧ areRegularWords false ws = true ∧
      ((word = t.chars ∧ bounds = t.comparators (waiting.getD .exact) ++ others) ∨
        ∃ o : Operator, waiting = none ∧ word = o.chars ++ t.chars ∧
          bounds = t.comparators o.relation ++ others) := by
  obtain ⟨operator, rest, hsplit⟩ : ∃ operator rest, splitOperator word = (operator, rest) :=
    ⟨_, _, rfl⟩
  rw [readWords, hsplit] at h
  rw [areRegularWords, hsplit] at hregular
  cases rest with
  -- The word is an operator and nothing else.
  | nil =>
    dsimp only at h hregular
    obtain ⟨hwaiting, hothers⟩ := Bool.and_eq_true_iff.mp hregular
    rcases splitOperator_eq hsplit with ⟨_, hnil⟩ | ⟨o, rfl, hchars⟩
    · exact absurd hnil hne
    · have hnone : waiting = none := by simpa using hwaiting
      exact .inl ⟨o, hnone, by rw [hchars, List.append_nil], h, hothers⟩
  -- The word has a partial version, with an operator of its own or without.
  | cons c rest =>
    dsimp only at h hregular
    obtain ⟨hwaiting, hregular⟩ := Bool.and_eq_true_iff.mp hregular
    obtain ⟨hpartial, hregular⟩ := Bool.and_eq_true_iff.mp hregular
    obtain ⟨p, hread, h₁⟩ := Option.bind_eq_some_iff.mp h
    obtain ⟨bounds₁, hbounds, h₂⟩ := Option.bind_eq_some_iff.mp h₁
    obtain ⟨others, hothers, h₃⟩ := Option.bind_eq_some_iff.mp h₂
    cases h₃
    have hend : ∀ d ∈ (c :: rest).getLast?, isBlank d = false := by
      intro d hd
      refine hword d ?_
      rcases splitOperator_eq hsplit with ⟨_, hchars⟩ | ⟨o, _, hchars⟩
      · exact hchars ▸ List.mem_of_getLast? hd
      · exact hchars ▸ List.mem_append_right _ (List.mem_of_getLast? hd)
    obtain ⟨t, hchars, rfl⟩ := exists_partialText hread hbounds hpartial hend
    refine .inr ⟨t, others, hothers, hregular, ?_⟩
    rcases splitOperator_eq hsplit with ⟨rfl, hword⟩ | ⟨o, rfl, hword⟩
    · exact .inl ⟨hword.trans hchars.symm, rfl⟩
    · have hnone : waiting = none := by simpa using hwaiting
      exact .inr ⟨o, hnone, by rw [hword, hchars], rfl⟩

/-- Regular words that were read are bounds. An operator that waits comes into the first of them,
which is then a partial version without an operator. -/
theorem areBounds_of_readWords {cs : List Char} {ws : List (List Char)}
    (hspaced : Text.Spaced cs ws) {bounds : List Comparator} :
    (readWords none ws = some bounds → areRegularWords false ws = true → AreBounds cs bounds) ∧
    ∀ relation, readWords (some relation) ws = some bounds → areRegularWords true ws = true →
      ∃ (gap : Gap) (t : PartialText) (rest : List Char) (others : List Comparator),
        cs = gap.chars ++ (t.chars ++ rest) ∧ Follow rest others ∧
        bounds = t.comparators relation ++ others := by
  induction hspaced generalizing bounds with
  | @blanks gap hgap =>
    constructor
    · intro h _
      cases h
      exact .none ⟨gap, hgap⟩
    · rintro relation ⟨⟩
  | @word gap word rest ws hgap hword hne hrest _ ih =>
    constructor
    · intro h hregular
      rcases readWords_cons_eq_some hne hword h hregular with
        ⟨o, _, rfl, h₁, hregular₁⟩ | ⟨t, others, h₁, hregular₁, hbound⟩
      · -- The operator waits, and the first partial version behind it takes it.
        obtain ⟨gap', t, rest', others, rfl, hfollow, rfl⟩ := ih.2 _ h₁ hregular₁
        have hchars : gap ++ o.chars ++ (gap'.chars ++ (t.chars ++ rest')) =
            gap ++ (BoundText.chars ⟨some (o, gap'), t⟩ ++ rest') := by
          simp [BoundText.chars, boundChars]
        rw [hchars]
        exact .some ⟨gap, hgap⟩ ⟨some (o, gap'), t⟩ hfollow
      · have hfollow : Follow rest others := (ih.1 h₁ hregular₁).follow hrest
        rw [List.append_assoc]
        rcases hbound with ⟨rfl, rfl⟩ | ⟨o, _, rfl, rfl⟩
        · exact .some ⟨gap, hgap⟩ ⟨none, t⟩ hfollow
        · have hchars : o.chars ++ t.chars = BoundText.chars ⟨some (o, .none), t⟩ := by
            simp [BoundText.chars, boundChars, Gap.none]
          rw [hchars]
          exact .some ⟨gap, hgap⟩ ⟨some (o, .none), t⟩ hfollow
    · intro relation h hregular
      rcases readWords_cons_eq_some hne hword h hregular with
        ⟨_, hnone, _⟩ | ⟨t, others, h₁, hregular₁, hbound⟩
      · cases hnone
      · have hfollow : Follow rest others := (ih.1 h₁ hregular₁).follow hrest
        rcases hbound with ⟨rfl, rfl⟩ | ⟨_, hnone, _⟩
        · exact ⟨⟨gap, hgap⟩, t, rest, others, List.append_assoc _ _ _, hfollow, rfl⟩
        · cases hnone

/-! ### Alternatives -/

/-- A trimmed text that was taken for a partial version stands between blanks. -/
theorem exists_partialText_trim {relation : Relation} {cs : List Char} {p : Partial}
    {bounds : List Comparator} (hread : Partial.read? (trim cs) = some p)
    (hbounds : boundBy relation p = some bounds)
    (hregular : isRegularPartial (trim cs) = true) :
    ∃ (before after : Gap) (t : PartialText), cs = before.chars ++ (t.chars ++ after.chars) ∧
      t.comparators relation = bounds := by
  obtain ⟨before, after, hcs, hbefore, hafter⟩ := Text.exists_trim cs
  obtain ⟨t, hchars, hcomparators⟩ :=
    exists_partialText hread hbounds hregular Text.isBlank_getLast?_trim
  refine ⟨⟨before, hbefore⟩, ⟨after, hafter⟩, t, ?_, hcomparators⟩
  rw [hchars, ← List.append_assoc]
  exact hcs

/-- What an alternative was taken for: nothing, two sides of a hyphen, or words. -/
theorem readAlternative_eq_some {cs : List Char} {bounds : List Comparator}
    (h : readAlternative cs = some bounds) :
    ((cs = [] ∨ isWildcard cs = true) ∧ bounds = []) ∨
    (∃ low high, cut? Text.hyphen cs = some (low, high) ∧ readHyphen low high = some bounds) ∨
    (cut? Text.hyphen cs = none ∧ readWords none (words cs) = some bounds) := by
  rw [readAlternative] at h
  split at h
  · rename_i hany
    cases h
    refine .inl ⟨?_, rfl⟩
    rwa [Bool.or_eq_true, List.isEmpty_iff] at hany
  · -- There is room for the comparators, and they are those that were read.
    have hroom : ∀ read : Option (List Comparator),
        (read >>= fun bounds => if bounds.length ≤ maxComparators then some bounds else none) =
          some bounds → read = some bounds := by
      intro read hread
      obtain ⟨bounds', rfl, hlength⟩ := Option.bind_eq_some_iff.mp hread
      split at hlength
      · exact hlength
      · cases hlength
    refine .inr ?_
    rw [← Text.hyphen] at h
    cases hcut : cut? Text.hyphen cs with
    | some sides =>
      rw [hcut] at h
      exact .inl ⟨sides.1, sides.2, rfl, hroom _ h⟩
    | none =>
      rw [hcut] at h
      exact .inr ⟨rfl, hroom _ h⟩

/-- A wildcard and nothing else. -/
def wildcardText (c : Char) (hc : isWildcardChar c = true) : PartialText :=
  ⟨false, [.wildcard c hc], [], [], nofun, Nat.le_of_ble_eq_true rfl, nofun, nofun, .inr ⟨rfl, rfl⟩⟩

/-- A regular text that was taken for an alternative is one, with blanks around it. -/
theorem exists_partText {cs : List Char} {bounds : List Comparator}
    (h : readAlternative cs = some bounds) (hregular : isRegularAlternative cs = true) :
    ∃ t : PartText, t.chars = cs ∧ t.alternative.comparators = bounds := by
  rcases readAlternative_eq_some h with
    ⟨rfl | hwild, rfl⟩ | ⟨low, high, hcut, hread⟩ | ⟨hcut, hread⟩
  -- Nothing, a wildcard, a hyphen range, or bounds.
  · exact ⟨⟨.none, .any, .none⟩, rfl, rfl⟩
  · obtain ⟨c, rfl, hc⟩ := isWildcard_eq_true hwild
    exact ⟨⟨.none, .bounds ⟨none, wildcardText c hc⟩ [], .none⟩, rfl, rfl⟩
  · rw [isRegularAlternative, hcut] at hregular
    obtain ⟨hlow, hhigh⟩ := Bool.and_eq_true_iff.mp hregular
    obtain ⟨p, hreadLow, h₁⟩ := Option.bind_eq_some_iff.mp hread
    obtain ⟨q, hreadHigh, h₂⟩ := Option.bind_eq_some_iff.mp h₁
    obtain ⟨lower, hlower, h₃⟩ := Option.bind_eq_some_iff.mp h₂
    obtain ⟨upper, hupper, h₄⟩ := Option.bind_eq_some_iff.mp h₃
    cases h₄
    obtain ⟨before, afterLow, t, hcharsLow, rfl⟩ := exists_partialText_trim hreadLow hlower hlow
    obtain ⟨beforeHigh, after, u, hcharsHigh, rfl⟩ :=
      exists_partialText_trim hreadHigh hupper hhigh
    refine ⟨⟨before, .hyphen t afterLow beforeHigh u, after⟩, ?_, rfl⟩
    rw [Text.cut?_eq_some hcut, hcharsLow, hcharsHigh]
    simp [PartText.chars, AlternativeText.chars]
  · rw [isRegularAlternative, hcut] at hregular
    have hbounds := (areBounds_of_readWords (Text.spaced_words cs)).1 hread hregular
    cases hbounds with
    | none gap => exact ⟨⟨gap, .any, .none⟩, List.append_nil _, rfl⟩
    | some gap first hfollow =>
      obtain ⟨rest, last, rfl, rfl⟩ := hfollow
      refine ⟨⟨gap, .bounds first rest, last⟩, ?_, rfl⟩
      rw [PartText.chars, AlternativeText.chars, List.append_assoc]

/-- The blanks that were trimmed away belong to the alternative. -/
theorem exists_partText_trim {cs : List Char} {bounds : List Comparator}
    (h : readAlternative (trim cs) = some bounds)
    (hregular : isRegularAlternative (trim cs) = true) :
    ∃ t : PartText, t.chars = cs ∧ t.alternative.comparators = bounds := by
  obtain ⟨before, after, hcs, hbefore, hafter⟩ := Text.exists_trim cs
  obtain ⟨t, hchars, hcomparators⟩ := exists_partText h hregular
  have hfront : ∀ c ∈ before ++ t.before.chars, isBlank c = true :=
    List.forall_mem_append.mpr ⟨hbefore, t.before.blank⟩
  have hback : ∀ c ∈ t.after.chars ++ after, isBlank c = true :=
    List.forall_mem_append.mpr ⟨t.after.blank, hafter⟩
  refine ⟨⟨⟨_, hfront⟩, t.alternative, ⟨_, hback⟩⟩, ?_, hcomparators⟩
  refine Eq.trans ?_ hcs.symm
  rw [← hchars]
  simp [PartText.chars]

/-! ### Ranges -/

/-- Every text has an alternative, if only an empty one. -/
theorem splitAlternatives_ne_nil (cs : List Char) : splitAlternatives cs ≠ [] := by
  fun_cases splitAlternatives cs <;> exact List.cons_ne_nil _ _

/-- The parts between the bars and the bars are the whole text. -/
theorem intercalate_splitAlternatives (cs : List Char) :
    List.intercalate ['|', '|'] (splitAlternatives cs) = cs := by
  fun_induction splitAlternatives cs with
  | case1 => rfl
  | case2 cs ih =>
    obtain ⟨part, parts, hparts⟩ := List.exists_cons_of_ne_nil (splitAlternatives_ne_nil cs)
    rw [hparts] at ih
    rw [hparts, List.intercalate_cons_cons, ih]
    rfl
  | case3 c cs _ hnil ih => exact absurd hnil (splitAlternatives_ne_nil cs)
  | case4 c cs _ part parts hparts ih =>
    rw [hparts, Text.intercalate_cons] at ih
    rw [Text.intercalate_cons, List.cons_append, ih]

/-- Parts that are regular one by one, and are read, are the texts of alternatives with what was
read. -/
theorem exists_partTexts {parts : List (List Char)} {alternatives : List (List Comparator)}
    (h : parts.mapM (fun part => readAlternative (trim part)) = some alternatives)
    (hregular : parts.all (fun part => isRegularAlternative (trim part)) = true) :
    ∃ ts : List PartText, ts.map PartText.chars = parts ∧
      ts.map (·.alternative.comparators) = alternatives := by
  induction parts generalizing alternatives with
  | nil =>
    cases h
    exact ⟨[], rfl, rfl⟩
  | cons part parts ih =>
    rw [List.mapM_cons] at h
    obtain ⟨bounds, hpart, h₁⟩ := Option.bind_eq_some_iff.mp h
    obtain ⟨others, hparts, h₂⟩ := Option.bind_eq_some_iff.mp h₁
    cases h₂
    rw [List.all_cons, Bool.and_eq_true_iff] at hregular
    obtain ⟨t, rfl, rfl⟩ := exists_partText_trim hpart hregular.1
    obtain ⟨ts, rfl, rfl⟩ := ih hparts hregular.2
    exact ⟨t :: ts, rfl, rfl⟩

/-- A regular text that was taken for a range is of the language, and the range is what it
says. -/
theorem says_of_isRegular {s : String} {r : Range} (h : Range.parse? s = some r)
    (hregular : isRegular s = true) : Says s r := by
  obtain ⟨alternatives, halternatives, heq⟩ := Option.bind_eq_some_iff.mp h
  cases heq
  obtain ⟨ts, hchars, hcomparators⟩ := exists_partTexts halternatives hregular
  obtain ⟨t, ts, rfl⟩ : ∃ t ts', ts = t :: ts' := by
    refine List.exists_cons_of_ne_nil ?_
    rintro rfl
    exact splitAlternatives_ne_nil s.toList hchars.symm
  refine ⟨⟨t, ts⟩, ?_, hcomparators⟩
  rw [RangeText.chars, RangeText.parts, hchars, intercalate_splitAlternatives]

end Range

end FrameworkUpgrade
