import FrameworkUpgrade.Proofs.Range.Query
import FrameworkUpgrade.Proofs.Upgrade.Search
import FrameworkUpgrade.Upgrade.Rehearsal

/-!
# `FrameworkUpgrade.Proofs.Range.Prerelease`: how a pre-release comes into a range

A list of comparators lets a pre-release through only when one of them names a pre-release of
the same three numbers. The comparators are read from a text that has been taken apart and put
together again, so the question is whether the three numbers, with a hyphen behind them, stand in
the alternative as it was given. The lemmas go outwards from a comparator to the range, and each
says where in its text they stand.

There is one gap. Of a partial version the reader keeps the numbers before the first wildcard and
the suffix, and drops what is between. In `1.2.3.x-alpha` the numbers and the suffix meet only in
this way. `concealsCore` finds these partial versions: they have more than three components before
a pre-release. Behind the three numbers there is a dot in them.

`prereleases_named` states what holds of every range that was read, and that a search for a range
without such a partial version, and without a hyphen behind a digit, never ends in a pre-release.
-/

set_option autoImplicit false

namespace FrameworkUpgrade

namespace Range

open Text (trim words cut?)

/-! ### The numbers of a version in a text -/

/-- The three numbers of a version stand in a text, with a mark directly behind them. -/
def Writes (v : Version) (mark : Char) (cs : List Char) : Prop :=
  v.coreChars ++ [mark] <:+: cs

instance (v : Version) (mark : Char) (cs : List Char) : Decidable (Writes v mark cs) :=
  inferInstanceAs (Decidable (_ <:+: _))

/-- Whether a partial version has more than three components before a pre-release. -/
def concealsCore (cs : List Char) : Bool :=
  decide (3 < (((dropMark cs).takeWhile (! Partial.startsSuffix ·)).splitOn '.').length) &&
    ((dropMark cs).dropWhile (! Partial.startsSuffix ·)).head? == some '-'

/-- The partial versions of an alternative, as they are cut out of it. -/
def partialTexts (cs : List Char) : List (List Char) :=
  match cut? Text.hyphen cs with
  | some (low, high) => [trim low, trim high]
  | none => (words cs).map fun word => (splitOperator word).2

/-- An alternative has the numbers of a version in it with a hyphen behind them, or else with a
dot, and then there are more than three components before a pre-release. -/
def Names (v : Version) (cs : List Char) : Prop :=
  Writes v '-' cs ∨ Writes v '.' cs ∧ (partialTexts cs).any concealsCore = true

/-- Whether some partial version of a range has more than three components before a pre-release. -/
def conceals (s : String) : Bool :=
  ((splitAlternatives s.toList).map trim).any fun part => (partialTexts part).any concealsCore

/-- No hyphen stands directly behind a digit. -/
def HyphensApart (cs : List Char) : Prop :=
  cs.IsChain fun c d => c.isDigit = true → d ≠ '-'

instance (cs : List Char) : Decidable (HyphensApart cs) :=
  inferInstanceAs (Decidable (cs.IsChain _))

section Text

variable {v : Version}

/-- What is written in a part of a text is written in the text. -/
theorem Writes.mono {mark : Char} {cs cs' : List Char} (h : Writes v mark cs) (hcs : cs <:+: cs') :
    Writes v mark cs' :=
  List.IsInfix.trans h hcs

/-- The numbers of a version are written with digits and dots. -/
theorem mem_coreChars {c : Char} (h : c ∈ v.coreChars) : c.isDigit = true ∨ c = '.' := by
  simp only [Version.coreChars, List.mem_append, List.mem_cons] at h
  rcases h with (h | rfl | h) | rfl | h
  · exact .inl (Version.isDigit_of_mem_numberChars h)
  · exact .inr rfl
  · exact .inl (Version.isDigit_of_mem_numberChars h)
  · exact .inr rfl
  · exact .inl (Version.isDigit_of_mem_numberChars h)

/-- The numbers of a version have no character that starts a suffix. -/
theorem not_mem_coreChars {c : Char} (h : Partial.startsSuffix c = true) : c ∉ v.coreChars := by
  intro hmem
  rcases Bool.or_eq_true_iff.mp h with hc | hc
  all_goals
    rw [beq_iff_eq.mp hc] at hmem
    exact absurd (mem_coreChars hmem) (by decide)

/-- The numbers of a version end in a digit. -/
theorem exists_coreChars_eq (v : Version) :
    ∃ front d, v.coreChars = front ++ [d] ∧ d.isDigit = true := by
  obtain ⟨digits, d, hdigits⟩ :
      ∃ digits d, Version.numberChars v.patch = digits ++ [d] := by
    have hne := Version.numberChars_ne_nil v.patch
    exact ⟨_, _, (List.dropLast_append_getLast hne).symm⟩
  refine ⟨Version.numberChars v.major ++ '.' :: Version.numberChars v.minor ++ '.' :: digits, d,
    ?_, Version.isDigit_of_mem_numberChars (n := v.patch) (by simp [hdigits])⟩
  simp [Version.coreChars, hdigits]

/-- Without a hyphen behind a digit a text writes no version with a prerelease, because its numbers
end in a digit. -/
theorem HyphensApart.not_writes {cs : List Char} (h : HyphensApart cs) : ¬ Writes v '-' cs := by
  intro hwrites
  obtain ⟨front, d, hcore, hdigit⟩ := exists_coreChars_eq v
  have hpair : [d, '-'] <:+: cs := by
    refine List.IsInfix.trans ⟨front, [], ?_⟩ hwrites
    simp [hcore]
  have hchain : [d, '-'].IsChain fun c d => c.isDigit = true → d ≠ '-' := h.infix hpair
  exact List.isChain_pair.mp hchain hdigit rfl

end Text

/-! ### Comparators -/

section Comparators

variable {v : Version}

/-- A partial version with the comparator that names a pre-release of a version begins with the
numbers of the version and a hyphen. -/
theorem PartialText.prefix_chars {relation : Relation} {p : PartialText} {c : Comparator}
    (hmarked : p.marked = false) (hbound : p.comparators relation = [c])
    (hnames : c.namesPreOf v = true) : v.coreChars ++ ['-'] <+: p.chars := by
  cases hleading : Field.leading p.fields with
  | nil =>
    rw [comparators, hleading] at hbound
    cases hbound
  | cons major rest =>
    rw [comparators, hleading] at hbound
    cases hbound
    simp only [Comparator.namesPreOf, comparator, Bool.and_eq_true, beq_iff_eq, Bool.not_eq_true',
      List.isEmpty_eq_false_iff] at hnames
    obtain ⟨⟨⟨hmajor, hminor⟩, hpatch⟩, hpre⟩ := hnames
    -- There is a pre-release, so there are three numbers and nothing but numbers.
    have hthree := p.suffixed.resolve_right fun hnone => hpre hnone.1
    have hfields : p.fields = _ := fields_of_length_leading (hthree ▸ p.atMostThree)
    rw [hleading] at hthree hfields
    obtain ⟨minor, patch, rfl⟩ := List.length_eq_two.mp (Nat.succ_inj.mp hthree)
    cases hminor
    cases hpatch
    obtain ⟨i, ids, hids⟩ := List.exists_cons_of_ne_nil hpre
    refine ⟨Version.identifierChars p.pre ++ Version.partChars '+' p.build, ?_⟩
    rw [chars, hmarked, coreChars, suffixChars, hfields, hids]
    simp [Version.coreChars, Version.partChars, Field.chars, hmajor]

/-- The relation of a comparator is its operator, or what it has without one. -/
theorem readComparator_relation {operator : Option Relation} {cs rest : List Char}
    {c : Comparator} (h : readComparator operator cs = some (c, rest)) :
    readComparator (some c.relation) cs = some (c, rest) := by
  unfold readComparator at h ⊢
  obtain ⟨⟨major, cs₁⟩, hmajor, h₁⟩ := Option.bind_eq_some_iff.mp h
  obtain ⟨⟨minor, cs₂⟩, hminor, h₂⟩ := Option.bind_eq_some_iff.mp h₁
  obtain ⟨⟨patch, cs₃⟩, hpatch, h₃⟩ := Option.bind_eq_some_iff.mp h₂
  clear h h₁ h₂
  rw [hmajor, Option.bind_eq_bind, Option.bind_some]
  simp only [hminor, hpatch, Option.bind_eq_bind, Option.bind_some, Option.getD_some] at h₃ ⊢
  -- The relation only goes into the comparator, in each of the forms that one has.
  cases patch with
  | number n =>
    cases minor with
    | wildcard => cases h₃
    | absent | number m =>
      obtain ⟨⟨pre, cs₄⟩, hpre, h₄⟩ := Option.bind_eq_some_iff.mp h₃
      obtain ⟨⟨build, cs₅⟩, hbuild, h₅⟩ := Option.bind_eq_some_iff.mp h₄
      cases h₅
      simp only [hpre, hbuild, Option.bind_some]
  | absent => cases minor <;> cases h₃ <;> rfl
  | wildcard => cases minor <;> cases h₃ <;> rfl

/-- What was read for a comparator stands at the front of the text. -/
theorem suffix_of_readComparator {operator : Option Relation} {cs rest : List Char}
    {c : Comparator} (h : readComparator operator cs = some (c, rest)) : rest <:+ cs := by
  obtain ⟨p, spaces, -, rfl, -, -⟩ := readComparator_eq_some (readComparator_relation h)
  exact ⟨p.chars ++ spaces, List.append_assoc _ _ _⟩

/-- The text of a comparator that names a pre-release of a version begins with the numbers of the
version and a hyphen. -/
theorem prefix_of_readComparator {operator : Option Relation} {cs rest : List Char}
    {c : Comparator} (h : readComparator operator cs = some (c, rest))
    (hnames : c.namesPreOf v = true) : v.coreChars ++ ['-'] <+: cs := by
  obtain ⟨p, spaces, hmarked, rfl, -, hbound⟩ :=
    readComparator_eq_some (readComparator_relation h)
  exact (p.prefix_chars hmarked hbound hnames).trans (List.prefix_append _ _)

/-- What is left behind dropped spaces is an end of the text. -/
theorem dropSpaces_suffix (cs : List Char) : dropSpaces cs <:+ cs :=
  List.dropWhile_suffix _

/-- What is left behind an operator is an end of the text. -/
theorem splitOperator_suffix (cs : List Char) : (splitOperator cs).2 <:+ cs := by
  rcases splitOperator_eq (Prod.eta (splitOperator cs)).symm with ⟨-, hcs⟩ | ⟨o, -, hcs⟩
  · exact ⟨[], hcs.symm⟩
  · exact ⟨o.chars, hcs.symm⟩

/-- What is left behind the operator that follows a comma is an end of the text. -/
theorem splitFollowing_suffix (cs : List Char) : (splitFollowing cs).2 <:+ cs := by
  unfold splitFollowing
  split
  · exact List.suffix_cons _ _
  · exact splitOperator_suffix cs

/-- Of the comparators that a text makes up, one that names a pre-release of a version has the
numbers of the version in the text, with a hyphen behind them. -/
theorem writes_of_readComparators {room : Nat} {operator : Option Relation} {cs : List Char}
    {bounds : List Comparator} (h : readComparators room operator cs = some bounds)
    {c : Comparator} (hc : c ∈ bounds) (hnames : c.namesPreOf v = true) : Writes v '-' cs := by
  induction room generalizing operator cs bounds with
  | zero => cases h
  | succ room ih =>
    rw [readComparators] at h
    split at h
    · cases h
    · rename_i c' hread
      cases h
      cases List.mem_singleton.mp hc
      exact (prefix_of_readComparator hread hnames).isInfix
    · rename_i c' rest hread
      obtain ⟨others, hothers, rfl⟩ := Option.map_eq_some_iff.mp h
      rcases List.mem_cons.mp hc with rfl | hc
      · exact (prefix_of_readComparator hread hnames).isInfix
      · -- What follows the comma is the rest of the text, without an operator and spaces.
        refine (ih hothers hc).mono (List.IsSuffix.isInfix ?_)
        have hcomma : rest <:+ cs := (List.suffix_cons _ _).trans (suffix_of_readComparator hread)
        exact (dropSpaces_suffix _).trans ((splitFollowing_suffix _).trans
          ((dropSpaces_suffix _).trans hcomma))
    · cases h

end Comparators

/-! ### Partial versions -/

section Partials

variable {v : Version}

/-- The numbers that are kept are the first components. -/
theorem readNumbers_prefix {parts numbers : List (List Char)}
    (h : Partial.readNumbers parts = some numbers) : numbers <+: parts := by
  induction parts generalizing numbers with
  | nil =>
    cases h
    exact List.prefix_rfl
  | cons part parts ih =>
    rw [Partial.readNumbers] at h
    split at h
    · cases h
      exact List.nil_prefix
    · split at h
      · obtain ⟨others, hothers, rfl⟩ := Option.map_eq_some_iff.mp h
        exact (List.prefix_cons_inj part).mpr (ih hothers)
      · cases h

/-- A comparator was read from a partial version. -/
def ReadFrom (c : Comparator) (cs : List Char) : Prop :=
  ∃ p relation bounds, Partial.read? cs = some p ∧ boundBy relation p = some bounds ∧ c ∈ bounds

/-- The numbers of a partial version stand at the front of its text, behind the mark. Directly
behind them stands the suffix, or a dot, and then there are more components. -/
theorem Partial.exists_text {cs : List Char} {p : Partial} (h : Partial.read? cs = some p)
    (hany : p.isAny = false) :
    ∃ between, dropMark cs = List.intercalate ['.'] p.numbers ++ (between ++ p.suffix) ∧
      '-' ∉ List.intercalate ['.'] p.numbers ∧
      (between ≠ [] → between.head? = some '.' ∧
        (p.suffix.head? = some '-' → concealsCore cs = true)) := by
  obtain ⟨hnumbers, hsuffix, hlength⟩ := Partial.read?_eq_some h
  obtain ⟨others, hparts⟩ := readNumbers_prefix hnumbers
  obtain ⟨part, parts, hcons⟩ := List.exists_cons_of_ne_nil (List.isEmpty_eq_false_iff.mp hany)
  -- The components are the numbers and the others, each of these behind a dot.
  have hcore : (dropMark cs).takeWhile (! startsSuffix ·) =
      List.intercalate ['.'] p.numbers ++ others.flatMap (['.'] ++ ·) := by
    have hjoin : List.intercalate ['.'] (((dropMark cs).takeWhile (! startsSuffix ·)).splitOn '.') =
        (dropMark cs).takeWhile (! startsSuffix ·) := List.intercalate_splitOn '.'
    rw [← hjoin, ← hparts]
    simp [hcons, Text.intercalate_cons]
  refine ⟨others.flatMap (['.'] ++ ·), ?_, fun hmem => ?_, fun hne => ?_⟩
  · rw [← List.append_assoc, ← hcore, ← hsuffix, List.takeWhile_append_dropWhile]
  · have hkept := List.mem_takeWhile_imp (hcore ▸ List.mem_append_left _ hmem)
    exact absurd hkept (by decide)
  · obtain ⟨other, rest, rfl⟩ : ∃ other rest, others = other :: rest := by
      refine List.exists_cons_of_ne_nil ?_
      rintro rfl
      exact hne rfl
    refine ⟨rfl, fun hhead => ?_⟩
    have hthree : 3 ≤ p.numbers.length := by
      refine hlength.resolve_right fun hnil => ?_
      rw [hnil] at hhead
      cases hhead
    rw [concealsCore, hsuffix, hhead, ← hparts, List.length_append, List.length_cons]
    simp
    omega

/-- A comparator that names a pre-release of a version has the numbers of the version in the text
it was read from. A hyphen is behind them, or a dot, and then there are more components. -/
theorem ReadFrom.names {c : Comparator} {cs : List Char} (h : ReadFrom c cs)
    (hnames : c.namesPreOf v = true) :
    Writes v '-' cs ∨ Writes v '.' cs ∧ concealsCore cs = true := by
  obtain ⟨p, relation, bounds, hread, hbounds, hc⟩ := h
  rw [boundBy] at hbounds
  split at hbounds
  · cases hbounds
    cases hc
  · rename_i hany
    obtain ⟨between, htext, hhyphen, hbetween⟩ :=
      Partial.exists_text hread (Bool.not_eq_true _ ▸ hany)
    obtain ⟨-, hsuffix, -⟩ := Partial.read?_eq_some hread
    have hcs : dropMark cs <:+: cs := by
      obtain ⟨marked, hmark⟩ := Query.exists_dropMark cs
      exact ⟨_, [], by rw [List.append_nil, ← hmark]⟩
    have hhead : ∀ c ∈ p.suffix.head?, c ∉ v.coreChars := by
      intro c hc
      have hstart := List.head?_dropWhile_not (! Partial.startsSuffix ·) (dropMark cs)
      rw [hsuffix, hc] at hstart
      exact not_mem_coreChars (by simpa using hstart)
    -- All of it stands in the suffix, or else its hyphen is the one that the suffix begins with.
    rcases Text.infix_append_cases hhyphen hhead (writes_of_readComparators hbounds hc hnames) with
      hin | ⟨hfirst, hlast⟩
    · refine .inl (List.IsInfix.trans hin (List.IsInfix.trans ?_ hcs))
      rw [htext, ← List.append_assoc]
      exact (List.suffix_append _ _).isInfix
    · have hwrites : ∀ mark, (between ++ p.suffix).head? = some mark → Writes v mark cs := by
        intro mark hmark
        refine List.IsInfix.trans ?_ hcs
        rw [htext]
        exact Text.infix_append_of_suffix hlast hmark
      by_cases hnone : between = []
      · exact .inl (hwrites '-' (by rw [hnone, List.nil_append, hfirst]))
      · obtain ⟨hdot, hconceals⟩ := hbetween hnone
        exact .inr ⟨hwrites '.' (by rw [List.head?_append, hdot]; rfl), hconceals hfirst⟩

end Partials

/-! ### Alternatives -/

/-- The comparators of words were read from what stands behind their operators. -/
theorem readFrom_of_readWords {waiting : Option Relation} {ws : List (List Char)}
    {bounds : List Comparator} (h : readWords waiting ws = some bounds) {c : Comparator}
    (hc : c ∈ bounds) : ∃ word ∈ ws, ReadFrom c (splitOperator word).2 := by
  induction ws generalizing waiting bounds with
  | nil =>
    rw [readWords] at h
    split at h
    · cases h
    · cases h
      cases hc
  | cons word ws ih =>
    rw [readWords] at h
    split at h
    -- A word that is only an operator has no comparator.
    · obtain ⟨w, hw, hread⟩ := ih h hc
      exact ⟨w, List.mem_cons_of_mem _ hw, hread⟩
    · rename_i operator rest _ hsplit
      obtain ⟨p, hread, h₁⟩ := Option.bind_eq_some_iff.mp h
      obtain ⟨own, hown, h₂⟩ := Option.bind_eq_some_iff.mp h₁
      obtain ⟨others, hothers, h₃⟩ := Option.bind_eq_some_iff.mp h₂
      cases h₃
      rcases List.mem_append.mp hc with hc | hc
      · refine ⟨word, List.mem_cons_self, p, _, own, ?_, hown, hc⟩
        rw [hsplit]
        exact hread
      · obtain ⟨w, hw, hread⟩ := ih hothers hc
        exact ⟨w, List.mem_cons_of_mem _ hw, hread⟩

/-- A comparator of a hyphen range was read from one of its two ends. -/
theorem readFrom_of_readHyphen {low high : List Char} {bounds : List Comparator}
    (h : readHyphen low high = some bounds) {c : Comparator} (hc : c ∈ bounds) :
    ReadFrom c (trim low) ∨ ReadFrom c (trim high) := by
  obtain ⟨p, hp, h₁⟩ := Option.bind_eq_some_iff.mp h
  obtain ⟨q, hq, h₂⟩ := Option.bind_eq_some_iff.mp h₁
  obtain ⟨lower, hlower, h₃⟩ := Option.bind_eq_some_iff.mp h₂
  obtain ⟨upper, hupper, h₄⟩ := Option.bind_eq_some_iff.mp h₃
  cases h₄
  rcases List.mem_append.mp hc with hc | hc
  · exact .inl ⟨p, _, lower, hp, hlower, hc⟩
  · exact .inr ⟨q, _, upper, hq, hupper, hc⟩

/-- Every comparator of an alternative was read from one of its partial versions. -/
theorem readFrom_of_readAlternative {cs : List Char} {bounds : List Comparator}
    (h : readAlternative cs = some bounds) {c : Comparator} (hc : c ∈ bounds) :
    ∃ text ∈ partialTexts cs, ReadFrom c text := by
  rcases readAlternative_eq_some h with ⟨-, rfl⟩ | ⟨low, high, hcut, hread⟩ | ⟨hcut, hread⟩
  · cases hc
  · rw [partialTexts, hcut]
    rcases readFrom_of_readHyphen hread hc with hlow | hhigh
    · exact ⟨_, List.mem_cons_self, hlow⟩
    · exact ⟨_, List.mem_cons_of_mem _ List.mem_cons_self, hhigh⟩
  · rw [partialTexts, hcut]
    obtain ⟨word, hword, hfrom⟩ := readFrom_of_readWords hread hc
    exact ⟨_, List.mem_map_of_mem hword, hfrom⟩

/-- The partial versions of an alternative stand in its text. -/
theorem infix_of_mem_partialTexts {cs text : List Char} (h : text ∈ partialTexts cs) :
    text <:+: cs := by
  unfold partialTexts at h
  split at h
  · rename_i low high hcut
    have hcs := Text.cut?_eq_some hcut
    rcases List.mem_cons.mp h with rfl | h
    · refine (Text.trim_infix low).trans ?_
      rw [hcs]
      exact (List.prefix_append low _).isInfix
    · cases List.mem_singleton.mp h
      refine (Text.trim_infix high).trans ?_
      rw [hcs, ← List.append_assoc]
      exact (List.suffix_append _ high).isInfix
  · obtain ⟨word, hword, rfl⟩ := List.mem_map.mp h
    exact (splitOperator_suffix word).isInfix.trans (Text.infix_of_mem_words hword)

/-- An alternative with a comparator that names a pre-release of a version names it itself. -/
theorem names_of_readAlternative {v : Version} {cs : List Char} {bounds : List Comparator}
    (h : readAlternative cs = some bounds) {c : Comparator} (hc : c ∈ bounds)
    (hnames : c.namesPreOf v = true) : Names v cs := by
  obtain ⟨text, htext, hfrom⟩ := readFrom_of_readAlternative h hc
  have hin := infix_of_mem_partialTexts htext
  rcases hfrom.names hnames with hwrites | ⟨hwrites, hconceals⟩
  · exact .inl (hwrites.mono hin)
  · exact .inr ⟨hwrites.mono hin, List.any_eq_true.mpr ⟨text, htext, hconceals⟩⟩

/-! ### Ranges -/

/-- What was read from a list was read from one of its elements. -/
theorem exists_of_mem_mapM {α β : Type} {f : α → Option β} {as : List α} {bs : List β}
    (h : as.mapM f = some bs) {b : β} (hb : b ∈ bs) : ∃ a ∈ as, f a = some b := by
  induction as generalizing bs with
  | nil =>
    cases h
    cases hb
  | cons a as ih =>
    rw [List.mapM_cons] at h
    obtain ⟨first, hfirst, h₁⟩ := Option.bind_eq_some_iff.mp h
    obtain ⟨others, hothers, h₂⟩ := Option.bind_eq_some_iff.mp h₁
    cases h₂
    rcases List.mem_cons.mp hb with rfl | hb
    · exact ⟨a, List.mem_cons_self, hfirst⟩
    · obtain ⟨a', ha', hread⟩ := ih hothers hb
      exact ⟨a', List.mem_cons_of_mem _ ha', hread⟩

/-- An alternative is a part of the text. -/
theorem infix_of_mem_splitAlternatives {cs part : List Char} (h : part ∈ splitAlternatives cs) :
    part <:+: cs := by
  have hin : part <:+: List.intercalate ['|', '|'] (splitAlternatives cs) :=
    Text.infix_intercalate_of_mem h
  rwa [intercalate_splitAlternatives] at hin

/-- A pre-release that a range holds of satisfies the comparators of an alternative, and the
alternative names it. -/
theorem exists_alternative {s : String} {r : Range} (h : Range.parse? s = some r) {v : Version}
    (hv : v.isRelease = false) (hholds : r.holds v = true) :
    ∃ part ∈ (splitAlternatives s.toList).map trim, ∃ bounds,
      readAlternative part = some bounds ∧ (∀ c ∈ bounds, c.holds v = true) ∧ Names v part := by
  rw [Range.parse?, read?_eq] at h
  obtain ⟨alternatives, hread, rfl⟩ := Option.map_eq_some_iff.mp h
  obtain ⟨bounds, hbounds, hall⟩ := List.any_eq_true.mp hholds
  obtain ⟨part, hpart, hbound⟩ := exists_of_mem_mapM hread hbounds
  rw [Comparator.allHold, hv, Bool.false_or, Bool.and_eq_true, List.all_eq_true,
    List.any_eq_true] at hall
  obtain ⟨hall, c, hc, hnames⟩ := hall
  exact ⟨part, hpart, bounds, hbound, hall, names_of_readAlternative hbound hc hnames⟩

/-- Where no hyphen stands behind a digit and no partial version has more than three components
before a pre-release, a range holds of releases only. -/
theorem isRelease_of_holds {s : String} {r : Range} (h : Range.parse? s = some r)
    (hconceals : conceals s = false) (hapart : HyphensApart s.toList) {v : Version}
    (hholds : r.holds v = true) : v.isRelease = true := by
  by_contra hv
  rw [Bool.not_eq_true] at hv
  obtain ⟨part, hpart, -, -, -, hwrites | ⟨-, hmore⟩⟩ := exists_alternative h hv hholds
  · obtain ⟨whole, hwhole, rfl⟩ := List.mem_map.mp hpart
    exact hapart.not_writes
      (hwrites.mono ((Text.trim_infix whole).trans (infix_of_mem_splitAlternatives hwhole)))
  · have hsome : conceals s = true := List.any_eq_true.mpr ⟨part, hpart, hmore⟩
    rw [hconceals] at hsome
    cases hsome

/-- A pre-release satisfies a range only through an alternative that names it. A search for a
range that names none ends in a release, if it finds anything. -/
theorem prereleases_named (s : String) :
    (∀ r, Range.parse? s = some r → ∀ v : Version, v.isRelease = false → r.holds v = true →
      ∃ part ∈ (splitAlternatives s.toList).map trim, ∃ bounds,
        readAlternative part = some bounds ∧ (∀ c ∈ bounds, c.holds v = true) ∧ Names v part) ∧
    (∀ r, Query.parse? s = some (.range r) → conceals s = false → HyphensApart s.toList →
      ∀ {σ : Type} (h : Handler Call.Reply σ) (st : σ) (package : String) (v : Version),
        Resolve.searched h st package s = .ok v → v.isRelease = true) := by
  refine ⟨fun r hread v hv hholds => exists_alternative hread hv hholds, ?_⟩
  intro r hquery hconceals hapart σ h st package v hfound
  obtain ⟨q, p, hq, -, hpicks⟩ := (Resolve.searched_eq_ok_iff h st).mp hfound
  cases hquery.symm.trans hq
  exact isRelease_of_holds (Query.parse?_of_range hquery) hconceals hapart hpicks.1.holds

/-- Releases and pre-releases of one package. -/
def canaries : Rehearsal :=
  { registry := {
      packages := [("next",
        { versions := ["1.2.3-alpha", "15.0.3", "16.1.0-canary.2", "16.0.0"] })] }
    installed := []
    manifest := ⟨[]⟩ }

/-- A pre-release of `16.1.0`. -/
def canary : Version :=
  { major := 16, minor := 1, patch := 0, pre := ["canary".toList, "2".toList] }

/-- A range that names a pre-release of `16.1.0` in its second alternative. -/
def namingCanary : Range :=
  ⟨"14 - 15.x || >=16.1.0-canary.1 <17",
    [[⟨.atLeast, 14, none, none, []⟩, ⟨.atMost, 15, none, none, []⟩],
      [⟨.atLeast, 16, some 1, some 0, ["canary".toList, "1".toList]⟩,
        ⟨.below, 17, none, none, []⟩]]⟩

/-- The same range without the pre-release. -/
def namingNone : Range :=
  ⟨"14 - 15.x || >=16 <17",
    [[⟨.atLeast, 14, none, none, []⟩, ⟨.atMost, 15, none, none, []⟩],
      [⟨.atLeast, 16, none, none, []⟩, ⟨.below, 17, none, none, []⟩]]⟩

/-- The higher pre-release is found when it is named, and passed over when it is not. -/
theorem prereleases_named_canary :
    (namingCanary.holds canary = true ∧
      ∃ part ∈ (splitAlternatives "14 - 15.x || >=16.1.0-canary.1 <17".toList).map trim,
        ∃ bounds, readAlternative part = some bounds ∧ (∀ c ∈ bounds, c.holds canary = true) ∧
          Names canary part) ∧
    ∃ v, Resolve.searched Rehearsal.handler canaries "next" "14 - 15.x || >=16 <17" = .ok v ∧
      v.isRelease = true := by
  have hcanary : Range.parse? "14 - 15.x || >=16.1.0-canary.1 <17" = some namingCanary := by
    with_unfolding_all rfl
  have hholds : namingCanary.holds canary = true := by with_unfolding_all rfl
  have hnone : Query.parse? "14 - 15.x || >=16 <17" = some (.range namingNone) := by
    with_unfolding_all rfl
  have hfound : Resolve.searched Rehearsal.handler canaries "next" "14 - 15.x || >=16 <17" =
      .ok { major := 16, minor := 0, patch := 0 } := by
    with_unfolding_all rfl
  refine ⟨⟨hholds, (prereleases_named _).1 _ hcanary canary rfl hholds⟩, _, hfound, ?_⟩
  refine (prereleases_named _).2 _ hnone ?_ ?_ Rehearsal.handler canaries "next" _ hfound
  · decide +kernel
  · decide +kernel

/-- A pre-release of `1.2.3`. -/
def alpha : Version :=
  { major := 1, minor := 2, patch := 3, pre := ["alpha".toList] }

/-- A wildcard between the numbers and the suffix: no alternative has a hyphen behind a digit, and
the range holds of the pre-release all the same and a search finds it. -/
theorem unnamed_concealed :
    alpha.isRelease = false ∧
    (∃ r, Range.parse? "1.2.3.x-alpha" = some r ∧ r.holds alpha = true) ∧
    (∀ part ∈ splitAlternatives "1.2.3.x-alpha".toList, ¬ Writes alpha '-' part) ∧
    HyphensApart "1.2.3.x-alpha".toList ∧
    Resolve.searched Rehearsal.handler canaries "next" "1.2.3.x-alpha" = .ok alpha := by
  have hread : Range.parse? "1.2.3.x-alpha" =
      some ⟨"1.2.3.x-alpha", [[⟨.exact, 1, some 2, some 3, ["alpha".toList]⟩]]⟩ := by
    with_unfolding_all rfl
  refine ⟨rfl, ⟨_, hread, rfl⟩, ?_, ?_, ?_⟩
  · decide +kernel
  · decide +kernel
  · with_unfolding_all rfl

end Range

end FrameworkUpgrade
