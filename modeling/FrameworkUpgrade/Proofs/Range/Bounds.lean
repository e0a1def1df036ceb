import FrameworkUpgrade.Proofs.Range.Grammar
import FrameworkUpgrade.Proofs.Text.Blank
import FrameworkUpgrade.Proofs.Text.Pieces
import FrameworkUpgrade.Proofs.Version.Number
import Mathlib.Data.Bool.AllAny

/-!
# `FrameworkUpgrade.Proofs.Range.Bounds`: written bounds are read as comparators

From the inside to the outside: the components of a partial version, the numbers of a
comparator, an operator, the words of a list of bounds. What carries over from one level to
the next is which characters occur. The characters of a version are neither blanks nor bars
nor hyphens, and none of them begins an operator.

`readWords_flatMap_tokens` states what comes of bounds one after another, and
`words_flatMap_chars` that the reader finds their words between the blanks.
-/

set_option autoImplicit false

namespace FrameworkUpgrade

namespace Range

open Text (isBlank words intercalate_cons mem_of_mem_intercalate)

/-! ### Characters -/

/-- The digits and the wildcards. -/
def componentChars : List Char :=
  ['0', '1', '2', '3', '4', '5', '6', '7', '8', '9', 'x', 'X', '*']

/-- The characters of a partial version. -/
def versionChars : List Char := '.' :: 'v' :: componentChars

/-- The characters of a bound, apart from blanks. -/
def tokenChars : List Char := '<' :: '>' :: '=' :: '^' :: '~' :: versionChars

/-- A digit may stand in a component. -/
theorem mem_componentChars_of_isDigit {c : Char} (h : c.isDigit = true) :
    c ∈ componentChars := by
  have hdigits : ∀ n ≤ 9, Char.ofNat (48 + n) ∈ componentChars := by decide
  rw [Char.isDigit, Bool.and_eq_true, decide_eq_true_eq, decide_eq_true_eq] at h
  have hlow : 48 ≤ c.toNat := h.1
  have hhigh : c.toNat ≤ 57 := h.2
  have hc := hdigits (c.toNat - 48) (by omega)
  rwa [Nat.add_sub_cancel' hlow, Char.ofNat_toNat] at hc

/-- A wildcard may stand in a component. -/
theorem mem_componentChars_of_isWildcardChar {c : Char} (h : isWildcardChar c = true) :
    c ∈ componentChars := by
  simp only [isWildcardChar, Bool.or_eq_true, beq_iff_eq] at h
  rcases h with (rfl | rfl) | rfl <;> decide

/-- A digit is no wildcard. -/
theorem isWildcardChar_of_isDigit {c : Char} (h : c.isDigit = true) : isWildcardChar c = false := by
  simp only [isWildcardChar, Bool.or_eq_false_iff, beq_eq_false_iff_ne]
  refine ⟨⟨?_, ?_⟩, ?_⟩ <;>
  · rintro rfl
    exact absurd h (by decide)

/-- What may stand in a version may stand in a word. -/
theorem mem_tokenChars_of_mem_versionChars {c : Char} (h : c ∈ versionChars) :
    c ∈ tokenChars := by
  simp only [tokenChars, List.mem_cons, h, or_true]

/-- No token has a blank, a bar or a hyphen. -/
theorem tokenChars_plain : ∀ c ∈ tokenChars, isBlank c = false ∧ c ≠ '|' ∧ c ≠ '-' :=
  List.all_iff_forall_prop.mp (by decide)

/-- A text without a bar or a hyphen. -/
def Unmarked (cs : List Char) : Prop :=
  ∀ c ∈ cs, c ≠ '|' ∧ c ≠ '-'

/-- Two texts without a bar or a hyphen have none together. -/
theorem Unmarked.append {front back : List Char} (hfront : Unmarked front)
    (hback : Unmarked back) : Unmarked (front ++ back) := by
  intro c hc
  rcases List.mem_append.mp hc with hc | hc
  · exact hfront c hc
  · exact hback c hc

/-- The blanks of a gap are no bars and no hyphens. -/
theorem Gap.unmarked (gap : Gap) : Unmarked gap.chars := by
  intro c hc
  have hblank := gap.blank c hc
  constructor
  · rintro rfl
    exact absurd hblank (by decide)
  · rintro rfl
    exact absurd hblank (by decide)

/-! ### Partial versions -/

namespace Written

/-- The wildcards of a partial version are such characters. -/
theorem isWildcardChar_of_mem (p : Written) {w : Char} (h : w ∈ p.wildcards) :
    isWildcardChar w = true :=
  List.all_eq_true.mp p.wild w h

/-- A component is not empty and has only digits and wildcards. -/
theorem component_plain (p : Written) {part : List Char} (h : part ∈ p.components) :
    part ≠ [] ∧ ∀ c ∈ part, c ∈ componentChars := by
  rcases List.mem_append.mp h with h | h
  · obtain ⟨n, _, rfl⟩ := List.mem_map.mp h
    exact ⟨Version.numberChars_ne_nil n, fun c hc =>
      mem_componentChars_of_isDigit (Version.isDigit_of_mem_numberChars hc)⟩
  · obtain ⟨w, hw, rfl⟩ := List.mem_map.mp h
    refine ⟨List.cons_ne_nil _ _, fun c hc => ?_⟩
    rw [List.mem_singleton.mp hc]
    exact mem_componentChars_of_isWildcardChar (p.isWildcardChar_of_mem hw)

/-- A partial version has three numbers at most. -/
theorem length_numbers (p : Written) : p.numbers.length ≤ 3 :=
  Nat.le_of_add_right_le p.atMostThree

/-- A partial version has a component, if only a wildcard. -/
theorem components_ne_nil (p : Written) : p.components ≠ [] := by
  have hlength : 0 < p.components.length := by
    rw [components, List.length_append, List.length_map, List.length_map]
    exact p.atLeastOne
  exact List.ne_nil_of_length_pos hlength

/-- The components of a partial version with dots between them. -/
def body (p : Written) : List Char :=
  List.intercalate ['.'] p.components

/-- A character of the body is a dot or part of a component. -/
theorem mem_body {p : Written} {c : Char} (h : c ∈ p.body) : c = '.' ∨ c ∈ componentChars := by
  rcases mem_of_mem_intercalate h with h | ⟨part, hpart, h⟩
  · exact .inl (List.mem_singleton.mp h)
  · exact .inr ((p.component_plain hpart).2 c h)

/-- The characters of a partial version may stand in a version. -/
theorem mem_chars {p : Written} {c : Char} (h : c ∈ p.chars) : c ∈ versionChars := by
  rcases List.mem_append.mp h with h | h
  · rw [markChars] at h
    split at h
    · rw [List.mem_singleton.mp h]
      decide
    · cases h
  · rcases mem_body h with rfl | h
    · decide
    · simp only [versionChars, List.mem_cons, h, or_true]

/-- No character of a partial version is a blank. -/
theorem isBlank_eq_false {p : Written} {c : Char} (h : c ∈ p.chars) : isBlank c = false :=
  (tokenChars_plain c (mem_tokenChars_of_mem_versionChars (mem_chars h))).1

/-- No character of a partial version is a bar or a hyphen. -/
theorem unmarked (p : Written) : Unmarked p.chars := fun c hc =>
  (tokenChars_plain c (mem_tokenChars_of_mem_versionChars (mem_chars hc))).2

/-- A partial version has no blanks to trim. -/
theorem isTrimmed (p : Written) : Text.IsTrimmed p.chars :=
  Text.isTrimmed_of_forall fun _ => isBlank_eq_false

/-- The body begins with a component. -/
theorem body_eq (p : Written) : ∃ part rest, part ∈ p.components ∧ p.body = part ++ rest := by
  rw [body]
  cases hcomponents : p.components with
  | nil => exact absurd hcomponents p.components_ne_nil
  | cons part parts => exact ⟨part, _, List.mem_cons_self, intercalate_cons _ _ _⟩

/-- The body of a partial version is not empty. -/
theorem body_ne_nil (p : Written) : p.body ≠ [] := by
  obtain ⟨part, rest, hpart, hbody⟩ := p.body_eq
  rw [hbody]
  exact List.append_ne_nil_of_left_ne_nil (p.component_plain hpart).1 rest

/-- The text of a partial version is not empty. -/
theorem chars_ne_nil (p : Written) : p.chars ≠ [] :=
  List.append_ne_nil_of_right_ne_nil _ p.body_ne_nil

/-- The mark of a version is not in the body, so there is only one to drop. -/
theorem not_mem_body (p : Written) : 'v' ∉ p.body := by
  intro h
  rcases mem_body h with h | h
  · exact absurd h (by decide)
  · exact absurd h (by decide)

/-- The mark is dropped and nothing else. -/
theorem dropMark_chars (p : Written) : dropMark p.chars = p.body := by
  cases hmarked : p.marked with
  | false =>
    have hchars : p.chars = p.body := by
      rw [chars, markChars, hmarked]
      rfl
    rw [hchars, dropMark]
    intro c rest hbody
    exact p.not_mem_body (hbody ▸ List.mem_cons_self)
  | true =>
    have hchars : p.chars = 'v' :: p.body := by
      rw [chars, markChars, hmarked]
      rfl
    -- A marked version begins with a number, and so with a digit.
    obtain ⟨n, ns, hnumbers⟩ := List.exists_cons_of_ne_nil (p.markedNumber hmarked)
    obtain ⟨c, cs, hn⟩ := List.exists_cons_of_ne_nil (Version.numberChars_ne_nil n)
    have hdigit : c.isDigit = true :=
      Version.isDigit_of_mem_numberChars (hn ▸ List.mem_cons_self)
    have hbody : ∃ rest, p.body = c :: rest := by
      rw [body, components, hnumbers, List.map_cons, hn, List.cons_append, intercalate_cons]
      exact ⟨_, rfl⟩
    obtain ⟨rest, hbody⟩ := hbody
    rw [hchars, hbody, dropMark, if_pos hdigit]

/-- The components are found between the dots. -/
theorem splitOn_body (p : Written) : p.body.splitOn '.' = p.components := by
  -- No component has a dot of its own.
  refine List.splitOn_intercalate '.' (fun part hpart hmem => ?_) p.components_ne_nil
  exact absurd ((p.component_plain hpart).2 '.' hmem) (by decide)

/-- A number is no wildcard. -/
theorem isWildcard_numberChars (n : Nat) : isWildcard (Version.numberChars n) = false := by
  have hdigits := @Version.isDigit_of_mem_numberChars n
  unfold isWildcard
  split
  · rename_i c hc
    exact isWildcardChar_of_isDigit (hdigits (hc ▸ List.mem_cons_self))
  · rfl

/-- The numbers are read up to the first wildcard. -/
theorem readNumbers_components (p : Written) :
    Partial.readNumbers p.components = some (p.numbers.map Version.numberChars) := by
  rw [components]
  induction p.numbers with
  | nil =>
    -- Behind the numbers there is nothing, or a wildcard, at which the reader stops.
    cases hwildcards : p.wildcards with
    | nil => rfl
    | cons w ws =>
      have hw : isWildcard [w] = true :=
        p.isWildcardChar_of_mem (hwildcards ▸ List.mem_cons_self)
      rw [List.map_cons, List.map_nil, List.nil_append, Partial.readNumbers, if_pos hw]
  | cons n ns ih =>
    have hdigits : (Version.numberChars n).all Char.isDigit = true :=
      List.all_eq_true.mpr fun c hc => Version.isDigit_of_mem_numberChars hc
    rw [List.map_cons, List.cons_append, Partial.readNumbers, isWildcard_numberChars, hdigits, ih]
    simp [Version.numberChars_ne_nil]

/-- A partial version is read as its numbers. -/
theorem read?_chars (p : Written) :
    Partial.read? p.chars = some ⟨p.numbers.map Version.numberChars, []⟩ := by
  have hbody : ∀ c ∈ p.body, (!Partial.startsSuffix c) = true := by
    have hplain : ∀ c ∈ '.' :: componentChars, (!Partial.startsSuffix c) = true :=
      List.all_eq_true.mp (by decide)
    intro c hc
    exact hplain c (List.mem_cons.mpr (mem_body hc))
  -- Without a suffix the whole body is split at its dots.
  have hfront : p.body.takeWhile (! Partial.startsSuffix ·) = p.body := by
    rw [← List.append_nil p.body, List.takeWhile_append_of_pos hbody, List.takeWhile_nil]
  have hsuffix : p.body.dropWhile (! Partial.startsSuffix ·) = [] := by
    rw [← List.append_nil p.body, List.dropWhile_append_of_pos hbody, List.dropWhile_nil]
  rw [Partial.read?, p.dropMark_chars]
  simp only [hfront, hsuffix, p.splitOn_body, p.readNumbers_components]
  simp

end Written

/-! ### Comparators -/

/-- A number behind a dot is read as a component if it is below the bound, and else nothing is
read. -/
theorem readComponent_number (part : Version.Part) (n : Nat) (rest : List Char)
    (hrest : ∀ c ∈ rest.head?, c.isDigit = false) :
    readComponent part ('.' :: (Version.numberChars n ++ rest)) =
      if n < Version.numberBound then some (.number n, rest) else none := by
  have hread := Version.readNumber_numberChars_eq part n rest hrest
  obtain ⟨c, cs, hdigits⟩ := List.exists_cons_of_ne_nil (Version.numberChars_ne_nil n)
  have hdigit : c.isDigit = true :=
    Version.isDigit_of_mem_numberChars (hdigits ▸ List.mem_cons_self)
  have hwild := isWildcardChar_of_isDigit hdigit
  rw [hdigits, List.cons_append] at hread ⊢
  rw [readComponent, hwild, if_neg Bool.false_ne_true, hread]
  split <;> rfl

/-- Numbers with dots between them are read as one comparator, unless one is too large. -/
theorem readComparator_numbers (relation : Relation) (major : Nat) {rest : List Nat}
    (hrest : rest.length ≤ 2) :
    readComparator (some relation)
      (List.intercalate ['.'] ((major :: rest).map Version.numberChars)) =
        if ∀ n ∈ major :: rest, n < Version.numberBound then
          some (comparator relation major rest, [])
        else none := by
  -- A dot ends a number, and so does the end of the text.
  have hdot (cs : List Char) : ∀ c ∈ ('.' :: cs).head?, c.isDigit = false := by
    rintro c ⟨⟩
    decide
  match rest, hrest with
  | [], _ =>
    have h₁ := Version.readNumber_numberChars_eq .major major [] nofun
    rw [List.append_nil] at h₁
    rw [List.map_cons, List.map_nil, List.intercalate_singleton, readComparator, h₁]
    by_cases hmajor : major < Version.numberBound
    · rw [if_pos hmajor, if_pos (by simpa using hmajor)]
      rfl
    · rw [if_neg hmajor, if_neg (by simpa using hmajor)]
      rfl
  | [minor], _ =>
    have h₁ := Version.readNumber_numberChars_eq .major major _ (hdot (Version.numberChars minor))
    have h₂ := readComponent_number .minor minor [] nofun
    rw [List.append_nil] at h₂
    rw [List.map_cons, List.map_singleton, List.intercalate_cons_cons,
      List.intercalate_singleton, List.append_assoc, List.singleton_append, readComparator, h₁]
    by_cases hmajor : major < Version.numberBound
    · rw [if_pos hmajor]
      show (readComponent .minor _ >>= _) = _
      rw [h₂]
      by_cases hminor : minor < Version.numberBound
      · rw [if_pos hminor, if_pos (by simp [hmajor, hminor])]
        rfl
      · rw [if_neg hminor, if_neg (by simp [hminor])]
        rfl
    · rw [if_neg hmajor, if_neg (by simp [hmajor])]
      rfl
  | [minor, patch], _ =>
    have h₁ := Version.readNumber_numberChars_eq .major major _
      (hdot (Version.numberChars minor ++ '.' :: Version.numberChars patch))
    have h₂ := readComponent_number .minor minor _ (hdot (Version.numberChars patch))
    have h₃ := readComponent_number .patch patch [] nofun
    rw [List.append_nil] at h₃
    rw [List.map_cons, List.map_cons, List.map_singleton, List.intercalate_cons_cons,
      List.intercalate_cons_cons, List.intercalate_singleton, List.append_assoc,
      List.append_assoc, List.singleton_append, List.singleton_append, readComparator, h₁]
    by_cases hmajor : major < Version.numberBound
    · rw [if_pos hmajor]
      show (readComponent .minor _ >>= _) = _
      rw [h₂]
      by_cases hminor : minor < Version.numberBound
      · rw [if_pos hminor]
        show (readComponent .patch _ >>= _) = _
        rw [h₃]
        by_cases hpatch : patch < Version.numberBound
        · rw [if_pos hpatch, if_pos (by simp [hmajor, hminor, hpatch])]
          rfl
        · rw [if_neg hpatch, if_neg (by simp [hpatch])]
          rfl
      · rw [if_neg hminor, if_neg (by simp [hminor])]
        rfl
    · rw [if_neg hmajor, if_neg (by simp [hmajor])]
      rfl

/-- The numbers of a partial version are read as its comparators, unless one is too large. -/
theorem boundBy_numbers (relation : Relation) {numbers : List Nat} (hlength : numbers.length ≤ 3) :
    boundBy relation ⟨numbers.map Version.numberChars, []⟩ =
      if ∀ n ∈ numbers, n < Version.numberBound then some (comparators relation numbers)
      else none := by
  cases numbers with
  | nil =>
    rw [if_pos nofun]
    rfl
  | cons major rest =>
    have hread := readComparator_numbers relation major (Nat.le_of_succ_le_succ hlength)
    rw [boundBy, Partial.chars, List.append_nil]
    show readComparators maxComparators (some relation) _ = _
    rw [maxComparators, readComparators, hread]
    by_cases hbound : ∀ n ∈ major :: rest, n < Version.numberBound
    · rw [if_pos hbound, if_pos hbound]
      rfl
    · rw [if_neg hbound, if_neg hbound]

/-- The numbers of a written version are below the bound, so none is too large. -/
theorem Written.boundBy_numbers (relation : Relation) (p : Written) :
    boundBy relation ⟨p.numbers.map Version.numberChars, []⟩ =
      some (comparators relation p.numbers) := by
  rw [Range.boundBy_numbers relation p.length_numbers, if_pos p.bounded]

/-! ### Operators -/

/-- No character of a version belongs to an operator. -/
theorem versionChars_plain :
    ∀ c ∈ versionChars, c ≠ '<' ∧ c ≠ '>' ∧ c ≠ '=' ∧ c ≠ '^' ∧ c ≠ '~' :=
  List.all_iff_forall_prop.mp (by decide)

/-- An operator before a version is taken off. -/
theorem splitOperator_operator (o : Operator) {cs : List Char}
    (hcs : ∀ c ∈ cs.head?, c ∈ versionChars) :
    splitOperator (o.chars ++ cs) = (some o.relation, cs) := by
  cases cs with
  | nil => cases o <;> rfl
  | cons c cs =>
    obtain ⟨_, hgreater, hequals, _, _⟩ := versionChars_plain c (hcs c rfl)
    cases o <;> simp [Operator.chars, Operator.relation, splitOperator, hgreater, hequals]

/-- A version has no operator to take off. -/
theorem splitOperator_version {cs : List Char} (hcs : ∀ c ∈ cs.head?, c ∈ versionChars) :
    splitOperator cs = (none, cs) := by
  cases cs with
  | nil => rfl
  | cons c cs =>
    obtain ⟨hless, hgreater, hequals, hcaret, htilde⟩ := versionChars_plain c (hcs c rfl)
    simp [splitOperator, hless, hgreater, hequals, hcaret, htilde]

/-! ### Words -/

/-- A partial version starts with a character of versions. -/
theorem Written.head_mem_versionChars (p : Written) : ∀ c ∈ p.chars.head?, c ∈ versionChars :=
  fun _ hc => Written.mem_chars (List.mem_of_mem_head? hc)

namespace Operator

/-- The characters of an operator may stand in a word. -/
theorem mem_chars (o : Operator) : ∀ c ∈ o.chars, c ∈ tokenChars := by
  refine List.all_iff_forall_prop.mp ?_
  cases o <;> decide

/-- The text of an operator is not empty. -/
theorem chars_ne_nil (o : Operator) : o.chars ≠ [] := by
  cases o <;> nofun

/-- No character of an operator is a blank. -/
theorem isBlank_eq_false {o : Operator} {c : Char} (h : c ∈ o.chars) : isBlank c = false :=
  (tokenChars_plain c (o.mem_chars c h)).1

/-- No character of an operator is a bar or a hyphen. -/
theorem unmarked (o : Operator) : Unmarked o.chars := fun c hc =>
  (tokenChars_plain c (o.mem_chars c hc)).2

end Operator

/-- A word with a partial version: an operator that waits comes into its own unless the word has
one. -/
theorem readWords_cons {waiting operator : Option Relation} {word rest : List Char}
    {words : List (List Char)} {p : Partial} {bounds : List Comparator}
    (h : splitOperator word = (operator, rest)) (hne : rest ≠ [])
    (hread : Partial.read? rest = some p)
    (hbounds : boundBy ((operator <|> waiting).getD .exact) p = some bounds) :
    readWords waiting (word :: words) = (readWords none words).map (bounds ++ ·) := by
  rw [readWords, h]
  split
  · rename_i heq
    exact absurd (congrArg Prod.snd heq) hne
  · rename_i heq
    cases heq
    rw [hread]
    show (boundBy _ _ >>= _) = _
    rw [hbounds]
    cases readWords none words with
    | none => rfl
    | some others => rfl

/-- A word with the numbers of a bound. -/
theorem readWords_version {waiting operator : Option Relation} {word : List Char}
    {words : List (List Char)} (p : Written) (h : splitOperator word = (operator, p.chars)) :
    readWords waiting (word :: words) = (readWords none words).map
      (comparators ((operator <|> waiting).getD .exact) p.numbers ++ ·) :=
  readWords_cons h p.chars_ne_nil p.read?_chars (p.boundBy_numbers _)

/-- An operator that is a word waits for the next one. -/
theorem readWords_operator {waiting : Option Relation} {words : List (List Char)}
    (o : Operator) : readWords waiting (o.chars :: words) = readWords (some o.relation) words := by
  have h : splitOperator (o.chars ++ []) = (some o.relation, []) :=
    splitOperator_operator o nofun
  rw [List.append_nil] at h
  rw [readWords, h]

/-! ### An operator before a word -/

/-- A word, perhaps with an operator and blanks before it. -/
def boundChars (operator : Option (Operator × Gap)) (word : List Char) : List Char :=
  match operator with
  | none => word
  | some (operator, gap) => operator.chars ++ gap.chars ++ word

/-- The words of a word with an operator before it. -/
def boundTokens (operator : Option (Operator × Gap)) (word : List Char) : List (List Char) :=
  match operator with
  | none => [word]
  | some (operator, gap) =>
    if gap.chars = [] then [operator.chars ++ word] else [operator.chars, word]

/-- The relation of an operator before a word. Without an operator it is equality. -/
def relationOf (operator : Option (Operator × Gap)) : Relation :=
  (operator.map fun o => o.1.relation).getD .exact

section Operator

variable (operator : Option (Operator × Gap)) {word : List Char}

/-- A bound on a word is not empty. -/
theorem boundChars_ne_nil (hne : word ≠ []) : boundChars operator word ≠ [] := by
  unfold boundChars
  split
  · exact hne
  · exact List.append_ne_nil_of_right_ne_nil _ hne

/-- A bound has no blanks to trim: they are between the operator and the word. -/
theorem isTrimmed_boundChars (hword : ∀ c ∈ word, isBlank c = false) (hne : word ≠ []) :
    Text.IsTrimmed (boundChars operator word) := by
  have htrimmed : Text.IsTrimmed word := Text.isTrimmed_of_forall hword
  unfold boundChars
  split
  · exact htrimmed
  · rename_i o gap
    rw [List.append_assoc]
    exact (Text.isTrimmed_of_forall fun _ => Operator.isBlank_eq_false).append htrimmed
      o.chars_ne_nil hne gap.chars

/-- The words of a bound are found at the front of a text. -/
theorem words_boundChars (hword : ∀ c ∈ word, isBlank c = false) (hne : word ≠ [])
    {cs : List Char} (hcs : ∀ c ∈ cs.head?, isBlank c = true) :
    words (boundChars operator word ++ cs) = boundTokens operator word ++ words cs := by
  have hlast : words (word ++ cs) = word :: words cs := Text.words_append hword hne hcs
  cases operator with
  | none => exact hlast
  | some o =>
    obtain ⟨o, gap⟩ := o
    have hoperator : ∀ c ∈ o.chars, isBlank c = false := fun c => Operator.isBlank_eq_false
    rw [boundChars, boundTokens]
    split
    · -- The operator and the word behind it are one word.
      rename_i hgap
      rw [hgap, List.append_nil, Text.words_append _ _ hcs]
      · rfl
      · exact List.forall_mem_append.mpr ⟨hoperator, hword⟩
      · exact List.append_ne_nil_of_left_ne_nil o.chars_ne_nil _
    · -- The blanks between them end the word of the operator.
      rename_i hgap
      have hblank : ∀ c ∈ (gap.chars ++ (word ++ cs)).head?, isBlank c = true := by
        obtain ⟨d, ds, hgap⟩ := List.exists_cons_of_ne_nil hgap
        rw [hgap]
        rintro c ⟨⟩
        exact gap.blank d (hgap ▸ List.mem_cons_self)
      rw [List.append_assoc, List.append_assoc, Text.words_append hoperator o.chars_ne_nil hblank,
        Text.words_blanks_append gap.blank, hlast]
      rfl

/-- The words of a bound are read as its comparators. -/
theorem readWords_boundTokens (hhead : ∀ c ∈ word.head?, c ∈ versionChars) (hne : word ≠ [])
    {p : Partial} (hread : Partial.read? word = some p) {bounds : List Comparator}
    (hbounds : boundBy (relationOf operator) p = some bounds) (words : List (List Char)) :
    readWords none (boundTokens operator word ++ words) =
      (readWords none words).map (bounds ++ ·) := by
  cases operator with
  | none => exact readWords_cons (splitOperator_version hhead) hne hread hbounds
  | some o =>
    obtain ⟨o, gap⟩ := o
    rw [boundTokens]
    split
    · exact readWords_cons (splitOperator_operator o hhead) hne hread hbounds
    · -- The operator is a word of its own, and waits for that of the version.
      show readWords none (o.chars :: word :: words) = _
      rw [readWords_operator]
      exact readWords_cons (splitOperator_version hhead) hne hread hbounds

end Operator

/-! ### Texts with blanks between them -/

section Separated

variable {β : Type} {chars : β → List Char}

/-- What comes after the first text begins with a blank. -/
theorem head_separated (rest : List (Separator × β)) :
    ∀ c ∈ (rest.flatMap fun x => x.1.chars ++ chars x.2).head?, isBlank c = true := by
  cases rest with
  | nil => nofun
  | cons x rest =>
    obtain ⟨d, ds, hchars⟩ := List.exists_cons_of_ne_nil x.1.nonempty
    rw [List.flatMap_cons, hchars]
    rintro c ⟨⟩
    exact x.1.blank d (hchars ▸ List.mem_cons_self)

/-- The words are those of the texts, when they are found at the front of each. -/
theorem words_separated {tokens : β → List (List Char)}
    (htokens : ∀ b cs, (∀ c ∈ cs.head?, isBlank c = true) →
      words (chars b ++ cs) = tokens b ++ words cs) (rest : List (Separator × β)) :
    words (rest.flatMap fun x => x.1.chars ++ chars x.2) =
      (rest.map Prod.snd).flatMap tokens := by
  induction rest with
  | nil => rfl
  | cons x rest ih =>
    rw [List.flatMap_cons, List.append_assoc, Text.words_blanks_append x.1.blank,
      htokens x.2 _ (head_separated rest), ih, List.map_cons, List.flatMap_cons]

/-- The ends are those of the first text and of the last. -/
theorem isTrimmed_separated (htrimmed : ∀ b, Text.IsTrimmed (chars b))
    (hne : ∀ b, chars b ≠ []) (b : β) (rest : List (Separator × β)) :
    Text.IsTrimmed (chars b ++ rest.flatMap fun x => x.1.chars ++ chars x.2) := by
  induction rest generalizing b with
  | nil =>
    rw [List.flatMap_nil, List.append_nil]
    exact htrimmed b
  | cons x rest ih =>
    rw [List.flatMap_cons, List.append_assoc]
    exact (htrimmed b).append (ih x.2) (hne b)
      (List.append_ne_nil_of_left_ne_nil (hne x.2) _) x.1.chars

end Separated

/-! ### Bounds -/

namespace WrittenBound

/-- The words of a bound. -/
def tokens (b : WrittenBound) : List (List Char) :=
  match b.operator with
  | none => [b.version.chars]
  | some (operator, gap) =>
    if gap.chars = [] then [operator.chars ++ b.version.chars]
    else [operator.chars, b.version.chars]

/-- The comparators of a bound. -/
def comparators (b : WrittenBound) : List Comparator :=
  Range.comparators b.relation b.version.numbers

/-- The words of a bound are read as its comparators, and the other words after them. -/
theorem readWords_tokens (b : WrittenBound) (words : List (List Char)) :
    readWords none (b.tokens ++ words) = (readWords none words).map (b.comparators ++ ·) := by
  have hread := readWords_boundTokens b.operator b.version.head_mem_versionChars
    b.version.chars_ne_nil b.version.read?_chars (b.version.boundBy_numbers _) words
  obtain ⟨operator, version, numbered⟩ := b
  cases operator with
  | none => exact hread
  | some o => exact hread

/-- The text of a bound is not empty. -/
theorem chars_ne_nil (b : WrittenBound) : b.chars ≠ [] :=
  boundChars_ne_nil b.operator b.version.chars_ne_nil

/-- The words of a bound are found at the front of a text. -/
theorem words_chars (b : WrittenBound) {cs : List Char}
    (hcs : ∀ c ∈ cs.head?, isBlank c = true) : words (b.chars ++ cs) = b.tokens ++ words cs :=
  words_boundChars b.operator (fun _ => Written.isBlank_eq_false) b.version.chars_ne_nil hcs

/-- No character of a bound is a bar or a hyphen. -/
theorem unmarked (b : WrittenBound) : Unmarked b.chars := by
  rw [chars]
  split
  · exact b.version.unmarked
  · rename_i o gap _
    exact (o.unmarked.append gap.unmarked).append b.version.unmarked

/-- A bound has no blanks to trim. -/
theorem isTrimmed (b : WrittenBound) : Text.IsTrimmed b.chars :=
  isTrimmed_boundChars b.operator (fun _ => Written.isBlank_eq_false) b.version.chars_ne_nil

/-- Bounds are read one after another. -/
theorem readWords_flatMap_tokens (bs : List WrittenBound) :
    readWords none (bs.flatMap tokens) = some (bs.flatMap comparators) := by
  induction bs with
  | nil => rfl
  | cons b bs ih =>
    rw [List.flatMap_cons, readWords_tokens, ih]
    rfl

/-- A bound holds of the releases that it admits. -/
theorem comparators_hold (b : WrittenBound) {v : Version} (hv : v.isRelease = true) :
    (∀ c ∈ b.comparators, c.holds v = true) ↔ b.Admits v := by
  refine Range.comparators_hold b.version.length_numbers (fun h => ?_) hv
  obtain ⟨operator, version, numbered⟩ := b
  cases operator with
  | none => cases h
  | some o =>
    refine numbered o rfl ?_
    obtain ⟨o, gap⟩ := o
    cases o with
    | below => rfl
    | _ => cases h

/-- Every bound has one comparator at most. -/
theorem length_flatMap_comparators (bs : List WrittenBound) :
    (bs.flatMap comparators).length ≤ bs.length := by
  induction bs with
  | nil => exact Nat.le_refl 0
  | cons b bs ih =>
    have hb : b.comparators.length ≤ 1 := length_comparators_le _ _
    rw [List.flatMap_cons, List.length_append, List.length_cons]
    omega

/-- The words of bounds with separators between them are those of the bounds. -/
theorem words_flatMap_chars (rest : List (Separator × WrittenBound)) :
    words (rest.flatMap fun x => x.1.chars ++ x.2.chars) =
      (rest.map Prod.snd).flatMap tokens :=
  words_separated (fun b _ => b.words_chars) rest

/-- No character of bounds with separators between them is a bar or a hyphen. -/
theorem unmarked_flatMap_chars (rest : List (Separator × WrittenBound)) :
    Unmarked (rest.flatMap fun x => x.1.chars ++ x.2.chars) := by
  induction rest with
  | nil => nofun
  | cons x rest ih => exact (x.1.toGap.unmarked.append x.2.unmarked).append ih

end WrittenBound

end Range

end FrameworkUpgrade
