import FrameworkUpgrade.Proofs.Range.Query

/-!
# `FrameworkUpgrade.Proofs.Range.Complement`: bounds on either side of a version

The bounds `<P` and `>=P` part the releases at the beginning of what `P` stands for, and `<=P`
and `>P` part them at its end. Exactly one of the two holds of a release then, and never both as
one alternative. `complementary` states this for every partial version with a number.

A partial version of wildcards alone stands for every release. The reader gives it no comparator
whatever the operator is, so all bounds on it hold of every release. For `>=` and `<=` that is
what is meant, and for `<` and `>` it is not: `excludes_nothing` has the bounds `<*` and `>*`.
-/

set_option autoImplicit false

namespace FrameworkUpgrade

namespace Range

open Text (isBlank trim words cut?)

/-- What the range of a text says of a version, if the text is a range. -/
def verdict (s : String) (v : Version) : Option Bool :=
  (Range.parse? s).map (·.holds v)

/-- A partial version behind an operator. -/
def boundOn (p : Written) (o : Operator) : List Char :=
  o.chars ++ p.chars

/-- Bounds on one partial version, with a space between any two. -/
def boundsOn (p : Written) (os : List Operator) : List Char :=
  List.intercalate [' '] (os.map (boundOn p))

section Bounds

variable (p : Written)

/-- With one operator there is one bound. -/
theorem boundsOn_singleton (o : Operator) : boundsOn p [o] = boundOn p o :=
  List.intercalate_singleton

/-- Bounds are parted by a space. -/
theorem boundsOn_cons_cons (o o' : Operator) (os : List Operator) :
    boundsOn p (o :: o' :: os) = boundOn p o ++ ' ' :: boundsOn p (o' :: os) := by
  simp only [boundsOn, List.map_cons, List.intercalate_cons_cons, List.append_assoc,
    List.singleton_append]

/-- The characters of a bound may stand in a word. -/
theorem mem_boundOn {o : Operator} {c : Char} (h : c ∈ boundOn p o) : c ∈ tokenChars := by
  rcases List.mem_append.mp h with h | h
  · exact o.mem_chars c h
  · exact mem_tokenChars_of_mem_versionChars (Written.mem_chars h)

/-- No character of a bound is a blank. -/
theorem isBlank_of_mem_boundOn {o : Operator} {c : Char} (h : c ∈ boundOn p o) :
    isBlank c = false :=
  (tokenChars_plain c (mem_boundOn p h)).1

/-- A bound is not empty. -/
theorem boundOn_ne_nil (o : Operator) : boundOn p o ≠ [] :=
  List.append_ne_nil_of_left_ne_nil o.chars_ne_nil _

/-- Between bounds there are spaces, and in none of them a bar or a hyphen. -/
theorem unmarked_boundsOn (os : List Operator) : Unmarked (boundsOn p os) := by
  intro c hc
  rcases Text.mem_of_mem_intercalate hc with hspace | ⟨part, hpart, hc⟩
  · rw [List.mem_singleton.mp hspace]
    decide
  · obtain ⟨o, -, rfl⟩ := List.mem_map.mp hpart
    exact (tokenChars_plain c (mem_boundOn p hc)).2

/-- A bound has no blanks to trim. -/
theorem isTrimmed_boundOn (o : Operator) : Text.IsTrimmed (boundOn p o) :=
  Text.isTrimmed_of_forall fun _ => isBlank_of_mem_boundOn p

/-- Bounds with an operator are not empty. -/
theorem boundsOn_ne_nil (o : Operator) (os : List Operator) : boundsOn p (o :: os) ≠ [] := by
  cases os with
  | nil =>
    rw [boundsOn_singleton]
    exact boundOn_ne_nil p o
  | cons o' os =>
    rw [boundsOn_cons_cons]
    exact List.append_ne_nil_of_left_ne_nil (boundOn_ne_nil p o) _

/-- Bounds have no blanks to trim. -/
theorem isTrimmed_boundsOn (os : List Operator) : Text.IsTrimmed (boundsOn p os) := by
  induction os with
  | nil => exact Text.isTrimmed_nil
  | cons o os ih =>
    cases os with
    | nil =>
      rw [boundsOn_singleton]
      exact isTrimmed_boundOn p o
    | cons o' os =>
      rw [boundsOn_cons_cons]
      exact (isTrimmed_boundOn p o).append ih (boundOn_ne_nil p o) (boundsOn_ne_nil p o' os) [' ']

/-- The words of bounds are the bounds. -/
theorem words_boundsOn (os : List Operator) : words (boundsOn p os) = os.map (boundOn p) := by
  induction os with
  | nil => rfl
  | cons o os ih =>
    have hword : ∀ c ∈ boundOn p o, isBlank c = false := fun _ => isBlank_of_mem_boundOn p
    cases os with
    | nil =>
      have hlast : words (boundOn p o ++ []) = boundOn p o :: words [] :=
        Text.words_append hword (boundOn_ne_nil p o) nofun
      rw [List.append_nil] at hlast
      rw [boundsOn_singleton, hlast]
      rfl
    | cons o' os =>
      -- The space behind the first bound ends its word.
      have hspace : ∀ c ∈ (' ' :: boundsOn p (o' :: os)).head?, isBlank c = true := by
        rintro c ⟨⟩
        decide
      rw [boundsOn_cons_cons, Text.words_append hword (boundOn_ne_nil p o) hspace,
        Text.words_blank_cons (by decide), ih]
      rfl

/-- Every bound is read as the comparator of its operator, and as none without a number. -/
theorem readWords_boundsOn (os : List Operator) :
    readWords none (os.map (boundOn p)) =
      some (os.flatMap fun o => comparators o.relation p.numbers) := by
  induction os with
  | nil => rfl
  | cons o os ih =>
    have hsplit : splitOperator (boundOn p o) = (some o.relation, p.chars) :=
      splitOperator_operator o p.head_mem_versionChars
    rw [List.map_cons, readWords_version p hsplit, ih]
    rfl

/-- Every bound has one comparator at most. -/
theorem length_comparators_boundsOn (os : List Operator) :
    (os.flatMap fun o => comparators o.relation p.numbers).length ≤ os.length := by
  induction os with
  | nil => exact Nat.le_refl 0
  | cons o os ih =>
    have hfirst := length_comparators_le o.relation p.numbers
    rw [List.flatMap_cons, List.length_append, List.length_cons]
    omega

/-- Bounds are read as their comparators, as long as there is room for these. -/
theorem readAlternative_boundsOn {os : List Operator} (hroom : os.length ≤ maxComparators) :
    readAlternative (boundsOn p os) =
      some (os.flatMap fun o => comparators o.relation p.numbers) := by
  refine readAlternative_of_words ?_ ?_ ?_
  · have hhyphen : '-' ∉ boundsOn p os := fun h => (unmarked_boundsOn p os _ h).2 rfl
    exact Text.cut?_hyphen_eq_none (Text.tight_of_not_mem hhyphen)
  · rw [words_boundsOn, readWords_boundsOn]
  · exact Nat.le_trans (length_comparators_boundsOn p os) hroom

/-- A range of bounds is read, and its one alternative has their comparators. -/
theorem parse?_boundsOn {os : List Operator} (hroom : os.length ≤ maxComparators) :
    Range.parse? (String.ofList (boundsOn p os)) =
      some ⟨String.ofList (boundsOn p os),
        [os.flatMap fun o => comparators o.relation p.numbers]⟩ := by
  have hbar : '|' ∉ boundsOn p os := fun h => (unmarked_boundsOn p os _ h).1 rfl
  rw [Range.parse?, String.toList_ofList, read?_eq, splitAlternatives_of_not_mem hbar,
    List.map_singleton, (isTrimmed_boundsOn p os).trim_eq]
  simp only [List.mapM_cons, List.mapM_nil, readAlternative_boundsOn p hroom]
  rfl

end Bounds

/-! ### What bounds on a partial version say of a release -/

/-- Of a version one of two bounds holds and the other does not, and as one alternative, in either
order, they hold of it never. -/
def Opposed (p : Written) (o o' : Operator) (v : Version) : Prop :=
  (∃ b, verdict (String.ofList (boundsOn p [o])) v = some b ∧
    verdict (String.ofList (boundsOn p [o'])) v = some (!b)) ∧
  verdict (String.ofList (boundsOn p [o, o'])) v = some false ∧
  verdict (String.ofList (boundsOn p [o', o])) v = some false

section Verdict

variable {v : Version} (hv : v.isRelease = true)
include hv

/-- The comparators of a partial version hold of a release exactly if it has no number, or admits
the release. -/
theorem comparators_hold_iff {relation : Relation} {numbers : List Nat}
    (hnumbers : numbers.length ≤ 3) :
    (∀ c ∈ comparators relation numbers, c.holds v = true) ↔
      numbers = [] ∨ Admits relation numbers v := by
  by_cases hnil : numbers = []
  · rw [hnil]
    exact ⟨fun _ => .inl rfl, fun _ => nofun⟩
  · rw [comparators_hold hnumbers (fun _ => hnil) hv, or_iff_right hnil]

/-- A release lies within all bounds, and everywhere when they have no number. -/
theorem verdict_boundsOn (p : Written) {os : List Operator} (hroom : os.length ≤ maxComparators) :
    verdict (String.ofList (boundsOn p os)) v =
      some (decide (∀ o ∈ os, p.numbers = [] ∨ Admits o.relation p.numbers v)) := by
  rw [verdict, parse?_boundsOn p hroom]
  refine congrArg some ?_
  rw [Bool.eq_iff_iff, decide_eq_true_iff]
  simp only [Range.holds, List.any_cons, List.any_nil, Bool.or_false, Comparator.allHold, hv,
    Bool.true_or, Bool.and_true, List.all_eq_true, List.forall_mem_flatMap]
  exact forall₂_congr fun o _ => comparators_hold_iff hv p.length_numbers

variable (p : Written)

/-- One bound is a range, and it holds of a release as its comparators do. -/
theorem exists_verdict (o : Operator) :
    ∃ b, verdict (String.ofList (boundsOn p [o])) v = some b ∧
      (b = true ↔ p.numbers = [] ∨ Admits o.relation p.numbers v) := by
  refine ⟨_, verdict_boundsOn hv p (by show 1 ≤ 32; omega), ?_⟩
  simp only [decide_eq_true_iff, List.mem_singleton, forall_eq]

/-- Relations that exclude each other make opposite bounds on a partial version with a number. -/
theorem opposed_of_not {p : Written} {o o' : Operator} (hnumbers : p.numbers ≠ [])
    (hnot : Admits o'.relation p.numbers v ↔ ¬ Admits o.relation p.numbers v) :
    Opposed p o o' v := by
  obtain ⟨b, hb, hadmits⟩ := exists_verdict hv p o
  obtain ⟨b', hb', hadmits'⟩ := exists_verdict hv p o'
  rw [or_iff_right hnumbers] at hadmits hadmits'
  have hopposite : b' = !b := by
    rw [Bool.eq_not, Ne, Bool.eq_iff_iff, hadmits, hadmits', hnot]
    exact not_iff_self
  have hnever : ∀ os : List Operator, o ∈ os → o' ∈ os →
      decide (∀ o ∈ os, p.numbers = [] ∨ Admits o.relation p.numbers v) = false := by
    intro os ho ho'
    refine decide_eq_false fun h => ?_
    -- Both bounds would hold, and one is what the other is not.
    have hone := (h o ho).resolve_left hnumbers
    have hother := (h o' ho').resolve_left hnumbers
    exact hnot.mp hother hone
  refine ⟨⟨b, hb, hopposite ▸ hb'⟩, ?_, ?_⟩
  · rw [verdict_boundsOn hv p (by show 2 ≤ 32; omega), hnever _ (by simp) (by simp)]
  · rw [verdict_boundsOn hv p (by show 2 ≤ 32; omega), hnever _ (by simp) (by simp)]

/-- On a partial version with a number, `>` and `<=` are opposite bounds, and so are `<` and `>=`.
On one without a number no bound excludes a release, whatever its operator is. -/
theorem complementary :
    (p.numbers ≠ [] → Opposed p .above .atMost v ∧ Opposed p .below .atLeast v) ∧
    (p.numbers = [] → ∀ os : List Operator, os.length ≤ maxComparators →
      verdict (String.ofList (boundsOn p os)) v = some true) := by
  refine ⟨fun hnumbers => ⟨?_, ?_⟩, fun hnumbers os hroom => ?_⟩
  · refine opposed_of_not hv hnumbers ?_
    show Until p.numbers v ↔ ¬ ¬ Before v.core (next p.numbers)
    rw [not_not, Until, or_iff_right hnumbers]
  · exact opposed_of_not hv hnumbers Iff.rfl
  · rw [verdict_boundsOn hv p hroom]
    refine congrArg some (decide_eq_true ?_)
    exact fun _ _ => .inl hnumbers

end Verdict

/-- The partial version `v1.4.X`. -/
def minorSeries : Written :=
  ⟨true, [1, 4], ['X'],
    List.forall_mem_cons.mpr ⟨by decide, List.forall_mem_singleton.mpr (by decide)⟩,
    rfl, by decide, by decide, fun _ => List.cons_ne_nil 1 [4]⟩

/-- `1.5.0` is above `v1.4.X`, so it is not at most that, and it is not below it but at least. -/
theorem complementary_minor :
    String.ofList (boundsOn minorSeries [.below, .atLeast]) = "<v1.4.X >=v1.4.X" ∧
    Opposed minorSeries .above .atMost { major := 1, minor := 5, patch := 0 } ∧
    Opposed minorSeries .below .atLeast { major := 1, minor := 5, patch := 0 } :=
  ⟨by decide, (complementary rfl minorSeries).1 nofun⟩

/-- Below everything, or above everything, and yet every release lies there: a bound on a wildcard
is dropped before its operator is looked at, so opposite bounds both hold. -/
theorem excludes_nothing :
    let v : Version := { major := 1, minor := 2, patch := 3 }
    (verdict ">*" v = some true ∧ verdict "<=*" v = some true) ∧
    (verdict "<*" v = some true ∧ verdict ">=*" v = some true) ∧
    verdict "<* >=*" v = some true ∧ verdict ">* <=*" v = some true := by
  with_unfolding_all decide

end Range

end FrameworkUpgrade
