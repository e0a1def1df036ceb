import FrameworkUpgrade.Text.Blank
import Mathlib.Data.List.Chain
import Mathlib.Data.List.DropRight

/-!
# `FrameworkUpgrade.Proofs.Text.Blank`: cutting text that was put together

Each cut of `FrameworkUpgrade.Text.Blank` takes apart what was put together around blanks:
`trim` gives back a text from between blanks, `words` the words from between them, and
`cut?` the two sides of a mark that does not occur before.
-/

set_option autoImplicit false

namespace FrameworkUpgrade.Text

/-! ### Trimming -/

/-- A text without a blank at either end. -/
structure IsTrimmed (cs : List Char) : Prop where
  head : ∀ c ∈ cs.head?, isBlank c = false
  last : ∀ c ∈ cs.getLast?, isBlank c = false

/-- An empty text has no blanks to trim. -/
theorem isTrimmed_nil : IsTrimmed [] := ⟨nofun, nofun⟩

/-- A text without blanks has none at its ends. -/
theorem isTrimmed_of_forall {cs : List Char} (h : ∀ c ∈ cs, isBlank c = false) :
    IsTrimmed cs where
  head c hc := h c (List.mem_of_mem_head? hc)
  last c hc := h c (List.mem_of_mem_getLast? hc)

/-- Whatever stands between two texts, the ends are those of the two. -/
theorem IsTrimmed.append {front back : List Char} (hfront : IsTrimmed front)
    (hback : IsTrimmed back) (hf : front ≠ []) (hb : back ≠ []) (middle : List Char) :
    IsTrimmed (front ++ (middle ++ back)) where
  head := by
    cases front with
    | nil => exact absurd rfl hf
    | cons c front => exact hfront.head
  last := by
    have hlast := hback.last
    rw [List.getLast?_eq_some_getLast hb] at hlast
    rw [List.getLast?_append, List.getLast?_append, List.getLast?_eq_some_getLast hb]
    exact hlast

/-- Nothing is dropped from a text whose first character stays. -/
theorem dropWhile_of_head {p : Char → Bool} {cs : List Char} (h : ∀ c ∈ cs.head?, p c = false) :
    cs.dropWhile p = cs := by
  cases cs with
  | nil => rfl
  | cons c cs => rw [List.dropWhile_cons_of_neg (by simp [h c rfl])]

/-- What was dropped from the end of a text is not there a second time. -/
theorem dropEndWhile_dropEndWhile (p : Char → Bool) (cs : List Char) :
    dropEndWhile p (dropEndWhile p cs) = dropEndWhile p cs := by
  rw [dropEndWhile, dropEndWhile, List.reverse_reverse, List.dropWhile_idempotent]

/-- Nothing is taken of a text whose first character does not belong to it. -/
theorem takeWhile_of_head {p : Char → Bool} {cs : List Char} (h : ∀ c ∈ cs.head?, p c = false) :
    cs.takeWhile p = [] := by
  cases cs with
  | nil => rfl
  | cons c cs => rw [List.takeWhile_cons_of_neg (by simp [h c rfl])]

/-- Characters of a kind are taken from a text when none of the kind follows. -/
theorem takeWhile_append_of_head {p : Char → Bool} {cs rest : List Char}
    (hcs : ∀ c ∈ cs, p c = true) (hrest : ∀ c ∈ rest.head?, p c = false) :
    (cs ++ rest).takeWhile p = cs := by
  rw [List.takeWhile_append_of_pos hcs, takeWhile_of_head hrest, List.append_nil]

/-- What belongs to the front is dropped up to the first character that does not. -/
theorem dropWhile_append_of_head {p : Char → Bool} {cs rest : List Char}
    (hcs : ∀ c ∈ cs, p c = true) (hrest : ∀ c ∈ rest.head?, p c = false) :
    (cs ++ rest).dropWhile p = rest := by
  rw [List.dropWhile_append_of_pos hcs, dropWhile_of_head hrest]

/-- The blanks around a trimmed text are what trimming takes away. -/
theorem trim_of_blanks {before cs after : List Char} (hbefore : ∀ c ∈ before, isBlank c = true)
    (hcs : IsTrimmed cs) (hafter : ∀ c ∈ after, isBlank c = true) :
    trim (before ++ cs ++ after) = cs := by
  have hreverse : ∀ c ∈ after.reverse, isBlank c = true := by
    intro c hc
    exact hafter c (List.mem_reverse.mp hc)
  rw [trim, dropEndWhile, List.append_assoc, List.dropWhile_append_of_pos hbefore]
  cases cs with
  | nil =>
    -- Nothing stands between the blanks, so those after it are dropped from the front too.
    rw [List.nil_append, ← List.append_nil after, List.dropWhile_append_of_pos hafter]
    rfl
  | cons c cs =>
    have hfront : (c :: cs ++ after).dropWhile isBlank = c :: cs ++ after :=
      dropWhile_of_head hcs.head
    have hback : (c :: cs).reverse.dropWhile isBlank = (c :: cs).reverse := by
      apply dropWhile_of_head
      rw [List.head?_reverse]
      exact hcs.last
    rw [hfront, List.reverse_append, List.dropWhile_append_of_pos hreverse, hback,
      List.reverse_reverse]

/-! ### Words -/

/-- A blank in front of a text is no part of a word. -/
theorem words_blank_cons {c : Char} (hc : isBlank c = true) (cs : List Char) :
    words (c :: cs) = words cs := by
  rw [words, List.splitOnP_cons_eq_if_modifyHead, if_pos hc,
    List.filter_cons_of_neg (by simp)]
  rfl

/-- Blanks in front of a text add no words. -/
theorem words_blanks_append {blanks : List Char} (h : ∀ c ∈ blanks, isBlank c = true)
    (cs : List Char) : words (blanks ++ cs) = words cs := by
  induction blanks with
  | nil => rfl
  | cons c blanks ih =>
    obtain ⟨hc, hblanks⟩ := List.forall_mem_cons.mp h
    rw [List.cons_append, words_blank_cons hc, ih hblanks]

/-- A word ends at the first blank, or where the text ends. -/
theorem words_append {word cs : List Char} (hword : ∀ c ∈ word, isBlank c = false)
    (hne : word ≠ []) (hcs : ∀ c ∈ cs.head?, isBlank c = true) :
    words (word ++ cs) = word :: words cs := by
  cases cs with
  | nil =>
    rw [List.append_nil, words, List.splitOnP_eq_singleton hword,
      List.filter_cons_of_pos (by simpa using hne)]
    rfl
  | cons c cs =>
    rw [words_blank_cons (hcs c rfl), words,
      List.splitOnP_append_cons_of_forall_mem hword c (hcs c rfl),
      List.filter_cons_of_pos (by simpa using hne)]
    rfl

/-! ### Cutting at a mark -/

/-- The hyphen with a blank on either side. -/
def hyphen : List Char := [' ', '-', ' ']

/-- No hyphen stands right behind a space. -/
def Tight (cs : List Char) : Prop :=
  cs.IsChain fun c d => c = ' ' → d ≠ '-'

/-- A text without a hyphen has none behind a space. -/
theorem tight_of_not_mem {cs : List Char} (h : '-' ∉ cs) : Tight cs := by
  induction cs with
  | nil => exact .nil
  | cons c cs ih =>
    rw [List.mem_cons, not_or] at h
    refine (ih h.2).cons ?_
    rintro d hd _ rfl
    exact h.2 (List.mem_of_mem_head? hd)

/-- A text without blanks has no space. -/
theorem tight_of_forall {cs : List Char} (h : ∀ c ∈ cs, isBlank c = false) : Tight cs := by
  induction cs with
  | nil => exact .nil
  | cons c cs ih =>
    obtain ⟨hc, hcs⟩ := List.forall_mem_cons.mp h
    refine (ih hcs).cons ?_
    rintro d _ rfl
    exact absurd hc (by decide)

/-- Two texts have no hyphen behind a space together, if the second does not start with one. -/
theorem Tight.append {front back : List Char} (hfront : Tight front) (hback : Tight back)
    (hhead : ∀ c ∈ back.head?, c ≠ '-') : Tight (front ++ back) :=
  List.IsChain.append hfront hback fun _ _ d hd _ => hhead d hd

/-- The hyphen does not stand where its second character does not follow the first. -/
theorem after?_hyphen_eq_none {c : Char} {cs : List Char} (h : ∀ d ∈ cs.head?, c = ' ' → d ≠ '-') :
    after? hyphen (c :: cs) = none := by
  rw [hyphen, after?]
  split
  · rename_i hc
    cases cs with
    | nil => rfl
    | cons d cs => rw [after?, if_neg (h d rfl hc.symm).symm]
  · rfl

/-- A text without a hyphen behind a space is not cut. -/
theorem cut?_hyphen_eq_none {cs : List Char} (h : Tight cs) : cut? hyphen cs = none := by
  induction cs with
  | nil => rfl
  | cons c cs ih =>
    obtain ⟨hc, hcs⟩ := List.isChain_cons.mp h
    rw [cut?, after?_hyphen_eq_none hc, ih hcs]
    rfl

/-- A text is cut at the hyphen when none stands behind a space before it. -/
theorem cut?_hyphen_append {front : List Char} (h : Tight front) (back : List Char) :
    cut? hyphen (front ++ (hyphen ++ back)) = some (front, back) := by
  induction front with
  | nil => rfl
  | cons c front ih =>
    obtain ⟨hc, hfront⟩ := List.isChain_cons.mp h
    rw [List.cons_append, cut?, after?_hyphen_eq_none, ih hfront]
    · rfl
    · -- The next character is one of the front, or the blank of the mark.
      cases front with
      | nil =>
        rintro d ⟨⟩ _
        decide
      | cons e front => exact hc

end FrameworkUpgrade.Text
