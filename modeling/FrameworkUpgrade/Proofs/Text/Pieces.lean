import FrameworkUpgrade.Proofs.Text.Blank
import Mathlib.Data.List.TakeWhile

/-!
# `FrameworkUpgrade.Proofs.Text.Pieces`: what is cut from a text

The other direction of `FrameworkUpgrade.Proofs.Text.Blank`: a text is put together again from
the pieces that a cut leaves. Of each piece it is said which characters it holds.
-/

set_option autoImplicit false

namespace FrameworkUpgrade.Text

/-! ### Parts between separators -/

/-- Of parts with a separator between them, each but the first stands behind one. -/
theorem intercalate_cons (separator part : List Char) (parts : List (List Char)) :
    List.intercalate separator (part :: parts) = part ++ parts.flatMap (separator ++ ·) := by
  induction parts generalizing part with
  | nil => rw [List.intercalate_singleton, List.flatMap_nil, List.append_nil]
  | cons next parts ih =>
    rw [List.intercalate_cons_cons, ih, List.flatMap_cons, List.append_assoc, List.append_assoc]

/-- A character between parts is of the separator or of a part. -/
theorem mem_of_mem_intercalate {separator : List Char} {parts : List (List Char)} {c : Char}
    (h : c ∈ List.intercalate separator parts) : c ∈ separator ∨ ∃ part ∈ parts, c ∈ part := by
  cases parts with
  | nil => cases h
  | cons part parts =>
    rw [intercalate_cons, List.mem_append, List.mem_flatMap] at h
    rcases h with h | ⟨other, hother, h⟩
    · exact .inr ⟨part, List.mem_cons_self, h⟩
    · rcases List.mem_append.mp h with h | h
      · exact .inl h
      · exact .inr ⟨other, List.mem_cons_of_mem part hother, h⟩

/-- Every part stands in the text that is put together of them. -/
theorem infix_intercalate_of_mem {separator part : List Char} {parts : List (List Char)}
    (h : part ∈ parts) : part <:+: List.intercalate separator parts := by
  induction parts with
  | nil => cases h
  | cons first parts ih =>
    rcases List.mem_cons.mp h with rfl | h
    · rw [intercalate_cons]
      exact (List.prefix_append _ _).isInfix
    · obtain ⟨next, others, rfl⟩ := List.exists_cons_of_ne_nil (List.ne_nil_of_mem h)
      rw [List.intercalate_cons_cons]
      exact (ih h).trans (List.suffix_append _ _).isInfix

/-- A part between two marks holds characters of the text, and no mark. -/
theorem mem_of_mem_splitOnP {p : Char → Bool} {cs part : List Char} {c : Char}
    (hpart : part ∈ cs.splitOnP p) (hc : c ∈ part) : c ∈ cs ∧ p c = false := by
  induction cs generalizing part with
  | nil =>
    rw [List.splitOnP_nil, List.mem_singleton] at hpart
    rw [hpart] at hc
    cases hc
  | cons d cs ih =>
    rw [List.splitOnP_cons_eq_if_modifyHead] at hpart
    split at hpart
    · rcases List.mem_cons.mp hpart with rfl | hpart
      · cases hc
      · obtain ⟨hmem, hplain⟩ := ih hpart hc
        exact ⟨List.mem_cons_of_mem _ hmem, hplain⟩
    · rename_i hd
      -- The first part of the rest has the character put before it.
      obtain ⟨first, others, hsplit⟩ := List.exists_cons_of_ne_nil (List.splitOnP_ne_nil p cs)
      rw [hsplit, List.modifyHead_cons] at hpart
      rcases List.mem_cons.mp hpart with rfl | hpart
      · rcases List.mem_cons.mp hc with rfl | hc
        · exact ⟨List.mem_cons_self, by simpa using hd⟩
        · have hfirst : first ∈ cs.splitOnP p := by rw [hsplit]; exact List.mem_cons_self
          obtain ⟨hmem, hplain⟩ := ih hfirst hc
          exact ⟨List.mem_cons_of_mem _ hmem, hplain⟩
      · have hother : part ∈ cs.splitOnP p := by
          rw [hsplit]
          exact List.mem_cons_of_mem _ hpart
        obtain ⟨hmem, hplain⟩ := ih hother hc
        exact ⟨List.mem_cons_of_mem _ hmem, hplain⟩

/-- A character of a part is one of the text and not the mark. -/
theorem mem_of_mem_splitOn {mark : Char} {cs part : List Char} {c : Char}
    (hpart : part ∈ cs.splitOn mark) (hc : c ∈ part) : c ∈ cs ∧ c ≠ mark := by
  rw [List.splitOn_eq_splitOnP] at hpart
  obtain ⟨hmem, hplain⟩ := mem_of_mem_splitOnP hpart hc
  exact ⟨hmem, by simpa using hplain⟩

/-! ### Trimming and cutting -/

/-- What trimming takes away are the blanks around the text that it leaves. -/
theorem exists_trim (cs : List Char) :
    ∃ before after, cs = before ++ trim cs ++ after ∧
      (∀ c ∈ before, isBlank c = true) ∧ ∀ c ∈ after, isBlank c = true := by
  refine ⟨cs.takeWhile isBlank, ((cs.dropWhile isBlank).reverse.takeWhile isBlank).reverse, ?_,
    fun c hc => List.mem_takeWhile_imp hc, fun c hc => ?_⟩
  · have hback : (cs.dropWhile isBlank) =
        trim cs ++ ((cs.dropWhile isBlank).reverse.takeWhile isBlank).reverse := by
      rw [trim, dropEndWhile, ← List.reverse_append, List.takeWhile_append_dropWhile,
        List.reverse_reverse]
    rw [List.append_assoc, ← hback, List.takeWhile_append_dropWhile]
  · exact List.mem_takeWhile_imp (List.mem_reverse.mp hc)

/-- A trimmed text does not end in a blank. -/
theorem isBlank_getLast?_trim {cs : List Char} :
    ∀ c ∈ (trim cs).getLast?, isBlank c = false := by
  intro c hc
  rw [trim, dropEndWhile, List.getLast?_reverse] at hc
  have hhead := List.head?_dropWhile_not isBlank (cs.dropWhile isBlank).reverse
  rw [hc] at hhead
  simpa using hhead

/-- A trimmed text does not begin with a blank. -/
theorem isBlank_head?_trim {cs : List Char} : ∀ c ∈ (trim cs).head?, isBlank c = false := by
  intro c hc
  have hprefix : trim cs <+: cs.dropWhile isBlank := by
    rw [trim, dropEndWhile, ← List.reverse_suffix, List.reverse_reverse]
    exact List.dropWhile_suffix isBlank
  obtain ⟨rest, hrest⟩ := hprefix
  have hhead := List.head?_dropWhile_not isBlank cs
  rw [← hrest, List.head?_append, hc] at hhead
  simpa using hhead

/-- A trimmed text has no blanks to trim. -/
theorem isTrimmed_trim (cs : List Char) : IsTrimmed (trim cs) where
  head := isBlank_head?_trim
  last := isBlank_getLast?_trim

/-- From a text without blanks at its ends nothing is taken away. -/
theorem IsTrimmed.trim_eq {cs : List Char} (h : IsTrimmed cs) : trim cs = cs := by
  have htrim : trim ([] ++ cs ++ []) = cs := trim_of_blanks nofun h nofun
  rwa [List.nil_append, List.append_nil] at htrim

/-- To trim twice is to trim once. -/
theorem trim_trim (cs : List Char) : trim (trim cs) = trim cs :=
  (isTrimmed_trim cs).trim_eq

/-- Blanks around a text are taken away with its own. -/
theorem trim_append {before cs after : List Char} (hbefore : ∀ c ∈ before, isBlank c = true)
    (hafter : ∀ c ∈ after, isBlank c = true) : trim (before ++ cs ++ after) = trim cs := by
  obtain ⟨front, back, hcs, hfront, hback⟩ := exists_trim cs
  have hparts : before ++ cs ++ after = (before ++ front) ++ trim cs ++ (back ++ after) := by
    conv_lhs => rw [hcs]
    simp only [List.append_assoc]
  rw [hparts]
  exact trim_of_blanks (List.forall_mem_append.mpr ⟨hbefore, hfront⟩) (isTrimmed_trim cs)
    (List.forall_mem_append.mpr ⟨hback, hafter⟩)

/-- A trimmed text is a part of the text. -/
theorem trim_infix (cs : List Char) : trim cs <:+: cs := by
  obtain ⟨before, after, hcs, _, _⟩ := exists_trim cs
  exact ⟨before, after, hcs.symm⟩

/-- What comes after a mark is the text without it. -/
theorem after?_eq_some {mark cs rest : List Char} (h : after? mark cs = some rest) :
    cs = mark ++ rest := by
  induction mark generalizing cs with
  | nil =>
    rw [after?] at h
    cases h
    rfl
  | cons m mark ih =>
    cases cs with
    | nil => cases h
    | cons c cs =>
      rw [after?] at h
      split at h
      · rename_i hm
        rw [hm, ih h]
        rfl
      · cases h

/-- The two sides of a cut stand around the mark. -/
theorem cut?_eq_some {mark cs front back : List Char} (h : cut? mark cs = some (front, back)) :
    cs = front ++ (mark ++ back) := by
  -- The mark is looked for at every place, from the front on.
  induction cs generalizing front with
  | nil =>
    rw [cut?] at h
    split at h
    · rename_i hmark
      cases h
      rw [List.isEmpty_iff.mp hmark]
      rfl
    · cases h
  | cons c cs ih =>
    rw [cut?] at h
    split at h
    · rename_i hafter
      cases h
      rw [after?_eq_some hafter]
      rfl
    · obtain ⟨⟨before, after⟩, hcut, heq⟩ := Option.map_eq_some_iff.mp h
      cases heq
      rw [ih hcut]
      rfl

/-- Behind a mark at the front is the rest. -/
theorem after?_append (mark rest : List Char) : after? mark (mark ++ rest) = some rest := by
  induction mark with
  | nil => rfl
  | cons m mark ih =>
    show (if m = m then after? mark (mark ++ rest) else none) = _
    rw [if_pos rfl, ih]

/-- What ends in a mark and is found across two texts lies in the second, or has its mark at the
front of that: the first text has no mark, and nothing else of what is found begins the second. -/
theorem infix_append_cases {needle front back : List Char} {mark : Char} (hfront : mark ∉ front)
    (hback : ∀ c ∈ back.head?, c ∉ needle) (h : needle ++ [mark] <:+: front ++ back) :
    needle ++ [mark] <:+: back ∨ back.head? = some mark ∧ needle <:+ front := by
  obtain ⟨before, after, heq⟩ := h
  have hcut : (before ++ needle) ++ mark :: after = front ++ back := by
    rw [← heq]
    simp
  rcases List.append_eq_append_iff.mp hcut with ⟨mid, rfl, hmark⟩ | ⟨mid, hneedle, rfl⟩
  · cases mid with
    | nil =>
      rw [List.nil_append] at hmark
      exact .inr ⟨by rw [← hmark]; rfl, ⟨before, by simp⟩⟩
    | cons c mid =>
      obtain ⟨rfl, -⟩ := List.cons.inj hmark
      exact absurd (by simp) hfront
  · cases mid with
    | nil =>
      rw [List.append_nil] at hneedle
      exact .inr ⟨rfl, ⟨before, hneedle⟩⟩
    | cons c mid =>
      -- The second text begins before the mark, so the found text does not reach into the first.
      rcases List.append_eq_append_iff.mp hneedle with ⟨mid', rfl, rfl⟩ | ⟨mid', rfl, hmid⟩
      · exact absurd (by simp) (hback c rfl)
      · rw [hmid]
        exact .inl ⟨mid', after, by simp⟩

/-- An end of a text and the character behind it stand next to each other in the whole. -/
theorem infix_append_of_suffix {needle front back : List Char} {mark : Char}
    (hneedle : needle <:+ front) (hback : back.head? = some mark) :
    needle ++ [mark] <:+: front ++ back := by
  obtain ⟨before, rfl⟩ := hneedle
  obtain ⟨after, rfl⟩ := List.head?_eq_some_iff.mp hback
  exact ⟨before, after, by simp⟩

/-- A text that contains a mark has it somewhere, and any other has it nowhere. -/
theorem contains_iff {mark cs : List Char} : contains mark cs = true ↔ mark <:+: cs := by
  rw [contains, Option.isSome_iff_exists]
  constructor
  · rintro ⟨⟨front, back⟩, hcut⟩
    exact ⟨front, back, by rw [cut?_eq_some hcut, List.append_assoc]⟩
  · intro hinfix
    induction cs with
    | nil =>
      rw [List.infix_nil.mp hinfix]
      exact ⟨([], []), rfl⟩
    | cons c cs ih =>
      rw [cut?]
      cases hafter : after? mark (c :: cs) with
      | some rest => exact ⟨([], rest), rfl⟩
      | none =>
        -- The mark does not stand here, so it stands further on.
        rcases List.infix_cons_iff.mp hinfix with ⟨rest, hhere⟩ | hlater
        · rw [← hhere, after?_append] at hafter
          cases hafter
        · obtain ⟨⟨front, back⟩, hcut⟩ := ih hlater
          exact ⟨(c :: front, back), by rw [hcut]; rfl⟩

/-! ### Words -/

/-- A text is made of words with blanks around them. A word is not empty, and where it ends
stands a blank or nothing. -/
inductive Spaced : List Char → List (List Char) → Prop where
  | blanks {gap : List Char} (hgap : ∀ c ∈ gap, isBlank c = true) : Spaced gap []
  | word {gap word rest : List Char} {ws : List (List Char)}
      (hgap : ∀ c ∈ gap, isBlank c = true) (hword : ∀ c ∈ word, isBlank c = false)
      (hne : word ≠ []) (hrest : ∀ c ∈ rest.head?, isBlank c = true) (h : Spaced rest ws) :
      Spaced (gap ++ word ++ rest) (word :: ws)

/-- A word at the front of a text. -/
theorem Spaced.front {word rest : List Char} {ws : List (List Char)}
    (hword : ∀ c ∈ word, isBlank c = false) (hne : word ≠ [])
    (hrest : ∀ c ∈ rest.head?, isBlank c = true) (h : Spaced rest ws) :
    Spaced (word ++ rest) (word :: ws) :=
  @Spaced.word [] word rest ws nofun hword hne hrest h

/-- The words that a text is made of are those that are found in it. -/
theorem Spaced.words_eq {cs : List Char} {ws : List (List Char)} (h : Spaced cs ws) :
    words cs = ws := by
  induction h with
  | @blanks gap hgap =>
    rw [← List.append_nil gap, words_blanks_append hgap]
    rfl
  | word hgap hword hne hrest _ ih =>
    rw [List.append_assoc, words_blanks_append hgap, words_append hword hne hrest, ih]

/-- Every text is made of words with blanks around them. -/
theorem exists_spaced (cs : List Char) : ∃ ws, Spaced cs ws := by
  induction cs with
  | nil => exact ⟨[], .blanks nofun⟩
  | cons c cs ih =>
    obtain ⟨ws, h⟩ := ih
    cases hc : isBlank c with
    | true =>
      -- A blank joins those at the front.
      cases h with
      | blanks hgap => exact ⟨[], .blanks (List.forall_mem_cons.mpr ⟨hc, hgap⟩)⟩
      | @word gap word rest ws hgap hword hne hrest h =>
        have hgap' : ∀ d ∈ c :: gap, isBlank d = true := List.forall_mem_cons.mpr ⟨hc, hgap⟩
        exact ⟨word :: ws, .word hgap' hword hne hrest h⟩
    | false =>
      have hsingle : ∀ d ∈ [c], isBlank d = false := by simpa using hc
      cases h with
      | blanks hgap =>
        have hrest : ∀ d ∈ cs.head?, isBlank d = true := fun d hd =>
          hgap d (List.mem_of_mem_head? hd)
        exact ⟨[[c]], .front hsingle nofun hrest (.blanks hgap)⟩
      | @word gap word rest ws hgap hword hne hrest h =>
        cases gap with
        | nil =>
          -- No blank stands before the first word, so the character belongs to it.
          have hword' : ∀ d ∈ c :: word, isBlank d = false :=
            List.forall_mem_cons.mpr ⟨hc, hword⟩
          exact ⟨(c :: word) :: ws, .front hword' nofun hrest h⟩
        | cons g gap =>
          have hblank : ∀ d ∈ (g :: gap ++ word ++ rest).head?, isBlank d = true := by
            rintro d ⟨⟩
            exact hgap g List.mem_cons_self
          exact ⟨[c] :: word :: ws,
            .front hsingle nofun hblank (.word hgap hword hne hrest h)⟩

/-- Every text is made of its words. -/
theorem spaced_words (cs : List Char) : Spaced cs (words cs) := by
  obtain ⟨ws, h⟩ := exists_spaced cs
  rw [h.words_eq]
  exact h

/-- A word is a part of the text. -/
theorem Spaced.infix_of_mem {cs word : List Char} {ws : List (List Char)} (h : Spaced cs ws)
    (hword : word ∈ ws) : word <:+: cs := by
  induction h with
  | blanks => cases hword
  | @word gap first rest ws hgap hfirst hne hrest h ih =>
    rcases List.mem_cons.mp hword with rfl | hword
    · exact ⟨gap, rest, rfl⟩
    · exact (ih hword).trans (List.suffix_append _ _).isInfix

/-- A word stands in its text as it is. -/
theorem infix_of_mem_words {cs word : List Char} (h : word ∈ words cs) : word <:+: cs :=
  (spaced_words cs).infix_of_mem h

end FrameworkUpgrade.Text
