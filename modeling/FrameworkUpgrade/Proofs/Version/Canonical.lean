import FrameworkUpgrade.Proofs.Outcome
import FrameworkUpgrade.Proofs.Text.Pieces
import FrameworkUpgrade.Proofs.Version.Number
import Mathlib.Data.List.Induction
import Mathlib.Data.List.TakeWhile

/-!
# `FrameworkUpgrade.Proofs.Version.Canonical`: a version has one written form

The reader of versions is strict: no number has a leading zero, nothing stands around the parts
and nothing is left out. So a text that is read as a version is the written form of that version
(`chars_of_read`), and two texts that are read as one version are one text.

Each reader of a part has a lemma that says which text it has taken off the front and what it
has checked of it. `Version.Proper` collects the checks, and `Proper.isVersionChar_of_mem` draws
from them what a written version may consist of.
-/

set_option autoImplicit false

namespace FrameworkUpgrade

namespace Version

/-! ### Numbers -/

/-- A digit is the character of its value, and the value is below ten. -/
theorem digitChar_toNat_sub {c : Char} (h : c.isDigit = true) :
    c.toNat - 48 < 10 ∧ (c.toNat - 48).digitChar = c := by
  have hbounds : 48 ≤ c.toNat ∧ c.toNat ≤ 57 := by
    simpa [Char.isDigit, UInt32.le_iff_toNat_le] using h
  have hlt : c.toNat - 48 < 10 := by omega
  have hback : (c.toNat - 48).digitChar.toNat = c.toNat := by
    rw [Nat.toNat_digitChar_of_lt_ten hlt]
    omega
  exact ⟨hlt, Char.toNat_inj.mp hback⟩

/-- Digits without a leading zero are those of the number that they stand for. -/
theorem numberChars_ofDigitChars {ds : List Char} (hdigits : ∀ c ∈ ds, c.isDigit = true)
    (hne : ds ≠ []) (hzero : ∀ c cs, ds ≠ '0' :: c :: cs) :
    numberChars (Nat.ofDigitChars 10 ds 0) = ds := by
  -- The last digit is the one that the printer writes last, so the induction is from the end.
  induction ds using List.reverseRecOn with
  | nil => exact absurd rfl hne
  | append_singleton ds c ih =>
    obtain ⟨hlt, hchar⟩ := digitChar_toNat_sub (hdigits c (by simp))
    have hvalue : Nat.ofDigitChars 10 (ds ++ [c]) 0 =
        10 * Nat.ofDigitChars 10 ds 0 + (c.toNat - 48) := by
      rw [Nat.ofDigitChars_append, Nat.ofDigitChars_cons, Nat.ofDigitChars_nil]
      rfl
    cases ds with
    | nil =>
      rw [hvalue, Nat.ofDigitChars_nil, Nat.mul_zero, Nat.zero_add, numberChars,
        Nat.toDigits_of_lt_base hlt, hchar]
      rfl
    | cons d ds =>
      have hfront : numberChars (Nat.ofDigitChars 10 (d :: ds) 0) = d :: ds := by
        refine ih (fun x hx => hdigits x (List.mem_append_left _ hx)) (List.cons_ne_nil d ds) ?_
        rintro x xs heq
        exact hzero x (xs ++ [c]) (by rw [heq]; rfl)
      -- The digits before the last one are not a zero alone, so their number is positive.
      have hpos : 0 < Nat.ofDigitChars 10 (d :: ds) 0 := by
        refine Nat.pos_of_ne_zero fun h => ?_
        rw [h] at hfront
        cases hfront
        exact hzero c [] rfl
      have hquotient : (10 * Nat.ofDigitChars 10 (d :: ds) 0 + (c.toNat - 48)) / 10 =
          Nat.ofDigitChars 10 (d :: ds) 0 := by omega
      have hremainder : (10 * Nat.ofDigitChars 10 (d :: ds) 0 + (c.toNat - 48)) % 10 =
          c.toNat - 48 := by omega
      rw [hvalue, numberChars, Nat.toDigits_of_base_le (by decide) (by omega), hquotient,
        hremainder, hchar]
      exact congrArg (· ++ [c]) hfront

/-- A number that is read is written at the front of the text. -/
theorem readNumber_eq_ok {part : Part} {cs rest : List Char} {n : Nat}
    (h : readNumber part cs = .ok (n, rest)) :
    cs = numberChars n ++ rest ∧ n < numberBound := by
  have hsplit := List.takeWhile_append_dropWhile (p := Char.isDigit) (l := cs)
  have hdigits : ∀ c ∈ cs.takeWhile Char.isDigit, c.isDigit = true :=
    fun c hc => List.mem_takeWhile_imp hc
  rw [readNumber] at h
  -- Only the digits in front and what is left matter from here on.
  generalize cs.takeWhile Char.isDigit = ds at h hsplit hdigits
  generalize cs.dropWhile Char.isDigit = rest' at h hsplit
  split at h
  · cases h
  · cases h
  · cases h
  · rename_i hzero hnil hcons
    dsimp only at h
    split at h
    · rename_i hbound
      cases h
      have hne : ds ≠ [] := by
        rintro rfl
        cases rest with
        | nil => exact hnil rfl rfl
        | cons c rest => exact hcons c rest rfl rfl
      rw [numberChars_ofDigitChars hdigits hne hzero]
      exact ⟨hsplit.symm, hbound⟩
    · cases h

/-- A dot that is read is the first character of the text. -/
theorem readDot_eq_ok {part : Part} {cs rest : List Char} (h : readDot part cs = .ok rest) :
    cs = '.' :: rest := by
  unfold readDot at h
  split at h
  · cases h
    rfl
  · cases h
  · cases h

/-! ### Identifiers -/

/-- What the reader asks of an identifier of any part. -/
structure IsIdentifier (i : Identifier) : Prop where
  nonempty : i ≠ []
  chars : ∀ c ∈ i, isIdentifierChar c = true

/-- An identifier that passes the check is the segment itself, and not empty. -/
theorem checkSegment_eq_ok {part : Part} {segment : List Char} {i : Identifier}
    (h : checkSegment part segment = .ok i) : i = segment ∧ segment ≠ [] := by
  unfold checkSegment at h
  split at h
  · cases h
  · rename_i hempty
    split at h
    · cases h
    · cases h
      exact ⟨rfl, by simpa using hempty⟩

/-- Segments that pass one by one are the identifiers. -/
theorem mapM_checkSegment_eq_ok {part : Part} {segments : List (List Char)}
    {ids : List Identifier} (h : segments.mapM (checkSegment part) = .ok ids) :
    ids = segments ∧ ∀ i ∈ ids, i ≠ [] := by
  induction segments generalizing ids with
  | nil =>
    cases h
    exact ⟨rfl, nofun⟩
  | cons segment segments ih =>
    rw [List.mapM_cons] at h
    obtain ⟨i, hi, h⟩ := bind_eq_ok.mp h
    obtain ⟨is, his, ⟨⟩⟩ := bind_eq_ok.mp h
    obtain ⟨rfl, hne⟩ := checkSegment_eq_ok hi
    obtain ⟨rfl, hall⟩ := ih his
    exact ⟨rfl, List.forall_mem_cons.mpr ⟨hne, hall⟩⟩

/-- Identifiers that are read are written at the front of the text. -/
theorem readIdentifiers_eq_ok {part : Part} {cs rest : List Char} {ids : List Identifier}
    (h : readIdentifiers part cs = .ok (ids, rest)) :
    cs = identifierChars ids ++ rest ∧ ids ≠ [] ∧ ∀ i ∈ ids, IsIdentifier i := by
  obtain ⟨segments, hsegments, ⟨⟩⟩ := bind_eq_ok.mp h
  obtain ⟨rfl, hne⟩ := mapM_checkSegment_eq_ok hsegments
  refine ⟨?_, List.splitOn_ne_nil _ _, fun i hi => ⟨hne i hi, fun c hc => ?_⟩⟩
  · rw [identifierChars, List.intercalate_splitOn, List.takeWhile_append_dropWhile]
  · obtain ⟨hmem, hdot⟩ := Text.mem_of_mem_splitOn hi hc
    have hpart := List.mem_takeWhile_imp hmem
    simpa [hdot] using hpart

/-- A part that is read is written at the front of the text, behind its mark. -/
theorem readPart_eq_ok {mark : Char} {part : Part} {cs rest : List Char}
    {ids : List Identifier} (h : readPart mark part cs = .ok (ids, rest)) :
    cs = partChars mark ids ++ rest ∧ ∀ i ∈ ids, IsIdentifier i := by
  unfold readPart at h
  split at h
  · split at h
    · rename_i hmark
      obtain ⟨rfl, hne, hids⟩ := readIdentifiers_eq_ok h
      refine ⟨?_, hids⟩
      cases ids with
      | nil => exact absurd rfl hne
      | cons i ids =>
        rw [hmark]
        rfl
    · cases h
      exact ⟨rfl, nofun⟩
  · cases h
    exact ⟨rfl, nofun⟩

/-! ### Versions -/

/-- What the reader asks of a version. -/
structure Proper (v : Version) : Prop where
  major : v.major < numberBound
  minor : v.minor < numberBound
  patch : v.patch < numberBound
  pre : ∀ i ∈ v.pre, IsIdentifier i
  build : ∀ i ∈ v.build, IsIdentifier i

/-- A text that is read as a version is read part by part, and nothing of it is left. -/
theorem read_eq_ok {cs : List Char} {v : Version} (h : read cs = .ok v) :
    ∃ cs₁ cs₂ cs₃ cs₄, readNumber .major cs = .ok (v.major, '.' :: cs₁) ∧
      readNumber .minor cs₁ = .ok (v.minor, '.' :: cs₂) ∧
      readNumber .patch cs₂ = .ok (v.patch, cs₃) ∧
      readPart '-' .pre cs₃ = .ok (v.pre, cs₄) ∧ readPart '+' .build cs₄ = .ok (v.build, []) := by
  unfold read at h
  split at h
  · cases h
  -- The parts are read in their order, with a dot between the numbers.
  obtain ⟨⟨major, cs₁⟩, hmajor, h⟩ := bind_eq_ok.mp h
  obtain ⟨cs₂, hdot, h⟩ := bind_eq_ok.mp h
  obtain ⟨⟨minor, cs₃⟩, hminor, h⟩ := bind_eq_ok.mp h
  obtain ⟨cs₄, hdot', h⟩ := bind_eq_ok.mp h
  obtain ⟨⟨patch, cs₅⟩, hpatch, h⟩ := bind_eq_ok.mp h
  obtain ⟨⟨pre, cs₆⟩, hpre, h⟩ := bind_eq_ok.mp h
  obtain ⟨⟨build, cs₇⟩, hbuild, h⟩ := bind_eq_ok.mp h
  dsimp only at hdot hminor hdot' hpatch hpre hbuild h
  split at h
  · cases h
    obtain rfl := readDot_eq_ok hdot
    obtain rfl := readDot_eq_ok hdot'
    exact ⟨_, _, _, _, hmajor, hminor, hpatch, hpre, hbuild⟩
  · cases h

/-- A text that is read as a version is its written form. -/
theorem chars_of_read {cs : List Char} {v : Version} (h : read cs = .ok v) :
    v.chars = cs ∧ v.Proper := by
  obtain ⟨cs₁, cs₂, cs₃, cs₄, hmajor, hminor, hpatch, hpre, hbuild⟩ := read_eq_ok h
  obtain ⟨rfl, hmajorBound⟩ := readNumber_eq_ok hmajor
  obtain ⟨rfl, hminorBound⟩ := readNumber_eq_ok hminor
  obtain ⟨rfl, hpatchBound⟩ := readNumber_eq_ok hpatch
  obtain ⟨rfl, hpreIds⟩ := readPart_eq_ok hpre
  obtain ⟨rfl, hbuildIds⟩ := readPart_eq_ok hbuild
  refine ⟨?_, hmajorBound, hminorBound, hpatchBound, hpreIds, hbuildIds⟩
  simp [chars, coreChars]

/-- A version that is read is written as the text that it was read from. -/
theorem text_of_read? {s : String} {v : Version} (h : read? s.toList = some v) :
    v.text = s ∧ v.Proper := by
  obtain ⟨hchars, hproper⟩ := chars_of_read (toOption_eq_some.mp h)
  exact ⟨by rw [text, hchars, String.ofList_toList], hproper⟩

/-- A version that its written form is read as. -/
def IsCanonical (v : Version) : Prop :=
  read? v.text.toList = some v

/-- A version that is read is canonical. -/
theorem isCanonical_of_read? {cs : List Char} {v : Version} (h : read? cs = some v) :
    v.IsCanonical := by
  obtain ⟨hchars, _⟩ := chars_of_read (toOption_eq_some.mp h)
  rw [IsCanonical, text, String.toList_ofList, hchars]
  exact h

/-- A canonical version is proper. -/
theorem IsCanonical.proper {v : Version} (h : v.IsCanonical) : v.Proper :=
  (text_of_read? h).2

/-! ### What a written version consists of -/

/-- The characters of a written version. -/
def isVersionChar (c : Char) : Bool :=
  c.isAlphanum || c == '.' || c == '+' || c == '-'

/-- The digits of a number may stand in a version. -/
theorem isVersionChar_of_mem_numberChars {n : Nat} {c : Char} (h : c ∈ numberChars n) :
    isVersionChar c = true := by
  have hdigit := isDigit_of_mem_numberChars h
  simp [isVersionChar, Char.isAlphanum, hdigit]

/-- The characters of a suffix may stand in a version. -/
theorem isVersionChar_of_mem_partChars {mark : Char} (hmark : isVersionChar mark = true)
    {ids : List Identifier} (hids : ∀ i ∈ ids, IsIdentifier i) {c : Char}
    (h : c ∈ partChars mark ids) : isVersionChar c = true := by
  cases ids with
  | nil => cases h
  | cons i ids =>
    rcases List.mem_cons.mp h with rfl | h
    · exact hmark
    · rcases Text.mem_of_mem_intercalate h with h | ⟨id, hid, h⟩
      · rw [List.mem_singleton.mp h]
        decide
      · have hchar := (hids id hid).chars c h
        rw [isIdentifierChar, Bool.or_eq_true] at hchar
        rcases hchar with hchar | hchar <;> simp [isVersionChar, hchar]

/-- A written version begins with a digit. -/
theorem exists_chars_eq_cons (v : Version) : ∃ c cs, v.chars = c :: cs ∧ c.isDigit = true := by
  obtain ⟨c, cs, hnumber⟩ := List.exists_cons_of_ne_nil (numberChars_ne_nil v.major)
  have hdigit : c.isDigit = true := isDigit_of_mem_numberChars (hnumber ▸ List.mem_cons_self)
  have hchars : v.chars = c :: (cs ++ '.' :: numberChars v.minor ++ '.' :: numberChars v.patch ++
      partChars '-' v.pre ++ partChars '+' v.build) := by
    simp [chars, coreChars, hnumber]
  exact ⟨c, _, hchars, hdigit⟩

/-- A proper version holds letters, digits, dots, hyphens and plus signs. -/
theorem Proper.isVersionChar_of_mem {v : Version} (h : v.Proper) {c : Char} (hc : c ∈ v.chars) :
    isVersionChar c = true := by
  simp only [chars, coreChars, List.mem_append, List.mem_cons] at hc
  rcases hc with (((hc | rfl | hc) | rfl | hc) | hc) | hc
  · exact isVersionChar_of_mem_numberChars hc
  · decide
  · exact isVersionChar_of_mem_numberChars hc
  · decide
  · exact isVersionChar_of_mem_numberChars hc
  · exact isVersionChar_of_mem_partChars (by decide) h.pre hc
  · exact isVersionChar_of_mem_partChars (by decide) h.build hc

end Version

end FrameworkUpgrade
