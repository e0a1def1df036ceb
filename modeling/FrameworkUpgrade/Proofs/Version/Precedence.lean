import FrameworkUpgrade.Proofs.Version.Canonical
import FrameworkUpgrade.Proofs.Version.Order
import Mathlib.Algebra.Group.Nat.Defs
import Mathlib.Data.List.Lex
import Mathlib.Order.Compare

/-!
# `FrameworkUpgrade.Proofs.Version.Precedence`: precedence and the order of versions

The standard of semantic versions says which of two versions comes first: the numbers decide from
left to right, a pre-release comes before its release, and two pre-releases are compared identifier
by identifier. Identifiers of digits are compared as numbers, all others as text, a number comes
before a text, and the list that ends first comes first. Build metadata takes no part.
`Version.Precedes` states these rules, with a constructor for each of them.

The library never turns an identifier into a number. It compares the length of the digits, and then
the digits as text. `precedence_eq_lt_iff` states that this comes to the same for versions that are
read from a text, because a number in their pre-release has no leading zero. `lt_iff_precedes`
compares the standard with the order `<` of versions, in which build metadata decides last: the two
differ only on versions that differ in build metadata alone.
-/

set_option autoImplicit false

namespace FrameworkUpgrade

/-! ### Lists in lexicographic order -/

/-- Lists are compared at the first place where they differ, and a list that ends there is
less. -/
theorem compareLex_eq_lt_iff {α : Type} {cmp : α → α → Ordering} [Std.LawfulEqCmp cmp]
    {r : α → α → Prop} {as bs : List α}
    (h : ∀ a ∈ as, ∀ b ∈ bs, cmp a b = .lt ↔ r a b) :
    List.compareLex cmp as bs = .lt ↔ List.Lex r as bs := by
  induction as generalizing bs with
  | nil =>
    cases bs with
    | nil => simp [List.compareLex_nil_nil]
    | cons b bs => simp [List.compareLex_nil_cons]
  | cons a as ih =>
    cases bs with
    | nil => simp [List.compareLex_cons_nil]
    | cons b bs =>
      have hhead : cmp a b = .lt ↔ r a b := h a (by simp) b (by simp)
      have htail : List.compareLex cmp as bs = .lt ↔ List.Lex r as bs :=
        ih fun a' ha' b' hb' => h a' (by simp [ha']) b' (by simp [hb'])
      -- Elements that compare equal are the same, so the tail of the one is that of the other.
      rw [List.compareLex_cons_cons, Ordering.then_eq_lt, hhead, htail,
        Std.LawfulEqCmp.compare_eq_iff_eq]
      constructor
      · rintro (hlt | ⟨rfl, hlt⟩)
        · exact .rel hlt
        · exact .cons hlt
      · intro hlex
        cases hlex with
        | rel hlt => exact .inl hlt
        | cons hlt => exact .inr ⟨rfl, hlt⟩

namespace Identifier

/-! ### Numbers by their digits -/

/-- The number that an identifier of digits stands for. -/
def value (i : Identifier) : Nat :=
  Nat.ofDigitChars 10 i 0

/-- An identifier that is no number, or a number without a leading zero. -/
def IsPlain (i : Identifier) : Prop :=
  isNumeric i = true → Version.numberChars i.value = i

/-- The first digit counts for more than all the others. -/
theorem value_cons (c : Char) (cs : List Char) :
    value (c :: cs) = 10 ^ cs.length * (c.toNat - 48) + value cs := by
  rw [value, Nat.ofDigitChars_cons, Nat.ofDigitChars_eq_ofDigitChars_zero, Nat.mul_zero,
    Nat.zero_add]
  rfl

/-- So many digits have a value below that power of ten. -/
theorem value_lt {cs : List Char} (h : ∀ c ∈ cs, c.isDigit = true) :
    value cs < 10 ^ cs.length := by
  induction cs with
  | nil => decide
  | cons c cs ih =>
    have hdigit : c.toNat - 48 < 10 := (Version.digitChar_toNat_sub (h c List.mem_cons_self)).1
    have hrest : value cs < 10 ^ cs.length := ih fun d hd => h d (List.mem_cons_of_mem _ hd)
    rw [value_cons, List.length_cons]
    calc 10 ^ cs.length * (c.toNat - 48) + value cs
        < 10 ^ cs.length * (c.toNat - 48) + 10 ^ cs.length := by omega
      _ = 10 ^ cs.length * (c.toNat - 48 + 1) := by rw [Nat.mul_succ]
      _ ≤ 10 ^ cs.length * 10 := Nat.mul_le_mul_left _ hdigit
      _ = 10 ^ (cs.length + 1) := by rw [Nat.pow_succ]

/-- Of two numbers in one base, the first digit decides, and the rest when it is the same. -/
theorem mul_add_lt_mul_add_iff {base x y u v : Nat} (hu : u < base) (hv : v < base) :
    base * x + u < base * y + v ↔ x < y ∨ x = y ∧ u < v := by
  rcases Nat.lt_trichotomy x y with hxy | rfl | hxy
  · have hmul : base * (x + 1) ≤ base * y := Nat.mul_le_mul_left _ hxy
    rw [Nat.mul_succ] at hmul
    omega
  · omega
  · have hmul : base * (y + 1) ≤ base * x := Nat.mul_le_mul_left _ hxy
    rw [Nat.mul_succ] at hmul
    omega

/-- A digit is less than another one when it counts for less. -/
theorem lt_iff_toNat_sub_lt {c d : Char} (hc : c.isDigit = true) (hd : d.isDigit = true) :
    c < d ↔ c.toNat - 48 < d.toNat - 48 := by
  have hbounds {e : Char} (he : e.isDigit = true) : 48 ≤ e.toNat ∧ e.toNat ≤ 57 := by
    simpa [Char.isDigit, UInt32.le_iff_toNat_le] using he
  have hlow := hbounds hc
  have hhigh := hbounds hd
  show c.toNat < d.toNat ↔ _
  omega

/-- Digits of one length stand in the order of their numbers. -/
theorem lt_iff_value_lt {is js : List Char} (hi : ∀ c ∈ is, c.isDigit = true)
    (hj : ∀ c ∈ js, c.isDigit = true) (hlength : is.length = js.length) :
    is < js ↔ value is < value js := by
  induction is generalizing js with
  | nil =>
    have hjs : js = [] := List.length_eq_zero_iff.mp hlength.symm
    simp [hjs]
  | cons c cs ih =>
    cases js with
    | nil => simp at hlength
    | cons d ds =>
      have hlength : cs.length = ds.length := Nat.succ.inj hlength
      have hcs : ∀ e ∈ cs, e.isDigit = true := fun e he => hi e (by simp [he])
      have hds : ∀ e ∈ ds, e.isDigit = true := fun e he => hj e (by simp [he])
      have hc : c.isDigit = true := hi c (by simp)
      have hd : d.isDigit = true := hj d (by simp)
      have heq : c = d ↔ c.toNat - 48 = d.toNat - 48 := by
        constructor
        · intro h
          rw [h]
        · intro h
          rw [← (Version.digitChar_toNat_sub hc).2, ← (Version.digitChar_toNat_sub hd).2, h]
      -- The first digit decides, because the rest has a value below its power of ten.
      have hbound : value ds < 10 ^ cs.length := hlength ▸ value_lt hds
      rw [List.cons_lt_cons_iff, ih hcs hds hlength, value_cons, value_cons, ← hlength,
        mul_add_lt_mul_add_iff (value_lt hcs) hbound, lt_iff_toNat_sub_lt hc hd, heq]

/-- Numbers without leading zeros are compared by how many digits they have, and then digit by
digit. -/
theorem value_lt_iff {i j : Identifier} (hi : isNumeric i = true) (hj : isNumeric j = true)
    (hplain : i.IsPlain) (hplain' : j.IsPlain) :
    i.value < j.value ↔ i.length < j.length ∨ i.length = j.length ∧ i < j := by
  have hdigits : ∀ c ∈ i, c.isDigit = true := List.all_eq_true.mp hi
  have hdigits' : ∀ c ∈ j, c.isDigit = true := List.all_eq_true.mp hj
  -- A number has at most `n` digits when it is below the power of ten.
  have hcount {k : Identifier} (hk : isNumeric k = true) (hplain : k.IsPlain) {n : Nat}
      (hn : 0 < n) : k.length ≤ n ↔ k.value < 10 ^ n := by
    have hlength := Nat.length_toDigits_le_iff (n := k.value) (show 1 < 10 by decide) hn
    rwa [← Version.numberChars, hplain hk] at hlength
  have hpos {k : Identifier} (hk : isNumeric k = true) (hplain : k.IsPlain) : 0 < k.length := by
    rw [← hplain hk]
    exact List.length_pos_iff.mpr (Version.numberChars_ne_nil _)
  rcases Nat.lt_trichotomy i.length j.length with hlt | heq | hgt
  · have hbelow := (hcount hi hplain (hpos hi hplain)).mp (Nat.le_refl _)
    have habove := (not_congr (hcount hj hplain' (hpos hi hplain))).mp (by omega)
    omega
  · rw [lt_iff_value_lt hdigits hdigits' heq]
    omega
  · have hbelow := (hcount hj hplain' (hpos hj hplain')).mp (Nat.le_refl _)
    have habove := (not_congr (hcount hi hplain (hpos hj hplain'))).mp (by omega)
    omega

/-! ### One identifier below another -/

/-- An identifier of a pre-release comes before another one. -/
inductive Below : Identifier → Identifier → Prop where
  | number {i j : Identifier} (hi : isNumeric i = true) (hj : isNumeric j = true)
      (h : i.value < j.value) : Below i j
  | text {i j : Identifier} (hi : isNumeric i = false) (hj : isNumeric j = false)
      (h : i < j) : Below i j
  | numberText {i j : Identifier} (hi : isNumeric i = true) (hj : isNumeric j = false) :
      Below i j

/-- Identifiers that are no numbers are compared as texts. -/
theorem compareText_eq_lt_iff (i j : Identifier) : compareText i j = .lt ↔ i < j := by
  show compare (α := List Char) i j = .lt ↔ _
  rw [List.compare_eq_compareLex]
  exact compareLex_eq_lt_iff fun c _ d _ => compareOfLessAndEq_eq_lt

/-- The library compares two identifiers by kind, by the number of their digits and as text. -/
theorem comparePre_eq (i j : Identifier) :
    Identifier.comparePre i j = (compare (!isNumeric i) (!isNumeric j)).then
      ((compare (if isNumeric i then i.length else 0) (if isNumeric j then j.length else 0)).then
        (compareText i j)) :=
  rfl

/-- The library has one identifier below another just when the standard has. -/
theorem comparePre_eq_lt_iff {i j : Identifier} (hi : i.IsPlain) (hj : j.IsPlain) :
    Identifier.comparePre i j = .lt ↔ Below i j := by
  rw [comparePre_eq, Ordering.then_eq_lt, Ordering.then_eq_lt, compareText_eq_lt_iff]
  cases hni : isNumeric i with
  | true =>
    cases hnj : isNumeric j with
    | true =>
      -- Two numbers.
      have hvalue := value_lt_iff hni hnj hi hj
      simp only [Nat.compare_eq_lt, Nat.compare_eq_eq, if_true]
      constructor
      · intro h
        refine .number hni hnj (hvalue.mpr ?_)
        simpa using h
      · intro h
        cases h with
        | number _ _ h => simpa using hvalue.mp h
        | text h => simp [hni] at h
        | numberText _ h => simp [hnj] at h
    | false => exact ⟨fun _ => .numberText hni hnj, fun _ => .inl rfl⟩
  | false =>
    cases hnj : isNumeric j with
    | true =>
      -- A text is not below a number.
      constructor
      · intro h
        simp at h
      · intro h
        cases h with
        | number h => simp [hni] at h
        | text _ h => simp [hnj] at h
        | numberText h => simp [hni] at h
    | false =>
      -- Two texts.
      constructor
      · intro h
        exact .text hni hnj (by simpa using h)
      · intro h
        cases h with
        | number h => simp [hni] at h
        | text _ _ h => simpa using h
        | numberText h => simp [hni] at h

end Identifier

namespace Version

/-! ### Precedence -/

/-- Two versions with the same numbers. -/
structure SameNumbers (a b : Version) : Prop where
  major : a.major = b.major
  minor : a.minor = b.minor
  patch : a.patch = b.patch

/-- The version `a` comes before the version `b` by the standard of semantic versions. -/
inductive Precedes (a b : Version) : Prop where
  | major (h : a.major < b.major)
  | minor (major : a.major = b.major) (h : a.minor < b.minor)
  | patch (major : a.major = b.major) (minor : a.minor = b.minor) (h : a.patch < b.patch)
  | release (numbers : SameNumbers a b) (pre : a.pre ≠ []) (release : b.pre = [])
  | pre (numbers : SameNumbers a b) (pre : a.pre ≠ []) (h : List.Lex Identifier.Below a.pre b.pre)

/-- Two versions that differ in build metadata at most. -/
structure SameButBuild (a b : Version) : Prop where
  numbers : SameNumbers a b
  pre : a.pre = b.pre

/-- No number in the pre-release has a leading zero. -/
def IsPlain (v : Version) : Prop :=
  ∀ i ∈ v.pre, i.IsPlain

/-- Cores are compared by the first number that differs. -/
theorem compareCore_eq (a b : Version) :
    compareCore a b =
      (compare a.major b.major).then ((compare a.minor b.minor).then (compare a.patch b.patch)) :=
  rfl

/-- Cores compare equal exactly if all three numbers are the same. -/
theorem compareCore_eq_eq_iff (a b : Version) : compareCore a b = .eq ↔ SameNumbers a b := by
  simp only [compareCore_eq, Ordering.then_eq_eq, Nat.compare_eq_eq]
  exact ⟨fun ⟨hmajor, hminor, hpatch⟩ => ⟨hmajor, hminor, hpatch⟩,
    fun ⟨hmajor, hminor, hpatch⟩ => ⟨hmajor, hminor, hpatch⟩⟩

/-- A pre-release is below another exactly if it has identifiers, and the other has none or comes
behind it identifier by identifier. -/
theorem comparePre_eq_lt_iff {is js : List Identifier} (hi : ∀ i ∈ is, i.IsPlain)
    (hj : ∀ j ∈ js, j.IsPlain) :
    comparePre is js = .lt ↔ is ≠ [] ∧ (js = [] ∨ List.Lex Identifier.Below is js) := by
  have hids : List.compareLex Identifier.comparePre is js = .lt ↔ List.Lex Identifier.Below is js :=
    compareLex_eq_lt_iff fun i hmem j hmem' =>
      Identifier.comparePre_eq_lt_iff (hi i hmem) (hj j hmem')
  have hsplit : comparePre is js = (compare is.isEmpty js.isEmpty).then
      (List.compareLex Identifier.comparePre is js) := rfl
  rw [hsplit, Ordering.then_eq_lt, hids]
  -- No pre-release at all is above every pre-release.
  cases is with
  | nil =>
    cases js with
    | nil => simp
    | cons j js => simp
  | cons i is =>
    cases js with
    | nil => exact ⟨fun _ => ⟨by simp, .inl rfl⟩, fun _ => .inl rfl⟩
    | cons j js => simp

/-- The library has a version before another one just when the standard has. -/
theorem precedence_eq_lt_iff {a b : Version} (ha : a.IsPlain) (hb : b.IsPlain) :
    precedence a b = .lt ↔ a.Precedes b := by
  have hsplit : precedence a b = (compareCore a b).then (comparePre a.pre b.pre) := rfl
  rw [hsplit, Ordering.then_eq_lt, compareCore_eq_eq_iff, comparePre_eq_lt_iff ha hb,
    compareCore_eq]
  simp only [Ordering.then_eq_lt, Nat.compare_eq_lt, Nat.compare_eq_eq]
  constructor
  -- The five ways to come before are the five branches of the comparison.
  · rintro ((hmajor | ⟨hmajor, hminor | ⟨hminor, hpatch⟩⟩) | ⟨hnumbers, hpre, hrelease | hids⟩)
    · exact .major hmajor
    · exact .minor hmajor hminor
    · exact .patch hmajor hminor hpatch
    · exact .release hnumbers hpre hrelease
    · exact .pre hnumbers hpre hids
  · intro h
    cases h with
    | major h => exact .inl (.inl h)
    | minor hmajor h => exact .inl (.inr ⟨hmajor, .inl h⟩)
    | patch hmajor hminor h => exact .inl (.inr ⟨hmajor, .inr ⟨hminor, h⟩⟩)
    | release hnumbers hpre hrelease => exact .inr ⟨hnumbers, hpre, .inl hrelease⟩
    | pre hnumbers hpre hids => exact .inr ⟨hnumbers, hpre, .inr hids⟩

/-- The standard takes two versions for equal when they differ in build metadata at most. -/
theorem precedence_eq_eq_iff (a b : Version) : precedence a b = .eq ↔ a.SameButBuild b := by
  have hsplit : precedence a b = (compareCore a b).then (comparePre a.pre b.pre) := rfl
  have hpre : comparePre a.pre b.pre = .eq ↔ a.pre = b.pre := by
    constructor
    · intro h
      exact Std.LawfulEqCmp.eq_of_compare (compareLex_eq_eq.mp h).2
    · intro h
      rw [h]
      exact Std.ReflCmp.compare_self
  rw [hsplit, Ordering.then_eq_eq, compareCore_eq_eq_iff, hpre]
  exact ⟨fun ⟨hnumbers, hpre⟩ => ⟨hnumbers, hpre⟩, fun ⟨hnumbers, hpre⟩ => ⟨hnumbers, hpre⟩⟩

/-- In the order of versions build metadata decides where the standard does not. -/
theorem lt_iff_precedes {a b : Version} (ha : a.IsPlain) (hb : b.IsPlain) :
    a < b ↔ a.Precedes b ∨ a.SameButBuild b ∧ compareBuild a.build b.build = .lt := by
  have hsplit : compare a b = (precedence a b).then (compareBuild a.build b.build) := rfl
  show compare a b = .lt ↔ _
  rw [hsplit, Ordering.then_eq_lt, precedence_eq_lt_iff ha hb, precedence_eq_eq_iff]

/-! ### Versions that are read -/

/-- An identifier of a pre-release that passes the check is a plain one. -/
theorem yields_checkSegment (segment : List Char) :
    Yields Identifier.IsPlain (checkSegment .pre segment) := by
  unfold checkSegment
  split
  · exact .error _
  · rename_i hempty
    split
    · exact .error _
    · rename_i hzero
      refine .ok fun hnumeric => numberChars_ofDigitChars (List.all_eq_true.mp hnumeric) ?_ ?_
      · simpa using hempty
      · -- A zero in front of another digit is what the reader has just refused.
        rintro c cs rfl
        exact hzero ⟨rfl, hnumeric, by simp, rfl⟩

/-- So are several of them. -/
theorem yields_mapM_checkSegment (segments : List (List Char)) :
    Yields (fun ids : List Identifier => ∀ i ∈ ids, i.IsPlain)
      (segments.mapM (checkSegment .pre)) := by
  induction segments with
  | nil => exact .ok nofun
  | cons segment segments ih =>
    rw [List.mapM_cons]
    refine (yields_checkSegment segment).bind fun i hi => ih.bind fun is his => ?_
    exact .ok (List.forall_mem_cons.mpr ⟨hi, his⟩)

/-- The identifiers of a pre-release that is read are plain. -/
theorem yields_readPart (mark : Char) (cs : List Char) :
    Yields (fun r => ∀ i ∈ r.1, i.IsPlain) (readPart mark .pre cs) := by
  unfold readPart
  split
  · refine .ite ?_ (.ok nofun)
    exact (yields_mapM_checkSegment _).bind fun ids hids => .ok hids
  · exact .ok nofun

/-- A version that is read has a plain pre-release. -/
theorem yields_read (cs : List Char) : Yields IsPlain (read cs) := by
  unfold read
  refine .ite (.error _) ?_
  -- The three numbers and the dots between them leave the pre-release to be read.
  refine (Yields.any _).bind fun _ _ => (Yields.any _).bind fun _ _ => ?_
  refine (Yields.any _).bind fun _ _ => (Yields.any _).bind fun _ _ => ?_
  refine (Yields.any _).bind fun _ _ => ?_
  refine (yields_readPart _ _).bind fun pre hpre => (Yields.any _).bind fun _ _ => ?_
  dsimp only
  split
  · exact .ok hpre
  · exact .error _

/-- A version that its written form is read as has no leading zeros in its pre-release. -/
theorem IsCanonical.isPlain {v : Version} (h : v.IsCanonical) : v.IsPlain :=
  yields_read _ v (toOption_eq_some.mp h)

end Version

end FrameworkUpgrade
