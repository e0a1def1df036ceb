import FrameworkUpgrade.Range.Comparator

/-!
# `FrameworkUpgrade.Proofs.Range.Interval`: comparators as intervals of releases

A bound has one, two or three numbers. `lowest` fills it up with zeros, and `next` is the
least core that comes after everything the bound stands for. Between the two lie the
releases that the bound stands for, and each relation cuts at one of them or at both:
`Admits` is the table. `Before` compares cores at the first number in which they differ.

A comparator asks number by number instead, and leaves out what the bound leaves out.
`holds_comparator` states that on releases it comes to the same interval.
-/

set_option autoImplicit false

namespace FrameworkUpgrade

/-- The three numbers of a version. -/
def Version.core (v : Version) : List Nat :=
  [v.major, v.minor, v.patch]

namespace Range

/-! ### Intervals -/

/-- A core comes before another: where they first differ it has the lower number. -/
def Before : List Nat → List Nat → Prop
  | a :: as, b :: bs => a < b ∨ a = b ∧ Before as bs
  | _, _ => False

/-- Numbers filled up to three with zeros. -/
def padded (numbers : List Nat) : List Nat :=
  numbers ++ List.replicate (3 - numbers.length) 0

/-- The least core that a bound stands for. -/
def lowest (numbers : List Nat) : List Nat :=
  padded numbers

/-- Numbers of which the last is one higher. -/
def bumped : List Nat → List Nat
  | [] => []
  | [n] => [n + 1]
  | n :: ns => n :: bumped ns

/-- The least core after everything that a bound stands for. -/
def next (numbers : List Nat) : List Nat :=
  padded (bumped numbers)

/-- Numbers up to the first that is not zero. -/
def significant : List Nat → List Nat
  | [] => []
  | n :: ns => if n = 0 then n :: significant ns else [n]

/-- The version is not before what a bound stands for. -/
def From (numbers : List Nat) (v : Version) : Prop :=
  ¬ Before v.core (lowest numbers)

/-- The version is not after what a bound stands for. A bound without a number stands for
everything. -/
def Until (numbers : List Nat) (v : Version) : Prop :=
  numbers = [] ∨ Before v.core (next numbers)

/-- Whether a release lies as a relation to a bound asks. -/
def Admits : Relation → List Nat → Version → Prop
  | .exact, numbers, v => From numbers v ∧ Until numbers v
  | .above, numbers, v => ¬ Before v.core (next numbers)
  | .atLeast, numbers, v => From numbers v
  | .below, numbers, v => Before v.core (lowest numbers)
  | .atMost, numbers, v => Until numbers v
  | .tilde, numbers, v => From numbers v ∧ Until (numbers.take 2) v
  | .caret, numbers, v => From numbers v ∧ Until (significant numbers) v

instance : (as bs : List Nat) → Decidable (Before as bs)
  | a :: as, b :: bs =>
    have := instDecidableBefore as bs
    inferInstanceAs (Decidable (a < b ∨ a = b ∧ Before as bs))
  | [], _ | _ :: _, [] => inferInstanceAs (Decidable False)

instance (numbers : List Nat) (v : Version) : Decidable (From numbers v) :=
  inferInstanceAs (Decidable (¬ _))

instance (numbers : List Nat) (v : Version) : Decidable (Until numbers v) :=
  inferInstanceAs (Decidable (_ ∨ _))

instance : (relation : Relation) → (numbers : List Nat) → (v : Version) →
    Decidable (Admits relation numbers v)
  | .exact, _, _ | .tilde, _, _ | .caret, _, _ => inferInstanceAs (Decidable (_ ∧ _))
  | .above, _, _ => inferInstanceAs (Decidable (¬ _))
  | .atLeast, numbers, v => inferInstanceAs (Decidable (From numbers v))
  | .below, numbers, v => inferInstanceAs (Decidable (Before v.core (lowest numbers)))
  | .atMost, numbers, v => inferInstanceAs (Decidable (Until numbers v))

/-! ### Cores -/

/-- Three numbers come before three others if the first that differs is smaller. -/
theorem before_iff (a b c x y z : Nat) :
    Before [a, b, c] [x, y, z] ↔ a < x ∨ a = x ∧ (b < y ∨ b = y ∧ c < z) := by
  simp only [Before, and_false, or_false]

/-- Without a number the lowest core is zero. -/
theorem lowest_nil : lowest [] = [0, 0, 0] := rfl

/-- The lowest core with a major number has zeros behind it. -/
theorem lowest_one (a : Nat) : lowest [a] = [a, 0, 0] := rfl

/-- The lowest core with two numbers has a zero behind them. -/
theorem lowest_two (a b : Nat) : lowest [a, b] = [a, b, 0] := rfl

/-- Three numbers are a core. -/
theorem lowest_three (a b c : Nat) : lowest [a, b, c] = [a, b, c] := rfl

/-- The next core behind those with a major number has the next major number. -/
theorem next_one (a : Nat) : next [a] = [a + 1, 0, 0] := rfl

/-- The next core behind those with two numbers has the next minor number. -/
theorem next_two (a b : Nat) : next [a, b] = [a, b + 1, 0] := rfl

/-- The next core behind one with three numbers has the next patch number. -/
theorem next_three (a b c : Nat) : next [a, b, c] = [a, b, c + 1] := rfl

/-- A leading zero is not significant alone, so the numbers behind it count. -/
theorem significant_zero {n : Nat} (h : n = 0) (ns : List Nat) :
    significant (n :: ns) = n :: significant ns :=
  if_pos h

/-- The first number that is not zero is the last that counts. -/
theorem significant_of_ne_zero {n : Nat} (h : n ≠ 0) (ns : List Nat) :
    significant (n :: ns) = [n] :=
  if_neg h

/-- A single number counts, also if it is zero. -/
theorem significant_one (n : Nat) : significant [n] = [n] := by
  by_cases h : n = 0
  · exact significant_zero h []
  · exact significant_of_ne_zero h []

/-- With a number, the versions up to an end are those before the next. -/
theorem until_cons (major : Nat) (rest : List Nat) (v : Version) :
    Until (major :: rest) v ↔ Before v.core (next (major :: rest)) := by
  rw [Until, or_iff_right (List.cons_ne_nil _ _)]

/-- What a bound stands for begins before it ends. -/
theorem before_next {major : Nat} {rest : List Nat} (hrest : rest.length ≤ 2) {v : Version}
    (h : Before v.core (lowest (major :: rest))) : Before v.core (next (major :: rest)) := by
  rw [Version.core] at h ⊢
  match rest, hrest with
  | [], _ =>
    rw [lowest_one, before_iff] at h
    rw [next_one, before_iff]
    omega
  | [minor], _ =>
    rw [lowest_two, before_iff] at h
    rw [next_two, before_iff]
    omega
  | [minor, patch], _ =>
    rw [lowest_three, before_iff] at h
    rw [next_three, before_iff]
    omega

/-! ### Comparators -/

/-- The comparator that relates a version to a bound. -/
def comparator (relation : Relation) (major : Nat) (rest : List Nat) : Comparator :=
  { relation, major, minor := rest[0]?, patch := rest[1]? }

section Comparators

variable {relation : Relation} {major : Nat} {rest : List Nat} {v : Version}

/-- Of the prerelease, a release and a comparator that names none are equal. -/
theorem comparePre_nil (h : v.isRelease = true) : Version.comparePre v.pre [] = .eq := by
  rw [List.isEmpty_iff.mp h]
  rfl

/-- An exact comparator holds of the releases with its numbers. -/
theorem isExact_comparator (hrest : rest.length ≤ 2) (hv : v.isRelease = true) :
    (comparator relation major rest).isExact v = true ↔
      From (major :: rest) v ∧ Until (major :: rest) v := by
  rw [until_cons, From, Version.core]
  have hpre : v.pre = [] := List.isEmpty_iff.mp hv
  -- A bound has one, two or three numbers, and a comparator asks for as many of the version.
  -- What is left in each case is arithmetic on the numbers.
  match rest, hrest with
  | [], _ =>
    rw [lowest_one, next_one, before_iff, before_iff]
    simp [comparator, Comparator.isExact, hpre]
    omega
  | [minor], _ =>
    rw [lowest_two, next_two, before_iff, before_iff]
    simp [comparator, Comparator.isExact, hpre]
    omega
  | [minor, patch], _ =>
    rw [lowest_three, next_three, before_iff, before_iff]
    simp [comparator, Comparator.isExact, hpre]
    omega

/-- A comparator from above holds of the releases that do not come before the next. -/
theorem isAbove_comparator (hrest : rest.length ≤ 2) (hv : v.isRelease = true) :
    (comparator relation major rest).isAbove v = true ↔
      ¬ Before v.core (next (major :: rest)) := by
  rw [Version.core]
  have hpre := comparePre_nil hv
  match rest, hrest with
  | [], _ =>
    rw [next_one, before_iff]
    simp [comparator, Comparator.isAbove]
    omega
  | [minor], _ =>
    rw [next_two, before_iff]
    simp [comparator, Comparator.isAbove]
    grind
  | [minor, patch], _ =>
    rw [next_three, before_iff]
    simp [comparator, Comparator.isAbove, hpre]
    grind

/-- A comparator from below holds of the releases before its lowest. -/
theorem isBelow_comparator (hrest : rest.length ≤ 2) (hv : v.isRelease = true) :
    (comparator relation major rest).isBelow v = true ↔
      Before v.core (lowest (major :: rest)) := by
  rw [Version.core]
  have hpre := comparePre_nil hv
  match rest, hrest with
  | [], _ =>
    rw [lowest_one, before_iff]
    simp [comparator, Comparator.isBelow]
    omega
  | [minor], _ =>
    rw [lowest_two, before_iff]
    simp [comparator, Comparator.isBelow]
    grind
  | [minor, patch], _ =>
    rw [lowest_three, before_iff]
    simp [comparator, Comparator.isBelow, hpre]
    grind

/-- A tilde holds of the releases from its lowest to the next minor number. -/
theorem isTilde_comparator (hrest : rest.length ≤ 2) (hv : v.isRelease = true) :
    (comparator relation major rest).isTilde v = true ↔
      From (major :: rest) v ∧ Until ((major :: rest).take 2) v := by
  rw [List.take_succ_cons, until_cons, From, Version.core]
  have hpre := comparePre_nil hv
  match rest, hrest with
  | [], _ =>
    rw [List.take_nil, lowest_one, next_one, before_iff, before_iff]
    simp [comparator, Comparator.isTilde, Comparator.reachesPre, hpre]
    omega
  | [minor], _ =>
    rw [List.take_succ_cons, List.take_zero, lowest_two, next_two, before_iff, before_iff]
    simp [comparator, Comparator.isTilde, Comparator.reachesPre, hpre]
    omega
  | [minor, patch], _ =>
    rw [List.take_succ_cons, List.take_zero, lowest_three, next_two, before_iff, before_iff]
    simp [comparator, Comparator.isTilde, Comparator.reachesPre, hpre]
    grind

/-- A caret holds of the releases from its lowest until a significant number changes. -/
theorem isCaret_comparator (hrest : rest.length ≤ 2) (hv : v.isRelease = true) :
    (comparator relation major rest).isCaret v = true ↔
      From (major :: rest) v ∧ Until (significant (major :: rest)) v := by
  rw [From, Version.core]
  have hpre := comparePre_nil hv
  match rest, hrest with
  | [], _ =>
    rw [significant_one, until_cons, lowest_one, next_one, Version.core, before_iff, before_iff]
    simp [comparator, Comparator.isCaret]
    omega
  | [minor], _ =>
    -- The caret keeps the first number that is not zero, or the last one.
    by_cases hmajor : major = 0
    · rw [significant_zero hmajor, significant_one, until_cons, lowest_two, next_two,
        Version.core, before_iff, before_iff]
      simp [comparator, Comparator.isCaret, hmajor]
      omega
    · rw [significant_of_ne_zero hmajor, until_cons, lowest_two, next_one, Version.core,
        before_iff, before_iff]
      simp [comparator, Comparator.isCaret, Nat.pos_of_ne_zero hmajor]
      omega
  | [minor, patch], _ =>
    by_cases hmajor : major = 0
    · rw [significant_zero hmajor]
      by_cases hminor : minor = 0
      · rw [significant_zero hminor, significant_one, until_cons, lowest_three, next_three,
          Version.core, before_iff, before_iff]
        simp [comparator, Comparator.isCaret, Comparator.reachesPre, hpre, hmajor, hminor]
        omega
      · rw [significant_of_ne_zero hminor, until_cons, lowest_three, next_two, Version.core,
          before_iff, before_iff]
        simp [comparator, Comparator.isCaret, Comparator.reachesPre, hpre, hmajor,
          Nat.pos_of_ne_zero hminor]
        grind
    · rw [significant_of_ne_zero hmajor, until_cons, lowest_three, next_one, Version.core,
        before_iff, before_iff]
      simp [comparator, Comparator.isCaret, Comparator.reachesPre, hpre,
        Nat.pos_of_ne_zero hmajor]
      grind

/-- A comparator holds of the releases in its interval. -/
theorem holds_comparator (relation : Relation) (major : Nat) (hrest : rest.length ≤ 2)
    (hv : v.isRelease = true) :
    (comparator relation major rest).holds v = true ↔ Admits relation (major :: rest) v := by
  cases relation with
  | exact => exact isExact_comparator hrest hv
  | above => exact isAbove_comparator hrest hv
  | atLeast =>
    show (Comparator.isExact _ v || Comparator.isAbove _ v) = true ↔ From _ v
    rw [Bool.or_eq_true, isExact_comparator hrest hv, isAbove_comparator hrest hv, until_cons]
    -- What is not before the bound is among what it stands for, or after all of it.
    constructor
    · rintro (⟨hfrom, _⟩ | hnext)
      · exact hfrom
      · exact fun hlowest => hnext (before_next hrest hlowest)
    · intro hfrom
      by_cases hnext : Before v.core (next (major :: rest))
      · exact .inl ⟨hfrom, hnext⟩
      · exact .inr hnext
  | below => exact isBelow_comparator hrest hv
  | atMost =>
    show (Comparator.isExact _ v || Comparator.isBelow _ v) = true ↔ Until _ v
    rw [Bool.or_eq_true, isExact_comparator hrest hv, isBelow_comparator hrest hv, until_cons]
    constructor
    · rintro (⟨_, huntil⟩ | hlowest)
      · exact huntil
      · exact before_next hrest hlowest
    · intro huntil
      by_cases hlowest : Before v.core (lowest (major :: rest))
      · exact .inr hlowest
      · exact .inl ⟨hlowest, huntil⟩
  | tilde => exact isTilde_comparator hrest hv
  | caret => exact isCaret_comparator hrest hv

example : Admits .caret [0, 2] { major := 0, minor := 2, patch := 9 } ∧
    ¬ Admits .caret [0, 2] { major := 0, minor := 3, patch := 0 } := by decide

/-- Without a number nothing is excluded, except by a relation that looks below. -/
theorem admits_nil (h : relation ≠ .below) (v : Version) : Admits relation [] v := by
  have hfrom : From [] v := by
    rw [From, Version.core, lowest_nil, before_iff]
    omega
  cases relation with
  | below => exact absurd rfl h
  | above => exact hfrom
  | atLeast => exact hfrom
  | atMost => exact .inl rfl
  | exact | tilde | caret => exact ⟨hfrom, .inl rfl⟩

/-- The comparators of a bound: none when it has no number. -/
def comparators (relation : Relation) : List Nat → List Comparator
  | [] => []
  | major :: rest => [comparator relation major rest]

/-- A partial version has one comparator at most. -/
theorem length_comparators_le (relation : Relation) (numbers : List Nat) :
    (comparators relation numbers).length ≤ 1 := by
  cases numbers with
  | nil => exact Nat.zero_le 1
  | cons => exact Nat.le_refl 1

/-- The comparators of a partial version hold of the releases that it admits. -/
theorem comparators_hold {numbers : List Nat} (hnumbers : numbers.length ≤ 3)
    (hbelow : relation = .below → numbers ≠ []) (hv : v.isRelease = true) :
    (∀ c ∈ comparators relation numbers, c.holds v = true) ↔ Admits relation numbers v := by
  cases numbers with
  | nil =>
    have hne : relation ≠ .below := fun h => hbelow h rfl
    exact ⟨fun _ => admits_nil hne v, fun _ => nofun⟩
  | cons major rest =>
    rw [comparators, List.forall_mem_singleton]
    exact holds_comparator relation major (Nat.le_of_succ_le_succ hnumbers) hv

end Comparators

end Range

end FrameworkUpgrade
