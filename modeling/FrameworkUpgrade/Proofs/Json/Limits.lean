import FrameworkUpgrade.Proofs.Json.Members
import FrameworkUpgrade.Proofs.Outcome
import Mathlib.Algebra.Group.Int.Defs
import Mathlib.Algebra.Group.Nat.Defs

/-!
# `FrameworkUpgrade.Proofs.Json.Limits`: what a value that is read keeps to

`Json.Within P room` are the values whose numbers satisfy `P`, in whose objects a key is once, and
that have at most `room` containers open at a time. `within_of_read` says that whatever is read
from a text is such a value: it has at most `maxDepth` containers open, and its integers fit in 64
bits.

The reader is taken apart with `Yields`: each of its parts yields such values only.

Which written numbers are integers is said by `Literal.value?_eq_int_iff`: those with neither
fraction nor exponent, that fit in 64 bits and are not minus zero.
-/

set_option autoImplicit false

namespace FrameworkUpgrade

namespace Json

/-- The numbers satisfy a property, a key is in an object once, and there is room for the
containers that are open at a time. -/
inductive Within (P : Number → Prop) : (room : Nat) → Json → Prop where
  | null {room : Nat} : Within P room .null
  | bool {room : Nat} (b : Bool) : Within P room (.bool b)
  | number {room : Nat} {n : Number} (h : P n) : Within P room (.number n)
  | text {room : Nat} (s : String) : Within P room (.text s)
  | list {room : Nat} {items : List Json} (values : ∀ v ∈ items, Within P room v) :
      Within P (room + 1) (.list items)
  | object {room : Nat} {ms : Members} (keys : ms.keys.Nodup)
      (values : ∀ m ∈ ms, Within P room m.2) : Within P (room + 1) (.object ms)

/-- An object is within the limits exactly if its keys are distinct and its values are within the
limits with one level less. -/
theorem within_object {P : Number → Prop} {room : Nat} {ms : Members} :
    Within P (room + 1) (.object ms) ↔ ms.Keyed (Within P room) := by
  constructor
  · rintro (_ | _ | _ | _ | _ | ⟨hkeys, hvalues⟩)
    exact ⟨hkeys, hvalues⟩
  · rintro ⟨hkeys, hvalues⟩
    exact .object hkeys hvalues

/-- A change that keeps every member within its limits keeps the object within them. -/
theorem Within.update {P : Number → Prop} {room : Nat} {ms : Members} {f : Json → Json}
    (h : Within P room (.object ms)) (hf : ∀ room v, Within P room v → Within P room (f v))
    (key : String) : Within P room (.object (Members.update key f ms)) := by
  cases room with
  | zero => cases h
  | succ room => exact within_object.mpr ((within_object.mp h).update (hf room) key)

/-- To put a member that is within the limits keeps the object within them. -/
theorem Within.put {P : Number → Prop} {room : Nat} {ms : Members} {value : Json}
    (h : Within P (room + 1) (.object ms)) (key : String) (hvalue : Within P room value) :
    Within P (room + 1) (.object (Members.put key value ms)) :=
  within_object.mpr ((within_object.mp h).put key hvalue)

/-! ### Numbers -/

/-- An integer is one of 64 bits, with or without sign. -/
def Number.Fits : Number → Prop
  | .int n => -2 ^ 63 ≤ n ∧ n < 2 ^ 64
  | .real _ => True

/-- What digits put behind a number amount to is at least the number. -/
theorem le_ofDigitChars (n : Nat) (ds : List Char) : n ≤ Nat.ofDigitChars 10 ds n := by
  induction ds generalizing n with
  | nil => exact Nat.le_of_eq Nat.ofDigitChars_nil.symm
  | cons d ds ih =>
    rw [Nat.ofDigitChars_cons]
    have hrest := ih (10 * n + (d.toNat - '0'.toNat))
    omega

/-- Digits are absorbed to the last one when their number fits in 64 bits. -/
theorem absorb_of_lt {n : Nat} {ds : List Char} (h : Nat.ofDigitChars 10 ds n < 2 ^ 64) :
    absorb n ds = (Nat.ofDigitChars 10 ds n, []) := by
  induction ds generalizing n with
  | nil => rfl
  | cons d ds ih =>
    rw [Nat.ofDigitChars_cons] at h ⊢
    have hfits : 10 * n + (d.toNat - 48) < Nat.pow 2 64 :=
      Nat.lt_of_le_of_lt (le_ofDigitChars _ ds) h
    rw [absorb]
    simp only [if_pos hfits]
    exact ih h

/-- Digits are left when the number does not fit. -/
theorem absorb_left_ne_nil {n : Nat} {ds : List Char} (hn : n < 2 ^ 64)
    (h : 2 ^ 64 ≤ Nat.ofDigitChars 10 ds n) : (absorb n ds).2 ≠ [] := by
  induction ds generalizing n with
  | nil =>
    rw [Nat.ofDigitChars_nil] at h
    omega
  | cons d ds ih =>
    rw [Nat.ofDigitChars_cons] at h
    rw [absorb]
    split
    · rename_i hfits
      exact ih hfits h
    · exact List.cons_ne_nil d ds

/-- Nothing is left of the digits of a number exactly when it fits. -/
theorem absorb_left_eq_nil_iff {ds : List Char} :
    (absorb 0 ds).2 = [] ↔ Nat.ofDigitChars 10 ds 0 < 2 ^ 64 := by
  constructor
  · intro hnil
    exact Nat.not_le.mp fun hle => absorb_left_ne_nil (by decide) hle hnil
  · intro hlt
    rw [absorb_of_lt hlt]

/-- Whether a number is an integer. -/
def Number.isInt : Number → Bool
  | .int _ => true
  | .real _ => false

mutual

/-- The numbers in a value, from left to right. -/
def numbers : Json → List Number
  | .number n => [n]
  | .list items => itemNumbers items
  | .object ms => memberNumbers ms
  | _ => []

/-- The numbers in the items of a list. -/
def itemNumbers : List Json → List Number
  | [] => []
  | v :: vs => numbers v ++ itemNumbers vs

/-- The numbers in the values of an object. -/
def memberNumbers : Members → List Number
  | [] => []
  | (_, v) :: ms => numbers v ++ memberNumbers ms

end

/-- The numbers of an item are among those of the list. -/
theorem numbers_subset_itemNumbers {v : Json} {items : List Json} (h : v ∈ items) :
    numbers v ⊆ itemNumbers items := by
  induction items with
  | nil => cases h
  | cons w items ih =>
    rw [itemNumbers]
    rcases List.mem_cons.mp h with rfl | h
    · exact List.subset_append_left _ _
    · exact List.subset_append_of_subset_right _ (ih h)

/-- The numbers of a member are among those of the object. -/
theorem numbers_subset_memberNumbers {m : String × Json} {ms : Members} (h : m ∈ ms) :
    numbers m.2 ⊆ memberNumbers ms := by
  induction ms with
  | nil => cases h
  | cons m' ms ih =>
    rw [memberNumbers]
    rcases List.mem_cons.mp h with rfl | h
    · exact List.subset_append_left _ _
    · exact List.subset_append_of_subset_right _ (ih h)

/-- The property of numbers may be changed for one that the numbers of the value have. -/
theorem Within.of_numbers {P Q : Number → Prop} {room : Nat} {j : Json} (h : Within P room j)
    (hQ : ∀ n ∈ j.numbers, P n → Q n) : Within Q room j := by
  induction h with
  | null => exact .null
  | bool b => exact .bool b
  | number h => exact .number (hQ _ List.mem_cons_self h)
  | text s => exact .text s
  | list _ ih =>
    exact .list fun v hv => ih v hv fun n hn => hQ n (numbers_subset_itemNumbers hv hn)
  | object keys _ ih =>
    exact .object keys fun m hm =>
      ih m hm fun n hn => hQ n (numbers_subset_memberNumbers hm hn)

/-- The number that the digits before the point stand for. -/
def Literal.magnitude (l : Literal) : Nat :=
  Nat.ofDigitChars 10 l.whole 0

/-- A written number whose digits are those of an integer: there is neither a fraction nor an
exponent behind them, and they fit in 64 bits. -/
structure Literal.IsPlain (l : Literal) : Prop where
  fraction : l.fraction = none
  exponent : l.exponent = none
  fits : l.magnitude < 2 ^ 64

/-- The digits of a plain number are absorbed to the last one. -/
theorem Literal.IsPlain.absorb_whole {l : Literal} (h : l.IsPlain) :
    absorb 0 l.whole = (l.magnitude, []) :=
  absorb_of_lt h.fits

/-- The test of the reader for plain numbers. -/
theorem Literal.isPlain_iff {l : Literal} :
    (l.fraction.isNone && l.exponent.isNone && (absorb 0 l.whole).2.isEmpty) = true ↔
      l.IsPlain := by
  simp only [Bool.and_eq_true, Option.isNone_iff_eq_none, List.isEmpty_iff, absorb_left_eq_nil_iff]
  constructor
  · rintro ⟨⟨hfraction, hexponent⟩, hfits⟩
    exact ⟨hfraction, hexponent, hfits⟩
  · intro h
    exact ⟨⟨h.fraction, h.exponent⟩, h.fits⟩

/-- A real number is not an integer. -/
theorem map_real_ne_int {α : Type} (f : α → Binary64) (x : Option α) (n : Int) :
    x.map (fun y => Number.real (f y)) ≠ some (.int n) := by
  cases x <;> nofun

/-- A written number that is not plain is real. -/
theorem Literal.value?_ne_int {l : Literal} (h : ¬ l.IsPlain) (n : Int) :
    l.value? ≠ some (.int n) := by
  have hplain := Bool.eq_false_iff.mpr (mt isPlain_iff.mp h)
  rw [Literal.value?]
  simp only [hplain, Bool.false_and, Bool.false_eq_true, if_false]
  exact map_real_ne_int _ _ n

/-- A plain number is an integer without a sign, or with one and a magnitude that has a negative
among the integers of 64 bits. -/
theorem Literal.IsPlain.value?_eq_int_iff {l : Literal} (h : l.IsPlain) {n : Int} :
    l.value? = some (.int n) ↔
      l.negative = false ∧ n = l.magnitude ∨
        l.negative = true ∧ 0 < l.magnitude ∧ l.magnitude ≤ 2 ^ 63 ∧ n = -l.magnitude := by
  rw [Literal.value?, h.absorb_whole]
  simp only [h.fraction, h.exponent, Option.isNone_none, List.isEmpty_nil, Bool.true_and]
  cases l.negative with
  | false =>
    rw [if_pos Bool.not_false]
    simp [eq_comm]
  | true =>
    rw [if_neg nofun]
    by_cases hint : (decide (0 < l.magnitude) && decide (l.magnitude ≤ Nat.pow 2 63)) = true
    · rw [if_pos hint]
      obtain ⟨hpos, hle⟩ : 0 < l.magnitude ∧ l.magnitude ≤ 2 ^ 63 := by simpa using hint
      constructor
      · rintro ⟨⟩
        exact .inr ⟨rfl, hpos, hle, rfl⟩
      · rintro (⟨⟨⟩, -⟩ | ⟨-, -, -, rfl⟩)
        rfl
    · rw [if_neg hint]
      refine ⟨fun h => absurd h (map_real_ne_int _ _ n), ?_⟩
      rintro (⟨⟨⟩, -⟩ | ⟨-, hpos, hle, -⟩)
      exact absurd (by simpa using ⟨hpos, hle⟩) hint

/-- Which written numbers are integers, and which integers they are. -/
theorem Literal.value?_eq_int_iff {l : Literal} {n : Int} :
    l.value? = some (.int n) ↔
      l.fraction = none ∧ l.exponent = none ∧
        (l.negative = false ∧ l.magnitude < 2 ^ 64 ∧ n = l.magnitude ∨
          l.negative = true ∧ 0 < l.magnitude ∧ l.magnitude ≤ 2 ^ 63 ∧ n = -l.magnitude) := by
  constructor
  · intro hvalue
    have h : l.IsPlain := Classical.not_not.mp fun h => value?_ne_int h n hvalue
    refine ⟨h.fraction, h.exponent, ?_⟩
    rcases h.value?_eq_int_iff.mp hvalue with ⟨hsign, hn⟩ | hnegative
    · exact .inl ⟨hsign, h.fits, hn⟩
    · exact .inr hnegative
  · rintro ⟨hfraction, hexponent, ⟨hsign, hlt, hn⟩ | ⟨hsign, hpos, hle, hn⟩⟩
    · exact (IsPlain.mk hfraction hexponent hlt).value?_eq_int_iff.mpr (.inl ⟨hsign, hn⟩)
    · have hlt : l.magnitude < 2 ^ 64 := Nat.lt_of_le_of_lt hle (by decide)
      exact (IsPlain.mk hfraction hexponent hlt).value?_eq_int_iff.mpr
        (.inr ⟨hsign, hpos, hle, hn⟩)

/-! ### The reader -/

/-- An integer that is written fits in 64 bits. -/
theorem fits_of_value? {l : Literal} {n : Number} (h : l.value? = some n) : n.Fits := by
  cases n with
  | int n =>
    obtain ⟨-, -, ⟨-, hlt, rfl⟩ | ⟨-, -, hle, rfl⟩⟩ := Literal.value?_eq_int_iff.mp h
    · exact ⟨by omega, by omega⟩
    · exact ⟨by omega, by omega⟩
  | real x => trivial

section Containers

variable {α : Type} {P : α → Prop}

/-- What the reader of one value guarantees, the reader of items guarantees of each of them. -/
theorem yields_readItems {value : List Char → Result α}
    (hvalue : ∀ cs, Yields (fun r => P r.1) (value cs)) (fuel : Nat) (cs : List Char) :
    Yields (fun r => ∀ v ∈ r.1, P v) (readItems value fuel cs) := by
  induction fuel generalizing cs with
  | zero => exact .error _
  | succ fuel ih =>
    refine (hvalue _).bind ?_
    rintro ⟨v, cs⟩ hv
    dsimp only
    split
    · exact .ok (by simpa using hv)
    · split
      · exact .error _
      · refine (ih _).bind ?_
        rintro ⟨vs, rest⟩ hvs
        exact .ok (List.forall_mem_cons.mpr ⟨hv, hvs⟩)
    · exact .error _
    · exact .error _

/-- The same of a list with its first bracket read. -/
theorem yields_readList {value : List Char → Result α}
    (hvalue : ∀ cs, Yields (fun r => P r.1) (value cs)) (cs : List Char) :
    Yields (fun r => ∀ v ∈ r.1, P v) (readList value cs) := by
  unfold readList
  split
  · exact .ok nofun
  · exact .error _
  · exact yields_readItems hvalue _ _

/-- What the reader of one value guarantees, the reader of members guarantees under every key. -/
theorem yields_readMembers {purpose : Purpose} {value : String → List Char → Result α}
    (hvalue : ∀ key cs, Yields (fun r => P r.1) (value key cs)) (fuel : Nat) (cs : List Char) :
    Yields (fun r => ∀ m ∈ r.1, P m.2) (readMembers purpose value fuel cs) := by
  induction fuel generalizing cs with
  | zero => exact .error _
  | succ fuel ih =>
    unfold readMembers
    split
    · refine (Yields.any _).bind ?_
      rintro ⟨key, cs⟩ _
      refine (Yields.any _).bind fun cs _ => (hvalue key cs).bind ?_
      rintro ⟨v, cs⟩ hv
      dsimp only
      split
      · exact .ok (by simpa using hv)
      · refine (ih _).bind ?_
        rintro ⟨ms, rest⟩ hms
        exact .ok (List.forall_mem_cons.mpr ⟨hv, hms⟩)
      · exact .error _
      · exact .error _
    · exact .error _
    · exact .error _

/-- The same of an object with its first brace read. -/
theorem yields_readObject {purpose : Purpose} {value : String → List Char → Result α}
    (hvalue : ∀ key cs, Yields (fun r => P r.1) (value key cs)) (cs : List Char) :
    Yields (fun r => ∀ m ∈ r.1, P m.2) (readObject purpose value cs) := by
  unfold readObject
  split
  · exact .ok nofun
  · exact .error _
  · exact yields_readMembers hvalue _ _

end Containers

/-- A word stands for one value. -/
theorem yields_readWord (value : Json) (word cs : List Char) :
    Yields (fun r => r.1 = value) (readWord value word cs) := by
  fun_induction readWord value word cs with
  | case1 => exact .ok rfl
  | case2 => exact .error _
  | case3 _ _ _ ih => exact ih
  | case4 => exact .error _

/-- A number that is read fits, and so it is within the limits at any depth. -/
theorem yields_readNumber (purpose : Purpose) (negative : Bool) (room : Nat) (cs : List Char) :
    Yields (fun r => Within Number.Fits room r.1) (readNumber purpose negative cs) := by
  refine (Yields.any _).bind fun _ _ => (Yields.any _).bind fun _ _ =>
    (Yields.any _).bind fun _ _ => ?_
  cases purpose with
  | skip => exact .ok .null
  | keep =>
    dsimp only
    split
    · rename_i hvalue
      exact .ok (.number (fits_of_value? hvalue))
    · exact .error _

/-- A value that is read keeps to the room that there is for it. -/
theorem yields_readValue (purpose : Purpose) (room : Nat) (cs : List Char) :
    Yields (fun r => Within Number.Fits room r.1) (readValue purpose room cs) := by
  have hword {room : Nat} {value : Json} (hvalue : Within Number.Fits room value)
      (word cs : List Char) :
      Yields (fun r => Within Number.Fits room r.1) (readWord value word cs) := by
    intro r hr
    have hval : r.1 = value := yields_readWord value word cs r hr
    rw [hval]
    exact hvalue
  -- The room for containers is what a value is read by.
  induction room generalizing cs with
  | zero =>
    cases cs with
    | nil => exact .error _
    | cons c cs =>
      unfold readValue
      refine .ite ?_ (.ite (hword .null _ _) (.ite (hword (.bool _) _ _)
        (.ite (hword (.bool _) _ _) (.ite (yields_readNumber _ _ _ _)
          (.ite (yields_readNumber _ _ _ _) (.error _))))))
      exact (Yields.any _).map fun _ _ => .text _
  | succ room ih =>
    cases cs with
    | nil => exact .error _
    | cons c cs =>
      unfold readValue
      refine .ite ?_ (.ite (hword .null _ _) (.ite (hword (.bool _) _ _)
        (.ite (hword (.bool _) _ _) (.ite (yields_readNumber _ _ _ _)
          (.ite (yields_readNumber _ _ _ _) (.ite ?_ (.ite ?_ (.error _))))))))
      · exact (Yields.any _).map fun _ _ => .text _
      · exact (yields_readList ih cs).map fun _ h => .list h
      · exact (yields_readObject (fun _ => ih) cs).map fun _ h =>
          within_object.mpr (.ofWritten h)

/-- A value that a text is keeps to the limits of the reader. -/
theorem within_of_read {cs : List Char} {j : Json} (h : read cs = .ok j) :
    Within Number.Fits maxDepth j := by
  have hread : Yields (Within Number.Fits maxDepth) (read cs) := by
    refine (yields_readValue .keep maxDepth _).bind ?_
    rintro ⟨v, rest⟩ hv
    dsimp only
    split
    · exact .ok hv
    · exact .error _
  exact hread j h

end Json

end FrameworkUpgrade
