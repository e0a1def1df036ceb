import FrameworkUpgrade.Proofs.Text.Blank
import FrameworkUpgrade.Version.Reader

/-!
# `FrameworkUpgrade.Proofs.Version.Number`: a written number is read back

`Version.numberChars` writes a number in decimal digits, and `Version.readNumber` reads the
digits at the front of a text. What is written has no leading zero and stops at the first
character that is no digit, so a number below the bound comes back as it was.
-/

set_option autoImplicit false

namespace FrameworkUpgrade

namespace Version

/-- A number is written in digits. -/
theorem isDigit_of_mem_numberChars {n : Nat} {c : Char} (h : c ∈ numberChars n) :
    c.isDigit = true :=
  Nat.isDigit_of_mem_toDigits (by decide) (by decide) h

/-- A number has a digit at least. -/
theorem numberChars_ne_nil (n : Nat) : numberChars n ≠ [] :=
  Nat.toDigits_ne_nil

/-- The digits of a number have its value. -/
theorem ofDigitChars_numberChars (n : Nat) : Nat.ofDigitChars 10 (numberChars n) 0 = n :=
  Nat.ofDigitChars_ten_toDigits

/-- Only zero is written with a zero in front. -/
theorem eq_zero_of_head?_numberChars {n : Nat} (h : (numberChars n).head? = some '0') :
    n = 0 := by
  induction n using Nat.strongRecOn with
  | ind n ih =>
    by_cases hn : n < 10
    · have hdigit : ∀ d < 10, Nat.digitChar d = '0' → d = 0 := by decide
      rw [numberChars, Nat.toDigits_of_lt_base hn] at h
      exact hdigit n hn (Option.some.inj h)
    · -- The first digit of a longer number is that of the number without its last digit.
      have hhead : (numberChars (n / 10)).head? = some '0' := by
        rw [← h, numberChars, numberChars, Nat.toDigits_of_base_le (by decide) (Nat.not_lt.mp hn)]
        cases hdigits : Nat.toDigits 10 (n / 10) with
        | nil => exact absurd hdigits Nat.toDigits_ne_nil
        | cons c cs => rfl
      have hzero := ih (n / 10) (by omega) hhead
      omega

/-- A number of more than one digit does not begin with a zero. -/
theorem numberChars_ne_zero_cons (n : Nat) (c : Char) (cs : List Char) :
    numberChars n ≠ '0' :: c :: cs := by
  intro h
  have hn : n = 0 := eq_zero_of_head?_numberChars (by rw [h]; rfl)
  rw [hn] at h
  cases h

/-- A written number is read when it is below the bound, and refused as too large otherwise. -/
theorem readNumber_numberChars_eq (part : Part) (n : Nat) (rest : List Char)
    (hrest : ∀ c ∈ rest.head?, c.isDigit = false) :
    readNumber part (numberChars n ++ rest) =
      if n < numberBound then .ok (n, rest) else .error (.tooLarge part) := by
  have hdigits : ∀ c ∈ numberChars n, c.isDigit = true := fun c => isDigit_of_mem_numberChars
  rw [readNumber, Text.takeWhile_append_of_head hdigits hrest,
    Text.dropWhile_append_of_head hdigits hrest]
  -- The reader refuses no digits at all and a zero in front, and neither is ever written.
  split
  · rename_i hnil
    exact absurd hnil (numberChars_ne_nil n)
  · rename_i hnil
    exact absurd hnil (numberChars_ne_nil n)
  · rename_i hzero
    exact absurd hzero (numberChars_ne_zero_cons n _ _)
  · rw [ofDigitChars_numberChars]

end Version

end FrameworkUpgrade
