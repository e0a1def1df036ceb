/-!
# `FrameworkUpgrade.Text.Hex`: digits of base sixteen

The value of a digit, which may be in upper or lower case, the digit of a value in
upper case, and the number that a word of digits stands for.
-/

set_option autoImplicit false

namespace FrameworkUpgrade.Text

/-- The value of a digit of base sixteen. -/
def hexValue? (c : Char) : Option Nat :=
  let n := c.toNat
  if 0x30 ≤ n ∧ n ≤ 0x39 then some (n - 0x30)
  else if 0x41 ≤ n ∧ n ≤ 0x46 then some (n - 0x41 + 10)
  else if 0x61 ≤ n ∧ n ≤ 0x66 then some (n - 0x61 + 10)
  else none

/-- The digit of a value below sixteen, in upper case. -/
def upperHex (n : Nat) : Char :=
  if n < 10 then Char.ofNat (0x30 + n) else Char.ofNat (0x41 + (n - 10))

/-- The number of a word of digits. Other characters count as zeros. -/
def hexNumber (word : List Char) : Nat :=
  word.foldl (fun n c => 16 * n + (hexValue? c).getD 0) 0

end FrameworkUpgrade.Text
