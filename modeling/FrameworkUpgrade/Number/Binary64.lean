/-!
# `FrameworkUpgrade.Number.Binary64`: binary floating point in exact arithmetic

A finite binary64 number is a sign, a mantissa below 2^53 and a binary exponent
of at least -1074; the mantissa has its full 53 bits unless the exponent is the
least. Every operation computes the exact quotient of two natural numbers and
rounds it once, to the nearest number and to the even one of two that are equally
near. A result above the largest number is no number.
-/

set_option autoImplicit false

namespace FrameworkUpgrade

/-- A finite binary64 number, `mantissa * 2 ^ exponent` with a sign. -/
structure Binary64 where
  negative : Bool
  mantissa : Nat
  exponent : Int
deriving DecidableEq, Repr

namespace Binary64

/-- The least exponent. -/
def minExponent : Int := -1074

/-- The greatest exponent. -/
def maxExponent : Int := 971

/-- Zero without a sign. -/
def zero : Binary64 := ⟨false, 0, minExponent⟩

/-- Whether a number is zero, with either sign. -/
def isZero (x : Binary64) : Bool :=
  x.mantissa == 0

/-- The same number with the sign turned. -/
def negate (x : Binary64) : Binary64 :=
  { x with negative := !x.negative }

/-- The integer nearest to `num / den`, the even one of two. -/
def roundHalfEven (num den : Nat) : Nat :=
  let q := num / den
  let twice := 2 * (num % den)
  if twice < den then q
  else if den < twice then q + 1
  else if q % 2 = 0 then q else q + 1

/-- `num / den` divided by `2 ^ e`, as a fraction. -/
def scale (num den : Nat) (e : Int) : Nat × Nat :=
  if 0 ≤ e then (num, den * Nat.pow 2 e.toNat) else (num * Nat.pow 2 (-e).toNat, den)

/-- The exponent under which `num / den` has a mantissa of 53 bits, or the least
exponent where that one is greater. -/
def exponentOf (num den : Nat) : Int :=
  let e : Int := (num.log2 : Int) - den.log2 - 53
  let (n, d) := scale num den e
  max minExponent (if d * Nat.pow 2 53 ≤ n then e + 1 else e)

/-- The number nearest to `num / den`, if it is not too large. -/
def ofRatio? (num den : Nat) : Option Binary64 :=
  if num = 0 then some zero
  else
    let e := exponentOf num den
    let (n, d) := scale num den e
    let m := roundHalfEven n d
    let (m, e) := if m = Nat.pow 2 53 then (Nat.pow 2 52, e + 1) else (m, e)
    if e ≤ maxExponent then some ⟨false, m, e⟩ else none

/-- The number nearest to a natural number, if it is not too large. -/
def ofNat? (n : Nat) : Option Binary64 :=
  ofRatio? n 1

/-- The rounded product of two numbers without sign. -/
def mul? (x y : Binary64) : Option Binary64 :=
  ofRatio? (x.mantissa * y.mantissa * Nat.pow 2 (x.exponent + y.exponent).toNat)
    (Nat.pow 2 (-(x.exponent + y.exponent)).toNat)

/-- The rounded quotient of two numbers without sign, of which the second is not
zero. -/
def div? (x y : Binary64) : Option Binary64 :=
  ofRatio? (x.mantissa * Nat.pow 2 (x.exponent - y.exponent).toNat)
    (y.mantissa * Nat.pow 2 (y.exponent - x.exponent).toNat)

/-- The greatest power of ten that is a number. -/
def maxPower : Nat := 308

/-- `x` divided by the greatest power of ten, `times` times. -/
def shrink : (times : Nat) → Binary64 → Option Binary64
  | 0, x => some x
  | times + 1, x =>
    if x.isZero then some x
    else do
      let y ← div? x (← ofNat? (Nat.pow 10 maxPower))
      shrink times y

/-- The number read for `significand * 10 ^ exponent`: the rounded significand,
multiplied or divided by a rounded power of ten, with a rounding after each step.
A product that is too large is no number, and a quotient that is too small is
zero. -/
def ofDecimal? (significand : Nat) (exponent : Int) : Option Binary64 := do
  let x ← ofNat? significand
  if x.isZero then return x
  if 0 ≤ exponent then
    if exponent ≤ maxPower then mul? x (← ofNat? (Nat.pow 10 exponent.toNat)) else none
  else
    let down := (-exponent).toNat
    let times := (down - 1) / maxPower
    div? (← shrink times x) (← ofNat? (Nat.pow 10 (down - times * maxPower)))

end Binary64

end FrameworkUpgrade
