import FrameworkUpgrade.Number.Binary64

/-!
# `FrameworkUpgrade.Number.Shortest`: the fewest digits that read back

A binary64 number stands for an interval of real numbers: those nearer to it than
to any other, and the two ends when its mantissa is even. Its shortest decimal is
the one of the coarsest decimal grid that has a point in the interval, and of the
points of that grid the nearest to the number.
-/

set_option autoImplicit false

namespace FrameworkUpgrade

namespace Binary64

/-- The decimal `digits * 10 ^ exponent`. -/
structure Decimal where
  digits : Nat
  exponent : Int
deriving DecidableEq, Repr

/-- The interval of a number in quarters of the last place of its mantissa: the
lower end, the number itself and the upper end. Below a power of two the numbers
lie twice as close. -/
def interval (x : Binary64) : Nat × Nat × Nat :=
  let value := 4 * x.mantissa
  let narrow := x.mantissa = Nat.pow 2 52 ∧ minExponent < x.exponent
  (if narrow then value - 1 else value - 2, value, value + 2)

/-- `n * 2 ^ e`, with `e` counted from the quarter of the last place, divided by
`10 ^ p`, as a fraction. -/
def onGrid (x : Binary64) (p : Int) (n : Nat) : Nat × Nat :=
  let (num, den) := scale n 1 (2 - x.exponent)
  (num * Nat.pow 10 (-p).toNat, den * Nat.pow 10 p.toNat)

/-- The grid point `d * 10 ^ p` lies in the interval of the number. -/
def covers (x : Binary64) (p : Int) (d : Nat) : Bool :=
  let (low, _, high) := interval x
  let (lowNum, den) := onGrid x p low
  let (highNum, _) := onGrid x p high
  let point := d * den
  (lowNum < point && point < highNum)
    || (x.mantissa % 2 == 0 && (lowNum == point || point == highNum))

/-- The point of the grid `10 ^ p` in the interval that is nearest to the number,
and of two equally near the even one. -/
def nearestOn? (x : Binary64) (p : Int) : Option Nat :=
  let (num, den) := onGrid x p (4 * x.mantissa)
  let d := num / den
  match covers x p d, covers x p (d + 1) with
  | true, true => some (roundHalfEven num den)
  | true, false => some d
  | false, true => some (d + 1)
  | false, false => none

/-- The first hit on the grids `10 ^ p`, `10 ^ (p - 1)` and so on. -/
def search (x : Binary64) : (steps : Nat) → (p : Int) → Option Decimal
  | 0, _ => none
  | steps + 1, p =>
    match nearestOn? x p with
    | some d => some ⟨d, p⟩
    | none => search x steps (p - 1)

/-- A grid coarser than the number, by at most one more digit than needed. -/
def topGrid (x : Binary64) : Int :=
  (x.exponent + x.mantissa.log2 + 1) * 30103 / 100000 + 2

/-- The shortest decimal of a number. Twenty-two grids below the coarsest always
hold a hit, since seventeen digits tell any two numbers apart. -/
def shortest (x : Binary64) : Decimal :=
  if x.isZero then ⟨0, 0⟩ else (search x 22 (topGrid x)).getD ⟨0, 0⟩

end Binary64

end FrameworkUpgrade
