import Superstep.Binary64.Arithmetic

/-! # Decimals and binary64 numbers

The number nearest to a decimal, and the shortest decimal that reads back as a
number. Both work on exact integers; no table and no approximation enters.
-/

namespace Superstep

/-- A decimal magnitude `coefficient · 10 ^ exponent`. -/
structure Decimal where
  coefficient : Nat
  exponent : Int
  deriving DecidableEq, Repr

/-- Which of two equally near decimals is chosen. -/
inductive Tie where
  /-- The one with an even last digit. -/
  | toEven
  | upward
  deriving DecidableEq, Repr

namespace Decimal

/-- How many decimal digits a number has; none for zero. -/
def digitCount (n : Nat) : Nat :=
  if n = 0 then 0 else (Nat.toDigits 10 n).length

/-- The binary64 number nearest to a decimal. Exponents far outside the range
    are decided by their size alone, without computing the power. -/
def toBinary64 (negative : Bool) (d : Decimal) : Except NonFinite Binary64 :=
  let top : Int := d.exponent + digitCount d.coefficient
  if d.coefficient = 0 ∨ top < -400 then .ok (Binary64.zero negative)
  else if 400 < top then .error (.infinite negative)
  else
    Binary64.ofFraction negative (d.coefficient * tenTo d.exponent.toNat)
      (tenTo (-d.exponent).toNat)

/-- Drop the zeros at the end of the coefficient, at most `fuel` of them. -/
def dropZeros : Nat → Decimal → Decimal
  | 0, d => d
  | fuel + 1, d =>
      if d.coefficient ≠ 0 ∧ d.coefficient % 10 = 0 then
        dropZeros fuel ⟨d.coefficient / 10, d.exponent + 1⟩
      else d

end Decimal

namespace Binary64

/-- The reals that round to a number, between two multiples of a quarter of its
    last bit: lower end, value and upper end, and the exponent of the quarter.
    Below a power of two the next number is only half as far away. -/
structure Rounding where
  low : Nat
  value : Nat
  high : Nat
  exponent : Int
  closed : Bool

/-- The interval of reals that round to the magnitude of a number. -/
def rounding (x : Binary64) : Rounding where
  low :=
    if x.mantissa = twoTo 52 ∧ x.exponent ≠ -1074 then 4 * x.mantissa - 1
    else 4 * x.mantissa - 2
  value := 4 * x.mantissa
  high := 4 * x.mantissa + 2
  exponent := x.exponent - 2
  closed := x.mantissa % 2 == 0

/-- Whether `c · 10 ^ e` lies in the interval; both sides are multiplied up to
    integers. -/
def Rounding.holds (r : Rounding) (c : Nat) (e : Int) : Bool :=
  let decimal := c * tenTo e.toNat * twoTo (-r.exponent).toNat
  let scale := tenTo (-e).toNat * twoTo r.exponent.toNat
  if r.closed then r.low * scale ≤ decimal && decimal ≤ r.high * scale
  else r.low * scale < decimal && decimal < r.high * scale

/-- The decimal of the grid `10 ^ e` that is nearest to the value among those
    that round to the number, if there is one. Only the two neighbours of the
    value need a look. -/
def Rounding.onGrid (tie : Tie) (r : Rounding) (e : Int) : Option Decimal :=
  let num := r.value * twoTo r.exponent.toNat * tenTo (-e).toNat
  let den := twoTo (-r.exponent).toNat * tenTo e.toNat
  let below := num / den
  let rest := num % den
  let up :=
    match tie with
    | .toEven => den < 2 * rest || (2 * rest == den && below % 2 == 1)
    | .upward => den ≤ 2 * rest
  let near := if up then below + 1 else below
  let far := if up then below else below + 1
  if near ≠ 0 ∧ r.holds near e then some ⟨near, e⟩
  else if far ≠ 0 ∧ r.holds far e then some ⟨far, e⟩
  else none

/-- The exponent `e` with `10 ^ (e - 1) ≤ n / d < 10 ^ e`, near a guess. -/
def decimalTop (n d : Nat) : Int :=
  let guess : Int := (Decimal.digitCount n : Int) - (Decimal.digitCount d : Int)
  if n * tenTo (-guess).toNat < d * tenTo guess.toNat then guess else guess + 1

/-- The shortest decimal that reads back as the number, the nearest of them and
    by `tie` the one of two; zero for zero. Seventeen digits always suffice. -/
def shortest (tie : Tie) (x : Binary64) : Decimal :=
  if x.mantissa = 0 then ⟨0, 0⟩
  else
    let (n, d) := x.fraction
    let top := decimalTop n d
    let r := x.rounding
    let found := (List.range 17).findSome? fun (digits : Nat) => r.onGrid tie (top - 1 - digits)
    Decimal.dropZeros 20 (found.getD ⟨0, 0⟩)

end Binary64

end Superstep
