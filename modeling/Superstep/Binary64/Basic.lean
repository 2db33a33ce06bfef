import Superstep.Power

/-! # Finite binary64 numbers

A number is a sign and a magnitude `mantissa · 2 ^ exponent` in standard form,
which makes its representation unique. Every operation goes through an exact
fraction that is rounded once, to the nearest number and to an even mantissa
when two are equally near. Infinities and undefined results are no numbers
here: an operation that would give one says so in its result.
-/

namespace Superstep

/-- The standard form of a magnitude: at most 53 bits, and all 53 unless the
    exponent is the least one. -/
def IsStandard (mantissa : Nat) (exponent : Int) : Prop :=
  mantissa < twoTo 53 ∧ -1074 ≤ exponent ∧ exponent ≤ 971 ∧ (twoTo 52 ≤ mantissa ∨ exponent = -1074)

instance (mantissa : Nat) (exponent : Int) : Decidable (IsStandard mantissa exponent) :=
  inferInstanceAs (Decidable (_ ∧ _ ∧ _ ∧ (_ ∨ _)))

/-- A finite binary64 number, zeros of both signs included. -/
structure Binary64 where
  negative : Bool
  mantissa : Nat
  exponent : Int
  standard : IsStandard mantissa exponent
  deriving DecidableEq

/-- What an operation gives instead of a finite number. -/
inductive NonFinite where
  /-- Too large a magnitude, with its sign. -/
  | infinite (negative : Bool)
  /-- No value at all, as for a quotient of zeros. -/
  | undefined
  deriving DecidableEq, Repr

namespace Binary64

def zero (negative : Bool) : Binary64 :=
  ⟨negative, 0, -1074, by decide⟩

/-- The largest magnitude, of a sign. -/
def largest (negative : Bool) : Binary64 :=
  ⟨negative, twoTo 53 - 1, 971, by decide⟩

instance : Inhabited Binary64 := ⟨zero false⟩

/-- The integer nearest to `n / d`, the even one of two. -/
def nearestEven (n d : Nat) : Nat :=
  let q := n / d
  let r := n % d
  if 2 * r < d then q
  else if d < 2 * r then q + 1
  else q + q % 2

/-- The fraction `num / den` divided by a power of two. -/
def unscale (num den : Nat) (exponent : Int) : Nat × Nat :=
  (num * twoTo (-exponent).toNat, den * twoTo exponent.toNat)

/-- The exponent at which the magnitude `num / den` fills 53 bits, or the least
    one if it does not. -/
def fittingExponent (num den : Nat) : Int :=
  let guess : Int := (num.log2 : Int) - (den.log2 : Int) - 52
  let (n, d) := unscale num den guess
  max (-1074) (if n < twoTo 52 * d then guess - 1 else guess)

/-- The number nearest to `num / den`, with a sign. A magnitude that rounds
    beyond the largest number is infinite. -/
def ofFraction (negative : Bool) (num den : Nat) : Except NonFinite Binary64 :=
  if num = 0 then .ok (zero negative)
  else
    let exponent := fittingExponent num den
    let (n, d) := unscale num den exponent
    let rounded := nearestEven n d
    let (mantissa, exponent) :=
      if rounded = twoTo 53 then (twoTo 52, exponent + 1) else (rounded, exponent)
    if h : IsStandard mantissa exponent then .ok ⟨negative, mantissa, exponent, h⟩
    else .error (.infinite negative)

/-- The number nearest to an integer; the largest number of its sign if the
    integer lies beyond all of them. -/
def ofInt (i : Int) : Binary64 :=
  match ofFraction (decide (i < 0)) i.natAbs 1 with
  | .ok x => x
  | .error _ => largest (decide (i < 0))

def fraction (x : Binary64) : Nat × Nat :=
  (x.mantissa * twoTo x.exponent.toNat, twoTo (-x.exponent).toNat)

/-- The number as a multiple of `2 ^ exponent`, for an exponent not above its
    own. -/
def multipleOf (x : Binary64) (exponent : Int) : Int :=
  let magnitude : Int := (x.mantissa * twoTo (x.exponent - exponent).toNat : Nat)
  if x.negative then -magnitude else magnitude

/-- Whether the value is zero, of either sign. -/
def isZero (x : Binary64) : Bool :=
  x.mantissa == 0

def order (x y : Binary64) : Ordering :=
  let common := min x.exponent y.exponent
  compare (x.multipleOf common) (y.multipleOf common)

/-- Whether two numbers have the same value; the zeros of both signs do. -/
def sameValue (x y : Binary64) : Bool :=
  x.order y == .eq

/-- The value as an integer, if it is one. -/
def toInt? (x : Binary64) : Option Int :=
  let (n, d) := x.fraction
  if n % d = 0 then
    some (if x.negative then -((n / d : Nat) : Int) else ((n / d : Nat) : Int))
  else none

end Binary64

end Superstep
