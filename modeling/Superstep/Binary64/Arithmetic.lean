import Superstep.Binary64.Basic

/-! # Arithmetic of binary64 numbers

Sum, difference, product, quotient and remainder, each the exact result rounded
once. The remainder takes the sign of the dividend and is always exact.
-/

namespace Superstep.Binary64

def neg (x : Binary64) : Binary64 :=
  { x with negative := !x.negative }

/-- A multiple of `2 ^ exponent` rounded to a number; a zero takes the given
    sign. -/
def ofMultiple (zeroSign : Bool) (multiple exponent : Int) : Except NonFinite Binary64 :=
  if multiple = 0 then .ok (zero zeroSign)
  else
    ofFraction (decide (multiple < 0)) (multiple.natAbs * twoTo exponent.toNat)
      (twoTo (-exponent).toNat)

def add (x y : Binary64) : Except NonFinite Binary64 :=
  let common := min x.exponent y.exponent
  ofMultiple (x.negative && y.negative) (x.multipleOf common + y.multipleOf common) common

def sub (x y : Binary64) : Except NonFinite Binary64 :=
  add x y.neg

def mul (x y : Binary64) : Except NonFinite Binary64 :=
  let (a, b) := x.fraction
  let (c, d) := y.fraction
  ofFraction (x.negative != y.negative) (a * c) (b * d)

/-- The quotient. By zero it is infinite, or undefined for a zero dividend. -/
def div (x y : Binary64) : Except NonFinite Binary64 :=
  if y.isZero then
    .error (if x.isZero then .undefined else .infinite (x.negative != y.negative))
  else
    let (a, b) := x.fraction
    let (c, d) := y.fraction
    ofFraction (x.negative != y.negative) (a * d) (b * c)

/-- What remains of `x` after taking away `y` as often as it fits towards zero;
    undefined for a zero divisor. -/
def rem (x y : Binary64) : Except NonFinite Binary64 :=
  if y.isZero then .error .undefined
  else
    let common := min x.exponent y.exponent
    ofMultiple x.negative ((x.multipleOf common).tmod (y.multipleOf common)) common

end Superstep.Binary64
