import Superstep.Binary64.Decimal
import Superstep.Json.Value
import Superstep.Text.Digits

/-! # Numbers as they are spelled in JSON

A spelled number becomes an integer when it has neither fraction nor exponent
and fits into 64 bits. Any other one is read as an integer of at most 64 bits
that is scaled by a power of ten; the integer, the power and the result are
rounded one after another, so the last bit may differ from that of the nearest
number.
-/

namespace Superstep.Json

/-- A number as it is spelled. -/
structure Literal where
  negative : Bool
  whole : List Char
  fraction : Option (List Char)
  /-- Whether the exponent is negative, and its digits. -/
  exponent : Option (Bool × List Char)
  deriving DecidableEq, Repr

/-- As many digits as fit into 64 bits after those already taken, and how many
    were taken. -/
def takeDigits : Nat → Nat → List Char → Nat × Nat
  | significand, taken, [] => (significand, taken)
  | significand, taken, c :: rest =>
      let next := significand * 10 + (Text.digitValue? c).getD 0
      if next < twoTo 64 then takeDigits next (taken + 1) rest else (significand, taken)

/-- An integer of at most 64 bits times a power of ten, every step rounded: the
    integer, the power, and their product or quotient. Powers beyond 308 are
    applied in several steps when dividing. The result is none if it is too
    large; `fuel` bounds the number of steps. -/
def scaleByTen : Nat → Binary64 → Int → Option Binary64
  | 0, _, _ => none
  | fuel + 1, x, exponent =>
      let power (n : Nat) : Binary64 :=
        match Decimal.toBinary64 false ⟨1, n⟩ with
        | .ok p => p
        | .error _ => .largest false
      if exponent.natAbs ≤ 308 then
        let scaled :=
          if 0 ≤ exponent then x.mul (power exponent.natAbs) else x.div (power exponent.natAbs)
        scaled.toOption
      else if x.isZero then some x
      else if 0 ≤ exponent then none
      else
        match x.div (power 308) with
        | .ok y => scaleByTen fuel y (exponent + 308)
        | .error _ => none

/-- The number that a literal spells; none if it is out of range. A literal
    without fraction and exponent is an integer when it fits into 64 bits, with
    or without a sign; a negative zero is not. Of any other literal, digits that
    no longer fit into 64 bits are dropped. -/
def Literal.toNumber? (l : Literal) : Option Number :=
  let (significand, taken) := takeDigits 0 0 l.whole
  let dropped := l.whole.length - taken
  if l.fraction = none ∧ l.exponent = none ∧ dropped = 0 ∧
      (l.negative = false ∨ (0 < significand ∧ significand ≤ twoTo 63)) then
    some (.integer (if l.negative then -(significand : Int) else significand))
  else
    let (significand, places) := takeDigits significand 0 (l.fraction.getD [])
    let start : Int := (dropped : Int) - places
    let (down, size) :=
      match l.exponent with
      | some (down, digits) => (down, Text.valueOfDigits 10 digits)
      | none => (false, 0)
    let magnitude :=
      if size < twoTo 31 then
        let exponent : Int := if down then start - size else start + size
        scaleByTen (exponent.natAbs / 308 + 2) (.ofInt significand) exponent
      else if significand ≠ 0 ∧ !down then none
      else some (.zero false)
    magnitude.map fun x => .float (if l.negative then x.neg else x)

end Superstep.Json
