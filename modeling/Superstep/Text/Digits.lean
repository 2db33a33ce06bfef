/-! # Digits

Numerals of natural numbers in a base, and the value of a run of digits.
-/

namespace Superstep.Text

/-- The value of a decimal or hexadecimal digit; letters in either case. -/
def digitValue? (c : Char) : Option Nat :=
  if '0' ≤ c ∧ c ≤ '9' then some (c.toNat - 48)
  else if 'a' ≤ c ∧ c ≤ 'f' then some (c.toNat - 87)
  else if 'A' ≤ c ∧ c ≤ 'F' then some (c.toNat - 55)
  else none

/-- Whether a character is a digit of the base, at most sixteen. -/
def isDigitOf (base : Nat) (c : Char) : Bool :=
  match digitValue? c with
  | some d => d < base
  | none => false

def isDecimalDigit (c : Char) : Bool :=
  '0' ≤ c && c ≤ '9'

/-- The number that a run of digits spells, the most significant first. -/
def valueOfDigits (base : Nat) (cs : List Char) : Nat :=
  cs.foldl (fun n c => n * base + (digitValue? c).getD 0) 0

/-- The digits of a number, the most significant first. -/
def decimalDigits (n : Nat) : List Char :=
  Nat.toDigits 10 n

def hexDigits (n : Nat) : List Char :=
  Nat.toDigits 16 n

/-- The hexadecimal digits of a number with zeros in front up to a width. -/
def paddedHex (width n : Nat) : List Char :=
  let digits := hexDigits n
  List.replicate (width - digits.length) '0' ++ digits

end Superstep.Text
