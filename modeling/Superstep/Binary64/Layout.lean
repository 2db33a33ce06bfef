import Superstep.Binary64.Decimal
import Superstep.Text.Digits

/-! # Writing numbers

A layout fixes how the digits of the shortest decimal are set out. Two layouts
are in use: that of JSON documents and that of messages.
-/

namespace Superstep

/-- How a number is written. -/
structure Layout where
  /-- Whether a number `d.ddd · 10 ^ e` is written without an exponent. -/
  plain : Int → Bool
  /-- What follows the digits of a whole number in plain form. -/
  wholeEnd : List Char
  tie : Tie

/-- JSON: plain from 10^-5 to below 10^16, and a whole number ends in `.0`. -/
def Layout.json : Layout :=
  ⟨fun e => -5 ≤ e && e ≤ 15, ['.', '0'], .toEven⟩

/-- Messages: always plain, and a whole number has no fraction. -/
def Layout.message : Layout :=
  ⟨fun _ => true, [], .upward⟩

def Layout.writePlain (layout : Layout) (digits : List Char) (exponent : Int) : List Char :=
  if 0 ≤ exponent then digits ++ List.replicate exponent.toNat '0' ++ layout.wholeEnd
  else
    let places := (-exponent).toNat
    if places < digits.length then
      digits.take (digits.length - places) ++ '.' :: digits.drop (digits.length - places)
    else '0' :: '.' :: List.replicate (places - digits.length) '0' ++ digits

/-- Form with an exponent, which always has a sign. -/
def Layout.writeScientific (digits : List Char) (magnitude : Int) : List Char :=
  let mantissa :=
    match digits with
    | [] => []
    | [d] => [d]
    | d :: rest => d :: '.' :: rest
  let sign := if magnitude < 0 then '-' else '+'
  mantissa ++ 'e' :: sign :: Text.decimalDigits magnitude.natAbs

def Layout.write (layout : Layout) (x : Binary64) : List Char :=
  let d := x.shortest layout.tie
  let digits := Text.decimalDigits d.coefficient
  let magnitude : Int := d.exponent + digits.length - 1
  let unsigned :=
    if layout.plain magnitude then layout.writePlain digits d.exponent
    else Layout.writeScientific digits magnitude
  if x.negative then '-' :: unsigned else unsigned

def NonFinite.text : NonFinite → String
  | .infinite false => "inf"
  | .infinite true => "-inf"
  | .undefined => "NaN"

end Superstep
