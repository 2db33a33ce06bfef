import Superstep.Toml.Scalar

/-! # Dates and times in TOML

A moment is a date, a time, or a date with a time, the last of them with or
without an offset from universal time. Only moments that exist are read, and
they are kept as text in their usual form: a capital `T` between date and time,
`Z` for no offset, and a fraction of at most nine digits without zeros at its
end.
-/

namespace Superstep.Toml.Moment

def fixedDigits (width : Nat) (cs : List Char) : Scan (List Char) :=
  let digits := cs.take width
  if digits.length = width ∧ digits.all Text.isDecimalDigit then some (digits, cs.drop width)
  else none

def twoDigits (low high : Nat) (cs : List Char) : Scan (List Char) :=
  match fixedDigits 2 cs with
  | some (digits, rest) =>
      let n := Text.valueOfDigits 10 digits
      if low ≤ n ∧ n ≤ high then some (digits, rest) else none
  | none => none

def mark (c : Char) : List Char → Option (List Char)
  | d :: rest => if d = c then some rest else none
  | [] => none

def daysOf (year month : Nat) : Nat :=
  if month = 2 then
    if year % 4 = 0 ∧ (year % 100 ≠ 0 ∨ year % 400 = 0) then 29 else 28
  else if month = 4 ∨ month = 6 ∨ month = 9 ∨ month = 11 then 30
  else 31

def date (cs : List Char) : Option (List Char × List Char) := do
  let (year, rest) ← fixedDigits 4 cs
  let rest ← mark '-' rest
  let (month, rest) ← twoDigits 1 12 rest
  let rest ← mark '-' rest
  let days := daysOf (Text.valueOfDigits 10 year) (Text.valueOfDigits 10 month)
  let (day, rest) ← twoDigits 1 days rest
  some (year ++ '-' :: month ++ '-' :: day, rest)

/-- The fraction of a second as it is kept: nine digits at most, and none at all
    if they are zeros. -/
def shortFraction (digits : List Char) : List Char :=
  let kept := ((digits.take 9).reverse.dropWhile (· == '0')).reverse
  if kept.isEmpty then [] else '.' :: kept

/-- The fraction of a second, if there is one. -/
def fraction : List Char → Scan (List Char)
  | '.' :: rest =>
      let digits := rest.takeWhile Text.isDecimalDigit
      if digits.isEmpty then none
      else some (shortFraction digits, rest.dropWhile Text.isDecimalDigit)
  | rest => some ([], rest)

/-- A time of day; a minute may have a leap second. -/
def time (cs : List Char) : Option (List Char × List Char) := do
  let (hour, rest) ← twoDigits 0 23 cs
  let rest ← mark ':' rest
  let (minute, rest) ← twoDigits 0 59 rest
  let rest ← mark ':' rest
  let (second, rest) ← twoDigits 0 60 rest
  let (part, rest) ← fraction rest
  some (hour ++ ':' :: minute ++ ':' :: second ++ part, rest)

/-- Hours and minutes of an offset with a sign; no offset at all is positive. -/
def signedOffset (sign : Char) (cs : List Char) : Option (List Char × List Char) := do
  let (hour, rest) ← twoDigits 0 23 cs
  let rest ← mark ':' rest
  let (minute, rest) ← twoDigits 0 59 rest
  let isZero := (hour ++ minute).all (· == '0')
  some ((if isZero then '+' else sign) :: hour ++ ':' :: minute, rest)

/-- An offset from universal time, if there is one. -/
def offset : List Char → Scan (List Char)
  | 'Z' :: rest => some (['Z'], rest)
  | 'z' :: rest => some (['Z'], rest)
  | '+' :: rest => signedOffset '+' rest
  | '-' :: rest => signedOffset '-' rest
  | rest => some ([], rest)

def isDelimiter (c : Char) : Bool :=
  c == 'T' || c == 't' || c == ' '

/-- A moment that starts with a date. What follows the date belongs to it only
    if it starts with a time. -/
def fromDate (day rest : List Char) : Scan (List Char) :=
  match rest with
  | c :: after =>
      if isDelimiter c then
        match time after with
        | some (clock, rest) =>
            (offset rest).map fun (zone, rest) => (day ++ 'T' :: clock ++ zone, rest)
        | none => some (day, c :: after)
      else some (day, c :: after)
  | [] => some (day, [])

def moment (cs : List Char) : Scan Value :=
  let chars :=
    match date cs with
    | some (day, rest) => fromDate day rest
    | none => time cs
  chars.map fun (chars, rest) => (.moment (String.ofList chars), rest)

end Superstep.Toml.Moment
