import Superstep.Text.Digits
import Superstep.Toml.Value

/-! # Texts and numbers in TOML

Readers for the parts of a TOML document that hold no other values. A reader
takes what it can from the front of the characters and gives back the rest, or
finds that they are wrong.
-/

namespace Superstep.Toml

/-- A value and the characters after it, unless they are wrong. -/
abbrev Scan (α : Type) := Option (α × List Char)

namespace Scalar

def isSpace (c : Char) : Bool :=
  c == ' ' || c == '\t'

def skipSpace (cs : List Char) : List Char :=
  cs.dropWhile isSpace

/-- Whether a character may stand in a comment: no control character but the
    tab. -/
def isPrintable (c : Char) : Bool :=
  c == '\t' || (' ' ≤ c && c != '\x7f')

/-- Whether a character stands for itself in a text that knows escapes. -/
def isPlain (c : Char) : Bool :=
  isPrintable c && c != '"' && c != '\\'

/-- Whether a character may stand in a text without escapes. -/
def isLiteral (c : Char) : Bool :=
  isPrintable c && c != '\''

def afterBreak? : List Char → Option (List Char)
  | '\n' :: rest => some rest
  | '\r' :: '\n' :: rest => some rest
  | _ => none

/-- Skip a line break if there is one. -/
def skipBreak (cs : List Char) : List Char :=
  (afterBreak? cs).getD cs

/-- Skip spaces, tabs and line breaks. -/
def skipLines : List Char → List Char
  | '\n' :: rest => skipLines rest
  | '\r' :: '\n' :: rest => skipLines rest
  | ' ' :: rest => skipLines rest
  | '\t' :: rest => skipLines rest
  | rest => rest

/-- The character of an escape by its number, written with so many digits. -/
def numberedEscape (width : Nat) (cs : List Char) : Scan Char :=
  let digits := cs.take width
  if digits.length = width ∧ digits.all (Text.isDigitOf 16) then
    let code := Text.valueOfDigits 16 digits
    if code.isValidChar then some (Char.ofNat code, cs.drop width) else none
  else none

/-- The character of an escape, after the backslash. -/
def escape : List Char → Scan Char
  | 'b' :: rest => some ('\x08', rest)
  | 'f' :: rest => some ('\x0c', rest)
  | 'n' :: rest => some ('\n', rest)
  | 'r' :: rest => some ('\r', rest)
  | 't' :: rest => some ('\t', rest)
  | '\\' :: rest => some ('\\', rest)
  | '"' :: rest => some ('"', rest)
  | 'u' :: rest => numberedEscape 4 rest
  | 'U' :: rest => numberedEscape 8 rest
  | _ => none

/-- The rest of a text in quotes, on one line. At most `fuel` steps; `before`
    holds what was read, the last character first. -/
def basicRest : Nat → List Char → List Char → Scan (List Char)
  | 0, _, _ => none
  | fuel + 1, before, cs =>
      match cs with
      | '"' :: rest => some (before.reverse, rest)
      | '\\' :: rest =>
          match escape rest with
          | some (c, rest) => basicRest fuel (c :: before) rest
          | none => none
      | c :: rest => if isPlain c then basicRest fuel (c :: before) rest else none
      | [] => none

/-- The end of a text in triple quotes at a run of at least three of them: up to
    two of the quotes belong to the text. -/
def closeTriple (quote : Char) (run : Nat) (before cs : List Char) : List Char × List Char :=
  let own := min (run - 3) 2
  (before.reverse ++ List.replicate own quote, cs.drop (own + 3))

/-- The rest of a text in triple quotes. A backslash at the end of a line drops
    the line break and the blank characters after it. -/
def basicLinesRest : Nat → List Char → List Char → Scan (List Char)
  | 0, _, _ => none
  | fuel + 1, before, cs =>
      match cs with
      | '"' :: _ =>
          let run := (cs.takeWhile (· == '"')).length
          if run < 3 then
            basicLinesRest fuel (List.replicate run '"' ++ before) (cs.drop run)
          else some (closeTriple '"' run before cs)
      | '\\' :: rest =>
          match afterBreak? (skipSpace rest) with
          | some rest => basicLinesRest fuel before (skipLines rest)
          | none =>
              match escape rest with
              | some (c, rest) => basicLinesRest fuel (c :: before) rest
              | none => none
      | '\r' :: '\n' :: rest => basicLinesRest fuel ('\n' :: before) rest
      | '\n' :: rest => basicLinesRest fuel ('\n' :: before) rest
      | c :: rest => if isPlain c then basicLinesRest fuel (c :: before) rest else none
      | [] => none

def literalLinesRest : Nat → List Char → List Char → Scan (List Char)
  | 0, _, _ => none
  | fuel + 1, before, cs =>
      match cs with
      | '\'' :: _ =>
          let run := (cs.takeWhile (· == '\'')).length
          if run < 3 then
            literalLinesRest fuel (List.replicate run '\'' ++ before) (cs.drop run)
          else some (closeTriple '\'' run before cs)
      | '\r' :: '\n' :: rest => literalLinesRest fuel ('\n' :: before) rest
      | '\n' :: rest => literalLinesRest fuel ('\n' :: before) rest
      | c :: rest => if isLiteral c then literalLinesRest fuel (c :: before) rest else none
      | [] => none

/-- A text in quotes, after the first quote. -/
def basic (cs : List Char) : Scan String :=
  (basicRest (cs.length + 1) [] cs).map fun (text, rest) => (String.ofList text, rest)

/-- A text in apostrophes, after the first one. -/
def literal (cs : List Char) : Scan String :=
  match cs.dropWhile isLiteral with
  | '\'' :: rest => some (String.ofList (cs.takeWhile isLiteral), rest)
  | _ => none

/-- A text in quotes or apostrophes, over one line or several. -/
def text : List Char → Scan String
  | '"' :: '"' :: '"' :: rest =>
      (basicLinesRest (rest.length + 1) [] (skipBreak rest)).map
        fun (text, rest) => (String.ofList text, rest)
  | '\'' :: '\'' :: '\'' :: rest =>
      (literalLinesRest (rest.length + 1) [] (skipBreak rest)).map
        fun (text, rest) => (String.ofList text, rest)
  | '"' :: rest => basic rest
  | '\'' :: rest => literal rest
  | _ => none

/-- Digits with single underscores between them, which are dropped. -/
def digitRun (isDigit : Char → Bool) : List Char → List Char × List Char
  | [] => ([], [])
  | c :: rest =>
      if isDigit c then
        let (digits, rest) := digitRun isDigit rest
        (c :: digits, rest)
      else if c == '_' && rest.head?.any isDigit then digitRun isDigit rest
      else ([], c :: rest)

/-- At least one digit, the first one no underscore. -/
def digits (isDigit : Char → Bool) (cs : List Char) : Scan (List Char) :=
  if cs.head?.any isDigit then some (digitRun isDigit cs) else none

/-- A sign, if there is one, and whether it is a minus. -/
def sign : List Char → Bool × List Char
  | '-' :: rest => (true, rest)
  | '+' :: rest => (false, rest)
  | rest => (false, rest)

/-- The digits of a decimal integer: a zero stands alone. -/
def wholeDigits (cs : List Char) : Scan (List Char) :=
  match cs with
  | '0' :: rest => some (['0'], rest)
  | cs => digits Text.isDecimalDigit cs

/-- An integer that fits into 64 bits. -/
def fitting (i : Int) : Option Value :=
  if -(twoTo 63 : Int) ≤ i ∧ i < twoTo 63 then some (.integer i) else none

/-- An integer in a base other than ten, after its mark. -/
def based (base : Nat) (cs : List Char) : Option (Value × List Char) := do
  let (digits, rest) ← digits (Text.isDigitOf base) cs
  let v ← fitting (Text.valueOfDigits base digits)
  some (v, rest)

def integer : List Char → Option (Value × List Char)
  | '0' :: 'x' :: rest => based 16 rest
  | '0' :: 'o' :: rest => based 8 rest
  | '0' :: 'b' :: rest => based 2 rest
  | cs => do
      let (negative, rest) := sign cs
      let (digits, rest) ← wholeDigits rest
      let magnitude : Int := Text.valueOfDigits 10 digits
      let v ← fitting (if negative then -magnitude else magnitude)
      some (v, rest)

/-- An exponent, if there is one. -/
def exponent : List Char → Scan Int
  | 'e' :: rest => scaled rest
  | 'E' :: rest => scaled rest
  | rest => some (0, rest)
where
  scaled (cs : List Char) : Option (Int × List Char) := do
    let (negative, rest) := sign cs
    let (digits, rest) ← digits Text.isDecimalDigit rest
    let magnitude : Int := Text.valueOfDigits 10 digits
    some (if negative then -magnitude else magnitude, rest)

/-- A float with a fraction, an exponent or both; none if there is neither. One
    that is too large is wrong, unless it is negative. -/
def decimalFloat (cs : List Char) : Option (Value × List Char) := do
  let (negative, rest) := sign cs
  let (whole, rest) ← wholeDigits rest
  let (fraction, rest) ←
    match rest with
    | '.' :: rest => digits Text.isDecimalDigit rest
    | 'e' :: _ => some ([], rest)
    | 'E' :: _ => some ([], rest)
    | _ => none
  let (scale, rest) ← exponent rest
  let d : Decimal := ⟨Text.valueOfDigits 10 (whole ++ fraction), scale - fraction.length⟩
  match d.toBinary64 negative with
  | .ok x => some (.float (.ok x), rest)
  | .error n => if negative then some (.float (.error n), rest) else none

/-- An infinite float, or one that is no number. -/
def specialFloat (cs : List Char) : Scan Value :=
  let (negative, rest) := sign cs
  match rest with
  | 'i' :: 'n' :: 'f' :: rest => some (.float (.error (.infinite negative)), rest)
  | 'n' :: 'a' :: 'n' :: rest => some (.float (.error .undefined), rest)
  | _ => none

end Scalar

end Superstep.Toml
