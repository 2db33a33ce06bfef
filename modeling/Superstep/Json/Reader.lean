import Superstep.Json.Draft
import Superstep.Json.Literal

/-! # Reading JSON text

A scanner over the characters of a text that never fails: where the text stops
being JSON the draft records a break. Blank characters are the four of JSON.
Strings are first taken apart into characters and `\u` escapes, because whether
the escapes pair up matters to those who read a string and not to those who
skip it.
-/

namespace Superstep.Json.Reader

/-- One element of a string: a character, or the number of a `\u` escape, which
    may be half of a surrogate pair. -/
inductive Piece where
  | char (c : Char)
  | unit (code : Nat)
  deriving DecidableEq, Repr

/-- Join the pieces of a string: surrogates have to come in pairs, the leading
    one first. -/
def joinPieces : List Piece → Option (List Char)
  | [] => some []
  | .char c :: rest => (joinPieces rest).map (c :: ·)
  | .unit high :: .unit low :: rest =>
      if 0xD800 ≤ high ∧ high ≤ 0xDBFF then
        if 0xDC00 ≤ low ∧ low ≤ 0xDFFF then
          let code := 0x10000 + (high - 0xD800) * 0x400 + (low - 0xDC00)
          (joinPieces rest).map (Char.ofNat code :: ·)
        else none
      else if 0xDC00 ≤ high ∧ high ≤ 0xDFFF then none
      else (joinPieces (.unit low :: rest)).map (Char.ofNat high :: ·)
  | .unit code :: rest =>
      if 0xD800 ≤ code ∧ code ≤ 0xDFFF then none
      else (joinPieces rest).map (Char.ofNat code :: ·)

/-- The text of a string, unless a surrogate in it has no partner. -/
def textOf (pieces : List Piece) : Option String :=
  (joinPieces pieces).map String.ofList

/-- The pieces without a leading surrogate at the very end, whose partner may
    not have been reached. -/
def withoutOpenPair (pieces : List Piece) : List Piece :=
  match pieces.getLast? with
  | some (.unit code) => if 0xD800 ≤ code ∧ code ≤ 0xDBFF then pieces.dropLast else pieces
  | _ => pieces

/-- A break inside a string after some pieces: a reader has already failed if
    the pieces do not join. -/
def breakAfter (flaw : Flaw) (pieces : List Piece) : Break :=
  match joinPieces (withoutOpenPair pieces) with
  | some _ => .both flaw
  | none => ⟨.malformed, flaw⟩

/-- What has been read, and what follows it unless the text broke off. -/
abbrev Scan (α : Type) := α × Option (List Char)

def isSpace (c : Char) : Bool :=
  c == ' ' || c == '\n' || c == '\t' || c == '\r'

def skipSpace (cs : List Char) : List Char :=
  cs.dropWhile isSpace

def maxDepth : Nat := 127

/-- The rest of the word `null`, `true` or `false`. -/
def word (rest : List Char) (value : Draft) : List Char → Scan Draft
  | cs =>
      match rest, cs with
      | [], cs => (value, some cs)
      | _ :: _, [] => (.broken (.both .truncated), none)
      | expected :: rest, c :: cs =>
          if c = expected then word rest value cs else (.broken (.both .malformed), none)

/-- A break where a digit is missing. A skipper takes the end of the text for
    any other character there. -/
def noDigit (cs : List Char) : Break :=
  if cs.isEmpty then ⟨.truncated, .malformed⟩ else .both .malformed

/-- The exponent of a number, after the letter. -/
def exponentPart (l : Literal) (cs : List Char) : Scan Draft :=
  let (down, cs) :=
    match cs with
    | '+' :: cs => (false, cs)
    | '-' :: cs => (true, cs)
    | cs => (false, cs)
  let digits := cs.takeWhile Text.isDecimalDigit
  let rest := cs.dropWhile Text.isDecimalDigit
  if digits.isEmpty then (.broken (noDigit rest), none)
  else (.number { l with exponent := some (down, digits) }.toNumber?, some rest)

/-- What may follow the digits of a number: an exponent or something else. -/
def afterDigits (l : Literal) (cs : List Char) : Scan Draft :=
  match cs with
  | 'e' :: rest => exponentPart l rest
  | 'E' :: rest => exponentPart l rest
  | rest => (.number l.toNumber?, some rest)

/-- A number, after its sign. -/
def number (negative : Bool) (cs : List Char) : Scan Draft :=
  let whole := cs.takeWhile Text.isDecimalDigit
  let rest := cs.dropWhile Text.isDecimalDigit
  let l : Literal := ⟨negative, whole, none, none⟩
  if whole.isEmpty then (.broken (noDigit rest), none)
  else if whole.head? = some '0' ∧ 1 < whole.length then (.broken (.both .malformed), none)
  else
    match rest with
    | '.' :: rest =>
        let digits := rest.takeWhile Text.isDecimalDigit
        let rest := rest.dropWhile Text.isDecimalDigit
        if digits.isEmpty then (.broken (noDigit rest), none)
        else afterDigits { l with fraction := some digits } rest
    | rest => afterDigits l rest

/-- The value of the four hexadecimal digits of an escape. With fewer than four
    bytes left the text counts as ended, whatever they are. -/
def fourHex (cs : List Char) : Except Flaw (Nat × List Char) :=
  let digits := cs.take 4
  if digits.length = 4 ∧ digits.all (Text.isDigitOf 16) then
    .ok (Text.valueOfDigits 16 digits, cs.drop 4)
  else if (digits.foldl (fun n c => n + c.utf8Size) 0) < 4 then .error .truncated
  else .error .malformed

def simpleEscape (c : Char) : Option Char :=
  match c with
  | '"' => some '"'
  | '\\' => some '\\'
  | '/' => some '/'
  | 'b' => some '\x08'
  | 'f' => some '\x0c'
  | 'n' => some '\n'
  | 'r' => some '\r'
  | 't' => some '\t'
  | _ => none

/-- The rest of a string after its opening quote; `pieces` are those already
    read, the last one first. At most `fuel` steps. -/
def stringPieces : Nat → List Piece → List Char → Scan (Except Break (List Piece))
  | 0, pieces, _ => (.error (breakAfter .truncated pieces.reverse), none)
  | fuel + 1, pieces, cs =>
      let fail (flaw : Flaw) : Scan (Except Break (List Piece)) :=
        (.error (breakAfter flaw pieces.reverse), none)
      match cs with
      | [] => fail .truncated
      | '"' :: rest => (.ok pieces.reverse, some rest)
      | ['\\'] => fail .truncated
      | '\\' :: 'u' :: rest =>
          match fourHex rest with
          | .ok (code, rest) => stringPieces fuel (.unit code :: pieces) rest
          | .error flaw => fail flaw
      | '\\' :: c :: rest =>
          match simpleEscape c with
          | some c => stringPieces fuel (.char c :: pieces) rest
          | none => fail .malformed
      | c :: rest => if c < ' ' then fail .malformed else stringPieces fuel (.char c :: pieces) rest

def stringRest (cs : List Char) : Scan (Except Break (List Piece)) :=
  stringPieces (cs.length + 1) [] cs

def atDepth (depth : Nat) (d : Draft) : Draft :=
  if maxDepth < depth then .deep d else d

mutual
/-- One value inside `depth` containers. At most `fuel` nested steps, which the
    length of the text bounds. -/
def value : Nat → Nat → List Char → Scan Draft
  | 0, _, _ => (.broken (.both .malformed), none)
  | fuel + 1, depth, cs =>
      match skipSpace cs with
      | [] => (.broken (.both .truncated), none)
      | 'n' :: rest => word ['u', 'l', 'l'] .null rest
      | 't' :: rest => word ['r', 'u', 'e'] (.bool true) rest
      | 'f' :: rest => word ['a', 'l', 's', 'e'] (.bool false) rest
      | '"' :: rest =>
          match stringRest rest with
          | (.ok pieces, rest) => (.string (textOf pieces), rest)
          | (.error break_, _) => (.broken break_, none)
      | '[' :: rest =>
          let (items, rest) := items fuel (depth + 1) true rest
          (atDepth (depth + 1) (.array items), rest)
      | '\x7b' :: rest =>
          let (members, rest) := members fuel (depth + 1) true rest
          (atDepth (depth + 1) (.object members), rest)
      | '-' :: rest => number true rest
      | c :: rest =>
          if Text.isDecimalDigit c then number false (c :: rest)
          else (.broken (.both .malformed), none)

/-- The items of an array, from the first one or after an item. -/
def items : Nat → Nat → Bool → List Char → Scan Items
  | 0, _, _, _ => (.stop (.both .malformed), none)
  | fuel + 1, depth, first, cs =>
      match skipSpace cs, first with
      | [], _ => (.stop (.both .truncated), none)
      | ']' :: rest, _ => (.close, some rest)
      | ',' :: rest, false =>
          match skipSpace rest with
          | [] => (.dangling (.both .truncated), none)
          | ']' :: _ => (.dangling (.both .malformed), none)
          | rest => item fuel depth rest
      | _ :: _, false => (.stop (.both .malformed), none)
      | rest, true => item fuel depth rest

def item : Nat → Nat → List Char → Scan Items
  | 0, _, _ => (.stop (.both .malformed), none)
  | fuel + 1, depth, cs =>
      match value fuel depth cs with
      | (d, none) => (.item d (.stop (.both .malformed)), none)
      | (d, some rest) =>
          let (after, rest) := items fuel depth false rest
          (.item d after, rest)

/-- The members of an object, from the first one or after a member. -/
def members : Nat → Nat → Bool → List Char → Scan Members
  | 0, _, _, _ => (.stop (.both .malformed), none)
  | fuel + 1, depth, first, cs =>
      match skipSpace cs, first with
      | [], _ => (.stop (.both .truncated), none)
      | '\x7d' :: rest, _ => (.close, some rest)
      | ',' :: rest, false => member fuel depth (skipSpace rest)
      | _ :: _, false => (.stop (.both .malformed), none)
      | rest, true => member fuel depth rest

/-- One member, from its key on, and those after it. -/
def member : Nat → Nat → List Char → Scan Members
  | 0, _, _ => (.stop (.both .malformed), none)
  | _ + 1, _, [] => (.stop (.both .truncated), none)
  | fuel + 1, depth, '"' :: rest =>
      match stringRest rest with
      | (.error break_, _) => (.stop break_, none)
      | (.ok _, none) => (.stop (.both .truncated), none)
      | (.ok key, some rest) =>
          let lost (flaw : Flaw) : Scan Members :=
            (.member (textOf key) (.broken (.both flaw)) (.stop (.both flaw)), none)
          match skipSpace rest with
          | [] => lost .truncated
          | ':' :: rest =>
              match value fuel depth rest with
              | (d, none) => (.member (textOf key) d (.stop (.both .malformed)), none)
              | (d, some rest) =>
                  let (after, rest) := members fuel depth false rest
                  (.member (textOf key) d after, rest)
          | _ :: _ => lost .malformed
  | _ + 1, _, _ :: _ => (.stop (.both .malformed), none)
end

/-- The draft of a text, and what follows the value unless it broke off. -/
def document (text : String) : Scan Draft :=
  let cs := text.toList
  value (3 * cs.length + 3) 0 cs

end Superstep.Json.Reader
