import Superstep.Expression.Error
import Superstep.Text.Blank
import Superstep.Text.Letter

/-! # From text to tokens

Tokens are separated by blanks where they would run together otherwise. A
symbol is the longest that fits, a name or number takes all the characters it
can. Every token carries the offset in bytes of its first character.
-/

namespace Superstep.Expression

def startsName (c : Char) : Bool :=
  Text.isLetter c || c == '_' || c == '$'

def continuesName (c : Char) : Bool :=
  Text.isLetterOrNumeral c || c == '_' || c == '$'

/-- The length of characters in bytes of UTF-8. -/
def byteLength (cs : List Char) : Nat :=
  cs.foldl (fun n c => n + c.utf8Size) 0

/-- A token at the start of some characters: the characters it is spelled with
    and those after it. -/
structure Lexeme where
  token : Token
  spelling : List Char
  rest : List Char

/-- The symbol that starts with a character, the longest one that fits, and what
    follows it. -/
def symbolAt : List Char → Option (Symbol × List Char)
  | '=' :: '=' :: '=' :: rest => some (.strictEqual, rest)
  | '=' :: '=' :: rest => some (.equal, rest)
  | '!' :: '=' :: '=' :: rest => some (.strictNotEqual, rest)
  | '!' :: '=' :: rest => some (.notEqual, rest)
  | '!' :: rest => some (.bang, rest)
  | '<' :: '=' :: rest => some (.lessEqual, rest)
  | '<' :: rest => some (.less, rest)
  | '>' :: '=' :: rest => some (.greaterEqual, rest)
  | '>' :: rest => some (.greater, rest)
  | '&' :: '&' :: rest => some (.both, rest)
  | '|' :: '|' :: rest => some (.either, rest)
  | '+' :: rest => some (.plus, rest)
  | '-' :: rest => some (.minus, rest)
  | '*' :: rest => some (.star, rest)
  | '/' :: rest => some (.slash, rest)
  | '%' :: rest => some (.percent, rest)
  | '.' :: rest => some (.dot, rest)
  | ',' :: rest => some (.comma, rest)
  | ':' :: rest => some (.colon, rest)
  | '?' :: rest => some (.question, rest)
  | '(' :: rest => some (.openParen, rest)
  | ')' :: rest => some (.closeParen, rest)
  | '[' :: rest => some (.openBracket, rest)
  | ']' :: rest => some (.closeBracket, rest)
  | '\x7b' :: rest => some (.openBrace, rest)
  | '\x7d' :: rest => some (.closeBrace, rest)
  | _ => none

/-- The character that a backslash and the given one stand for. -/
def unescape (c : Char) : Char :=
  match c with
  | 'n' => '\n'
  | 't' => '\t'
  | 'r' => '\r'
  | c => c

/-- The content of a string up to its closing quote, and what follows that. -/
def stringBody (quote : Char) : List Char → Option (List Char × List Char)
  | [] => none
  | ['\\'] => none
  | '\\' :: c :: rest =>
      (stringBody quote rest).map fun (content, rest) => (unescape c :: content, rest)
  | c :: rest =>
      if c = quote then some ([], rest)
      else (stringBody quote rest).map fun (content, rest) => (c :: content, rest)

/-- The digits before and after the point of a number. A point only belongs to
    the number when a digit follows it. -/
def numberParts (cs : List Char) : List Char × List Char × List Char :=
  let whole := cs.takeWhile Text.isDecimalDigit
  match cs.dropWhile Text.isDecimalDigit with
  | '.' :: rest =>
      let places := rest.takeWhile Text.isDecimalDigit
      if places.isEmpty then (whole, [], '.' :: rest)
      else (whole, places, rest.dropWhile Text.isDecimalDigit)
  | rest => (whole, [], rest)

def numberOf (whole places : List Char) : Option Binary64 :=
  (Decimal.toBinary64 false ⟨Text.valueOfDigits 10 (whole ++ places), -places.length⟩).toOption

/-- The token of a name, which may be a keyword. -/
def wordToken (word : String) : Token :=
  if word = "null" ∨ word = "undefined" then .keyword .null
  else if word = "true" then .keyword .yes
  else if word = "false" then .keyword .no
  else .name word

def lexeme (c : Char) (rest : List Char) : Except LexCause Lexeme :=
  let upTo (token : Token) (after : List Char) : Except LexCause Lexeme :=
    .ok ⟨token, (c :: rest).take (rest.length + 1 - after.length), after⟩
  match symbolAt (c :: rest) with
  | some (s, after) => upTo (.symbol s) after
  | none =>
      if c = '=' then .error .assignment
      else if c = '&' then .error .loneAmpersand
      else if c = '|' then .error .loneBar
      else if c = '"' ∨ c = '\'' then
        match stringBody c rest with
        | some (content, after) => upTo (.string (String.ofList content)) after
        | none => .error .openString
      else if Text.isDecimalDigit c then
        let (whole, places, after) := numberParts (c :: rest)
        upTo (.number (numberOf whole places)) after
      else if startsName c then
        let word := c :: rest.takeWhile continuesName
        upTo (wordToken (String.ofList word)) (rest.dropWhile continuesName)
      else .error (.unexpected c)

/-- The tokens of characters that start at an offset. A lexeme is not empty, so
    the guard on what is left always holds; it bounds the recursion. -/
def tokensFrom (position : Nat) (cs : List Char) : Except ExpressionError (List Located) :=
  let start := position + byteLength (cs.takeWhile Text.isBlank)
  match cs.dropWhile Text.isBlank with
  | [] => .ok [⟨.finish, start⟩]
  | c :: rest =>
      match lexeme c rest with
      | .error cause => .error (.lex start cause)
      | .ok l =>
          if l.rest.length < cs.length then
            (tokensFrom (start + byteLength l.spelling) l.rest).map (⟨l.token, start⟩ :: ·)
          else .ok []
termination_by cs.length

/-- The tokens of a text. The last one is the end, at the length of the text. -/
def tokenize (source : String) : Except ExpressionError (List Located) :=
  tokensFrom 0 source.toList

end Superstep.Expression
