import Superstep.Binary64.Layout
import Superstep.Text.Quoted

/-! # Tokens of the expression language

Conditions and hooks are written in a small expression language. Its texts are
sequences of tokens: keywords, numbers, strings, names and symbols, closed by a
token for the end.
-/

namespace Superstep.Expression

/-- The names that denote values. -/
inductive Keyword where
  | null
  | yes
  | no
  deriving DecidableEq, Repr

/-- Operators and delimiters. -/
inductive Symbol where
  | plus | minus | star | slash | percent
  | equal | notEqual | strictEqual | strictNotEqual
  | less | lessEqual | greater | greaterEqual
  | both | either | bang
  | dot | comma | colon | question
  | openParen | closeParen | openBracket | closeBracket | openBrace | closeBrace
  deriving DecidableEq, Repr

/-- A token. A number without a value has too many digits for binary64. -/
inductive Token where
  | keyword (k : Keyword)
  | number (value : Option Binary64)
  | string (value : String)
  | name (value : String)
  | symbol (s : Symbol)
  | finish
  deriving DecidableEq

/-- A token and the offset in bytes at which it starts. -/
structure Located where
  token : Token
  position : Nat
  deriving DecidableEq

def Keyword.text : Keyword → String
  | .null => "null"
  | .yes => "true"
  | .no => "false"

def Symbol.text : Symbol → String
  | .plus => "+"
  | .minus => "-"
  | .star => "*"
  | .slash => "/"
  | .percent => "%"
  | .equal => "=="
  | .notEqual => "!="
  | .strictEqual => "==="
  | .strictNotEqual => "!=="
  | .less => "<"
  | .lessEqual => "<="
  | .greater => ">"
  | .greaterEqual => ">="
  | .both => "&&"
  | .either => "||"
  | .bang => "!"
  | .dot => "."
  | .comma => ","
  | .colon => ":"
  | .question => "?"
  | .openParen => "("
  | .closeParen => ")"
  | .openBracket => "["
  | .closeBracket => "]"
  | .openBrace => "\x7b"
  | .closeBrace => "\x7d"

/-- A number as messages show it; one that is too large is infinite. -/
def numberText : Option Binary64 → String
  | some x => String.ofList (Layout.message.write x)
  | none => (NonFinite.infinite false).text

def Token.text : Token → String
  | .keyword k => k.text
  | .number x => numberText x
  | .string s => Text.quoted s
  | .name s => s
  | .symbol s => s.text
  | .finish => "end of input"

end Superstep.Expression
