import Superstep.Expression.Token
import Superstep.Expression.Tree
import Superstep.Json.Text

/-! # What can go wrong with an expression

A text may have no tokens, the tokens no tree, and the tree no value. Positions
are offsets in bytes.
-/

namespace Superstep.Expression

/-- Why a text has no next token. -/
inductive LexCause where
  | assignment
  | loneAmpersand
  | loneBar
  /-- A string without a closing quote. -/
  | openString
  | unexpected (c : Char)
  deriving DecidableEq, Repr

/-- Why tokens are no expression. -/
inductive ParseCause where
  | tooDeep
  | unexpectedEnd
  | unexpected (found : Token)
  | trailing (found : Token)
  | expected (wanted : Symbol) (found : Token)
  | expectedProperty (found : Token)
  | expectedKey (found : Token)
  | unknownMethod (name : String)
  | wrongArity (method : Method) (given : Nat)
  | functionCall
  | notFinite (value : NonFinite)
  deriving DecidableEq

/-- Why an expression has no value. -/
inductive EvalError where
  | undefinedName (name : String)
  | propertyOfNull (property : String)
  | indexOfNull (index : Json.Value)
  | needsNumbers (operator : String) (kind : String)
  | notFinite (value : NonFinite)
  | cannotAdd (left right : String)
  | unavailable (method : Method) (kind : String)
  | missingArgument (method : Method)

/-- Any of the three. -/
inductive ExpressionError where
  | lex (position : Nat) (cause : LexCause)
  | parse (position : Nat) (cause : ParseCause)
  | eval (cause : EvalError)

def LexCause.message : LexCause → String
  | .assignment => "assignment is not supported"
  | .loneAmpersand => "expected '&&'"
  | .loneBar => "expected '||'"
  | .openString => "unterminated string literal"
  | .unexpected c => "unexpected character '" ++ c.toString ++ "'"

def EvalError.message : EvalError → String
  | .undefinedName name => name ++ " is not defined"
  | .propertyOfNull property => "cannot read property '" ++ property ++ "' of null"
  | .indexOfNull index => "cannot index null with " ++ index.compact
  | .needsNumbers operator kind => "'" ++ operator ++ "' needs numbers, got " ++ kind
  | .notFinite value => value.text ++ " is not a finite number"
  | .cannotAdd left right => "cannot add " ++ left ++ " and " ++ right
  | .unavailable method kind => method.name ++ "() is not available on " ++ kind
  | .missingArgument method => method.name ++ "() needs an argument"

def evalErrorText (message : String) : String :=
  "evaluation error: " ++ message

/-- The text of an error of the tokens at a position. -/
def lexErrorText (position : Nat) (message : String) : String :=
  "lex error at " ++ toString position ++ ": " ++ message

/-- The text of an error of the tree at a position. -/
def parseErrorText (position : Nat) (message : String) : String :=
  "parse error at " ++ toString position ++ ": " ++ message

def ParseCause.message : ParseCause → String
  | .tooDeep => "expression nested too deeply"
  | .unexpectedEnd => "unexpected end of expression"
  | .unexpected found => "unexpected '" ++ found.text ++ "'"
  | .trailing found => "unexpected '" ++ found.text ++ "' after expression"
  | .expected wanted found => "expected '" ++ wanted.text ++ "', found '" ++ found.text ++ "'"
  | .expectedProperty found => "expected property name, found '" ++ found.text ++ "'"
  | .expectedKey found => "expected object key, found '" ++ found.text ++ "'"
  | .unknownMethod name => "method '" ++ name ++ "' is not allowed"
  | .wrongArity method given =>
      method.name ++ "() takes " ++ toString method.arity ++ " argument(s), got " ++ toString given
  | .functionCall => "function calls are not supported"
  | .notFinite value => evalErrorText (EvalError.notFinite value).message

def ExpressionError.message : ExpressionError → String
  | .lex position cause => lexErrorText position cause.message
  | .parse position cause => parseErrorText position cause.message
  | .eval cause => evalErrorText cause.message

end Superstep.Expression
