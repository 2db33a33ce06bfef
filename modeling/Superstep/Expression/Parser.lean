import Superstep.Expression.Lexer

/-! # From tokens to expressions

A recursive-descent parser, loosest layer first: choice, `||`, `&&`, equality,
comparison, sums, products, prefix operators, and postfix chains on a primary.
Every bracket, branch, argument and prefix operator opens a level of nesting.
The parser of a level is built from that of the level below it, so the limit on
nesting is also what makes the recursion end; what repeats inside a level is
bounded by the number of tokens.
-/

namespace Superstep.Expression

/-- The tokens that are left; the last one is the end and is never passed. -/
abbrev Tokens := List Located

/-- A parser gives a result and the tokens after it. -/
abbrev Parse (α : Type) := Tokens → Except ExpressionError (α × Tokens)

def peek : Tokens → Token
  | [] => .finish
  | t :: _ => t.token

/-- The tokens after the next one, which stays if it is the last. -/
def advance : Tokens → Tokens
  | [] => []
  | [t] => [t]
  | _ :: rest => rest

def position : Tokens → Nat
  | [] => 0
  | t :: _ => t.position

def fail {α : Type} (cause : ParseCause) : Parse α := fun ts =>
  .error (.parse (position ts) cause)

def expect (wanted : Symbol) : Parse Unit := fun ts =>
  if peek ts = .symbol wanted then .ok ((), advance ts)
  else fail (.expected wanted (peek ts)) ts

/-- Elements separated by commas up to a closing symbol, which is not passed; a
    comma may stand before it. At most so many elements. -/
def elements {α : Type} (close : Symbol) (element : Parse α) : Nat → Parse (List α)
  | 0, ts => .ok ([], ts)
  | n + 1, ts =>
      if peek ts = .symbol close then .ok ([], ts)
      else do
        let (first, rest) ← element ts
        if peek rest = .symbol .comma then
          let (others, rest) ← elements close element n (advance rest)
          .ok (first :: others, rest)
        else .ok ([first], rest)

/-- Elements separated by commas, and the closing symbol after them. -/
def elementsTo {α : Type} (close : Symbol) (element : Parse α) : Parse (List α) := fun ts => do
  let (all, rest) ← elements close element ts.length ts
  let ((), rest) ← expect close rest
  .ok (all, rest)

/-- A name as it may follow a point or stand as a key: keywords count as names. -/
def wordOf : Token → Option String
  | .name s => some s
  | .keyword k => some k.text
  | _ => none

/-- A key of an object: a name or a string. -/
def keyOf : Token → Option String
  | .string s => some s
  | t => wordOf t

def field (inner : Parse Expr) : Parse (String × Expr) := fun ts =>
  match keyOf (peek ts) with
  | none => fail (.expectedKey (peek ts)) (advance ts)
  | some key => do
      let ((), rest) ← expect .colon (advance ts)
      let (value, rest) ← inner rest
      .ok ((key, value), rest)

/-- A literal, a name, or something in brackets. What is wrong with a token is
    reported at the one after it. -/
def primary (inner : Parse Expr) : Parse Expr := fun ts =>
  let rest := advance ts
  match peek ts with
  | .keyword .null => .ok (.literal .null, rest)
  | .keyword .yes => .ok (.literal (.bool true), rest)
  | .keyword .no => .ok (.literal (.bool false), rest)
  | .number (some x) => .ok (.literal (.number (.ofBinary64 x)), rest)
  | .number none => fail (.notFinite (.infinite false)) rest
  | .string s => .ok (.literal (.string s), rest)
  | .name s => .ok (.name s, rest)
  | .symbol .openParen => do
      let (e, rest) ← inner rest
      let ((), rest) ← expect .closeParen rest
      .ok (e, rest)
  | .symbol .openBracket => do
      let (items, rest) ← elementsTo .closeBracket inner rest
      .ok (.array items, rest)
  | .symbol .openBrace => do
      let (fields, rest) ← elementsTo .closeBrace (field inner) rest
      .ok (.object fields, rest)
  | .finish => fail .unexpectedEnd rest
  | token => fail (.unexpected token) rest

/-- What follows a point: a property, or a method with its arguments. -/
def afterDot (inner : Parse Expr) (object : Expr) : Parse Expr := fun ts =>
  match wordOf (peek ts) with
  | none => fail (.expectedProperty (peek ts)) (advance ts)
  | some word =>
      let rest := advance ts
      if peek rest = .symbol .openParen then
        match Method.ofName? word with
        | none => fail (.unknownMethod word) rest
        | some method => do
            let (arguments, rest) ← elementsTo .closeParen inner (advance rest)
            if arguments.length = method.arity then .ok (.call method object arguments, rest)
            else fail (.wrongArity method arguments.length) rest
      else .ok (.member object word, rest)

/-- Properties, methods and indices after an expression, at most so many. -/
def postfixRest (inner : Parse Expr) : Nat → Expr → Parse Expr
  | 0, e, ts => .ok (e, ts)
  | n + 1, e, ts =>
      match peek ts with
      | .symbol .dot => do
          let (e, rest) ← afterDot inner e (advance ts)
          postfixRest inner n e rest
      | .symbol .openBracket => do
          let (i, rest) ← inner (advance ts)
          let ((), rest) ← expect .closeBracket rest
          postfixRest inner n (.index e i) rest
      | .symbol .openParen => fail .functionCall ts
      | _ => .ok (e, ts)

def postfixed (inner : Parse Expr) : Parse Expr := fun ts => do
  let (e, rest) ← primary inner ts
  postfixRest inner (rest.length + 1) e rest

def unaryOf : Token → Option UnaryOp
  | .symbol .bang => some .not
  | .symbol .minus => some .negate
  | _ => none

/-- Prefix operators, each with an operand of the level below, if there is one,
    before a postfix chain. -/
def prefixed (below : Option (Parse Expr)) (inner : Parse Expr) : Parse Expr := fun ts =>
  match unaryOf (peek ts) with
  | none => postfixed inner ts
  | some op =>
      match below with
      | none => fail .tooDeep ts
      | some operand => do
          let (e, rest) ← operand (advance ts)
          .ok (.unary op e, rest)

/-- Operators of one layer between operands, grouped from the left, at most so
    many. -/
def chainRest (operator : Token → Option BinaryOp) (operand : Parse Expr) : Nat → Expr → Parse Expr
  | 0, left, ts => .ok (left, ts)
  | n + 1, left, ts =>
      match operator (peek ts) with
      | none => .ok (left, ts)
      | some op => do
          let (right, rest) ← operand (advance ts)
          chainRest operator operand n (.binary op left right) rest

def chain (operator : Token → Option BinaryOp) (operand : Parse Expr) : Parse Expr := fun ts => do
  let (left, rest) ← operand ts
  chainRest operator operand rest.length left rest

/-- The binary operators by layer, the loosest one first. -/
def binaryLayers : List (Token → Option BinaryOp) := [
  fun | .symbol .either => some .either | _ => none,
  fun | .symbol .both => some .both | _ => none,
  fun
    | .symbol .equal => some .equal
    | .symbol .notEqual => some .notEqual
    | .symbol .strictEqual => some .strictEqual
    | .symbol .strictNotEqual => some .strictNotEqual
    | _ => none,
  fun
    | .symbol .less => some .less
    | .symbol .lessEqual => some .lessEqual
    | .symbol .greater => some .greater
    | .symbol .greaterEqual => some .greaterEqual
    | _ => none,
  fun | .symbol .plus => some .add | .symbol .minus => some .sub | _ => none,
  fun
    | .symbol .star => some .mul
    | .symbol .slash => some .div
    | .symbol .percent => some .rem
    | _ => none]

def layered (unary : Parse Expr) : List (Token → Option BinaryOp) → Parse Expr
  | [] => unary
  | operator :: tighter => chain operator (layered unary tighter)

/-- A condition, alone or with two branches of the level below. -/
def choice (branch condition : Parse Expr) : Parse Expr := fun ts => do
  let (c, rest) ← condition ts
  if peek rest = .symbol .question then
    let (yes, rest) ← branch (advance rest)
    let ((), rest) ← expect .colon rest
    let (no, rest) ← branch rest
    .ok (.choice c yes no, rest)
  else .ok (c, rest)

/-- The parsers of a level of nesting. -/
structure Level where
  expression : Parse Expr
  unary : Parse Expr

/-- The parsers under which so many levels may still be opened. -/
def level : Nat → Level
  | 0 => ⟨fail .tooDeep, prefixed none (fail .tooDeep)⟩
  | n + 1 =>
      let below := level n
      let expression := choice below.expression (layered below.unary binaryLayers)
      ⟨expression, prefixed (some below.unary) expression⟩

def maxDepth : Nat := 64

def parseTokens (ts : Tokens) : Except ExpressionError Expr := do
  let (e, rest) ← (level (maxDepth + 1)).expression ts
  if peek rest = .finish then .ok e
  else .error (.parse (position rest) (.trailing (peek rest)))

def parse (source : String) : Except ExpressionError Expr := do
  parseTokens (← tokenize source)

end Superstep.Expression
