import Superstep.Expression.Parser

/-! # The grammar of expressions

What phrases there are, without saying how they are found. Binary operators bind
in six layers, those of one layer from the left; a choice is looser than all of
them and prefix operators are tighter. Phrases carry the number of constructs
that may be nested in them: every phrase within brackets, every branch, and the
operand of a prefix operator lies one level deeper than what is around it.
-/

namespace Superstep.Expression

def UnaryOp.symbol : UnaryOp → Symbol
  | .not => .bang
  | .negate => .minus

def BinaryOp.symbol : BinaryOp → Symbol
  | .add => .plus
  | .sub => .minus
  | .mul => .star
  | .div => .slash
  | .rem => .percent
  | .equal => .equal
  | .notEqual => .notEqual
  | .strictEqual => .strictEqual
  | .strictNotEqual => .strictNotEqual
  | .less => .less
  | .lessEqual => .lessEqual
  | .greater => .greater
  | .greaterEqual => .greaterEqual
  | .both => .both
  | .either => .either

/-- How tightly an operator binds. -/
def BinaryOp.layer : BinaryOp → Nat
  | .either => 0
  | .both => 1
  | .equal | .notEqual | .strictEqual | .strictNotEqual => 2
  | .less | .lessEqual | .greater | .greaterEqual => 3
  | .add | .sub => 4
  | .mul | .div | .rem => 5

def Keyword.value : Keyword → Json.Value
  | .null => .null
  | .yes => .bool true
  | .no => .bool false

inductive Category where
  /-- An expression inside of another one. -/
  | nested
  | choice
  /-- Operands with operators of a layer, or of tighter ones. -/
  | layer (k : Nat)
  | prefixed
  | postfixed
  | primary

/-- Items with commas between them; there may be one after the last item. -/
inductive Commas : List Token → List (List Token) → Prop where
  | none : Commas [] []
  | last (item : List Token) : Commas item [item]
  | more {ts : List Token} {items : List (List Token)} (item : List Token)
      (rest : Commas ts items) : Commas (item ++ .symbol .comma :: ts) (item :: items)

/-- An element of an array, or an argument. -/
structure Element where
  tokens : List Token
  value : Expr

/-- A field of an object. -/
structure Entry where
  key : Token
  word : String
  tokens : List Token
  value : Expr

def Entry.phrase (f : Entry) : List Token :=
  f.key :: .symbol .colon :: f.tokens

def Entry.pair (f : Entry) : String × Expr :=
  (f.word, f.value)

/-- The phrases of a category in which at most so many constructs are nested, and
    the expressions that they spell. -/
inductive Derives : Category → Nat → List Token → Expr → Prop where
  | nested {n : Nat} {ts : List Token} {e : Expr} (inside : Derives .choice n ts e) :
      Derives .nested (n + 1) ts e
  | condition {n : Nat} {ts : List Token} {e : Expr} (alone : Derives (.layer 0) n ts e) :
      Derives .choice n ts e
  | choice {n : Nat} {cs ys ns : List Token} {c y no : Expr}
      (condition : Derives (.layer 0) n cs c) (yes : Derives .nested n ys y)
      (otherwise : Derives .nested n ns no) :
      Derives .choice n (cs ++ .symbol .question :: (ys ++ .symbol .colon :: ns)) (.choice c y no)
  | operand {n k : Nat} {ts : List Token} {e : Expr} (alone : Derives (.layer (k + 1)) n ts e) :
      Derives (.layer k) n ts e
  | binary {n : Nat} {ls rs : List Token} {l r : Expr} (op : BinaryOp)
      (left : Derives (.layer op.layer) n ls l) (right : Derives (.layer (op.layer + 1)) n rs r) :
      Derives (.layer op.layer) n (ls ++ .symbol op.symbol :: rs) (.binary op l r)
  | tightest {n : Nat} {ts : List Token} {e : Expr} (alone : Derives .prefixed n ts e) :
      Derives (.layer 6) n ts e
  | unary {n : Nat} {ts : List Token} {e : Expr} (op : UnaryOp)
      (operand : Derives .prefixed n ts e) :
      Derives .prefixed (n + 1) (.symbol op.symbol :: ts) (.unary op e)
  | bare {n : Nat} {ts : List Token} {e : Expr} (alone : Derives .postfixed n ts e) :
      Derives .prefixed n ts e
  | atom {n : Nat} {ts : List Token} {e : Expr} (alone : Derives .primary n ts e) :
      Derives .postfixed n ts e
  | member {n : Nat} {ts : List Token} {e : Expr} {t : Token} {word : String}
      (object : Derives .postfixed n ts e) (named : wordOf t = some word) :
      Derives .postfixed n (ts ++ [.symbol .dot, t]) (.member e word)
  | call {n : Nat} {ts as : List Token} {e : Expr} {t : Token} {items : List Element}
      (method : Method) (object : Derives .postfixed n ts e) (named : wordOf t = some method.name)
      (listed : Commas as (items.map Element.tokens))
      (each : ∀ item ∈ items, Derives .nested n item.tokens item.value)
      (enough : items.length = method.arity) :
      Derives .postfixed n
        (ts ++ .symbol .dot :: t :: .symbol .openParen :: (as ++ [.symbol .closeParen]))
        (.call method e (items.map Element.value))
  | index {n : Nat} {ts is : List Token} {e i : Expr} (object : Derives .postfixed n ts e)
      (inside : Derives .nested n is i) :
      Derives .postfixed n (ts ++ .symbol .openBracket :: (is ++ [.symbol .closeBracket]))
        (.index e i)
  | keyword {n : Nat} (k : Keyword) : Derives .primary n [.keyword k] (.literal k.value)
  | number {n : Nat} (x : Binary64) :
      Derives .primary n [.number (some x)] (.literal (.number (.ofBinary64 x)))
  | string {n : Nat} (s : String) : Derives .primary n [.string s] (.literal (.string s))
  | name {n : Nat} (s : String) : Derives .primary n [.name s] (.name s)
  | parens {n : Nat} {ts : List Token} {e : Expr} (inside : Derives .nested n ts e) :
      Derives .primary n (.symbol .openParen :: (ts ++ [.symbol .closeParen])) e
  | array {n : Nat} {ts : List Token} {items : List Element}
      (listed : Commas ts (items.map Element.tokens))
      (each : ∀ item ∈ items, Derives .nested n item.tokens item.value) :
      Derives .primary n (.symbol .openBracket :: (ts ++ [.symbol .closeBracket]))
        (.array (items.map Element.value))
  | object {n : Nat} {ts : List Token} {fields : List Entry}
      (listed : Commas ts (fields.map Entry.phrase))
      (keys : ∀ f ∈ fields, keyOf f.key = some f.word)
      (each : ∀ f ∈ fields, Derives .nested n f.tokens f.value) :
      Derives .primary n (.symbol .openBrace :: (ts ++ [.symbol .closeBrace]))
        (.object (fields.map Entry.pair))

end Superstep.Expression
