import Superstep.Json.Value

/-! # Syntax trees of expressions

An expression can only read the names of its context and build values from
them: there is no assignment, no function but a fixed list of methods, and no
way to leave the context.
-/

namespace Superstep.Expression

inductive UnaryOp where
  | not
  | negate
  deriving DecidableEq, Repr

inductive BinaryOp where
  | add | sub | mul | div | rem
  | equal | notEqual | strictEqual | strictNotEqual
  | less | lessEqual | greater | greaterEqual
  | both | either
  deriving DecidableEq, Repr

/-- The methods that an expression may call. -/
inductive Method where
  | includes
  | startsWith
  | endsWith
  | toLowerCase
  | toUpperCase
  | trim
  deriving DecidableEq, Repr

namespace Method

def name : Method → String
  | .includes => "includes"
  | .startsWith => "startsWith"
  | .endsWith => "endsWith"
  | .toLowerCase => "toLowerCase"
  | .toUpperCase => "toUpperCase"
  | .trim => "trim"

def arity : Method → Nat
  | .includes | .startsWith | .endsWith => 1
  | .toLowerCase | .toUpperCase | .trim => 0

def all : List Method :=
  [.includes, .startsWith, .endsWith, .toLowerCase, .toUpperCase, .trim]

def ofName? (name : String) : Option Method :=
  all.find? (·.name == name)

end Method

def BinaryOp.text : BinaryOp → String
  | .add => "+"
  | .sub => "-"
  | .mul => "*"
  | .div => "/"
  | .rem => "%"
  | .equal => "=="
  | .notEqual => "!="
  | .strictEqual => "==="
  | .strictNotEqual => "!=="
  | .less => "<"
  | .lessEqual => "<="
  | .greater => ">"
  | .greaterEqual => ">="
  | .both => "&&"
  | .either => "||"

/-- An expression. -/
inductive Expr where
  | literal (value : Json.Value)
  | name (name : String)
  | member (object : Expr) (property : String)
  | index (object index : Expr)
  | call (method : Method) (object : Expr) (arguments : List Expr)
  | unary (op : UnaryOp) (operand : Expr)
  | binary (op : BinaryOp) (left right : Expr)
  | choice (condition yes no : Expr)
  | array (items : List Expr)
  /-- Fields in the order in which they are written; of equal keys the last one
      counts. -/
  | object (fields : List (String × Expr))

instance : Inhabited Expr := ⟨.literal .null⟩

end Superstep.Expression
