import Superstep.Binary64.Arithmetic
import Superstep.Expression.Error
import Superstep.Text.Blank
import Superstep.Text.Case
import Superstep.Text.Search

/-! # The value of an expression

Evaluation is a recursion over the tree that reads nothing but the context.
`&&`, `||` and choices give one of their operands as it is and do not evaluate
the other; everything else evaluates its parts from left to right and fails
with the first of them that fails.
-/

namespace Superstep.Expression

open Json (Value Number)

/-- Whether a value counts as true: all but null, false, zero and the empty
    text. -/
def truthy : Value → Bool
  | .null => false
  | .bool b => b
  | .number n => !n.toBinary64.isZero
  | .string s => !s.isEmpty
  | .array _ | .object _ => true

def arithmetic : Except NonFinite Binary64 → Except EvalError Value
  | .ok x => .ok (.number (.ofBinary64 x))
  | .error n => .error (.notFinite n)

def operand (operator : String) : Value → Except EvalError Binary64
  | .number n => .ok n.toBinary64
  | v => .error (.needsNumbers operator v.kindName)

/-- Arithmetic on two numbers; the left operand is checked first. -/
def compute (operator : String) (f : Binary64 → Binary64 → Except NonFinite Binary64)
    (left right : Value) : Except EvalError Value := do
  let x ← operand operator left
  let y ← operand operator right
  arithmetic (f x y)

/-- A property of a value. Only null has none at all. -/
def property (object : Value) (name : String) : Except EvalError Value :=
  match object with
  | .object fields => .ok ((fields.lookup name).getD .null)
  | .array items => .ok (if name = "length" then .ofNat items.length else .null)
  | .string s => .ok (if name = "length" then .ofNat s.length else .null)
  | .null => .error (.propertyOfNull name)
  | .bool _ | .number _ => .ok .null

def charAt (s : String) (i : Nat) : Value :=
  match s.toList[i]? with
  | some c => .string c.toString
  | none => .null

/-- A value at an index: a property for a text, an item or character for an
    integer that is not negative. -/
def atIndex (object index : Value) : Except EvalError Value :=
  match object, index with
  | .null, _ => .error (.indexOfNull index)
  | _, .string key => property object key
  | .array items, .number n => .ok ((n.index?.bind (items[·]?)).getD .null)
  | .string s, .number n => .ok ((n.index?.map (charAt s)).getD .null)
  | _, _ => .ok .null

def textOf : Value → String
  | .string s => s
  | v => v.compact

/-- Equality of values. Two numbers are compared by value; numbers inside of
    arrays and objects also have to have the same form. -/
def equal : Value → Value → Bool
  | .number m, .number n => m.sameValue n
  | v, w => v.same w

def needle (method : Method) (arguments : List Value) : Except EvalError (List Char) :=
  match arguments with
  | v :: _ => .ok (textOf v).toList
  | [] => .error (.missingArgument method)

def callMethod (method : Method) (object : Value) (arguments : List Value) :
    Except EvalError Value :=
  match method, object with
  | .includes, .string s => do
      let t ← needle method arguments
      .ok (.bool (Text.occursIn t s.toList))
  | .includes, .array items => .ok (.bool (items.any (equal · (arguments.head?.getD .null))))
  | .startsWith, .string s => do
      let t ← needle method arguments
      .ok (.bool (t.isPrefixOf s.toList))
  | .endsWith, .string s => do
      let t ← needle method arguments
      .ok (.bool (t.isSuffixOf s.toList))
  | .toLowerCase, .string s => .ok (.string (Text.lower s))
  | .toUpperCase, .string s => .ok (.string (Text.upper s))
  | .trim, .string s => .ok (.string (Text.trim s))
  | _, v => .error (.unavailable method v.kindName)

/-- How two values are ordered, if they are: numbers by value, texts by their
    code points. -/
def ordering? : Value → Value → Option Ordering
  | .number m, .number n => some (m.toBinary64.order n.toBinary64)
  | .string s, .string t => some (if s < t then .lt else if s = t then .eq else .gt)
  | _, _ => none

/-- Whether two values are ordered in a way that passes a test. -/
def ordered (test : Ordering → Bool) (left right : Value) : Value :=
  .bool ((ordering? left right).any test)

/-- The sum of numbers, or texts put together if one of the values is a text. -/
def plus (left right : Value) : Except EvalError Value :=
  match left, right with
  | .number m, .number n => arithmetic (m.toBinary64.add n.toBinary64)
  | .string _, _ | _, .string _ => .ok (.string (textOf left ++ textOf right))
  | _, _ => .error (.cannotAdd left.kindName right.kindName)

def applyBinary (op : BinaryOp) (left right : Value) : Except EvalError Value :=
  match op with
  | .add => plus left right
  | .sub => compute op.text Binary64.sub left right
  | .mul => compute op.text Binary64.mul left right
  | .div => compute op.text Binary64.div left right
  | .rem => compute op.text Binary64.rem left right
  | .equal | .strictEqual => .ok (.bool (equal left right))
  | .notEqual | .strictNotEqual => .ok (.bool (!equal left right))
  | .less => .ok (ordered Ordering.isLT left right)
  | .lessEqual => .ok (ordered Ordering.isLE left right)
  | .greater => .ok (ordered Ordering.isGT left right)
  | .greaterEqual => .ok (ordered Ordering.isGE left right)
  | .both => .ok (if truthy left then right else left)
  | .either => .ok (if truthy left then left else right)

def applyUnary (op : UnaryOp) (v : Value) : Except EvalError Value :=
  match op with
  | .not => .ok (.bool (!truthy v))
  | .negate => do
      let x ← operand "-" v
      arithmetic (.ok x.neg)

/-- The names and values that an expression can read. -/
abbrev Context := KeyMap Value

mutual
def Expr.eval (context : Context) : Expr → Except EvalError Value
  | .literal v => .ok v
  | .name name =>
      match context.get? name with
      | some v => .ok v
      | none => .error (.undefinedName name)
  | .member object name => do
      let v ← object.eval context
      property v name
  | .index object index => do
      let v ← object.eval context
      let i ← index.eval context
      atIndex v i
  | .call method object arguments => do
      let v ← object.eval context
      let vs ← evalAll context arguments
      callMethod method v vs
  | .unary op e => do
      let v ← e.eval context
      applyUnary op v
  | .binary .both left right => do
      let v ← left.eval context
      if truthy v then right.eval context else .ok v
  | .binary .either left right => do
      let v ← left.eval context
      if truthy v then .ok v else right.eval context
  | .binary op left right => do
      let v ← left.eval context
      let w ← right.eval context
      applyBinary op v w
  | .choice condition yes no => do
      let v ← condition.eval context
      if truthy v then yes.eval context else no.eval context
  | .array items => do
      let vs ← evalAll context items
      .ok (.array vs)
  | .object fields => do
      let pairs ← evalFields context fields
      .ok (.ofMap (.ofList pairs))

/-- The values of expressions, from left to right. -/
def evalAll (context : Context) : List Expr → Except EvalError (List Value)
  | [] => .ok []
  | e :: rest => do
      let v ← e.eval context
      let vs ← evalAll context rest
      .ok (v :: vs)

/-- The values of fields, from left to right. -/
def evalFields (context : Context) : List (String × Expr) → Except EvalError (List (String × Value))
  | [] => .ok []
  | (key, e) :: rest => do
      let v ← e.eval context
      let pairs ← evalFields context rest
      .ok ((key, v) :: pairs)
end

end Superstep.Expression
