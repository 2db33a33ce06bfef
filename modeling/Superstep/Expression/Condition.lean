import Superstep.Expression.Evaluate
import Superstep.Expression.Parser

/-! # Conditions and hooks

Two uses of expressions that cannot fail: a condition that cannot be evaluated
does not hold, and a hook that is no expression, cannot be evaluated or gives
no object adds nothing.
-/

namespace Superstep.Expression

open Json (Value)

/-- Whether the value of an expression exists and counts as true. -/
def Expr.holds (context : Context) (e : Expr) : Bool :=
  match e.eval context with
  | .ok v => truthy v
  | .error _ => false

def evaluate (context : Context) (source : String) : Except ExpressionError Value := do
  let e ← parse source
  match e.eval context with
  | .ok v => .ok v
  | .error cause => .error (.eval cause)

/-- The fields of the object that a hook gives, none if it gives no object. -/
def runHook (context : Context) (source : String) : KeyMap Value :=
  match evaluate context source with
  | .ok (.object fields) => .ofList fields
  | _ => .empty

end Superstep.Expression
