import Superstep.Expression.Condition
import Superstep.Run.State
import Superstep.Workflow.Basic

/-! # Routes

A route says where a run goes after a completion of a node. It looks at the
state that this completion made out of the state at the start of the step, so
what other nodes did in the same step has no influence.
-/

namespace Superstep

open Expression (Expr Context)

/-- When an edge is taken. -/
inductive Guard where
  | always
  | when (condition : Expr)
  /-- The condition is no expression, so it never holds. -/
  | never
  deriving Inhabited

/-- An edge as its source node sees it. -/
structure Exit where
  target : String
  guard : Guard

/-- The choice of the next nodes after a completion of a node with retries,
    conditions or several edges. -/
structure Router where
  nodeId : String
  maxAttempts : Nat
  /-- The edges of the node, in the order of their declaration. -/
  exits : List Exit

/-- Where a run goes after a completion of a node. -/
inductive Route where
  | direct (target : String)
  | terminal
  | dynamic (router : Router)

namespace Guard

/-- The guard of a condition; without one the edge is always taken. -/
def ofCondition : Option String → Guard
  | none => .always
  | some source =>
      match Expression.parse source with
      | .ok condition => .when condition
      | .error _ => .never

def holds (context : Context) : Guard → Bool
  | .when condition => condition.holds context
  | .always | .never => false

def passes (context : Context) : Guard → Bool
  | .always => true
  | guard => guard.holds context

end Guard

namespace Router

/-- A failure is retried while there is no output and attempts are left. -/
def retries (r : Router) (s : State) : Bool :=
  s.error.isSome && !s.outputs.contains r.nodeId && decide (s.attemptsOf r.nodeId < r.maxAttempts)

/-- The attempts are used up and the last completion failed. -/
def exhausted (r : Router) (s : State) : Bool :=
  decide (r.maxAttempts ≤ s.attemptsOf r.nodeId) && s.error.isSome

/-- The next nodes. A node that has used up its attempts and failed goes along
    the first edge whose condition holds; otherwise all edges are taken that have
    no condition or one that holds. -/
def next (r : Router) (s : State) : List String :=
  let context := s.conditionContext
  if r.retries s then [r.nodeId]
  else if r.exhausted s then
    ((r.exits.find? (·.guard.holds context)).map Exit.target).toList
  else ((r.exits.filter (·.guard.passes context)).map Exit.target).eraseDups

end Router

namespace Route

def next (route : Route) (s : State) : List String :=
  match route with
  | .direct target => [target]
  | .terminal => []
  | .dynamic router => router.next s

/-- The route of a node with given edges. One that is attempted only once needs
    no router unless it has conditions or several edges. -/
def ofExits (n : Node) (exits : List Exit) : Route :=
  let router : Route := .dynamic ⟨n.id, n.maxAttempts, exits⟩
  if 1 < n.maxAttempts then router
  else
    match exits with
    | [] => .terminal
    | [⟨target, .always⟩] => .direct target
    | _ => router

end Route

namespace Workflow

/-- The edges that leave a node, with their guards. -/
def exits (w : Workflow) (id : String) : List Exit :=
  (w.outgoing id).map fun e => ⟨e.target, .ofCondition e.guard?⟩

def routeOf (w : Workflow) (n : Node) : Route :=
  .ofExits n (w.exits n.id)

end Workflow

end Superstep
