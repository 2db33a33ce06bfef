import Superstep.Failure
import Superstep.Run.Route

/-! # Graphs that can be run

A workflow becomes a graph when it is valid and every node has an executor. What
an executor is does not matter here: any type `ε` of them will do, and a
function that finds the one of a task type.
-/

namespace Superstep

/-- A node that is ready to be run. -/
structure Station (ε : Type) where
  node : Node
  executor : ε
  route : Route

/-- A workflow that is ready to be run. -/
structure Graph (ε : Type) where
  startNode : String
  endNode : String
  stations : KeyMap (Station ε)

namespace Graph

variable {ε : Type}

def station? (g : Graph ε) (id : String) : Option (Station ε) :=
  g.stations.get? id

/-- The task types of the nodes, each once, in order. -/
def taskTypes (g : Graph ε) : List String :=
  (KeyMap.ofList (g.stations.entries.map fun e => (e.2.node.taskType, ()))).keys

/-- The nodes with their executors and routes, or the failure of the first node
    without an executor. -/
def stationsOf (resolve : String → Except Failure ε) (w : Workflow) :
    List Node → Except Failure (List (String × Station ε))
  | [] => .ok []
  | n :: rest => do
      let executor ← resolve n.taskType
      let stations ← stationsOf resolve w rest
      .ok ((n.id, ⟨n, executor, w.routeOf n⟩) :: stations)

/-- The graph of a workflow. It has to be valid, and every task type needs an
    executor. -/
def compile (resolve : String → Except Failure ε) (w : Workflow) : Except Failure (Graph ε) :=
  match w.violations with
  | [] => do
      let stations ← stationsOf resolve w w.nodes
      let graph : Graph ε := ⟨w.startNode, w.endNode, .ofList stations⟩
      if (graph.station? w.startNode).isSome then .ok graph
      else .error (.engine (.startNotCompiled w.startNode))
  | violations => .error (.invalidWorkflow violations)

end Graph

end Superstep
