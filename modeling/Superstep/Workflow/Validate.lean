import Superstep.Workflow.Basic

/-! # Validation of workflows

A workflow can be run if its node ids are distinct, its edges join nodes, its
start and its end are nodes, and no retry count is negative. Validation lists
everything that is wrong, in a fixed order: nodes, edges, start, end.
-/

namespace Superstep

/-- One thing that is wrong with a workflow. -/
inductive Violation where
  | duplicateId (id : String)
  | unknownSource (source target : String)
  | unknownTarget (source target : String)
  | startMissing
  | startUnknown (id : String)
  | endMissing
  | endUnknown (id : String)
  | negativeRetries (id : String) (value : Int)
  deriving DecidableEq, Repr

def Violation.message : Violation → String
  | .duplicateId id => "duplicate node id '" ++ id ++ "'"
  | .unknownSource source target =>
      "edge " ++ source ++ " -> " ++ target ++ " references unknown source node '" ++ source ++ "'"
  | .unknownTarget source target =>
      "edge " ++ source ++ " -> " ++ target ++ " references unknown target node '" ++ target ++ "'"
  | .startMissing => "start node id is missing"
  | .startUnknown id => "start node '" ++ id ++ "' does not exist"
  | .endMissing => "end node id is missing"
  | .endUnknown id => "end node '" ++ id ++ "' does not exist"
  | .negativeRetries id value =>
      "node '" ++ id ++ "' has negative maxRetries (" ++ toString value ++ ")"

namespace Workflow

/-- What is wrong with nodes after those with the given ids. A repeated id is
    reported where it occurs for the second time. -/
def nodeViolations (before : List String) : List Node → List Violation
  | [] => []
  | n :: rest =>
      (if before.count n.id = 1 then [.duplicateId n.id] else []) ++
        (if n.maxRetries < 0 then [.negativeRetries n.id n.maxRetries] else []) ++
        nodeViolations (n.id :: before) rest

/-- What is wrong with an edge among nodes of the given ids. -/
def edgeViolations (ids : List String) (e : Edge) : List Violation :=
  (if e.source ∈ ids then [] else [.unknownSource e.source e.target]) ++
    (if e.target ∈ ids then [] else [.unknownTarget e.source e.target])

/-- What is wrong with the reference to a start or end node. -/
def referenceViolations (ids : List String) (missing : Violation) (unknown : String → Violation)
    (id : String) : List Violation :=
  if Text.isAllBlank id then [missing]
  else if id ∈ ids then []
  else [unknown id]

def violations (w : Workflow) : List Violation :=
  nodeViolations [] w.nodes ++
    w.edges.flatMap (edgeViolations w.ids) ++
    referenceViolations w.ids .startMissing .startUnknown w.startNode ++
    referenceViolations w.ids .endMissing .endUnknown w.endNode

end Workflow

end Superstep
