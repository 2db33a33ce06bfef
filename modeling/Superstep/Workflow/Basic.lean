import Superstep.Json.Value
import Superstep.Text.Blank

/-! # Workflows

A workflow is a graph of nodes. Each node is a unit of work for the executor of
its task type; edges say which nodes may follow, some of them under a condition.
-/

namespace Superstep

/-- A unit of work. -/
structure Node where
  id : String
  name : String
  description : String
  taskType : String
  instruction : String
  /-- Retries after the first attempt. It may be negative, which validation
      reports. -/
  maxRetries : Int
  onSuccess : Option String
  onError : Option String
  deriving DecidableEq

/-- A possible transition from one node to another. -/
structure Edge where
  source : String
  target : String
  /-- What has to hold; a blank condition counts as none. -/
  condition : Option String
  deriving DecidableEq

/-- A graph of nodes with a start and an end. -/
structure Workflow where
  plan : String
  diagram : String
  nodes : List Node
  edges : List Edge
  startNode : String
  endNode : String
  initialMetadata : Option (KeyMap Json.Value)

namespace Node

/-- A node with nothing but an id, which is also its name, and a task type. -/
def plain (id taskType : String) : Node :=
  ⟨id, id, "", taskType, "", 0, none, none⟩

/-- How often the node may be attempted. Retry counts below zero or of more than
    32 bits count as zero, and the sum stays within 32 bits. -/
def maxAttempts (n : Node) : Nat :=
  let retries := if 0 ≤ n.maxRetries ∧ n.maxRetries < twoTo 32 then n.maxRetries.toNat else 0
  min (retries + 1) (twoTo 32 - 1)

end Node

namespace Edge

/-- An edge without a condition. -/
def always (source target : String) : Edge :=
  ⟨source, target, none⟩

def conditional (source target condition : String) : Edge :=
  ⟨source, target, some condition⟩

/-- The condition without blanks around it, unless it is blank. -/
def guard? (e : Edge) : Option String :=
  match e.condition with
  | none => none
  | some text => if (Text.trim text).isEmpty then none else some (Text.trim text)

end Edge

namespace Workflow

/-- The first node with an id. -/
def node? (w : Workflow) (id : String) : Option Node :=
  w.nodes.find? (·.id == id)

/-- The edges that leave a node, in the order of their declaration. -/
def outgoing (w : Workflow) (id : String) : List Edge :=
  w.edges.filter (·.source == id)

/-- The ids of the nodes, in the order of their declaration. -/
def ids (w : Workflow) : List String :=
  w.nodes.map Node.id

end Workflow

end Superstep
