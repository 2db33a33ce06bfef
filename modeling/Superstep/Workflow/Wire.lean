import Superstep.Json.Decode
import Superstep.Workflow.Basic

/-! # Workflows as JSON

All fields but the id of a node and the ends of an edge have defaults, and
fields that are not known are skipped. The instruction of a node may also be
called its prompt. Optional texts may be null, and so may the metadata.
-/

namespace Superstep

open Json (Value Draft Decoder DecodeError RecordField required)

/-- A node that is being read. -/
structure Node.Parts where
  id : Option String := none
  name : Option String := none
  description : Option String := none
  taskType : Option String := none
  instruction : Option String := none
  maxRetries : Option Int := none
  onSuccess : Option (Option String) := none
  onError : Option (Option String) := none

namespace Node

/-- The least and the largest retry count that can be written. -/
def retryBounds : Int × Int :=
  (-(twoTo 63 : Int), (twoTo 63 : Int) - 1)

def wireFields : List (RecordField Parts) := [
  .of ["id"] (·.id) (fun p v => { p with id := some v }) Draft.asString,
  .of ["name"] (·.name) (fun p v => { p with name := some v }) Draft.asString,
  .of ["description"] (·.description) (fun p v => { p with description := some v }) Draft.asString,
  .of ["taskType"] (·.taskType) (fun p v => { p with taskType := some v }) Draft.asString,
  .of ["instruction", "prompt"] (·.instruction) (fun p v => { p with instruction := some v })
    Draft.asString,
  .of ["maxRetries"] (·.maxRetries) (fun p v => { p with maxRetries := some v })
    (Draft.asInteger retryBounds.1 retryBounds.2),
  .of ["onSuccess"] (·.onSuccess) (fun p v => { p with onSuccess := some v })
    (Draft.asOptional Draft.asString),
  .of ["onError"] (·.onError) (fun p v => { p with onError := some v })
    (Draft.asOptional Draft.asString)]

/-- The node of fields, with defaults for those that were not read. -/
def ofParts (p : Parts) : Except DecodeError Node := do
  let id ← required p.id
  .ok {
    id := id
    name := p.name.getD ""
    description := p.description.getD ""
    taskType := p.taskType.getD ""
    instruction := p.instruction.getD ""
    maxRetries := p.maxRetries.getD 0
    onSuccess := p.onSuccess.getD none
    onError := p.onError.getD none }

def decoder : Decoder Node :=
  Draft.asRecord wireFields {} ofParts

def toJson (n : Node) : Value :=
  .object [
    ("id", .string n.id),
    ("name", .string n.name),
    ("description", .string n.description),
    ("taskType", .string n.taskType),
    ("instruction", .string n.instruction),
    ("maxRetries", .ofInt n.maxRetries),
    ("onSuccess", .ofOption n.onSuccess),
    ("onError", .ofOption n.onError)]

end Node

/-- An edge that is being read. -/
structure Edge.Parts where
  source : Option String := none
  target : Option String := none
  condition : Option (Option String) := none

namespace Edge

def wireFields : List (RecordField Parts) := [
  .of ["from"] (·.source) (fun p v => { p with source := some v }) Draft.asString,
  .of ["to"] (·.target) (fun p v => { p with target := some v }) Draft.asString,
  .of ["condition"] (·.condition) (fun p v => { p with condition := some v })
    (Draft.asOptional Draft.asString)]

/-- The edge of fields, without a condition unless one was read. -/
def ofParts (p : Parts) : Except DecodeError Edge := do
  let source ← required p.source
  let target ← required p.target
  .ok ⟨source, target, p.condition.getD none⟩

def decoder : Decoder Edge :=
  Draft.asRecord wireFields {} ofParts

def toJson (e : Edge) : Value :=
  .object [
    ("from", .string e.source),
    ("to", .string e.target),
    ("condition", .ofOption e.condition)]

end Edge

/-- A workflow that is being read. -/
structure Workflow.Parts where
  plan : Option String := none
  diagram : Option String := none
  nodes : Option (List Node) := none
  edges : Option (List Edge) := none
  startNode : Option String := none
  endNode : Option String := none
  initialMetadata : Option (Option (KeyMap Value)) := none

namespace Workflow

def wireFields : List (RecordField Parts) := [
  .of ["plan"] (·.plan) (fun p v => { p with plan := some v }) Draft.asString,
  .of ["diagram"] (·.diagram) (fun p v => { p with diagram := some v }) Draft.asString,
  .of ["nodes"] (·.nodes) (fun p v => { p with nodes := some v }) (Draft.asList Node.decoder),
  .of ["edges"] (·.edges) (fun p v => { p with edges := some v }) (Draft.asList Edge.decoder),
  .of ["startNodeId"] (·.startNode) (fun p v => { p with startNode := some v }) Draft.asString,
  .of ["endNodeId"] (·.endNode) (fun p v => { p with endNode := some v }) Draft.asString,
  .of ["initialMetadata"] (·.initialMetadata) (fun p v => { p with initialMetadata := some v })
    (Draft.asOptional Draft.asFields)]

/-- The workflow of fields, empty where nothing was read. -/
def ofParts (p : Parts) : Except DecodeError Workflow :=
  .ok {
    plan := p.plan.getD ""
    diagram := p.diagram.getD ""
    nodes := p.nodes.getD []
    edges := p.edges.getD []
    startNode := p.startNode.getD ""
    endNode := p.endNode.getD ""
    initialMetadata := p.initialMetadata.getD none }

def decoder : Decoder Workflow :=
  Draft.asRecord wireFields {} ofParts

def parse (text : String) : Except DecodeError Workflow :=
  Json.decodeText decoder text

def toJson (w : Workflow) : Value :=
  .object [
    ("plan", .string w.plan),
    ("diagram", .string w.diagram),
    ("nodes", .array (w.nodes.map Node.toJson)),
    ("edges", .array (w.edges.map Edge.toJson)),
    ("startNodeId", .string w.startNode),
    ("endNodeId", .string w.endNode),
    ("initialMetadata", match w.initialMetadata with
      | some m => .ofMap m
      | none => .null)]

end Workflow

end Superstep
