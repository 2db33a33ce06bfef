import Superstep.Json.Decode

/-! # Events of a run

What a run tells those who watch it. An event is written as an object whose
`type` says which one it is. It is read from such an object, whatever else is in
it, or from an array with the type first and then all of the fields.
-/

namespace Superstep

open Json (Value Draft DecodeError decodeValue)

/-- Something that happens in a run. -/
inductive Event where
  | runStarted (runId startNode : String)
  | stepStarted (runId : String) (step : Nat) (nodes : List String)
  | nodeStarted (runId nodeId : String) (attempt : Nat)
  | nodeSucceeded (runId nodeId : String) (attempt elapsed : Nat)
  | nodeFailed (runId nodeId : String) (attempt elapsed : Nat) (error : String)
  /-- The end of a run, after so many steps. -/
  | runComplete (runId : String) (steps : Nat) (error : Option String)
  deriving DecidableEq, Repr

namespace Event

/-- What stands in the field `type`. -/
def tag : Event → String
  | .runStarted .. => "run_started"
  | .stepStarted .. => "step_started"
  | .nodeStarted .. => "node_started"
  | .nodeSucceeded .. => "node_succeeded"
  | .nodeFailed .. => "node_failed"
  | .runComplete .. => "run_complete"

/-- The other fields, in the order of their declaration. -/
def fields : Event → List (String × Value)
  | .runStarted runId startNode =>
      [("run_id", .string runId), ("start_node", .string startNode)]
  | .stepStarted runId step nodes =>
      [("run_id", .string runId), ("step", .ofNat step),
        ("nodes", .array (nodes.map .string))]
  | .nodeStarted runId nodeId attempt =>
      [("run_id", .string runId), ("node_id", .string nodeId), ("attempt", .ofNat attempt)]
  | .nodeSucceeded runId nodeId attempt elapsed =>
      [("run_id", .string runId), ("node_id", .string nodeId), ("attempt", .ofNat attempt),
        ("elapsed_ms", .ofNat elapsed)]
  | .nodeFailed runId nodeId attempt elapsed error =>
      [("run_id", .string runId), ("node_id", .string nodeId), ("attempt", .ofNat attempt),
        ("elapsed_ms", .ofNat elapsed), ("error", .string error)]
  | .runComplete runId steps error =>
      [("run_id", .string runId), ("steps", .ofNat steps), ("error", .ofOption error)]

def toJson (e : Event) : Value :=
  .object (("type", .string e.tag) :: e.fields)

def textField (field : String → Option Value) (name : String) : Except DecodeError String := do
  decodeValue Draft.asString (← Json.required (field name))

/-- A field for a natural number of at most so many bits. -/
def naturalField (bits : Nat) (field : String → Option Value) (name : String) :
    Except DecodeError Nat := do
  decodeValue (Draft.asNatural bits) (← Json.required (field name))

/-- The event of a type with given fields. Attempts have 32 bits, other numbers
    64, and the error of a completed run may be left out. -/
def ofFields (tag : String) (field : String → Option Value) : Except DecodeError Event := do
  let text := textField field
  let natural bits := naturalField bits field
  match tag with
  | "run_started" => .ok (.runStarted (← text "run_id") (← text "start_node"))
  | "step_started" =>
      let runId ← text "run_id"
      let step ← natural 64 "step"
      let nodes ← decodeValue (Draft.asList Draft.asString) (← Json.required (field "nodes"))
      .ok (.stepStarted runId step nodes)
  | "node_started" =>
      .ok (.nodeStarted (← text "run_id") (← text "node_id") (← natural 32 "attempt"))
  | "node_succeeded" =>
      .ok (.nodeSucceeded (← text "run_id") (← text "node_id") (← natural 32 "attempt")
        (← natural 64 "elapsed_ms"))
  | "node_failed" =>
      .ok (.nodeFailed (← text "run_id") (← text "node_id") (← natural 32 "attempt")
        (← natural 64 "elapsed_ms") (← text "error"))
  | "run_complete" =>
      let runId ← text "run_id"
      let steps ← natural 64 "steps"
      let error ← decodeValue (Draft.asOptional Draft.asString) ((field "error").getD .null)
      .ok (.runComplete runId steps error)
  | _ => .error .mismatch

/-- The names of the fields of a type, in the order of an array. -/
def fieldNames : String → List String
  | "run_started" => ["run_id", "start_node"]
  | "step_started" => ["run_id", "step", "nodes"]
  | "node_started" => ["run_id", "node_id", "attempt"]
  | "node_succeeded" => ["run_id", "node_id", "attempt", "elapsed_ms"]
  | "node_failed" => ["run_id", "node_id", "attempt", "elapsed_ms", "error"]
  | "run_complete" => ["run_id", "steps", "error"]
  | _ => []

def ofJson : Value → Except DecodeError Event
  | .object fields =>
      match fields.lookup "type" with
      | some (.string tag) => ofFields tag (List.lookup · fields)
      | _ => .error .mismatch
  | .array (.string tag :: items) =>
      let names := fieldNames tag
      if items.length = names.length then ofFields tag (List.lookup · (names.zip items))
      else .error .mismatch
  | _ => .error .mismatch

end Event

end Superstep
