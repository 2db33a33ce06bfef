import Superstep.Expression.Condition
import Superstep.Failure
import Superstep.Json.Text
import Superstep.Run.State

/-! # Attempts at a node

An attempt is a call of the executor, made from the state at the start of a
step. What the executor answers becomes a patch, to which the hook of the node
may add metadata.
-/

namespace Superstep

open Json (Value)

/-- What an executor is told. -/
structure Call where
  runId : String
  nodeId : String
  nodeName : String
  taskType : String
  /-- The number of this attempt, from one. -/
  attempt : Nat
  maxAttempts : Nat
  instruction : String
  deriving DecidableEq

/-- What an executor answers. -/
abbrev Answer := Except Failure String

def Call.errorText (call : Call) (cause : Failure) : String :=
  if call.attempt < call.maxAttempts then
    "Node " ++ call.nodeId ++ " failed (attempt " ++ toString call.attempt ++ " of " ++
      toString call.maxAttempts ++ "): " ++ cause.message
  else
    "Node " ++ call.nodeId ++ " failed after " ++ toString call.attempt ++ " attempts: " ++
      cause.message

namespace Node

def outputsHeading : String :=
  "## Previous Node Outputs"

/-- The instruction of a node, followed by the outputs there are. -/
def instructionIn (n : Node) (s : State) : String :=
  if s.outputs.isEmpty then n.instruction
  else n.instruction ++ "\n\n" ++ outputsHeading ++ "\n\n" ++ s.outputs.toJson.pretty

/-- The call of the next attempt from a state. Its number is not wrapped at 2^32. -/
def callIn (n : Node) (runId : String) (s : State) : Call where
  runId := runId
  nodeId := n.id
  nodeName := n.name
  taskType := n.taskType
  attempt := s.attemptsOf n.id + 1
  maxAttempts := n.maxAttempts
  instruction := n.instructionIn s

def hookContext (s : State) (call : Call) (output error : Option String) (elapsed : Nat) :
    KeyMap Value :=
  .ofList [
    ("output", .ofOption output),
    ("error", .ofOption error),
    ("elapsedMs", .ofNat elapsed),
    ("retryCount", .ofNat call.attempt),
    ("metadata", .ofMap s.metadata),
    ("nodeId", .string call.nodeId)]

/-- What a hook adds to the metadata; nothing without a hook. -/
def hookMetadata (hook : Option String) (context : KeyMap Value) : Metadata :=
  match hook with
  | some source => Expression.runHook context source
  | none => .empty

/-- The patch for the answer to a call that was made in a state. -/
def complete (n : Node) (s : State) (call : Call) (answer : Answer) (elapsed : Nat) : Patch :=
  match answer with
  | .ok output => {
      nodeId := call.nodeId
      output := some output
      error := none
      metadata := hookMetadata n.onSuccess (hookContext s call (some output) none elapsed)
      attempt := call.attempt }
  | .error cause => {
      nodeId := call.nodeId
      output := none
      error := some (call.errorText cause)
      metadata :=
        hookMetadata n.onError (hookContext s call none (some (call.errorText cause)) elapsed)
      attempt := call.attempt }

end Node

end Superstep
