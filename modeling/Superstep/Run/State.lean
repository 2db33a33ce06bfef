import Superstep.Run.Outputs

/-! # The state of a run

A run has one state. It changes by patches only, one for each completion of a
node, and every field has its own rule for what a patch does to it.
-/

namespace Superstep

open Json (Value)

/-- Values that are shared by all nodes of a run. -/
abbrev Metadata := KeyMap Value

/-- What a run knows so far. -/
structure State where
  prompt : String
  outputs : Outputs
  finalAnswer : Option String
  /-- The error of the last completion, if it failed. -/
  error : Option String
  metadata : Metadata
  /-- The node that completed last. -/
  currentNode : Option String
  /-- The number of the last attempt at each node. The program keeps it in 32
      bits, so the two agree as long as no node is executed 2^32 times. -/
  attempts : KeyMap Nat

/-- What one completion of a node changes. -/
structure Patch where
  nodeId : String
  output : Option String
  /-- The error of a failure; none clears an earlier error. -/
  error : Option String
  metadata : Metadata
  attempt : Nat

namespace Patch

def succeeded (p : Patch) : Bool :=
  p.output.isSome

end Patch

namespace State

def initial (prompt : String) (metadata : Metadata) : State where
  prompt := prompt
  outputs := .empty
  finalAnswer := none
  error := none
  metadata := metadata
  currentNode := none
  attempts := .empty

def attemptsOf (s : State) (id : String) : Nat :=
  (s.attempts.get? id).getD 0

/-- An output is inserted; a failure leaves the outputs as they are. -/
def patchOutputs (s : State) (p : Patch) : State :=
  match p.output with
  | some output => { s with outputs := s.outputs.insert p.nodeId output }
  | none => s

/-- The last completion decides about the error. -/
def patchError (s : State) (p : Patch) : State :=
  { s with error := p.error }

/-- Metadata is merged key by key, and the patch wins. -/
def patchMetadata (s : State) (p : Patch) : State :=
  { s with metadata := s.metadata.insertAll p.metadata.entries }

/-- The last completion decides about the current node. -/
def patchCurrentNode (s : State) (p : Patch) : State :=
  { s with currentNode := some p.nodeId }

/-- Every node has its own count of attempts. -/
def patchAttempts (s : State) (p : Patch) : State :=
  { s with attempts := s.attempts.insert p.nodeId p.attempt }

def apply (s : State) (p : Patch) : State :=
  ((((s.patchOutputs p).patchError p).patchMetadata p).patchCurrentNode p).patchAttempts p

def applyAll (s : State) (patches : List Patch) : State :=
  patches.foldl apply s

def conditionContext (s : State) : KeyMap Value :=
  .ofList [
    ("nodeOutputs", s.outputs.toJson),
    ("metadata", .ofMap s.metadata),
    ("error", .ofOption s.error),
    ("currentNode", .ofOption s.currentNode)]

/-- How an error is told as the answer of a run. -/
def errorAnswer (error : String) : String :=
  "Error during execution: " ++ error

/-- The answer of a run that ends in this state: its error, unless that is
    empty, else the last output, else a placeholder. -/
def answer (s : State) (placeholder : String) : String :=
  match s.error with
  | some error =>
      if error.isEmpty then s.outputs.last?.getD placeholder else errorAnswer error
  | none => s.outputs.last?.getD placeholder

def toJson (s : State) : Value :=
  .object [
    ("prompt", .string s.prompt),
    ("nodeOutputs", s.outputs.inOrder),
    ("finalAnswer", .ofOption s.finalAnswer),
    ("error", .ofOption s.error),
    ("metadata", .ofMap s.metadata),
    ("currentNode", .ofOption s.currentNode),
    ("retryCount", .ofMap (s.attempts.map .ofNat))]

end State

end Superstep
