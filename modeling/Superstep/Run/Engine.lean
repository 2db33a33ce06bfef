import Superstep.Config.Settings
import Superstep.Run.History

/-! # The engine

An engine runs workflows. It finds executors, opens their sessions and has the
calls of each step made; how all this is done is a parameter. A run has a result:
whatever goes wrong is told as its error. Only a crash before the first step leaves
no run at all.
-/

namespace Superstep

open Json (Value)

/-- What a run gives. -/
structure RunResult where
  finalAnswer : String
  outputs : Outputs
  metadata : Metadata
  error : Option String

namespace RunResult

def ofState (s : State) (placeholder : String) : RunResult where
  finalAnswer := s.answer placeholder
  outputs := s.outputs
  metadata := s.metadata
  error := s.error

def ofFailure (cause : Failure) : RunResult where
  finalAnswer := State.errorAnswer cause.message
  outputs := .empty
  metadata := .empty
  error := some cause.message

def succeeded (r : RunResult) : Bool :=
  r.error.isNone

/-- The result as an object, outputs in their own order. -/
def toJson (r : RunResult) : Value :=
  .object [
    ("finalAnswer", .string r.finalAnswer),
    ("nodeOutputs", r.outputs.inOrder),
    ("metadata", .ofMap r.metadata),
    ("error", .ofOption r.error)]

end RunResult

/-- What an engine consists of. Its executors are of type `ε`, and what it
    changes is a `τ`. -/
structure Engine (τ ε : Type) where
  settings : EngineSettings
  resolve : String → Except Failure ε
  openSessions : List String → τ → τ × Except Failure Unit
  /-- What is left if opening the sessions ends in a crash and not in a result. -/
  sessionsCrash : List String → τ → Option τ := fun _ _ => none
  worker : Worker τ ε

/-- A run that has come to its end. -/
structure Run where
  runId : String
  /-- The answer of a run without outputs. -/
  placeholder : String
  /-- The start node and what happened from there, or why nothing did. -/
  course : Except Failure (String × History)

namespace Run

def result (r : Run) : RunResult :=
  match r.course with
  | .error cause => .ofFailure cause
  | .ok (_, ⟨_, .error fault⟩) => .ofFailure (.engine fault)
  | .ok (_, ⟨_, .ok s⟩) => .ofState s r.placeholder

/-- The number of steps that is told at the end: zero if the run was stopped. -/
def stepCount (r : Run) : Nat :=
  match r.course with
  | .ok (_, ⟨steps, .ok _⟩) => steps.length
  | _ => 0

/-- Everything that the run tells, in order. -/
def events (r : Run) : List Event :=
  let told :=
    match r.course with
    | .error _ => []
    | .ok (start, h) => .runStarted r.runId start :: h.steps.flatMap (Step.events r.runId)
  told ++ [.runComplete r.runId r.stepCount r.result.error]

end Run

namespace Engine

variable {τ ε : Type}

/-- The metadata with which a run starts: those of the workflow, overridden by
    those that are given. -/
def startMetadata (w : Workflow) (given : Metadata) : Metadata :=
  (w.initialMetadata.getD .empty).insertAll given.entries

/-- A graph with open sessions, or why there is none. -/
def prepare (e : Engine τ ε) (w : Workflow) (t : τ) : τ × Except Failure (Graph ε) :=
  match Graph.compile e.resolve w with
  | .error cause => (t, .error cause)
  | .ok graph =>
      match e.openSessions graph.taskTypes t with
      | (t, .error cause) => (t, .error cause)
      | (t, .ok ()) => (t, .ok graph)

/-- What is left if a session of the workflow crashes while the sessions are
    opened. -/
def startCrash (e : Engine τ ε) (w : Workflow) (t : τ) : Option τ :=
  match Graph.compile e.resolve w with
  | .error _ => none
  | .ok graph => e.sessionsCrash graph.taskTypes t

/-- The run of a workflow as it is if nothing crashes before its first step; see
    `run?` for what may. -/
def run (e : Engine τ ε) (w : Workflow) (runId prompt : String) (given : Metadata) (t : τ) :
    τ × Run :=
  match e.prepare w t with
  | (t, .error cause) => (t, ⟨runId, e.settings.placeholder, .error cause⟩)
  | (t, .ok graph) =>
      let start := State.initial prompt (startMetadata w given)
      let (t, h) := graph.history e.worker runId e.settings.maxSteps start t
      (t, ⟨runId, e.settings.placeholder, .ok (graph.startNode, h)⟩)

def capLimit : Nat := 2305843009213693951

/-- Run a workflow. There is no run if a session crashes, or if the cap on running
    calls is too great to be kept, which is only seen when the sessions are open. -/
def run? (e : Engine τ ε) (w : Workflow) (runId prompt : String) (given : Metadata) (t : τ) :
    τ × Option Run :=
  match e.startCrash w t with
  | some left => (left, none)
  | none =>
      match e.prepare w t with
      | (opened, .ok _) =>
          if capLimit < e.settings.maxConcurrency then (opened, none)
          else
            let (t, run) := e.run w runId prompt given t
            (t, some run)
      | (_, .error _) =>
          let (t, run) := e.run w runId prompt given t
          (t, some run)

end Engine

end Superstep
