import Superstep.Run.Completion
import Superstep.Run.Event
import Superstep.Run.Graph

/-! # Steps

In a step all active nodes are called, and all of them see the state at its
start. In which order calls begin and end is up to whoever makes them; the step
only takes note of it. Completions change the state in the order of their ends,
and each one is routed by itself.
-/

namespace Superstep

/-- A call and the executor that has to answer it. -/
structure Job (ε : Type) where
  executor : ε
  call : Call

/-- Something that happens to a call. -/
inductive Happening where
  | started (call : Call)
  /-- The answer to a call, and the milliseconds it took. -/
  | ended (call : Call) (answer : Answer) (elapsed : Nat)

/-- What happened to the calls of a step, and whether one of them crashed. -/
structure Transcript where
  happenings : List Happening
  crashed : Bool

/-- Whoever makes the calls of a step. Its own state is a `τ`. -/
abbrev Worker (τ ε : Type) := List (Job ε) → τ → τ × Transcript

/-- A step that was taken. -/
structure Step where
  /-- Its number, from one. -/
  number : Nat
  active : List String
  before : State
  happenings : List Happening

/-- A completion of a node: what it changes and where it leads. -/
structure Completion where
  patch : Patch
  targets : List String

def Happening.event (runId : String) : Happening → Event
  | .started call => .nodeStarted runId call.nodeId call.attempt
  | .ended call (.ok _) elapsed => .nodeSucceeded runId call.nodeId call.attempt elapsed
  | .ended call (.error cause) elapsed =>
      .nodeFailed runId call.nodeId call.attempt elapsed (call.errorText cause)

def Step.events (runId : String) (step : Step) : List Event :=
  .stepStarted runId step.number step.active :: step.happenings.map (Happening.event runId)

/-- The completion of a node by the answer to a call from a state. -/
def Station.completion {ε : Type} (station : Station ε) (s : State) (call : Call)
    (answer : Answer) (elapsed : Nat) : Completion :=
  let patch := station.node.complete s call answer elapsed
  ⟨patch, station.route.next (s.apply patch)⟩

/-- The nodes that completions lead to, in the order of the completions. -/
def Completion.union (completions : List Completion) : List String :=
  (completions.flatMap Completion.targets).eraseDups

namespace Graph

variable {ε : Type}

def jobs (g : Graph ε) (runId : String) (s : State) :
    List String → Except EngineFault (List (Job ε))
  | [] => .ok []
  | id :: rest =>
      match g.station? id with
      | none => .error (.unknownNode id)
      | some station => do
          let later ← g.jobs runId s rest
          .ok (⟨station.executor, station.node.callIn runId s⟩ :: later)

/-- The completions among happenings, in their order. -/
def completions (g : Graph ε) (s : State) : List Happening → Except EngineFault (List Completion)
  | [] => .ok []
  | .started _ :: rest => g.completions s rest
  | .ended call answer elapsed :: rest =>
      match g.station? call.nodeId with
      | none => .error (.unroutedNode call.nodeId)
      | some station => do
          let later ← g.completions s rest
          .ok (station.completion s call answer elapsed :: later)

/-- What becomes of a step: the next state and the nodes that are active in it,
    or the failure that ends the run. -/
def conclude (g : Graph ε) (s : State) (transcript : Transcript) :
    Except EngineFault (State × List String) := do
  if transcript.crashed then .error .crash
  else
    let completions ← g.completions s transcript.happenings
    .ok (s.applyAll (completions.map Completion.patch), Completion.union completions)

def takeStep {τ : Type} (g : Graph ε) (worker : Worker τ ε) (runId : String) (number : Nat)
    (active : List String) (s : State) (t : τ) :
    τ × Step × Except EngineFault (State × List String) :=
  match g.jobs runId s active with
  | .error fault => (t, ⟨number, active, s, []⟩, .error fault)
  | .ok jobs =>
      let (t, transcript) := worker jobs t
      (t, ⟨number, active, s, transcript.happenings⟩, g.conclude s transcript)

end Graph

end Superstep
