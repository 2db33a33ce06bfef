import Superstep.Executor.Conduct

/-! # Kinds of executors

An executor may echo its instructions, run a program, or retry what another
executor fails to do.
-/

namespace Superstep

namespace Executor

variable {σ : Type}

/-- The executor that answers every call with its instruction. -/
def echo (name : String) : Executor σ where
  name := name
  openSession world := (world, .ok ())
  waits := 0
  execute call world := (world, .answer (.ok call.instruction))

end Executor

/-- One run of a program. -/
structure Launch where
  taskType : String
  program : String
  arguments : List String
  environment : KeyMap String
  timeoutSeconds : Nat
  input : String

/-- A way to run programs: what the program writes, or why it fails. -/
abbrev Launcher (σ : Type) := Launch → σ → σ × Answer

/-- A program that answers calls. -/
structure Program where
  taskType : String
  path : String
  arguments : List String
  environment : KeyMap String
  timeoutSeconds : Nat
  /-- Arguments of a first run that shows whether the program works. -/
  sessionCheck : Option (List String)

namespace Program

def launch (p : Program) (arguments : List String) (environment : KeyMap String)
    (input : String) : Launch where
  taskType := p.taskType
  program := p.path
  arguments := arguments
  environment := environment
  timeoutSeconds := p.timeoutSeconds
  input := input

/-- What the program finds in its environment when it answers a call. -/
def environmentFor (p : Program) (call : Call) : KeyMap String :=
  p.environment.insertAll [
    ("TASKGRAPH_RUN_ID", call.runId),
    ("TASKGRAPH_NODE_ID", call.nodeId),
    ("TASKGRAPH_ATTEMPT", toString call.attempt)]

end Program

namespace Executor

variable {σ : Type}

/-- The executor that runs a program for every call and hands it the
    instruction. -/
def command (launcher : Launcher σ) (p : Program) : Executor σ where
  name := p.taskType
  openSession world :=
    match p.sessionCheck with
    | none => (world, .ok ())
    | some arguments =>
        match launcher (p.launch arguments p.environment "") world with
        | (world, .ok _) => (world, .ok ())
        | (world, .error cause) => (world, .error (.session p.taskType cause.message))
  waits := 0
  execute call world :=
    let (world, result) :=
      launcher (p.launch p.arguments (p.environmentFor call) call.instruction) world
    (world, .answer result)

end Executor

end Superstep
