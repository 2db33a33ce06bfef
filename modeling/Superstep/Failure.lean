import Superstep.Json.Decode
import Superstep.Workflow.Validate

/-! # Failures

Everything that makes a run, a task or the program fail, with its cause. The
wording is in `Failure.message` alone.
-/

namespace Superstep

/-- What stops the engine in the middle of a run. -/
inductive EngineFault where
  /-- The limit of steps is reached and nodes are still active. -/
  | stepLimit (limit : Nat) (active : List String)
  | crash
  | unknownNode (id : String)
  | unroutedNode (id : String)
  | startNotCompiled (id : String)
  | other (message : String)
  deriving DecidableEq

/-- What is wrong with a configuration. -/
inductive ConfigFault where
  /-- The text is no TOML, or not of the right shape. -/
  | unreadable
  | zeroSteps
  /-- An executor for commands without a program. -/
  | programMissing (taskType : String)
  /-- The same, noticed when the executor is made. -/
  | nothingToRun (taskType : String)
  | defaultMissing (taskType : String)
  | other (message : String)
  deriving DecidableEq

/-- A failure of any part. -/
inductive Failure where
  | invalidWorkflow (violations : List Violation)
  | expression (message : String)
  | task (taskType message : String)
  | timeout (taskType : String) (seconds : Nat)
  | unknownTaskType (taskType : String)
  | session (taskType message : String)
  | engine (fault : EngineFault)
  | config (fault : ConfigFault)
  | configNotFound (path : String)
  | io (message : String)
  | json (error : Json.DecodeError)
  deriving DecidableEq

def EngineFault.message : EngineFault → String
  | .stepLimit limit active =>
      "workflow did not finish within " ++ toString limit ++ " steps (still active: " ++
        ", ".intercalate active ++ ")"
  | .crash => "node task failed:"
  | .unknownNode id => "no compiled node '" ++ id ++ "'"
  | .unroutedNode id => "no route for node '" ++ id ++ "'"
  | .startNotCompiled id => "start node '" ++ id ++ "' was not compiled"
  | .other message => message

def ConfigFault.message : ConfigFault → String
  | .unreadable => "TOML parse error"
  | .zeroSteps => "engine.max_steps must be at least 1"
  | .programMissing taskType => "executors." ++ taskType ++ ": command executor needs a program"
  | .nothingToRun taskType => "executors." ++ taskType ++ ": missing program"
  | .defaultMissing taskType =>
      "engine.default_task_type '" ++ taskType ++ "' has no [executors." ++ taskType ++ "] entry"
  | .other message => message

def violationSummary (violations : List Violation) : String :=
  "invalid workflow schema (" ++ toString violations.length ++ " violation(s)): " ++
    "; ".intercalate (violations.map Violation.message)

def Failure.message : Failure → String
  | .invalidWorkflow violations => violationSummary violations
  | .expression message => "Expression error: " ++ message
  | .task taskType message => "Task execution failed: " ++ taskType ++ ": " ++ message
  | .timeout taskType seconds =>
      "Task timeout after " ++ toString seconds ++ "s: " ++ taskType
  | .unknownTaskType taskType => "No task executor registered for task type: " ++ taskType
  | .session taskType message =>
      "Session init failed for task type " ++ taskType ++ ": " ++ message
  | .engine fault => "Engine error: " ++ fault.message
  | .config fault => "Config error: " ++ fault.message
  | .configNotFound path => "Config file not found: " ++ path
  | .io message => "I/O error: " ++ message
  | .json _ => "JSON error"

end Superstep
