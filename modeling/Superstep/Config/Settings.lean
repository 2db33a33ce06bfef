import Superstep.KeyMap

/-! # Configurations

What a configuration says: how runs are made as a whole, and which executors
there are.
-/

namespace Superstep

/-- How runs are made. -/
structure EngineSettings where
  /-- How many calls of one step may run at the same time; zero for any number. -/
  maxConcurrency : Nat := 0
  maxSteps : Nat := 100
  /-- The answer of a run without outputs. -/
  placeholder : String := "No output generated."
  /-- The executor for task types without one. -/
  defaultTaskType : Option String := none
  verbose : Bool := false
  deriving DecidableEq

/-- How an executor retries failures that may pass. -/
structure RetryPolicy where
  maxRetries : Nat := 2
  /-- The pause before the first retry, in milliseconds. -/
  initialBackoff : Nat := 500
  maxBackoff : Nat := 10000
  deriving DecidableEq

/-- What an executor does. -/
inductive ExecutorKind where
  | command
  | echo
  deriving DecidableEq, Repr

/-- What a configuration says about one executor. -/
structure ExecutorSettings where
  kind : ExecutorKind := .command
  program : Option String := none
  arguments : List String := []
  environment : KeyMap String := .empty
  timeoutSeconds : Nat := 300
  sessionCheck : Option (List String) := none
  retry : Option RetryPolicy := none
  deriving DecidableEq

/-- A whole configuration. -/
structure Configuration where
  engine : EngineSettings := {}
  executors : KeyMap ExecutorSettings := .empty
  deriving DecidableEq

end Superstep
