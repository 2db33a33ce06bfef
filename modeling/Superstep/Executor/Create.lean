import Superstep.Config.Settings
import Superstep.Executor.Basic
import Superstep.Executor.Pool
import Superstep.Executor.Retrying

/-! # Executors of a configuration

A configuration is turned into a pool with one executor for each of its entries.
-/

namespace Superstep

variable {σ : Type}

/-- The executor of an entry, or what is missing. -/
def Executor.ofSettings (launcher : Launcher σ) (taskType : String) (s : ExecutorSettings) :
    Except ConfigFault (Executor σ) := do
  let plain ←
    match s.kind, s.program with
    | .echo, _ => .ok (Executor.echo taskType)
    | .command, some path =>
        .ok (Executor.command launcher
          ⟨taskType, path, s.arguments, s.environment, s.timeoutSeconds, s.sessionCheck⟩)
    | .command, none => .error (.nothingToRun taskType)
  match s.retry with
  | some policy => .ok (plain.retrying policy)
  | none => .ok plain

namespace Pool

def addEntries (launcher : Launcher σ) :
    List (String × ExecutorSettings) → Pool σ → Except ConfigFault (Pool σ)
  | [], p => .ok p
  | (taskType, s) :: rest, p => do
      let e ← Executor.ofSettings launcher taskType s
      addEntries launcher rest (p.register taskType e)

def ofConfiguration (launcher : Launcher σ) (c : Configuration) :
    Except ConfigFault (Pool σ) :=
  addEntries launcher c.executors.entries ⟨.empty, c.engine.defaultTaskType⟩

end Pool

end Superstep
