import Superstep.Executor.Script

/-! # Benches

A bench is a world that holds the ledgers of any number of stand-ins and
scripts. Their places are numbered in the order in which they were added, and
they stay when an executor is no longer in use.
-/

namespace Superstep

/-- The ledgers of stand-ins and scripts. -/
structure Bench where
  standIns : List StandIn.Ledger
  scripts : List Script.Ledger

namespace Bench

def empty : Bench := ⟨[], []⟩

/-- A ledger without calls and replies. -/
def blankStandIn : StandIn.Ledger := ⟨0, [], .empty, []⟩

/-- A ledger without calls and items. -/
def blankScript : Script.Ledger := ⟨0, [], []⟩

def standIn (place : Nat) : Slot Bench StandIn.Ledger where
  read bench := (bench.standIns[place]?).getD blankStandIn
  write ledger bench := { bench with standIns := bench.standIns.set place ledger }

def script (place : Nat) : Slot Bench Script.Ledger where
  read bench := (bench.scripts[place]?).getD blankScript
  write ledger bench := { bench with scripts := bench.scripts.set place ledger }

def addStandIn (bench : Bench) (s : StandIn) (byNode : KeyMap (List Reply))
    (shared : List Reply) : Bench × Executor Bench :=
  ({ bench with standIns := bench.standIns ++ [{ blankStandIn with byNode, shared }] },
    s.executor (standIn bench.standIns.length))

def addScript (bench : Bench) (s : Script) (items : List Script.Item) : Bench × Executor Bench :=
  ({ bench with scripts := bench.scripts ++ [{ blankScript with items }] },
    s.executor (script bench.scripts.length))

end Bench

end Superstep
