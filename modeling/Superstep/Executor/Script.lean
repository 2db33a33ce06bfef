import Superstep.Executor.StandIn

/-! # Scripts

An executor that follows a script: every call takes the next item when it
starts, waits as long as the item says, and then answers or crashes.
-/

namespace Superstep

/-- What happens to one call. -/
structure Script.Item where
  delay : Option Nat
  /-- The answer; without one the call crashes. -/
  answer : Option Answer

/-- What a scripted executor is made with. -/
structure Script where
  name : String
  sessionFailure : Option Failure

namespace Script

/-- What changes while a script is followed. -/
structure Ledger where
  sessions : Nat
  /-- The calls, in order. -/
  calls : List Call
  items : List Item

/-- The item for a call after the end of the script. -/
def lastItem : Item :=
  ⟨none, some (.ok "done")⟩

def nextItem (ledger : Ledger) : Item :=
  ledger.items.head?.getD lastItem

def Item.ending {σ : Type} {n : Nat} (item : Item) : Conduct σ n :=
  match item.answer with
  | some answer => .answer answer
  | none => .crash

def executor {σ : Type} (s : Script) (slot : Slot σ Ledger) : Executor σ where
  name := s.name
  openSession world :=
    (slot.update (fun ledger => { ledger with sessions := ledger.sessions + 1 }) world,
      match s.sessionFailure with
      | some cause => .error cause
      | none => .ok ())
  waits := 1
  execute call world :=
    let item := nextItem (slot.read world)
    let note (ledger : Ledger) : Ledger :=
      { ledger with calls := ledger.calls ++ [call], items := ledger.items.tail }
    (slot.update note world,
      match item.delay with
      | some ms => .wait ms id (fun _ => (item.ending : Conduct σ 0)) Nat.zero_lt_one
      | none => item.ending)

end Script

end Superstep
