import Superstep.Executor.Conduct

/-! # Stand-ins

A stand-in takes the place of an executor and answers from prepared replies:
first those for the node that asks, then those for any node, and when both have
run out in one and the same way for ever. It takes note of the calls it gets.
-/

namespace Superstep

/-- A part of a world that can be read and replaced. -/
structure Slot (σ α : Type) where
  read : σ → α
  write : α → σ → σ

def Slot.update {σ α : Type} (slot : Slot σ α) (f : α → α) (world : σ) : σ :=
  slot.write (f (slot.read world)) world

/-- A prepared reply: an output or the message of a failure. -/
abbrev Reply := Except String String

/-- What a stand-in is made with. -/
structure StandIn where
  name : String
  delays : KeyMap Nat
  /-- The message of every failure after the prepared replies; without one the
      calls succeed. -/
  failing : Option String
  sessionFailure : Option String

namespace StandIn

/-- What changes while a stand-in is used. -/
structure Ledger where
  sessions : Nat
  /-- The calls, in order. -/
  calls : List Call
  byNode : KeyMap (List Reply)
  shared : List Reply

/-- The next reply to a node, and the ledger without it. -/
def nextReply (s : StandIn) (nodeId : String) (ledger : Ledger) : Reply × Ledger :=
  match (ledger.byNode.get? nodeId).getD [] with
  | reply :: rest => (reply, { ledger with byNode := ledger.byNode.insert nodeId rest })
  | [] =>
      match ledger.shared with
      | reply :: rest => (reply, { ledger with shared := rest })
      | [] =>
          match s.failing with
          | some message => (.error message, ledger)
          | none => (.ok (nodeId ++ " done"), ledger)

def answer (s : StandIn) : Reply → Answer
  | .ok output => .ok output
  | .error message => .error (.task s.name message)

/-- The stand-in as an executor. The reply is taken after the delay. -/
def executor {σ : Type} (s : StandIn) (slot : Slot σ Ledger) : Executor σ where
  name := s.name
  openSession world :=
    (slot.update (fun ledger => { ledger with sessions := ledger.sessions + 1 }) world,
      match s.sessionFailure with
      | some message => .error (.session s.name message)
      | none => .ok ())
  waits := 1
  execute call world :=
    let world := slot.update (fun ledger => { ledger with calls := ledger.calls ++ [call] }) world
    let take (world : σ) : σ := slot.update (fun ledger => (s.nextReply call.nodeId ledger).2) world
    let reply (world : σ) : Conduct σ 0 :=
      .answer (s.answer (s.nextReply call.nodeId (slot.read world)).1)
    match s.delays.get? call.nodeId with
    | some ms => (world, .wait ms take reply Nat.zero_lt_one)
    | none => (take world, (reply world).weaken (Nat.zero_le 1))

end StandIn

end Superstep
