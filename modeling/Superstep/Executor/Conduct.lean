import Superstep.Run.Completion

/-! # What executors do

An executor answers calls. Doing so takes its time, and while one call waits
others go on; all of them share one world `σ`. The conduct of a call is what it
still has to do: answer, crash, or wait and then go on from the world it finds.
Its index bounds the number of waits, so every conduct comes to an end.
-/

namespace Superstep

/-- What a call still has to do, with less than `n + 1` waits. -/
inductive Conduct (σ : Type) : Nat → Type where
  | answer {n : Nat} (result : Answer) : Conduct σ n
  /-- End without an answer. -/
  | crash {n : Nat} : Conduct σ n
  /-- Wait, change the world, and go on as the world before the change tells. -/
  | wait {m n : Nat} (ms : Nat) (effect : σ → σ) (resume : σ → Conduct σ m) (fewer : m < n) :
      Conduct σ n

/-- Something that answers calls. -/
structure Executor (σ : Type) where
  /-- What its own failures call it. -/
  name : String
  /-- Get ready for the first call. -/
  openSession : σ → σ × Except Failure Unit
  /-- The world that is left if getting ready ends in a crash and not in a result. -/
  sessionCrash : σ → Option σ := fun _ => none
  waits : Nat
  execute : Call → σ → σ × Conduct σ waits

namespace Conduct

variable {σ : Type}

/-- The same conduct under a weaker bound. -/
def weaken {m n : Nat} (c : Conduct σ m) (weaker : m ≤ n) : Conduct σ n :=
  match c with
  | .answer result => .answer result
  | .crash => .crash
  | .wait ms effect resume fewer => .wait ms effect resume (Nat.lt_of_lt_of_le fewer weaker)

def orElse {m n k : Nat} (other : Failure → Conduct σ k) :
    (c : Conduct σ m) → m + k ≤ n → Conduct σ n
  | .answer (.ok output), _ => .answer (.ok output)
  | .answer (.error cause), enough =>
      (other cause).weaken (Nat.le_trans (Nat.le_add_left _ _) enough)
  | .crash, _ => .crash
  | .wait ms effect resume fewer, enough =>
      .wait ms effect (fun world => (resume world).orElse other (Nat.le_refl _))
        (Nat.lt_of_lt_of_le (Nat.add_lt_add_right fewer _) enough)

/-- Go through a conduct while nobody else changes the world. A crash leaves no
    answer. -/
def finish {n : Nat} : Conduct σ n → σ → σ × Option Answer
  | .answer result, world => (world, some result)
  | .crash, world => (world, none)
  | .wait _ effect resume _, world => (resume world).finish (effect world)

end Conduct

namespace Executor

variable {σ : Type}

def attempt (e : Executor σ) (call : Call) (world : σ) : σ × Option Answer :=
  let (world, conduct) := e.execute call world
  conduct.finish world

end Executor

end Superstep
