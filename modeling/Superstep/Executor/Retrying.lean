import Superstep.Config.Settings
import Superstep.Executor.Conduct
import Superstep.Text.Search

/-! # Retries inside an executor

Some failures pass by themselves. An executor can be made to try again after
such a failure, up to a number of times and after a growing pause. The attempts
of the node do not count these retries.
-/

namespace Superstep

namespace RetryPolicy

/-- The pause before a retry, counted from zero: it doubles up to the
    longest. The program makes it up to a fifth shorter or longer at random, which
    is left out here. -/
def backoff (p : RetryPolicy) (retry : Nat) : Nat :=
  min (p.initialBackoff * twoTo (min retry 64)) p.maxBackoff

end RetryPolicy

/-- Parts of messages that tell of a failure that may pass. -/
def transientSigns : List String :=
  ["429", "502", "503", "timeout", "connection"]

def Failure.isTransient : Failure → Bool
  | .task _ message => transientSigns.any fun sign => Text.occurs sign message
  | .timeout .. => true
  | .io _ => true
  | _ => false

namespace Executor

variable {σ : Type}

/-- How often a call may wait that may be retried so many times. -/
def waitsWith (e : Executor σ) (retries : Nat) : Nat :=
  retries * (e.waits + 1) + e.waits

/-- The conduct of a call of which some retries have been made and some are
    left. -/
def retryConduct (e : Executor σ) (policy : RetryPolicy) (call : Call) :
    (left made : Nat) → Conduct σ e.waits → Conduct σ (e.waitsWith left)
  | 0, _, conduct => conduct.weaken (Nat.le_add_left _ _)
  | left + 1, made, conduct =>
      let again : Conduct σ (e.waitsWith left + 1) :=
        .wait (policy.backoff made)
          (fun world => (e.execute call world).1)
          (fun world => e.retryConduct policy call left (made + 1) (e.execute call world).2)
          (Nat.lt_succ_self _)
      conduct.orElse
        (fun cause => if cause.isTransient then again else .answer (.error cause))
        (by simp only [waitsWith, Nat.succ_mul]; omega)

/-- The executor that tries again what another one fails to do. -/
def retrying (e : Executor σ) (policy : RetryPolicy) : Executor σ where
  name := e.name
  openSession := e.openSession
  sessionCrash := e.sessionCrash
  waits := e.waitsWith policy.maxRetries
  execute call world :=
    let (world, conduct) := e.execute call world
    (world, e.retryConduct policy call policy.maxRetries 0 conduct)

end Executor

end Superstep
