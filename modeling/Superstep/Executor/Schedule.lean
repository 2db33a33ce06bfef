import Superstep.Executor.Board
import Superstep.Executor.Pool
import Superstep.Run.Engine

/-! # Schedules

How the calls of a step run side by side. They take turns in rounds of a fixed
length, in the order of the active nodes at first. A call whose turn was cut
short goes on in the next round, behind all others. A virtual clock stands still
while there are turns to be made and jumps to the end of the shortest pause when
there are none. How many milliseconds calls take is not measured but told as
zero. Only after a round is it seen whether a call has crashed; all others are then
given up.
-/

namespace Superstep

namespace Board

variable {σ : Type}

def roundLength : Nat := 61

def nextDue : List (Nat × Pause σ) → Option Nat
  | [] => none
  | (due, _) :: rest =>
      match nextDue rest with
      | none => some due
      | some other => some (min due other)

/-- Get ready for a round. Calls whose turn was cut short take turns again, the
    last one first; if nothing is to be done, the shortest pauses end. -/
def renew (b : Board σ) : Board σ :=
  if b.queue.isEmpty && b.cut.isEmpty then
    match nextDue b.sleeping with
    | none => b
    | some due =>
        { b with
          now := due
          queue := (b.sleeping.filter (·.1 == due)).map fun s => .wake s.2
          sleeping := b.sleeping.filter fun s => !(s.1 == due) }
  else { b with queue := b.queue ++ b.cut.map .pause, cut := [] }

/-- Make so many turns, as long as there are any. -/
def makeTurns (cap : Nat) : Nat → Board σ → Board σ
  | 0, b => b
  | count + 1, b =>
      match b.queue with
      | [] => b
      | turn :: rest => makeTurns cap count ({ b with queue := rest }.take cap turn)

theorem weight_renew (b : Board σ) : b.renew.weight = b.weight := by
  unfold renew
  split
  next idle =>
    split
    next => rfl
    next due _ =>
      obtain ⟨noTurns, noneCut⟩ : b.queue = [] ∧ b.cut = [] := by simpa using idle
      have whole := total_filter (fun s => pauseWeight s.2) (fun s => s.1 == due) b.sleeping
      simp only [weight, noTurns, noneCut, total_map, turnWeight, total] at whole ⊢
      omega
  next =>
    simp only [weight, total_append, total_map, turnWeight, total]
    omega

theorem weight_makeTurns_le (cap count : Nat) (b : Board σ) :
    (makeTurns cap count b).weight ≤ b.weight := by
  induction count generalizing b with
  | zero => exact Nat.le_refl _
  | succ count ih =>
      simp only [makeTurns]
      split
      next => exact Nat.le_refl _
      next turn rest found =>
        have made := weight_take cap turn { b with queue := rest }
        have later := ih ({ b with queue := rest }.take cap turn)
        simp only [weight, found, total] at made later ⊢
        omega

/-- A round in which there is a turn to be made leaves less to be done. -/
theorem weight_makeTurns_lt (cap count : Nat) {b : Board σ} {turn : Turn σ}
    {rest : List (Turn σ)} (found : b.queue = turn :: rest) :
    (makeTurns cap (count + 1) b).weight < b.weight := by
  have made := weight_take cap turn { b with queue := rest }
  have later := weight_makeTurns_le cap count ({ b with queue := rest }.take cap turn)
  simp only [makeTurns, found, weight, total] at made later ⊢
  omega

/-- Make rounds until all calls have ended or one has crashed. -/
def runAll (cap : Nat) (b : Board σ) : Board σ :=
  if b.crashed then b
  else
    match _found : b.renew.queue with
    | [] => b.renew
    | _ :: _ => runAll cap (makeTurns cap roundLength b.renew)
termination_by b.weight
decreasing_by
  exact Nat.lt_of_lt_of_eq (weight_makeTurns_lt cap (roundLength - 1) _found) (weight_renew b)

/-- The board before the first round. -/
def fresh (jobs : List (Job (Executor σ))) (world : σ) : Board σ :=
  ⟨0, world, jobs.map .ask, [], [], [], 0, [], false⟩

end Board

namespace Pool

variable {σ : Type}

/-- Make the calls of a step, at most `cap` at a time. -/
def worker (cap : Nat) : Worker (Site σ) (Executor σ) := fun jobs site =>
  let b := Board.runAll cap (.fresh jobs site.world)
  ({ site with world := b.world }, ⟨b.happenings, b.crashed⟩)

def engine (p : Pool σ) (settings : EngineSettings) : Engine (Site σ) (Executor σ) where
  settings := settings
  resolve := p.resolve
  openSessions := p.openSessions
  sessionsCrash := p.sessionsCrash
  worker := worker settings.maxConcurrency

end Pool

end Superstep
