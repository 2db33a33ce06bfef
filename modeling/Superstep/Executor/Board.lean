import Superstep.Executor.Conduct
import Superstep.Run.Step

/-! # Boards

A board shows where the calls of a step stand. Calls take turns: in its turn a
call goes on until it ends, pauses, waits for one of the slots or has used up
its allowance. The slots bound how many calls run at a time; they are given out
in the order in which they are asked for. Every turn leaves less to be done.
-/

namespace Superstep

/-- A call in a pause. -/
structure Pause (σ : Type) where
  call : Call
  milliseconds : Nat
  later : Nat
  effect : σ → σ
  resume : σ → Conduct σ later

/-- What a call does in its next turn. -/
inductive Turn (σ : Type) where
  | ask (job : Job (Executor σ))
  | start (job : Job (Executor σ))
  /-- Begin a pause for which the allowance of the turn before did not suffice. -/
  | pause (p : Pause σ)
  | wake (p : Pause σ)

/-- Where the calls of a step stand. -/
structure Board (σ : Type) where
  now : Nat
  world : σ
  queue : List (Turn σ)
  waiting : List (Job (Executor σ))
  /-- The calls whose turn was cut short before a pause, the last one first. -/
  cut : List (Pause σ)
  /-- The calls that pause, by the ends of their pauses, in the order in which
      they began to. -/
  sleeping : List (Nat × Pause σ)
  taken : Nat
  /-- What has happened, in order. -/
  happenings : List Happening
  crashed : Bool

namespace Board

variable {σ : Type}

/-- How many slots and ends of pauses a call may get in one turn. -/
def allowance : Nat := 128

def note (b : Board σ) (h : Happening) : Board σ :=
  { b with happenings := b.happenings ++ [h] }

/-- Leave a slot. The call that has waited longest gets it. -/
def leave (b : Board σ) : Board σ :=
  match b.waiting with
  | [] => { b with taken := b.taken - 1 }
  | job :: rest => { b with waiting := rest, queue := b.queue ++ [.start job] }

def sleep (p : Pause σ) (b : Board σ) : Board σ :=
  { b with sleeping := b.sleeping ++ [(b.now + p.milliseconds, p)] }

/-- Go on with a call. A pause of no time ends at once. No time is noted for a call
    that ends: how long it took is measured by a worker and not on the board. -/
def goOn (call : Call) {n : Nat} (left : Nat) (conduct : Conduct σ n) (b : Board σ) : Board σ :=
  match conduct with
  | .answer result => (b.note (.ended call result 0)).leave
  | .crash => { b with crashed := true }.leave
  | .wait ms effect resume _ =>
      if left = 0 then { b with cut := ⟨call, ms, _, effect, resume⟩ :: b.cut }
      else if ms = 0 then
        goOn call (left - 1) (resume b.world) { b with world := effect b.world }
      else b.sleep ⟨call, ms, _, effect, resume⟩

def start (left : Nat) (job : Job (Executor σ)) (b : Board σ) : Board σ :=
  let (world, conduct) := job.executor.execute job.call b.world
  goOn job.call left conduct ({ b with world := world }.note (.started job.call))

def wake (p : Pause σ) (b : Board σ) : Board σ :=
  goOn p.call (allowance - 1) (p.resume b.world) { b with world := p.effect b.world }

/-- Make a turn. With a cap of zero there is a slot for every call, and none is
    counted. -/
def take (cap : Nat) (turn : Turn σ) (b : Board σ) : Board σ :=
  match turn with
  | .ask job =>
      if cap = 0 then b.start allowance job
      else if b.taken < cap then { b with taken := b.taken + 1 }.start (allowance - 1) job
      else { b with waiting := b.waiting ++ [job] }
  | .start job => b.start (allowance - 1) job
  | .pause p => if p.milliseconds = 0 then b.wake p else b.sleep p
  | .wake p => b.wake p

/-! ## What is left to be done -/

def total {α : Type} (weight : α → Nat) : List α → Nat
  | [] => 0
  | a :: rest => weight a + total weight rest

theorem total_append {α : Type} (weight : α → Nat) (items more : List α) :
    total weight (items ++ more) = total weight items + total weight more := by
  induction items with
  | nil => simp [total]
  | cons a rest ih => simp only [List.cons_append, total, ih, Nat.add_assoc]

theorem total_map {α β : Type} (weight : β → Nat) (f : α → β) (items : List α) :
    total weight (items.map f) = total (fun a => weight (f a)) items := by
  induction items with
  | nil => rfl
  | cons a rest ih => simp only [List.map_cons, total, ih]

/-- The items with a property and the others make up the whole. -/
theorem total_filter {α : Type} (weight : α → Nat) (p : α → Bool) (items : List α) :
    total weight (items.filter p) + total weight (items.filter fun a => !p a) =
      total weight items := by
  induction items with
  | nil => rfl
  | cons a rest ih =>
      cases h : p a <;> simp only [List.filter_cons, h, total, Bool.not_true, Bool.not_false,
        if_true, Bool.false_eq_true, if_false] <;> omega

/-- A bound of the turns that a call still needs from the end of a pause on. -/
def pauseWeight (p : Pause σ) : Nat :=
  2 * p.later + 2

/-- A bound of the turns that a call needs that has a slot. -/
def jobWeight (job : Job (Executor σ)) : Nat :=
  2 * job.executor.waits + 2

/-- A bound of the turns that a call still needs, the next one included. -/
def turnWeight : Turn σ → Nat
  | .ask job => jobWeight job + 2
  | .start job => jobWeight job
  | .pause p => pauseWeight p + 1
  | .wake p => pauseWeight p

def weight (b : Board σ) : Nat :=
  total turnWeight b.queue + total (fun job => jobWeight job + 1) b.waiting +
    total (fun p => pauseWeight p + 1) b.cut + total (fun s => pauseWeight s.2) b.sleeping

theorem weight_leave (b : Board σ) : b.leave.weight ≤ b.weight := by
  unfold leave
  split
  next => exact Nat.le_refl _
  next job rest found =>
    simp only [weight, found, total, total_append, turnWeight]
    omega

theorem weight_sleep (p : Pause σ) (b : Board σ) :
    (b.sleep p).weight = b.weight + pauseWeight p := by
  simp only [weight, sleep, total_append, total]
  omega

theorem weight_goOn (call : Call) {n : Nat} (left : Nat) (conduct : Conduct σ n) (b : Board σ) :
    (goOn call left conduct b).weight ≤ b.weight + (2 * n + 1) := by
  induction conduct generalizing left b with
  | answer result =>
      rw [goOn]
      exact Nat.le_trans (weight_leave _) (Nat.le_add_right _ _)
  | crash =>
      rw [goOn]
      exact Nat.le_trans (weight_leave _) (Nat.le_add_right _ _)
  | wait ms effect resume fewer ih =>
      rw [goOn]
      split
      next =>
        simp only [weight, total, pauseWeight]
        omega
      next =>
        split
        next =>
          have later := ih b.world (left - 1) { b with world := effect b.world }
          simp only [weight] at later ⊢
          omega
        next =>
          rw [weight_sleep]
          simp only [pauseWeight]
          omega

theorem weight_start (left : Nat) (job : Job (Executor σ)) (b : Board σ) :
    (b.start left job).weight < b.weight + jobWeight job := by
  have later := weight_goOn job.call left (job.executor.execute job.call b.world).2
    ({ b with world := (job.executor.execute job.call b.world).1 }.note (.started job.call))
  simp only [start, jobWeight]
  exact Nat.lt_of_le_of_lt later (Nat.add_lt_add_left (Nat.lt_succ_self _) _)

theorem weight_wake (p : Pause σ) (b : Board σ) :
    (b.wake p).weight < b.weight + pauseWeight p := by
  have later := weight_goOn p.call (allowance - 1) (p.resume b.world)
    { b with world := p.effect b.world }
  exact Nat.lt_of_le_of_lt later (Nat.add_lt_add_left (Nat.lt_succ_self _) _)

theorem weight_take (cap : Nat) (turn : Turn σ) (b : Board σ) :
    (b.take cap turn).weight < b.weight + turnWeight turn := by
  cases turn with
  | ask job =>
      simp only [take, turnWeight]
      split
      next =>
        have started := weight_start allowance job b
        omega
      next =>
        split
        next =>
          have started := weight_start (allowance - 1) job { b with taken := b.taken + 1 }
          simp only [weight] at started ⊢
          omega
        next =>
          simp only [weight, total_append, total]
          omega
  | start job => exact weight_start ..
  | pause p =>
      simp only [take, turnWeight]
      split
      next => exact Nat.lt_succ_of_lt (weight_wake p b)
      next =>
        rw [weight_sleep]
        omega
  | wake p => exact weight_wake p b

end Board

end Superstep
