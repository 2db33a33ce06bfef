import Superstep.Proofs.Moves

/-! # Calls without company

A call that is the only one of its step shares the world with nobody. Whatever turns
a worker makes of it, it does what the executor does when it is left alone.
-/

namespace Superstep

variable {σ : Type}

namespace Board

/-- The board of a call that has no company, and of which `r` will come. It is still to be
    made, or stands in one place with all that it still has to do, or has ended. -/
inductive Alone (call : Call) (r : σ × Option Answer) : Board σ → Prop where
  | asked {now : Nat} {world : σ} {job : Job (Executor σ)} (own : job.call = call)
      (left : job.executor.attempt call world = r) :
      Alone call r ⟨now, world, [.ask job], [], [], [], 0, [], false⟩
  | paused {now taken : Nat} {world : σ} {p : Pause σ} (own : p.call = call)
      (left : (p.resume world).finish (p.effect world) = r) :
      Alone call r ⟨now, world, [.pause p], [], [], [], taken, [.started call], false⟩
  | awake {now taken : Nat} {world : σ} {p : Pause σ} (own : p.call = call)
      (left : (p.resume world).finish (p.effect world) = r) :
      Alone call r ⟨now, world, [.wake p], [], [], [], taken, [.started call], false⟩
  | cut {now taken : Nat} {world : σ} {p : Pause σ} (own : p.call = call)
      (left : (p.resume world).finish (p.effect world) = r) :
      Alone call r ⟨now, world, [], [], [p], [], taken, [.started call], false⟩
  | asleep {now taken due : Nat} {world : σ} {p : Pause σ} (own : p.call = call)
      (left : (p.resume world).finish (p.effect world) = r) :
      Alone call r ⟨now, world, [], [], [], [(due, p)], taken, [.started call], false⟩
  | answered {now taken : Nat} {world : σ} {answer : Answer} (left : (world, some answer) = r) :
      Alone call r
        ⟨now, world, [], [], [], [], taken, [.started call, .ended call answer 0], false⟩
  | crashed {now taken : Nat} {world : σ} (left : (world, none) = r) :
      Alone call r ⟨now, world, [], [], [], [], taken, [.started call], true⟩

variable {cap : Nat} {call : Call} {r : σ × Option Answer} {b : Board σ}

theorem alone_goOn {n : Nat} (allowed : Nat) (conduct : Conduct σ n) {now taken : Nat} {world : σ}
    (left : conduct.finish world = r) :
    Alone call r
      (goOn call allowed conduct ⟨now, world, [], [], [], [], taken, [.started call], false⟩) := by
  obtain ⟨_, goes⟩ :=
    goes_goOn call allowed conduct ⟨now, world, [], [], [], [], taken, [.started call], false⟩
  rw [left] at goes
  generalize goOn call allowed conduct _ = d at goes ⊢
  cases goes with
  | answered left => exact .answered left
  | crashed left => exact .crashed left
  | cut own left => exact .cut own left
  | asleep own left => exact .asleep own left

theorem alone_wake {p : Pause σ} (own : p.call = call) {now taken : Nat} {world : σ}
    (left : (p.resume world).finish (p.effect world) = r) :
    Alone call r (wake p ⟨now, world, [], [], [], [], taken, [.started call], false⟩) := by
  subst own
  exact alone_goOn _ _ left

/-- What is taken out of a queue of one turn is that turn. -/
theorem eq_of_singleton {α : Type} {a x : α} {before after : List α}
    (queued : [a] = before ++ x :: after) : before = [] ∧ x = a ∧ after = [] := by
  cases before with
  | nil =>
      obtain ⟨rfl, rfl⟩ := List.cons.inj queued
      exact ⟨rfl, rfl, rfl⟩
  | cons first rest => simp at queued

theorem Alone.move {d : Board σ} {inOrder : Prop} (move : Move cap inOrder b d)
    (alone : Alone call r b) : Alone call r d := by
  cases alone with
  | asked own left =>
      cases move with
      | turn queued _ =>
          obtain ⟨rfl, rfl, rfl⟩ := eq_of_singleton queued
          subst own
          simp only [take]
          split
          next => exact alone_goOn _ _ left
          next capped =>
            rw [if_pos (Nat.pos_of_ne_zero capped)]
            exact alone_goOn _ _ left
      | resume | wake => exact .asked own left
  | paused own left =>
      cases move with
      | turn queued _ =>
          obtain ⟨rfl, rfl, rfl⟩ := eq_of_singleton queued
          simp only [take]
          split
          next => exact alone_wake own left
          next => exact .asleep own left
      | resume | wake => exact .paused own left
  | awake own left =>
      cases move with
      | turn queued _ =>
          obtain ⟨rfl, rfl, rfl⟩ := eq_of_singleton queued
          exact alone_wake own left
      | resume | wake => exact .awake own left
  | cut own left =>
      cases move with
      | turn queued _ => simp at queued
      | resume => exact .paused own left
      | wake => exact .cut own left
  | @asleep now taken due world p own left =>
      cases move with
      | turn queued _ => simp at queued
      | resume => exact .asleep own left
      | wake _ isDue =>
          cases ends : isDue (due, p) with
          | true =>
              simp only [List.filter_singleton, ends, Bool.not_true]
              exact .awake own left
          | false =>
              simp only [List.filter_singleton, ends, Bool.not_false]
              exact .asleep own left
  | answered left =>
      cases move with
      | turn queued _ => simp at queued
      | resume | wake => exact .answered left
  | crashed left =>
      cases move with
      | turn queued _ => simp at queued
      | resume | wake => exact .crashed left

end Board

/-- What is told of a call that nothing else happened to than that it was made. -/
def Transcript.ofAttempt (call : Call) (elapsed : Nat) : Option Answer → Transcript
  | some answer => ⟨[.started call, .ended call answer elapsed], false⟩
  | none => ⟨[.started call], true⟩

theorem Transcript.ofAttempt_of_sameButTime {call : Call} {answer : Option Answer}
    {happenings : List Happening} (told : List.Forall₂ Happening.SameButTime happenings
      (ofAttempt call 0 answer).happenings) :
    ∃ elapsed, happenings = (ofAttempt call elapsed answer).happenings := by
  cases answer with
  | some answer =>
      cases told with
      | cons first rest =>
          cases rest with
          | cons second rest =>
              cases first
              cases second with
              | ended _ _ elapsed _ =>
                  cases rest
                  exact ⟨elapsed, rfl⟩
  | none =>
      cases told with
      | cons first rest =>
          cases first
          cases rest
          exact ⟨0, rfl⟩

/-- When there is nothing left to be done, the call has come to what its executor does
    alone. -/
theorem Board.Alone.done {call : Call} {r : σ × Option Answer} {b : Board σ}
    (alone : Alone call r b) (idle : b.crashed = false → b.Idle) :
    b.world = r.1 ∧ (⟨b.happenings, b.crashed⟩ : Transcript) = .ofAttempt call 0 r.2 := by
  cases alone with
  | answered left | crashed left =>
      subst left
      exact ⟨rfl, rfl⟩
  | asked | paused | awake => cases (idle rfl).queue
  | cut => cases (idle rfl).cut
  | asleep => cases (idle rfl).sleeping

/-- Whoever makes a call without company, it does what its executor does alone. -/
theorem Worker.Schedules.alone {worker : Worker (Site σ) (Executor σ)} {cap : Nat}
    {inOrder : Prop} (schedules : worker.Schedules cap inOrder) (job : Job (Executor σ))
    (site : Site σ) :
    ∃ elapsed, worker [job] site =
      (⟨site.opened, (job.executor.attempt job.call site.world).1⟩,
        .ofAttempt job.call elapsed (job.executor.attempt job.call site.world).2) := by
  have start : Board.Alone job.call (job.executor.attempt job.call site.world)
      (.fresh [job] site.world) := .asked rfl rfl
  obtain ⟨b, moves, idle, same, told, crashed⟩ := schedules [job] site
  obtain ⟨world, done⟩ := (Board.moves_keep Board.Alone.move moves start).done idle
  rw [show b.happenings = _ from congrArg Transcript.happenings done] at told
  rw [show b.crashed = _ from congrArg Transcript.crashed done] at crashed
  obtain ⟨elapsed, happenings⟩ := Transcript.ofAttempt_of_sameButTime told
  refine ⟨elapsed, Prod.ext (world ▸ same) ?_⟩
  generalize worker [job] site = made at happenings crashed
  obtain ⟨_, happened, fell⟩ := made
  obtain rfl : happened = _ := happenings
  obtain rfl : fell = _ := crashed
  cases (job.executor.attempt job.call site.world).2 <;> rfl

/-- The first thing that happens to a call without company is that it begins. -/
theorem Worker.Schedules.begins {worker : Worker (Site σ) (Executor σ)} {cap : Nat}
    {inOrder : Prop} (schedules : worker.Schedules cap inOrder) (job : Job (Executor σ))
    (site : Site σ) :
    ∃ later, (worker [job] site).2.happenings = .started job.call :: later := by
  obtain ⟨elapsed, made⟩ := schedules.alone job site
  rw [made]
  cases (job.executor.attempt job.call site.world).2 <;> exact ⟨_, rfl⟩

end Superstep
