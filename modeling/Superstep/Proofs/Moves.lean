import Mathlib.Data.List.Forall2
import Mathlib.Logic.Relation
import Superstep.Executor.Schedule

/-! # Moves on boards

What can happen on a board, whatever the clock shows and in whatever order its calls
take turns: a call makes a turn, calls whose turn was cut short take turns again, or
pauses end. The rounds of the scheduler are made of such moves, and so are the steps of
every worker that lets calls run side by side.
-/

namespace Superstep

variable {σ : Type}

namespace Board

/-- One thing that happens on a board. If calls are taken up in order, none asks for a
    slot before those ahead of it. -/
inductive Move (cap : Nat) (inOrder : Prop) : Board σ → Board σ → Prop where
  | turn {b : Board σ} {turn : Turn σ} {before after : List (Turn σ)}
      (queued : b.queue = before ++ turn :: after)
      (first : inOrder → ∀ job, turn = .ask job → ∀ other, .ask other ∉ before) :
      Move cap inOrder b ({ b with queue := before ++ after }.take cap turn)
  | resume (b : Board σ) :
      Move cap inOrder b { b with queue := b.queue ++ b.cut.map .pause, cut := [] }
  | wake (b : Board σ) (now : Nat) (due : Nat × Pause σ → Bool) :
      Move cap inOrder b
        { b with
          now := now
          queue := b.queue ++ (b.sleeping.filter due).map fun s => .wake s.2
          sleeping := b.sleeping.filter fun s => !due s }

/-- Nothing is left to be done by calls that have a slot or can ask for one. -/
structure Idle (b : Board σ) : Prop where
  queue : b.queue = []
  cut : b.cut = []
  sleeping : b.sleeping = []

/-- What becomes of a board on which a call goes on, of which `r` will come if it is left
    alone: the call ends, or comes to a pause with all that it still has to do. -/
inductive Goes (call : Call) (r : σ × Option Answer) (b : Board σ) : Board σ → Prop where
  | answered {answer : Answer} (left : (b.world, some answer) = r) :
      Goes call r b (b.note (.ended call answer 0)).leave
  | crashed (left : (b.world, none) = r) : Goes call r b { b with crashed := true }.leave
  | cut {p : Pause σ} (own : p.call = call)
      (left : (p.resume b.world).finish (p.effect b.world) = r) :
      Goes call r b { b with cut := p :: b.cut }
  | asleep {p : Pause σ} (own : p.call = call)
      (left : (p.resume b.world).finish (p.effect b.world) = r) : Goes call r b (b.sleep p)

/-- On its way a call may change the world, at the ends of pauses that take no time. -/
theorem goes_goOn (call : Call) {n : Nat} (allowed : Nat) (conduct : Conduct σ n) (b : Board σ) :
    ∃ world, Goes call (conduct.finish b.world) { b with world := world }
      (goOn call allowed conduct b) := by
  induction conduct generalizing allowed b with
  | answer result =>
      rw [goOn]
      exact ⟨b.world, .answered rfl⟩
  | crash =>
      rw [goOn]
      exact ⟨b.world, .crashed rfl⟩
  | wait ms effect resume fewer ih =>
      rw [goOn]
      split
      next => exact ⟨b.world, .cut (p := ⟨call, ms, _, effect, resume⟩) rfl rfl⟩
      next =>
        split
        next => exact ih b.world (allowed - 1) { b with world := effect b.world }
        next => exact ⟨b.world, .asleep (p := ⟨call, ms, _, effect, resume⟩) rfl rfl⟩

variable {cap : Nat} {inOrder : Prop} {b : Board σ}

/-- What every move keeps is kept by any number of moves. -/
theorem moves_keep {P : Board σ → Prop} (keeps : ∀ {b d}, Move cap inOrder b d → P b → P d)
    {d : Board σ} (moves : Relation.ReflTransGen (Move cap inOrder) b d) (start : P b) : P d := by
  induction moves with
  | refl => exact start
  | tail _ move ih => exact keeps move ih

theorem moves_makeTurns (count : Nat) (b : Board σ) :
    Relation.ReflTransGen (Move cap inOrder) b (makeTurns cap count b) := by
  induction count generalizing b with
  | zero => exact .refl
  | succ count ih =>
      rw [makeTurns]
      split
      next => exact .refl
      next turn rest found =>
        have made : Move cap inOrder b ({ b with queue := [] ++ rest }.take cap turn) :=
          .turn found fun _ _ _ _ => List.not_mem_nil
        exact (ih _).head made

theorem move_renew (b : Board σ) : Relation.ReflGen (Move cap inOrder) b b.renew := by
  unfold renew
  split
  next idle =>
    obtain ⟨noTurns, _⟩ : b.queue = [] ∧ b.cut = [] := by simpa using idle
    split
    next => exact .refl
    next due _ =>
      have woken : Move cap inOrder b _ := .wake b due (·.1 == due)
      rw [noTurns] at woken
      exact .single woken
  next => exact .single (.resume b)

theorem nextDue_eq_none {sleeping : List (Nat × Pause σ)} (none : nextDue sleeping = none) :
    sleeping = [] := by
  cases sleeping with
  | nil => rfl
  | cons first rest =>
      unfold nextDue at none
      split at none <;> cases none

theorem exists_nextDue {sleeping : List (Nat × Pause σ)} {due : Nat}
    (found : nextDue sleeping = some due) : ∃ s ∈ sleeping, s.1 = due := by
  induction sleeping generalizing due with
  | nil => cases found
  | cons first rest ih =>
      unfold nextDue at found
      split at found
      next => exact ⟨first, List.mem_cons_self, Option.some.inj found⟩
      next other later =>
        obtain ⟨s, among, same⟩ := ih later
        rcases Nat.le_total first.1 other with earlier | earlier
        · rw [Nat.min_eq_left earlier] at found
          exact ⟨first, List.mem_cons_self, Option.some.inj found⟩
        · rw [Nat.min_eq_right earlier] at found
          exact ⟨s, List.mem_cons_of_mem _ among, same.trans (Option.some.inj found)⟩

/-- If there is no turn after getting ready, nobody sleeps or was cut short. -/
theorem idle_renew (none : b.renew.queue = []) : b.renew.Idle := by
  unfold renew at none ⊢
  split at none
  next idle =>
    obtain ⟨_, noneCut⟩ : b.queue = [] ∧ b.cut = [] := by simpa using idle
    rw [if_pos idle]
    split at none
    next asleep => exact ⟨none, noneCut, nextDue_eq_none asleep⟩
    next due found =>
      obtain ⟨s, among, same⟩ := exists_nextDue found
      rw [List.map_eq_nil_iff, List.filter_eq_nil_iff] at none
      exact absurd (beq_iff_eq.2 same) (none s among)
  next busy =>
    rw [List.append_eq_nil_iff, List.map_eq_nil_iff] at none
    simp [none.1, none.2] at busy

theorem runAll_of_crashed (crashed : b.crashed = true) : runAll cap b = b := by
  rw [Board.runAll, if_pos crashed]

theorem runAll_of_idle (calm : ¬ b.crashed = true) (none : b.renew.queue = []) :
    runAll cap b = b.renew := by
  rw [Board.runAll, if_neg calm]
  split
  next => rfl
  next found => rw [none] at found; cases found

theorem runAll_of_busy (calm : ¬ b.crashed = true) {turn : Turn σ} {rest : List (Turn σ)}
    (found : b.renew.queue = turn :: rest) :
    runAll cap b = runAll cap (makeTurns cap roundLength b.renew) := by
  rw [Board.runAll, if_neg calm]
  split
  next none => rw [none] at found; cases found
  next => rfl

/-- The rounds of the scheduler are moves, which go on until there is nothing left to be
    done or a call has crashed. -/
theorem moves_runAll (cap : Nat) (inOrder : Prop) (b : Board σ) :
    Relation.ReflTransGen (Move cap inOrder) b (runAll cap b) ∧
      ((runAll cap b).crashed = false → (runAll cap b).Idle) := by
  induction b using Board.runAll.induct cap with
  | case1 b crashed =>
      rw [runAll_of_crashed crashed]
      exact ⟨.refl, fun calm => by rw [crashed] at calm; cases calm⟩
  | case2 b calm none =>
      rw [runAll_of_idle calm none]
      exact ⟨(move_renew b).to_reflTransGen, fun _ => idle_renew none⟩
  | case3 b calm turn rest found ih =>
      rw [runAll_of_busy calm found]
      refine ⟨?_, ih.2⟩
      exact (move_renew b).to_reflTransGen.trans ((moves_makeTurns _ _).trans ih.1)

end Board

/-- Two happenings that differ in nothing but the time that a call took. -/
inductive Happening.SameButTime : Happening → Happening → Prop where
  | started (call : Call) : SameButTime (.started call) (.started call)
  | ended (call : Call) (answer : Answer) (elapsed elapsed' : Nat) :
      SameButTime (.ended call answer elapsed) (.ended call answer elapsed')

theorem Happening.SameButTime.refl (x : Happening) : x.SameButTime x := by
  cases x with
  | started call => exact .started call
  | ended call answer elapsed => exact .ended call answer elapsed elapsed

/-- A worker makes the calls of a step by moves, until nothing is left to be done or one
    of them has crashed. How long a call takes is left to the worker. -/
def Worker.Schedules (worker : Worker (Site σ) (Executor σ)) (cap : Nat) (inOrder : Prop) :
    Prop :=
  ∀ jobs site, ∃ b : Board σ,
    Relation.ReflTransGen (Board.Move cap inOrder) (.fresh jobs site.world) b ∧
    (b.crashed = false → b.Idle) ∧ (worker jobs site).1 = ⟨site.opened, b.world⟩ ∧
    List.Forall₂ Happening.SameButTime (worker jobs site).2.happenings b.happenings ∧
    (worker jobs site).2.crashed = b.crashed

/-- The scheduler works by moves, and takes up calls in order. -/
theorem Pool.worker_schedules (cap : Nat) (inOrder : Prop) :
    (Pool.worker (σ := σ) cap).Schedules cap inOrder := by
  intro jobs site
  obtain ⟨moves, idle⟩ := Board.moves_runAll cap inOrder (.fresh jobs site.world)
  exact ⟨_, moves, idle, rfl, List.forall₂_same.2 fun x _ => .refl x, rfl⟩

/-- The engine that finds executors in a pool and has a worker make their calls. -/
def Pool.engineWith (p : Pool σ) (settings : EngineSettings)
    (worker : Worker (Site σ) (Executor σ)) : Engine (Site σ) (Executor σ) :=
  { p.engine settings with worker := worker }

end Superstep
