import Superstep.Proofs.Boards

/-! # Calls in turn

With one slot a call that has begun shares the world with nobody until it ends: all
others still wait or have not even asked. If calls are taken up in order they wait in
order, so they are made one after another, and what becomes of them does not depend on
how long they pause.
-/

namespace Superstep

variable {σ : Type}

/-- A call that is left alone from its next turn on: what becomes of the world and what
    is told, unless the call crashes. -/
def Turn.finish? : Turn σ → σ × List Happening → Option (σ × List Happening)
  | .ask job, (world, told) | .start job, (world, told) =>
      match job.executor.attempt job.call world with
      | (after, some answer) =>
          some (after, told ++ [.started job.call, .ended job.call answer 0])
      | (_, none) => none
  | .pause p, (world, told) | .wake p, (world, told) =>
      match (p.resume world).finish (p.effect world) with
      | (after, some answer) => some (after, told ++ [.ended p.call answer 0])
      | (_, none) => none

/-- Calls that are left alone one after another. -/
def inTurn : List (Turn σ) → σ × List Happening → Option (σ × List Happening)
  | [], s => some s
  | turn :: rest, s => (turn.finish? s).bind (inTurn rest)

theorem inTurn_start {job : Job (Executor σ)} {rest : List (Turn σ)} {world : σ}
    {told : List Happening} {r : σ × List Happening}
    (leads : inTurn (.start job :: rest) (world, told) = some r) :
    ∃ after answer, job.executor.attempt job.call world = (after, some answer) ∧
      inTurn rest (after, told ++ [.started job.call, .ended job.call answer 0]) = some r := by
  simp only [inTurn, Turn.finish?] at leads
  rcases made : job.executor.attempt job.call world with ⟨after, _ | answer⟩ <;>
    rw [made] at leads
  · cases leads
  · exact ⟨after, answer, rfl, leads⟩

theorem inTurn_wake {p : Pause σ} {rest : List (Turn σ)} {world : σ} {told : List Happening}
    {r : σ × List Happening} (leads : inTurn (.wake p :: rest) (world, told) = some r) :
    ∃ after answer, (p.resume world).finish (p.effect world) = (after, some answer) ∧
      inTurn rest (after, told ++ [.ended p.call answer 0]) = some r := by
  simp only [inTurn, Turn.finish?] at leads
  rcases made : (p.resume world).finish (p.effect world) with ⟨after, _ | answer⟩ <;>
    rw [made] at leads
  · cases leads
  · exact ⟨after, answer, rfl, leads⟩

namespace Board

/-- The calls that have a slot, with what they do in their next turns. -/
def holding (b : Board σ) : List (Turn σ) :=
  b.queue.filter Turn.hasSlot ++ b.cut.map .pause ++ b.sleeping.map fun s => .wake s.2

/-- The calls that still have to ask for a slot. -/
def asking (b : Board σ) : List (Job (Executor σ)) :=
  b.queue.filterMap fun
    | .ask job => some job
    | .start _ | .pause _ | .wake _ => none

/-- All calls that are still to end, in the order in which they get the slot. -/
def line (b : Board σ) : List (Turn σ) :=
  b.holding ++ (b.waiting ++ b.asking).map .start

/-- Only one call has a slot, and of all calls in turn `r` will come. -/
structure Lined (r : σ × List Happening) (b : Board σ) : Prop where
  calm : b.crashed = false
  taken : b.taken = b.holding.length
  one : b.holding.length ≤ 1
  free : b.holding = [] → b.waiting = []
  leads : inTurn b.line (b.world, b.happenings) = some r

variable {r : σ × List Happening} {b : Board σ} {call : Call}

theorem holding_eq_nil_iff :
    b.holding = [] ↔ b.queue.filter Turn.hasSlot = [] ∧ b.cut = [] ∧ b.sleeping = [] := by
  simp [holding]

theorem lined_free (none : b.holding = []) (calm : b.crashed = false) (taken : b.taken = 0)
    (nobody : b.waiting = [])
    (leads : inTurn (b.asking.map .start) (b.world, b.happenings) = some r) : Lined r b := by
  constructor
  case calm => exact calm
  case taken => rw [none, taken, List.length_nil]
  case one => simp [none]
  case free => exact fun _ => nobody
  case leads => rwa [line, none, nobody]

theorem lined_held (turn : Turn σ) (alone : b.holding = [turn]) (calm : b.crashed = false)
    (taken : b.taken = 1)
    (leads : inTurn (turn :: (b.waiting ++ b.asking).map .start) (b.world, b.happenings) =
      some r) : Lined r b := by
  constructor
  case calm => exact calm
  case taken => rw [alone, taken, List.length_singleton]
  case one => simp [alone]
  case free => simp [alone]
  case leads => rwa [line, alone]

/-- Whoever had the slot leaves it, and the next call in line gets it. -/
theorem lined_leave (none : b.holding = []) (calm : b.crashed = false) (taken : b.taken = 1)
    (leads : inTurn ((b.waiting ++ b.asking).map .start) (b.world, b.happenings) = some r) :
    Lined r b.leave := by
  obtain ⟨noTurns, noneCut, awake⟩ := holding_eq_nil_iff.1 none
  unfold Board.leave
  split
  next nobody =>
    rw [nobody] at leads
    exact lined_free none calm (by simp [taken]) nobody leads
  next job rest found =>
    rw [found] at leads
    refine lined_held (.start job) ?_ calm taken ?_
    · simp [holding, List.filter_append, noTurns, noneCut, awake, Turn.hasSlot]
    · simpa [asking, List.filterMap_append] using leads

theorem lined_goes {d : Board σ} {after : σ} {answer : Answer}
    (goes : Goes call (after, some answer) b d) (none : b.holding = []) (calm : b.crashed = false)
    (taken : b.taken = 1)
    (leads : inTurn ((b.waiting ++ b.asking).map .start)
      (after, b.happenings ++ [.ended call answer 0]) = some r) : Lined r d := by
  obtain ⟨noTurns, noneCut, awake⟩ := holding_eq_nil_iff.1 none
  have pausing {p : Pause σ} (own : p.call = call)
      (left : (p.resume b.world).finish (p.effect b.world) = (after, some answer)) :
      inTurn (.wake p :: (b.waiting ++ b.asking).map .start) (b.world, b.happenings) = some r := by
    simpa only [inTurn, Turn.finish?, left, own, Option.bind_some] using leads
  cases goes with
  | answered left =>
      cases left
      exact lined_leave none calm taken leads
  | crashed left => cases left
  | @cut p own left =>
      refine lined_held (.pause p) ?_ calm taken (pausing own left)
      simp [holding, noTurns, awake, noneCut]
  | @asleep p own left =>
      refine lined_held (.wake p) ?_ calm taken (pausing own left)
      simp [holding, sleep, noTurns, awake, noneCut]

theorem lined_goOn {n : Nat} (left : Nat) (conduct : Conduct σ n) (none : b.holding = [])
    (calm : b.crashed = false) (taken : b.taken = 1) {after : σ} {answer : Answer}
    (ends : conduct.finish b.world = (after, some answer))
    (leads : inTurn ((b.waiting ++ b.asking).map .start)
      (after, b.happenings ++ [.ended call answer 0]) = some r) :
    Lined r (goOn call left conduct b) := by
  obtain ⟨_, goes⟩ := goes_goOn call left conduct b
  rw [ends] at goes
  exact lined_goes goes none calm taken leads

theorem lined_start {job : Job (Executor σ)} (left : Nat) (none : b.holding = [])
    (calm : b.crashed = false) (taken : b.taken = 1)
    (leads : inTurn ((job :: (b.waiting ++ b.asking)).map .start) (b.world, b.happenings) =
      some r) : Lined r (b.start left job) := by
  obtain ⟨after, answer, made, rest⟩ := inTurn_start leads
  have joined : (b.happenings ++ [.started job.call]) ++ [.ended job.call answer 0] =
      b.happenings ++ [.started job.call, .ended job.call answer 0] := by simp
  rw [← joined] at rest
  exact lined_goOn left _ none calm taken made rest

theorem lined_wake {p : Pause σ} (none : b.holding = []) (calm : b.crashed = false)
    (taken : b.taken = 1)
    (leads : inTurn (.wake p :: (b.waiting ++ b.asking).map .start) (b.world, b.happenings) =
      some r) : Lined r (b.wake p) := by
  obtain ⟨after, answer, made, rest⟩ := inTurn_wake leads
  exact lined_goOn _ _ none calm taken made rest

/-- The one call that has the slot makes its turn. -/
theorem Lined.take_held {turn : Turn σ} {before after : List (Turn σ)}
    (queued : b.queue = before ++ turn :: after) (slot : turn.hasSlot = true)
    (lined : Lined r b) : Lined r ({ b with queue := before ++ after }.take 1 turn) := by
  obtain ⟨calm, taken, one, _, leads⟩ := lined
  have held : b.holding = before.filter Turn.hasSlot ++ turn :: (after.filter Turn.hasSlot ++
      b.cut.map .pause ++ b.sleeping.map fun s => .wake s.2) := by
    simp [holding, queued, List.filter_append, slot]
  rw [held] at one
  simp only [List.length_append, List.length_cons, List.length_map] at one
  have early := List.eq_nil_of_length_eq_zero (l := before.filter Turn.hasSlot) (by omega)
  have late := List.eq_nil_of_length_eq_zero (l := after.filter Turn.hasSlot) (by omega)
  have noneCut := List.eq_nil_of_length_eq_zero (l := b.cut) (by omega)
  have awake := List.eq_nil_of_length_eq_zero (l := b.sleeping) (by omega)
  have alone : b.holding = [turn] := by
    rw [held, early, late, noneCut, awake]
    rfl
  have none : holding { b with queue := before ++ after } = [] := by
    rw [holding_eq_nil_iff]
    exact ⟨by rw [List.filter_append, early, late, List.nil_append], noneCut, awake⟩
  have others : b.asking = asking { b with queue := before ++ after } := by
    cases turn with
    | ask job => cases slot
    | start | pause | wake => simp [asking, queued, List.filterMap_append]
  rw [alone] at taken
  rw [line, alone, others] at leads
  cases turn with
  | ask job => cases slot
  | start job => exact lined_start _ none calm taken leads
  | pause p =>
      simp only [take]
      split
      next => exact lined_wake none calm taken leads
      next =>
        refine lined_held (.wake p) ?_ calm taken leads
        simp [holding, sleep, List.filter_append, early, late, noneCut, awake]
  | wake p => exact lined_wake none calm taken leads

/-- A call asks for the slot that is next in line. -/
theorem Lined.take_ask {job : Job (Executor σ)} {before after : List (Turn σ)}
    (queued : b.queue = before ++ .ask job :: after) (first : ∀ other, .ask other ∉ before)
    (lined : Lined r b) : Lined r ({ b with queue := before ++ after }.take 1 (.ask job)) := by
  obtain ⟨calm, taken, one, free, leads⟩ := lined
  have held : holding { b with queue := before ++ after } = b.holding := by
    simp [holding, queued, List.filter_append, Turn.hasSlot]
  have asked : b.asking = job :: asking { b with queue := before ++ after } := by
    have none : (before.filterMap fun
        | .ask job => some job
        | .start _ | .pause _ | .wake _ => none) = [] := by
      rw [List.filterMap_eq_nil_iff]
      intro turn among
      cases turn with
      | ask other => exact absurd among (first other)
      | start | pause | wake => rfl
    simp [asking, queued, List.filterMap_append, none]
  simp only [take, Nat.one_ne_zero, if_false]
  split
  next room =>
    have idle : b.taken = 0 := Nat.lt_one_iff.1 room
    have none : b.holding = [] := List.eq_nil_of_length_eq_zero (taken.symm.trans idle)
    rw [line, none, asked, free none] at leads
    refine lined_start _ (held.trans none) calm (congrArg (· + 1) idle) ?_
    rw [free none]
    exact leads
  next noRoom =>
    rw [line, asked] at leads
    refine ⟨calm, taken.trans (congrArg List.length held.symm), held.symm ▸ one, ?_, ?_⟩
    · intro none
      have none : b.holding = [] := held.symm.trans none
      rw [none] at taken
      exact absurd (Nat.lt_one_iff.2 taken) noRoom
    · have last : holding { b with
          queue := before ++ after, waiting := b.waiting ++ [job] } = b.holding := held
      rw [line, last, List.append_assoc]
      exact leads

/-- A list of at most one element has no other order. -/
theorem eq_of_perm_of_few {α : Type} {items others : List α} (perm : items.Perm others)
    (few : others.length ≤ 1) : items = others := by
  match others, few with
  | [], _ => exact perm.eq_nil
  | [a], _ => exact List.perm_singleton.1 perm

/-- The calls that have a slot and those that still ask for one may stand in other
    places of the board. -/
theorem Lined.shifted {d : Board σ} (lined : Lined r b) (held : d.holding = b.holding)
    (asked : d.asking = b.asking) (waiting : d.waiting = b.waiting) (world : d.world = b.world)
    (taken : d.taken = b.taken) (told : d.happenings = b.happenings)
    (crashed : d.crashed = b.crashed) : Lined r d := by
  constructor
  case calm => rw [crashed, lined.calm]
  case taken => rw [taken, held, lined.taken]
  case one => rw [held]; exact lined.one
  case free => rw [held, waiting]; exact lined.free
  case leads => rw [line, held, asked, waiting, world, told]; exact lined.leads

theorem Lined.move {d : Board σ} (move : Move 1 True b d) (lined : Lined r b) : Lined r d := by
  cases move with
  | turn queued first =>
      rename_i turn _ _
      cases turn with
      | ask job => exact lined.take_ask queued fun other => first trivial job rfl other
      | start | pause | wake => exact lined.take_held queued rfl
  | resume =>
      refine lined.shifted ?_ ?_ rfl rfl rfl rfl rfl
      · simp [holding, List.filter_append, List.filter_map, Function.comp_def, Turn.hasSlot]
      · simp [asking, List.filterMap_append]
  | wake now due =>
      have woken := (List.filter_append_perm due b.sleeping).map fun s => Turn.wake s.2
      refine lined.shifted (eq_of_perm_of_few ?_ lined.one) ?_ rfl rfl rfl rfl rfl
      · refine .trans ?_ (woken.append_left (b.queue.filter Turn.hasSlot ++ b.cut.map .pause))
        simp only [holding, List.filter_append, List.filter_map, Function.comp_def, Turn.hasSlot,
          List.filter_true, List.map_append, List.append_assoc]
        exact (List.perm_append_comm_assoc ..).append_left _
      · simp [asking, List.filterMap_append]

theorem lined_fresh {jobs : List (Job (Executor σ))} {world : σ}
    (leads : inTurn (jobs.map .start) (world, []) = some r) : Lined r (fresh jobs world) := by
  have asked : asking (fresh jobs world) = jobs := by
    simp [asking, fresh, List.filterMap_map]
  refine lined_free ?_ rfl rfl rfl (asked.symm ▸ leads)
  simp [holding, fresh, List.filter_map, Function.comp_def, Turn.hasSlot]

theorem Lined.eq_of_idle (lined : Lined r b) (idle : b.Idle) : (b.world, b.happenings) = r := by
  obtain ⟨noTurns, noneCut, awake⟩ := idle
  have none : b.holding = [] := by simp [holding, noTurns, noneCut, awake]
  have nothing : b.line = [] := by simp [line, none, lined.free none, asking, noTurns]
  have leads := lined.leads
  rw [nothing] at leads
  exact Option.some.inj leads

end Board

/-- With one slot that is given to calls in order, the calls of a step are made one after
    another, if none of them crashes. -/
theorem Worker.Schedules.inTurn {worker : Worker (Site σ) (Executor σ)}
    (schedules : worker.Schedules 1 True) {jobs : List (Job (Executor σ))} {site : Site σ}
    {world : σ} {told : List Happening}
    (leads : Superstep.inTurn (jobs.map .start) (site.world, []) = some (world, told)) :
    (worker jobs site).1 = ⟨site.opened, world⟩ ∧
      List.Forall₂ Happening.SameButTime (worker jobs site).2.happenings told ∧
      (worker jobs site).2.crashed = false := by
  obtain ⟨b, moves, idle, left, same, crashed⟩ := schedules jobs site
  have lined := Board.moves_keep Board.Lined.move moves (Board.lined_fresh leads)
  cases lined.eq_of_idle (idle lined.calm)
  exact ⟨left, same, crashed.trans lined.calm⟩

end Superstep
