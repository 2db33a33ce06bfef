import Superstep.Proofs.Promises
import Superstep.Proofs.Sequential
import Superstep.Proofs.Transcripts

/-! # Calls begin once

A call begins in the turn in which it gets its slot, and from then on it is on
the board only as one that has begun. So the scheduler begins no call twice, and
whatever ends has begun before: the scheduler is an orderly worker.
-/

namespace Superstep

variable {σ : Type}

def Turn.hasBegun : Turn σ → Bool
  | .ask _ | .start _ => false
  | .pause _ | .wake _ => true

theorem Timely.append {happenings : List Happening} (timely : Timely happenings) {x : Happening}
    (begun : ∀ y ∈ x.ending?, y.call ∈ beginnings happenings) : Timely (happenings ++ [x]) := by
  intro told part y ended
  rcases List.prefix_concat_iff.1 part with rfl | earlier
  · rw [endings_append, List.mem_append] at ended
    rw [beginnings_append]
    apply List.mem_append_left
    rcases ended with old | new
    · exact timely happenings (List.prefix_refl _) y old
    · obtain ⟨_, only, found⟩ := List.mem_filterMap.1 new
      rw [List.mem_singleton.1 only] at found
      exact begun y found
  · exact timely told earlier y ended

theorem Timely.cons_visit {happenings : List Happening} (timely : Timely happenings) (call : Call)
    (answer : Answer) (elapsed : Nat) :
    Timely (.started call :: .ended call answer elapsed :: happenings) := by
  intro told part x ended
  rcases List.prefix_cons_iff.1 part with rfl | ⟨more, rfl, after⟩
  · cases ended
  · rcases List.prefix_cons_iff.1 after with rfl | ⟨told, rfl, rest⟩
    · cases ended
    · rcases List.mem_cons.1 ended with rfl | later
      · exact List.mem_cons_self
      · exact List.mem_cons_of_mem _ (timely told rest x later)

namespace Board

/-- The calls on the board that have not begun. -/
def unbegun (b : Board σ) : List Call :=
  (b.queue.filter fun turn => !turn.hasBegun).map Turn.call ++ b.waiting.map Job.call

/-- The calls on the board that have begun. -/
def goingOn (b : Board σ) : List Call :=
  (b.queue.filter Turn.hasBegun).map Turn.call ++ b.cut.map Pause.call ++
    b.sleeping.map fun s => s.2.call

/-- The beginnings on a board. The call of a turn may be off the board, as one that
    is still to begin. -/
structure Order (calls taken : List Call) (b : Board σ) : Prop where
  begun : (beginnings b.happenings ++ (taken ++ b.unbegun)).Perm calls
  goingOn : ∀ call ∈ b.goingOn, call ∈ beginnings b.happenings
  timely : Timely b.happenings

variable {cap : Nat} {calls taken : List Call} {call : Call} {b : Board σ}

theorem Order.leave (order : Order calls taken b) : Order calls taken b.leave := by
  obtain ⟨begun, goingOn, timely⟩ := order
  unfold Board.leave
  split
  next => exact ⟨begun, goingOn, timely⟩
  next job rest found =>
    refine ⟨.trans ?_ begun, ?_, timely⟩
    · rw [List.perm_iff_count]
      intro c
      simp only [unbegun, found, List.filter_append, Turn.hasBegun, List.filter_cons,
        Bool.not_false, if_true, List.filter_nil, List.map_append, List.map_cons, List.map_nil,
        List.count_append, List.count_cons, List.count_nil, Turn.call]
      omega
    · simpa [Board.goingOn, List.filter_append, Turn.hasBegun] using goingOn

theorem Order.ended (order : Order calls taken b) (known : call ∈ beginnings b.happenings)
    (answer : Answer) (elapsed : Nat) :
    Order calls taken (b.note (.ended call answer elapsed)) := by
  obtain ⟨begun, goingOn, timely⟩ := order
  have same : beginnings (b.note (.ended call answer elapsed)).happenings =
      beginnings b.happenings := by
    simp [note, beginnings, Happening.beginning?]
  refine ⟨same ▸ begun, same ▸ goingOn, timely.append ?_⟩
  intro y found
  cases found
  exact known

theorem Order.started (order : Order calls (call :: taken) b) :
    Order calls taken (b.note (.started call)) ∧
      call ∈ beginnings (b.note (.started call)).happenings := by
  obtain ⟨begun, goingOn, timely⟩ := order
  have more : beginnings (b.note (.started call)).happenings =
      beginnings b.happenings ++ [call] :=
    beginnings_append _ _
  refine ⟨⟨.trans ?_ begun, ?_, timely.append ?_⟩, by simp [more]⟩
  · rw [more, List.append_assoc]
    exact .refl _
  · intro c member
    rw [more]
    exact List.mem_append_left _ (goingOn c member)
  · intro y found
    cases found

theorem Order.sleep (order : Order calls taken b) {p : Pause σ}
    (known : p.call ∈ beginnings b.happenings) : Order calls taken (b.sleep p) := by
  obtain ⟨begun, goingOn, timely⟩ := order
  refine ⟨begun, ?_, timely⟩
  intro c member
  have split : c ∈ b.goingOn ∨ c = p.call := by
    simpa [Board.goingOn, Board.sleep, or_assoc] using member
  rcases split with old | rfl
  · exact goingOn c old
  · exact known

theorem Order.cutShort (order : Order calls taken b) {p : Pause σ}
    (known : p.call ∈ beginnings b.happenings) :
    Order calls taken { b with cut := p :: b.cut } := by
  obtain ⟨begun, goingOn, timely⟩ := order
  refine ⟨begun, ?_, timely⟩
  intro c member
  have split : c = p.call ∨ c ∈ b.goingOn := by
    simpa [Board.goingOn, or_assoc, or_left_comm] using member
  rcases split with rfl | old
  · exact known
  · exact goingOn c old

theorem Order.goes {d : Board σ} {r : σ × Option Answer} (goes : Goes call r b d)
    (order : Order calls taken b) (known : call ∈ beginnings b.happenings) :
    Order calls taken d := by
  cases goes with
  | answered => exact (order.ended known _ 0).leave
  | crashed => exact Order.leave ⟨order.begun, order.goingOn, order.timely⟩
  | cut own =>
      subst own
      exact order.cutShort known
  | asleep own =>
      subst own
      exact order.sleep known

theorem Order.goOn {n : Nat} (left : Nat) (conduct : Conduct σ n) (order : Order calls taken b)
    (known : call ∈ beginnings b.happenings) : Order calls taken (goOn call left conduct b) := by
  obtain ⟨_, goes⟩ := goes_goOn call left conduct b
  exact Order.goes goes ⟨order.begun, order.goingOn, order.timely⟩ known

theorem Order.start {job : Job (Executor σ)} (left : Nat)
    (order : Order calls (job.call :: taken) b) : Order calls taken (b.start left job) := by
  unfold Board.start
  have here : Order calls (job.call :: taken)
      { b with world := (job.executor.execute job.call b.world).1 } :=
    ⟨order.begun, order.goingOn, order.timely⟩
  exact here.started.1.goOn _ _ here.started.2

theorem Order.wake {p : Pause σ} (order : Order calls taken b)
    (known : p.call ∈ beginnings b.happenings) : Order calls taken (b.wake p) := by
  unfold Board.wake
  apply Order.goOn
  · exact ⟨order.begun, order.goingOn, order.timely⟩
  · exact known

theorem Order.take {turn : Turn σ}
    (order : Order calls (if turn.hasBegun then [] else [turn.call]) b)
    (known : turn.hasBegun = true → turn.call ∈ beginnings b.happenings) :
    Order calls [] (b.take cap turn) := by
  cases turn with
  | ask job =>
      have order : Order calls [job.call] b := order
      simp only [Board.take]
      split
      next => exact order.start _
      next =>
        split
        next => exact Order.start _ ⟨order.begun, order.goingOn, order.timely⟩
        -- Without a slot the call has not begun, and goes from the queue to those that wait.
        next =>
          obtain ⟨begun, goingOn, timely⟩ := order
          refine ⟨.trans ?_ begun, goingOn, timely⟩
          rw [List.perm_iff_count]
          intro c
          simp only [unbegun, List.map_append, List.map_cons, List.map_nil, List.count_append,
            List.count_cons, List.count_nil]
          omega
  | start job => exact Order.start _ order
  | pause p =>
      simp only [Board.take]
      split
      · exact Order.wake order (known rfl)
      · exact Order.sleep order (known rfl)
  | wake p => exact Order.wake order (known rfl)

/-- The beginnings while a turn is made that was taken from the queue. -/
theorem Order.enter {turn : Turn σ} {before after : List (Turn σ)}
    (queued : b.queue = before ++ turn :: after) (order : Order calls [] b) :
    Order calls (if turn.hasBegun then [] else [turn.call]) { b with queue := before ++ after } ∧
      (turn.hasBegun = true → turn.call ∈ beginnings b.happenings) := by
  obtain ⟨begun, goingOn, timely⟩ := order
  refine ⟨⟨.trans ?_ begun, fun c member => goingOn c ?_, timely⟩, fun fresh => goingOn _ ?_⟩
  · rw [List.perm_iff_count]
    intro c
    cases fresh : turn.hasBegun with
    | true => simp [unbegun, queued, List.filter_append, fresh]
    | false =>
        simp only [unbegun, queued, List.filter_append, List.filter_cons, fresh, Bool.not_false,
          if_true, Bool.false_eq_true, if_false, List.map_append, List.map_cons,
          List.count_append, List.count_cons, List.count_nil]
        omega
  · cases fresh : turn.hasBegun <;>
      simp only [Board.goingOn, queued, List.filter_append, List.filter_cons, fresh, if_true,
        Bool.false_eq_true, if_false, List.map_append, List.map_cons, List.mem_append,
        List.mem_cons] at member ⊢ <;> tauto
  · simp [Board.goingOn, queued, fresh]

theorem Order.move {d : Board σ} {inOrder : Prop} (move : Move cap inOrder b d)
    (order : Order calls [] b) : Order calls [] d := by
  cases move with
  | turn queued _ =>
      obtain ⟨inside, known⟩ := order.enter queued
      exact inside.take known
  | resume =>
      obtain ⟨begun, goingOn, timely⟩ := order
      refine ⟨?_, fun c member => goingOn c ?_, timely⟩
      · simpa [unbegun, List.filter_append, List.filter_map, Function.comp_def, Turn.hasBegun]
          using begun
      · simpa [Board.goingOn, List.filter_append, List.filter_map, Function.comp_def,
          Turn.hasBegun, Turn.call] using member
  | wake now due =>
      obtain ⟨begun, goingOn, timely⟩ := order
      refine ⟨?_, fun c member => goingOn c ?_, timely⟩
      · simpa [unbegun, List.filter_append, List.filter_map, Function.comp_def, Turn.hasBegun]
          using begun
      · have both := (List.filter_append_perm due b.sleeping).map fun s => s.2.call
        refine List.Perm.mem_iff ?_ |>.1 member
        rw [List.perm_iff_count] at both ⊢
        intro c
        have := both c
        simp only [Board.goingOn, List.filter_append, List.filter_map, Function.comp_def,
          Turn.hasBegun, Turn.call, List.filter_true, List.map_append, List.map_map,
          List.count_append] at this ⊢
        omega

theorem order_fresh (jobs : List (Job (Executor σ))) (world : σ) :
    Order (jobs.map Job.call) [] (fresh jobs world) := by
  refine ⟨?_, ?_, ?_⟩
  · simp [unbegun, fresh, beginnings, List.filter_map, Function.comp_def, Turn.hasBegun, Turn.call]
  · simp [Board.goingOn, fresh, List.filter_map, Function.comp_def, Turn.hasBegun]
  · intro told part x ended
    rw [List.prefix_nil.1 part] at ended
    cases ended

end Board

theorem Happening.SameButTime.beginnings {told told' : List Happening}
    (same : List.Forall₂ Happening.SameButTime told told') :
    Superstep.beginnings told = Superstep.beginnings told' := by
  induction same with
  | nil => rfl
  | cons head _ ih =>
      cases head with
      | started => exact congrArg (_ :: ·) ih
      | ended => exact ih

/-- A worker that works by moves begins every call at most once, and before it ends. -/
theorem Worker.Schedules.orderly {worker : Worker (Site σ) (Executor σ)} {cap : Nat}
    {inOrder : Prop} (schedules : worker.Schedules cap inOrder) : worker.Orderly := by
  constructor
  case begun =>
    intro jobs site
    obtain ⟨b, moves, _, _, same, _⟩ := schedules jobs site
    rw [Happening.SameButTime.beginnings same]
    exact ⟨_, (Board.moves_keep Board.Order.move moves (Board.order_fresh jobs site.world)).begun⟩
  case timely =>
    intro jobs site told part x ended
    obtain ⟨b, moves, _, _, same, _⟩ := schedules jobs site
    have shorter := List.forall₂_take told.length same
    rw [← List.prefix_iff_eq_take.1 part] at shorter
    have listed := List.mem_map_of_mem (f := Ending.call) ended
    rw [Happening.SameButTime.calls shorter] at listed
    obtain ⟨y, among, call⟩ := List.mem_map.1 listed
    rw [← call, Happening.SameButTime.beginnings shorter]
    have order := Board.moves_keep Board.Order.move moves (Board.order_fresh jobs site.world)
    exact order.timely _ (List.take_prefix _ _) y among

theorem Pool.worker_orderly (cap : Nat) : (Pool.worker (σ := σ) cap).Orderly :=
  (Pool.worker_schedules cap True).orderly

/-- Calls that are made one by one begin once, and before they end. -/
theorem Worker.oneByOne_orderly {order : List (Job (Call → Answer)) → List (Job (Call → Answer))}
    (shuffles : ∀ jobs, (order jobs).Perm jobs) : (oneByOne order).Orderly := by
  constructor
  case begun =>
    intro jobs t
    have all : beginnings (oneByOne order jobs t).2.happenings = (order jobs).map Job.call := by
      unfold oneByOne beginnings
      induction order jobs with
      | nil => rfl
      | cons job rest ih =>
          simp only [List.flatMap_cons, List.filterMap_append, ih]
          rfl
    refine ⟨[], ?_⟩
    rw [all, List.append_nil]
    exact (shuffles jobs).map _
  case timely =>
    intro jobs t
    unfold oneByOne
    induction order jobs with
    | nil =>
        intro told part x ended
        rw [List.prefix_nil.1 part] at ended
        cases ended
    | cons job rest ih => exact ih.cons_visit _ _ _

/-! ## The diamond in a pool -/

namespace Diamond

/-- The executor of the diamond, which takes longer for one node than for the others. -/
def hand : Executor Unit where
  name := "work"
  openSession world := (world, .ok ())
  waits := 1
  execute call world :=
    (world, .wait (if call.nodeId = "b" then 20 else 10) id
      (fun _ => .answer (answer call.nodeId call.attempt call.instruction)) Nat.zero_lt_one)

def pool : Pool Unit :=
  (Pool.empty.register "work" hand).withDefault "work"

/-- An engine for the diamond that makes one call at a time. -/
def pooled : Engine (Site Unit) (Executor Unit) :=
  pool.engine { maxConcurrency := 1 }

theorem provider?_pool (taskType : String) : pool.provider? taskType = some ("work", hand) := by
  by_cases same : taskType = "work"
  · subst same
    rfl
  · have unknown : pool.get? taskType = none := by
      simp [pool, Pool.get?, Pool.withDefault, Pool.register, Pool.empty, same]
    unfold Pool.provider?
    rw [unknown]
    rfl

theorem openSessions_pool (taskTypes : List String) (site : Site Unit) :
    (pool.openSessions taskTypes site).2 = .ok () :=
  Pool.openSessions_ok (fun taskType _ => ⟨_, _, provider?_pool taskType, fun _ => rfl⟩) site

theorem resolve_pool (taskType : String) : pool.resolve taskType = .ok hand := by
  simp only [Pool.resolve, provider?_pool]

/-- The sessions of the diamond do not crash. -/
theorem sessionsCrash_pool (taskTypes : List String) (site : Site Unit) :
    pool.sessionsCrash taskTypes site = none := by
  refine Pool.sessionsCrash_eq_none (fun taskType _ e resolved _ => ?_) site
  rw [resolve_pool] at resolved
  obtain rfl := Except.ok.inj resolved
  rfl

theorem pooled_ready : pooled.Ready flow ⟨[], ()⟩ where
  valid := (ready id).valid
  resolved n _ := ⟨hand, resolve_pool n.taskType⟩
  opened g _ := openSessions_pool g.taskTypes ⟨[], ()⟩
  calm g _ := sessionsCrash_pool g.taskTypes ⟨[], ()⟩

end Diamond

end Superstep
