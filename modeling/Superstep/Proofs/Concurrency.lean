import Superstep.Proofs.Promises
import Superstep.Proofs.Traces

/-! # The cap on running calls

A call that has begun and not ended holds a slot, and no more slots are taken than the
cap allows. So at no point of a run have more nodes started than ended by more than the
cap, as long as no call crashes and leaves its slot without an end. The cap costs
nothing either: a step ends only when every active node has been executed.
-/

namespace Superstep

variable {σ : Type}

namespace Board

/-- Not more calls have ever been running than the cap allows, nor are now. -/
structure Capped (cap : Nat) (b : Board σ) : Prop where
  taken : b.taken ≤ cap
  running : b.crashed = false → ∀ told, told <+: b.happenings →
    (beginnings told).length ≤ (endings told).length + cap

variable {cap : Nat} {calls : List Call} {call : Call} {b : Board σ}

theorem Capped.leave (capped : Capped cap b) : Capped cap b.leave := by
  obtain ⟨taken, running⟩ := capped
  unfold Board.leave
  split
  next => exact ⟨Nat.le_trans (Nat.sub_le _ _) taken, running⟩
  next => exact ⟨taken, running⟩

theorem Capped.note {x : Happening} (capped : Capped cap b)
    (fits : b.crashed = false → (beginnings (b.happenings ++ [x])).length ≤
      (endings (b.happenings ++ [x])).length + cap) : Capped cap (b.note x) := by
  refine ⟨capped.taken, fun calm told part => ?_⟩
  rcases List.prefix_concat_iff.1 part with rfl | earlier
  · exact fits calm
  · exact capped.running calm told earlier

theorem Capped.ended (capped : Capped cap b) (call : Call) (answer : Answer) (elapsed : Nat) :
    Capped cap (b.note (.ended call answer elapsed)) := by
  refine capped.note fun calm => ?_
  have now := capped.running calm b.happenings (List.prefix_refl _)
  rw [beginnings_append, endings_append, List.length_append, List.length_append]
  simp only [beginnings, endings, List.filterMap_cons, Happening.beginning?, Happening.ending?,
    List.filterMap_nil, List.length_nil, List.length_singleton] at now ⊢
  omega

theorem Capped.goes {d : Board σ} {r : σ × Option Answer} (goes : Goes call r b d)
    (capped : Capped cap b) : Capped cap d := by
  cases goes with
  | answered => exact (capped.ended call _ 0).leave
  | crashed =>
      refine Capped.leave ⟨capped.taken, fun calm => ?_⟩
      cases calm
  | cut | asleep => exact ⟨capped.taken, capped.running⟩

theorem Capped.goOn {n : Nat} (left : Nat) (conduct : Conduct σ n) (capped : Capped cap b) :
    Capped cap (goOn call left conduct b) := by
  obtain ⟨_, goes⟩ := goes_goOn call left conduct b
  exact Capped.goes goes ⟨capped.taken, capped.running⟩

theorem Capped.start {job : Job (Executor σ)} (left : Nat) (capped : Capped cap b)
    (room : b.crashed = false → (beginnings b.happenings).length <
      (endings b.happenings).length + cap) : Capped cap (b.start left job) := by
  unfold Board.start
  apply Capped.goOn
  refine Capped.note ⟨capped.taken, capped.running⟩ fun calm => ?_
  have fewer := room calm
  rw [beginnings_append, endings_append, List.length_append, List.length_append]
  simp only [beginnings, endings, List.filterMap_cons, Happening.beginning?, Happening.ending?,
    List.filterMap_nil, List.length_nil, List.length_singleton] at fewer ⊢
  omega

theorem Capped.wake (p : Pause σ) (capped : Capped cap b) : Capped cap (b.wake p) := by
  unfold Board.wake
  apply Capped.goOn
  exact ⟨capped.taken, capped.running⟩

/-- The calls that have begun and not ended are on the board with a slot each, so a call
    that is given a slot and still has to begin finds room. -/
theorem Books.room (books : Books cap calls [call] 1 b) (order : Order calls [call] b)
    (limited : 0 < cap) (few : b.taken ≤ cap) (calm : b.crashed = false) :
    (beginnings b.happenings).length < (endings b.happenings).length + cap := by
  obtain ⟨lost, shared, none⟩ := books.calls
  have known := shared.length_eq
  have begun := order.begun.length_eq
  have taken := books.taken (Nat.ne_of_gt limited)
  have kinds : b.queue.length =
      (b.queue.filter Turn.hasBegun).length + (b.queue.filter fun t => !t.hasBegun).length :=
    (List.length_eq_length_filter_add _)
  have slots : (b.queue.filter Turn.hasBegun).length ≤ (b.queue.filter Turn.hasSlot).length := by
    apply List.Sublist.length_le
    apply List.monotone_filter_right
    intro turn
    cases turn <;> simp [Turn.hasBegun, Turn.hasSlot]
  rw [none calm] at known
  simp only [Board.ended, pending, unbegun, holders, List.length_append, List.length_map,
    List.length_cons, List.length_nil] at known begun taken
  omega

theorem Capped.take {turn : Turn σ} (limited : 0 < cap)
    (books : Books cap calls [turn.call] (if turn.hasSlot then 1 else 0) b)
    (order : Order calls (if turn.hasBegun then [] else [turn.call]) b) (capped : Capped cap b) :
    Capped cap (b.take cap turn) := by
  cases turn with
  | ask job =>
      simp only [Board.take, if_neg (Nat.ne_of_gt limited)]
      split
      next room =>
        have books : Books cap calls [job.call] 0 b := books
        have order : Order calls [job.call] b := order
        apply Capped.start
        · exact ⟨room, capped.running⟩
        · exact (books.grant room).room ⟨order.begun, order.goingOn, order.timely⟩ limited room
      next => exact ⟨capped.taken, capped.running⟩
  | start job => exact capped.start _ (Books.room books order limited capped.taken)
  | pause p =>
      simp only [Board.take]
      split
      · exact capped.wake p
      · exact ⟨capped.taken, capped.running⟩
  | wake p => exact capped.wake p

theorem Capped.move {d : Board σ} {inOrder : Prop} (limited : 0 < cap)
    (move : Move cap inOrder b d) (books : Books cap calls [] 0 b) (order : Order calls [] b)
    (capped : Capped cap b) : Capped cap d := by
  cases move with
  | turn queued _ =>
      exact Capped.take limited (books.enter queued) (order.enter queued).1
        ⟨capped.taken, capped.running⟩
  | resume | wake => exact ⟨capped.taken, capped.running⟩

theorem capped_fresh (cap : Nat) (jobs : List (Job (Executor σ))) (world : σ) :
    Capped cap (fresh jobs world) := by
  refine ⟨Nat.zero_le _, fun _ told part => ?_⟩
  rw [List.prefix_nil.1 part]
  exact Nat.zero_le _

end Board

/-- Unless a call crashes, never more than so many calls have begun and not ended. -/
def Worker.AtMost {τ ε : Type} (worker : Worker τ ε) (cap : Nat) : Prop :=
  ∀ jobs t, (worker jobs t).2.crashed = false → ∀ told, told <+: (worker jobs t).2.happenings →
    (beginnings told).length ≤ (endings told).length + cap

theorem Worker.Schedules.atMost {worker : Worker (Site σ) (Executor σ)} {cap : Nat}
    {inOrder : Prop} (schedules : worker.Schedules cap inOrder) (limited : 0 < cap) :
    worker.AtMost cap := by
  intro jobs site calm told part
  obtain ⟨b, moves, _, _, same, crashed⟩ := schedules jobs site
  have kept := Board.moves_keep (P := fun b => Board.Books cap (jobs.map Job.call) [] 0 b ∧
      Board.Order (jobs.map Job.call) [] b ∧ Board.Capped cap b)
    (fun move start => ⟨start.1.move move, start.2.1.move move,
      start.2.2.move limited move start.1 start.2.1⟩) moves
    ⟨Board.books_fresh cap jobs site.world, Board.order_fresh jobs site.world,
      Board.capped_fresh cap jobs site.world⟩
  have shorter := List.forall₂_take told.length same
  rw [← List.prefix_iff_eq_take.1 part] at shorter
  have most := kept.2.2.running (crashed ▸ calm) _ (List.take_prefix told.length _)
  have ends := congrArg List.length (Happening.SameButTime.calls shorter)
  rw [List.length_map, List.length_map] at ends
  rw [Happening.SameButTime.beginnings shorter, ends]
  exact most

/-! ## What events tell -/

namespace Event

/-- The nodes that have started and not ended, after one more event. -/
def track (running : List String) : Event → List String
  | .nodeStarted _ id _ => id :: running
  | .nodeSucceeded _ id _ _ | .nodeFailed _ id _ _ _ => running.erase id
  | .runStarted .. | .stepStarted .. | .runComplete .. => running

/-- The nodes that have started and not ended, as far as events have told. -/
def running (told : List Event) : List String :=
  told.foldl track []

/-- Events that begin and end with no node running, and never tell of more running nodes
    than the cap allows. -/
structure Capped (cap : Nat) (events : List Event) : Prop where
  few : ∀ told, told <+: events → (running told).length ≤ cap
  quiet : running events = []

variable {cap : Nat} {events more : List Event}

theorem running_append (quiet : running events = []) (told : List Event) :
    running (events ++ told) = running told := by
  unfold running at quiet ⊢
  rw [List.foldl_append, quiet]

theorem Capped.append (first : Capped cap events) (second : Capped cap more) :
    Capped cap (events ++ more) := by
  refine ⟨fun told part => ?_, (running_append first.quiet more).trans second.quiet⟩
  rcases List.prefix_or_prefix_of_prefix part (List.prefix_append events more) with
    early | ⟨later, rfl⟩
  · exact first.few told early
  · rw [running_append first.quiet]
    exact second.few later ((List.prefix_append_right_inj events).1 part)

theorem Capped.flatMap {α : Type} {f : α → List Event} {items : List α}
    (each : ∀ a ∈ items, Capped cap (f a)) : Capped cap (items.flatMap f) := by
  induction items with
  | nil =>
      refine ⟨fun told part => ?_, rfl⟩
      rw [List.prefix_nil.1 part]
      exact Nat.zero_le _
  | cons a rest ih =>
      exact (each a List.mem_cons_self).append
        (ih fun other later => each other (List.mem_cons_of_mem _ later))

/-- An event that is about no node makes no difference. -/
theorem capped_singleton {x : Event} (other : x.nodeId? = none) : Capped cap [x] := by
  have quiet : running [x] = [] := by
    cases x with
    | runStarted | stepStarted | runComplete => rfl
    | nodeStarted | nodeSucceeded | nodeFailed => cases other
  refine ⟨fun told part => ?_, quiet⟩
  rcases List.prefix_cons_iff.1 part with rfl | ⟨rest, rfl, nothing⟩
  · exact Nat.zero_le _
  · rw [List.prefix_nil.1 nothing, quiet]
    exact Nat.zero_le _

end Event

theorem Timely.of_append {happenings more : List Happening} (timely : Timely (happenings ++ more)) :
    Timely happenings :=
  fun told part => timely told (part.trans (List.prefix_append happenings more))

/-- The nodes that events tell to be running are those that have begun and not ended. -/
theorem Timely.running_perm {told : List Happening} (timely : Timely told)
    (once : ((endings told).map (·.call.nodeId)).Nodup) (runId : String) :
    ((endings told).map (·.call.nodeId) ++ Event.running (told.map (Happening.event runId))).Perm
      ((beginnings told).map Call.nodeId) := by
  induction told using List.reverseRecOn with
  | nil => exact .refl _
  | append_singleton told x ih =>
      have before := ih timely.of_append (by
        rw [endings_append, List.map_append] at once
        exact (List.nodup_append.1 once).1)
      have running : Event.running ((told ++ [x]).map (Happening.event runId)) =
          Event.track (Event.running (told.map (Happening.event runId))) (x.event runId) := by
        simp [Event.running]
      rw [running, endings_append, beginnings_append, List.map_append, List.map_append]
      cases x with
      | started call =>
          have none : (endings [.started call]).map (·.call.nodeId) = [] := rfl
          rw [none, List.append_nil]
          refine .trans ?_ (before.append_right [call.nodeId])
          exact List.perm_middle.trans (List.perm_append_singleton _ _).symm
      | ended call answer elapsed =>
          -- The call has begun before and not ended yet, so its node is among those that run.
          have begun : call ∈ beginnings told := by
            have listed := timely (told ++ [.ended call answer elapsed]) (List.prefix_refl _)
              ⟨call, answer, elapsed⟩ (mem_endings.2 (by simp))
            simpa [beginnings, Happening.beginning?] using listed
          have unended : call.nodeId ∉ (endings told).map (·.call.nodeId) := by
            rw [endings_append, List.map_append] at once
            intro listed
            exact (List.nodup_append.1 once).2.2 _ listed _ (List.mem_singleton_self _) rfl
          have inside : call.nodeId ∈ Event.running (told.map (Happening.event runId)) := by
            have known := before.symm.subset (List.mem_map_of_mem begun)
            exact (List.mem_append.1 known).resolve_left unended
          have tracked : Event.track (Event.running (told.map (Happening.event runId)))
              (Happening.event runId (.ended call answer elapsed)) =
                (Event.running (told.map (Happening.event runId))).erase call.nodeId := by
            cases answer <;> rfl
          rw [tracked]
          refine .trans ?_ (before.trans (.of_eq (by simp [beginnings, Happening.beginning?])))
          have taken := (List.perm_cons_erase inside).symm
          rw [List.append_assoc]
          exact (taken.append_left _)

namespace Step

variable {w : Workflow} {runId : String} {step : Step} {cap : Nat}

/-- What a step tells that was completed by a worker with a cap. -/
theorem Record.capped (record : step.Record w runId) (whole : step.Whole)
    (few : ∀ told, told <+: step.happenings →
      (beginnings told).length ≤ (endings told).length + cap) :
    Event.Capped cap (step.events runId) := by
  have running {told : List Happening} (part : told <+: step.happenings) :
      ((endings told).map (·.call.nodeId) ++
        Event.running (told.map (Happening.event runId))).Perm
          ((beginnings told).map Call.nodeId) := by
    apply Timely.running_perm
    · exact fun earlier early => record.timely earlier (early.trans part)
    · have once := whole.2.nodup_iff.2 record.distinct
      exact once.sublist ((part.sublist.filterMap _).map _)
  have inside : Event.Capped cap (step.happenings.map (Happening.event runId)) := by
    constructor
    case few =>
      intro events part
      obtain ⟨told, early, rfl⟩ := List.prefix_map_iff.1 part
      have counts := (running early).length_eq
      have most := few told early
      simp only [List.length_append, List.length_map] at counts
      omega
    case quiet =>
      have counts := (running (List.prefix_refl _)).length_eq
      have begun := whole.1.length_eq
      have ended := whole.2.length_eq
      rw [List.length_append, begun, ended] at counts
      exact List.eq_nil_of_length_eq_zero (by omega)
  exact (Event.capped_singleton rfl).append inside

end Step

namespace Engine

variable {τ ε : Type} {e : Engine τ ε} {w : Workflow} {runId prompt : String}
  {given : Metadata} {t : τ} {cap : Nat}

/-- What the worker has done in a completed step of a run stays within the cap. -/
theorem few_of_run (most : e.worker.AtMost cap) (faithful : e.worker.Faithful) {start : String}
    {h : History} (ran : (e.run w runId prompt given t).2.course = .ok (start, h)) {step : Step}
    (completed : step ∈ h.completed) {told : List Happening} (part : told <+: step.happenings) :
    (beginnings told).length ≤ (endings told).length + cap := by
  obtain ⟨_, _, jobs, t', _, _, same, calm⟩ :=
    Engine.jobs_of_run faithful ran (History.mem_steps_of_completed completed)
  exact most jobs t' (calm completed) told (same ▸ part)

end Engine

section

variable {e : Engine (Site σ) (Executor σ)} {w : Workflow} {runId prompt : String}
  {given : Metadata} {site : Site σ} {inOrder : Prop}

/-- With a cap on calls, never more nodes have started and not ended than it allows,
    wherever the events of a run are looked at. And nothing is lost: every active node
    of every step is executed once in it. -/
theorem concurrency_capped
    (scheduled : e.worker.Schedules e.settings.maxConcurrency inOrder)
    (limited : 0 < e.settings.maxConcurrency) {r : Run}
    (returned : (e.run? w runId prompt given site).2 = some r)
    (calm : ∀ start h, r.course = .ok (start, h) → h.outcome ≠ .error .crash) :
    (∀ told, told <+: r.events → (Event.running told).length ≤ e.settings.maxConcurrency) ∧
      ∀ start h, r.course = .ok (start, h) → ∀ step ∈ h.steps,
        step.active.Nodup ∧ step.Whole := by
  obtain rfl := Engine.eq_run_of_run? returned
  cases taken : (e.run w runId prompt given site).2.course with
  | error cause =>
      refine ⟨?_, nofun⟩
      have alone : (e.run w runId prompt given site).2.events =
          [.runComplete (e.run w runId prompt given site).2.runId
            (e.run w runId prompt given site).2.stepCount
            (e.run w runId prompt given site).2.result.error] := by
        simp [Run.events, taken]
      rw [alone]
      exact (Event.capped_singleton rfl).few
  | ok course =>
      obtain ⟨start, h⟩ := course
      have faithful := scheduled.faithful
      obtain ⟨records, whole⟩ := Engine.records_of_run faithful scheduled.orderly taken
      have all : h.completed = h.steps := History.completed_of_outcome (calm start h taken)
      have each : ∀ step ∈ h.steps,
          Event.Capped e.settings.maxConcurrency (step.events runId) := by
        intro step member
        rw [← all] at member
        refine (records step (History.mem_steps_of_completed member)).capped (whole step member) ?_
        exact fun told part =>
          Engine.few_of_run (scheduled.atMost limited) faithful taken member part
      constructor
      · rw [Run.events_of_course taken, Engine.run_runId]
        have steps := (Event.Capped.flatMap each).append (Event.capped_singleton (x :=
          .runComplete runId (e.run w runId prompt given site).2.stepCount
            (e.run w runId prompt given site).2.result.error) rfl)
        exact ((Event.capped_singleton (x := .runStarted runId start) rfl).append steps).few
      · rintro _ _ ⟨⟩ step member
        exact ⟨(records step member).distinct, whole step (all ▸ member)⟩

end

namespace Diamond

theorem hand_shows : hand.Shows (.ofAnswers answer) :=
  fun _ _ _ => rfl

/-- In a run of the diamond in a pool nothing crashes. -/
theorem pooled_calm {runId prompt : String} {given : Metadata} {site : Site Unit}
    {start : String} {h : History}
    (ran : (pooled.run flow runId prompt given site).2.course = .ok (start, h)) :
    h.outcome ≠ .error .crash := by
  have kept : ∀ taskType e, pooled.resolve taskType = .ok e → e.Shows (.ofAnswers answer) := by
    intro taskType e resolved
    simp only [pooled, Pool.engine, Pool.resolve, provider?_pool, Except.ok.injEq] at resolved
    exact resolved ▸ hand_shows
  obtain ⟨_, _, course⟩ :=
    Engine.course_of_run (Pool.worker_faithful 1) (Pool.worker_shows 1 kept) ran
  exact course.may_crash

end Diamond

open Diamond in
theorem concurrency_capped_diamond :
    ∃ r, (pooled.run? flow "one" "go" .empty ⟨[], ()⟩).2 = some r ∧
      (∀ told, told <+: r.events → (Event.running told).length ≤ 1) ∧
      ∀ start h, r.course = .ok (start, h) → ∀ step ∈ h.steps,
        step.active.Nodup ∧ step.Whole := by
  have returned : (pooled.run? flow "one" "go" .empty ⟨[], ()⟩).2 =
      some (pooled.run flow "one" "go" .empty ⟨[], ()⟩).2 :=
    Engine.run?_eq_run pooled_ready.startCrash (by decide)
  exact ⟨_, returned, concurrency_capped (Pool.worker_schedules 1 True) Nat.one_pos returned
    fun start h ran => pooled_calm ran⟩

end Superstep
