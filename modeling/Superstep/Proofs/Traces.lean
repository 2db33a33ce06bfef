import Superstep.Proofs.Activity
import Superstep.Proofs.Coherence

/-! # Traces of runs

A run tells its start, then what happens step by step, and then its end. A step
tells its nodes first, and after that only of these nodes. The happenings of one
node in a step that was completed are a beginning and an end, because the node
has begun and ended once, and not the other way round.
-/

namespace Superstep

namespace Event

/-- The node that an event is about. -/
def nodeId? : Event → Option String
  | .nodeStarted _ id _ | .nodeSucceeded _ id _ _ | .nodeFailed _ id _ _ _ => some id
  | .runStarted .. | .stepStarted .. | .runComplete .. => none

/-- What a run tells of an execution of a node. -/
inductive IsVisit (runId id : String) : List Event → Prop where
  | succeeded (attempt elapsed : Nat) :
      IsVisit runId id [.nodeStarted runId id attempt, .nodeSucceeded runId id attempt elapsed]
  | failed (attempt elapsed : Nat) (error : String) :
      IsVisit runId id [.nodeStarted runId id attempt, .nodeFailed runId id attempt elapsed error]

end Event

namespace Happening

@[simp] theorem nodeId?_event (x : Happening) (runId : String) :
    (x.event runId).nodeId? = some x.call.nodeId := by
  cases x with
  | started call => rfl
  | ended call answer elapsed => cases answer <;> rfl

theorem isVisit_events (runId : String) (call : Call) (answer : Answer) (elapsed : Nat) :
    Event.IsVisit runId call.nodeId
      ([started call, ended call answer elapsed].map (Happening.event runId)) := by
  cases answer with
  | ok output => exact .succeeded call.attempt elapsed
  | error cause => exact .failed call.attempt elapsed (call.errorText cause)

end Happening

/-- The happenings of one node. -/
def happeningsOf (id : String) (happenings : List Happening) : List Happening :=
  happenings.filter (·.call.nodeId == id)

theorem beginnings_happeningsOf (id : String) (happenings : List Happening) :
    beginnings (happeningsOf id happenings) = (beginnings happenings).filter (·.nodeId == id) := by
  unfold beginnings happeningsOf
  rw [List.filterMap_filter, List.filter_filterMap]
  congr 1
  funext x
  cases x with
  | started call => simp [Happening.beginning?, Happening.call, Option.filter]
  | ended call answer elapsed => simp [Happening.beginning?]

theorem endings_happeningsOf (id : String) (happenings : List Happening) :
    endings (happeningsOf id happenings) =
      (endings happenings).filter (·.call.nodeId == id) := by
  unfold endings happeningsOf
  rw [List.filterMap_filter, List.filter_filterMap]
  congr 1
  funext x
  cases x with
  | started call => simp [Happening.ending?]
  | ended call answer elapsed => simp [Happening.ending?, Happening.call, Option.filter]

theorem Timely.happeningsOf {happenings : List Happening} (timely : Timely happenings)
    (id : String) : Timely (happeningsOf id happenings) := by
  intro told part x ended
  obtain ⟨earlier, before, rfl⟩ := List.prefix_filter_iff.1 part
  rw [← Superstep.happeningsOf, endings_happeningsOf, List.mem_filter] at ended
  rw [← Superstep.happeningsOf, beginnings_happeningsOf, List.mem_filter]
  exact ⟨timely earlier before x ended.1, ended.2⟩

/-- One beginning and one end in time are a beginning and its end. -/
theorem Timely.eq_visit {happenings : List Happening} (timely : Timely happenings)
    (begun : (beginnings happenings).length = 1) (ended : (endings happenings).length = 1) :
    ∃ call answer elapsed, happenings = [.started call, .ended call answer elapsed] := by
  cases happenings with
  | nil => cases begun
  | cons first rest =>
      cases first with
      | ended call answer elapsed =>
          have early := timely [.ended call answer elapsed] ⟨rest, rfl⟩ ⟨call, answer, elapsed⟩
            List.mem_cons_self
          cases early
      | started call =>
          cases rest with
          | nil => cases ended
          | cons second more =>
              cases second with
              | started other => simp [beginnings, Happening.beginning?] at begun
              | ended other answer elapsed =>
                  have own := timely [.started call, .ended other answer elapsed] ⟨more, rfl⟩
                    ⟨other, answer, elapsed⟩ List.mem_cons_self
                  obtain rfl : other = call := List.mem_singleton.1 own
                  refine ⟨other, answer, elapsed, ?_⟩
                  cases more with
                  | nil => rfl
                  | cons third more =>
                      cases third with
                      | started third => simp [beginnings, Happening.beginning?] at begun
                      | ended third answer elapsed =>
                          simp [endings, Happening.ending?, List.filterMap_cons] at ended

namespace Step

variable {w : Workflow} {runId : String} {step : Step}

/-- In a step that has executed its nodes once, a node has begun and then ended. -/
theorem Record.exists_visit (record : step.Record w runId) (whole : step.Whole) {id : String}
    (awake : id ∈ step.active) : ∃ call answer elapsed, call.nodeId = id ∧
      happeningsOf id step.happenings = [.started call, .ended call answer elapsed] := by
  have once : step.active.count id = 1 := List.count_eq_one_of_mem record.distinct awake
  have begun : (beginnings (happeningsOf id step.happenings)).length = 1 := by
    rw [beginnings_happeningsOf, ← List.countP_eq_length_filter, ← once, ← whole.1.count_eq,
      List.count, List.countP_map]
    rfl
  have ended : (endings (happeningsOf id step.happenings)).length = 1 := by
    rw [endings_happeningsOf, ← List.countP_eq_length_filter, ← once, ← whole.2.count_eq,
      List.count, List.countP_map]
    rfl
  obtain ⟨call, answer, elapsed, same⟩ := (record.timely.happeningsOf id).eq_visit begun ended
  refine ⟨call, answer, elapsed, ?_, same⟩
  have listed : Happening.started call ∈ happeningsOf id step.happenings := by
    rw [same]
    exact List.mem_cons_self
  exact eq_of_beq (List.mem_filter.1 listed).2

/-- What a step tells after its own start. -/
def told (runId : String) (step : Step) : List Event :=
  step.happenings.map (Happening.event runId)

theorem Record.mem_told (record : step.Record w runId) {x : Event} (member : x ∈ step.told runId) :
    ∃ id ∈ step.active, x.nodeId? = some id := by
  obtain ⟨y, happened, rfl⟩ := List.mem_map.1 member
  exact ⟨y.call.nodeId, record.mem_active happened, y.nodeId?_event runId⟩

theorem Record.isVisit_told (record : step.Record w runId) (whole : step.Whole) {id : String}
    (awake : id ∈ step.active) :
    Event.IsVisit runId id ((step.told runId).filter (·.nodeId? == some id)) := by
  obtain ⟨call, answer, elapsed, rfl, same⟩ := record.exists_visit whole awake
  have own : (step.told runId).filter (·.nodeId? == some call.nodeId) =
      (happeningsOf call.nodeId step.happenings).map (Happening.event runId) := by
    rw [told, List.filter_map, happeningsOf]
    congr 2
    funext x
    simp
  rw [own, same]
  exact Happening.isVisit_events runId call answer elapsed

end Step

theorem Run.events_of_course {r : Run} {start : String} {h : History}
    (taken : r.course = .ok (start, h)) :
    r.events = .runStarted r.runId start :: (h.steps.flatMap (Step.events r.runId) ++
      [.runComplete r.runId r.stepCount r.result.error]) := by
  simp [events, taken]

theorem Run.stepCount_of_course {r : Run} {start : String} {h : History}
    (taken : r.course = .ok (start, h)) :
    (∀ last, h.outcome = .ok last → r.stepCount = h.steps.length) ∧
      ∀ fault, h.outcome = .error fault → r.stepCount = 0 := by
  obtain ⟨steps, outcome⟩ := h
  unfold stepCount
  rw [taken]
  constructor
  · rintro last ⟨⟩
    rfl
  · rintro fault ⟨⟩
    rfl

namespace Engine

variable {τ ε : Type} {e : Engine τ ε} {w : Workflow} {runId prompt : String}
  {given : Metadata} {t : τ}

theorem run_runId : (e.run w runId prompt given t).2.runId = runId := by
  unfold run
  split <;> rfl

theorem run?_of_prepare_error {cause : Failure} (calm : e.startCrash w t = none)
    (failed : (e.prepare w t).2 = .error cause) :
    (e.run? w runId prompt given t).2 = some ⟨runId, e.settings.placeholder, .error cause⟩ := by
  rw [run?_of_error calm (Prod.ext rfl failed)]

theorem exists_course_of_prepare {g : Graph ε} (prepared : (e.prepare w t).2 = .ok g) :
    ∃ start h, (e.run w runId prompt given t).2.course = .ok (start, h) :=
  ⟨_, _, run_of_ok (Prod.ext rfl prepared) runId prompt given⟩

end Engine

/-- What a run that has got under way tells: its start, the start of every step and
    behind it what the nodes of the step do, and its end. A node of a step that was
    completed starts, and then succeeds or fails by the same attempt. -/
structure Run.Bracketed (w : Workflow) (limit : Nat) (h : History) (r : Run) : Prop where
  events : r.events = .runStarted r.runId w.startNode ::
    (h.steps.flatMap (Step.events r.runId) ++ [.runComplete r.runId r.stepCount r.result.error])
  few : h.steps.length ≤ limit
  first : ∀ step ∈ h.steps.head?, step.active = [w.startNode]
  chained : h.steps.IsChain w.Follows
  steps : ∀ i step, h.steps[i]? = some step → ∃ told,
    step.events r.runId = .stepStarted r.runId (i + 1) step.active :: told ∧
    (∀ x ∈ told, ∃ id ∈ step.active, x.nodeId? = some id) ∧
    (step ∈ h.completed → ∀ id ∈ step.active,
      Event.IsVisit r.runId id (told.filter (·.nodeId? == some id)))
  finished : ∀ last, h.outcome = .ok last → r.stepCount = h.steps.length
  stopped : ∀ fault, h.outcome = .error fault → r.stepCount = 0 ∧
    (fault = .crash ∨ ∃ active, fault = .stepLimit limit active)

section

variable {τ ε : Type} {e : Engine τ ε} {w : Workflow} {runId prompt : String}
  {given : Metadata} {t : τ}

theorem Engine.bracketed_of_run (faithful : e.worker.Faithful) (orderly : e.worker.Orderly)
    {start : String} {h : History}
    (ran : (e.run w runId prompt given t).2.course = .ok (start, h)) :
    start = w.startNode ∧
      (e.run w runId prompt given t).2.Bracketed w e.settings.maxSteps h := by
  obtain ⟨valid, rfl, course⟩ := Engine.course_of_run faithful (e.worker.shows_any e.resolve) ran
  obtain ⟨records, whole⟩ := Engine.records_of_run faithful orderly ran
  obtain ⟨finished, stopped⟩ := Run.stepCount_of_course ran
  obtain ⟨chained, first⟩ := course.chained valid
  refine ⟨rfl, Run.events_of_course ran, course.length_le, ?_, chained, ?_, finished, ?_⟩
  · exact fun step among => (first step among).2.1
  · intro i step among
    rw [Engine.run_runId]
    have record := records step (List.mem_of_getElem? among)
    refine ⟨step.told runId, ?_, fun x member => record.mem_told member, ?_⟩
    · rw [Step.events, course.numbered among, Nat.add_comm]
      rfl
    · exact fun completed id awake => record.isVisit_told (whole step completed) awake
  · exact fun fault failed => ⟨stopped fault failed, course.fault failed⟩

/-- A run whose sessions do not crash and that does not get under way tells its end only,
    with its error. If it gets under way it tells everything between its start and its
    end, unless its cap is too great: then it never comes to its end, and neither does a
    run of which a session crashes. -/
theorem run_events_bracketed (faithful : e.worker.Faithful) (orderly : e.worker.Orderly) :
    (e.startCrash w t ≠ none → (e.run? w runId prompt given t).2 = none) ∧
    (e.startCrash w t = none → ∀ cause, (e.prepare w t).2 = .error cause →
      ∃ r, (e.run? w runId prompt given t).2 = some r ∧ r.result.error = some cause.message ∧
        r.events = [.runComplete runId 0 r.result.error]) ∧
    (e.startCrash w t = none → ∀ g, (e.prepare w t).2 = .ok g →
      (e.settings.maxConcurrency ≤ Engine.capLimit → ∃ r h,
        (e.run? w runId prompt given t).2 = some r ∧ r.runId = runId ∧
        r.course = .ok (w.startNode, h) ∧ r.Bracketed w e.settings.maxSteps h) ∧
      (Engine.capLimit < e.settings.maxConcurrency →
        (e.run? w runId prompt given t).2 = none)) := by
  refine ⟨fun crashed => Engine.run?_eq_none_iff.2 (.inl crashed), ?_, ?_⟩
  · intro calm cause failed
    exact ⟨_, Engine.run?_of_prepare_error calm failed, rfl, rfl⟩
  · intro calm g prepared
    constructor
    · intro fits
      obtain ⟨start, h, ran⟩ := Engine.exists_course_of_prepare prepared
      obtain ⟨rfl, bracketed⟩ := Engine.bracketed_of_run faithful orderly ran
      exact ⟨_, h, Engine.run?_eq_run calm fits, Engine.run_runId, ran, bracketed⟩
    · exact fun beyond => (Engine.run?_eq_none_iff_of_calm calm).2 ⟨beyond, g, prepared⟩

end

open Diamond in
theorem run_events_bracketed_diamond :
    ∃ r h, (pooled.run? flow "one" "go" .empty ⟨[], ()⟩).2 = some r ∧
      r.course = .ok ("a", h) ∧ r.Bracketed flow 100 h := by
  obtain ⟨g, prepared⟩ := prepare_pooled { maxConcurrency := 1 } ⟨[], ()⟩
  obtain ⟨_, _, told⟩ :=
    @run_events_bracketed _ _ pooled flow "one" "go" .empty ⟨[], ()⟩ (Pool.worker_faithful 1)
      (Pool.worker_orderly 1)
  obtain ⟨r, h, returned, _, taken, bracketed⟩ :=
    (told (startCrash_pool { maxConcurrency := 1 } ⟨[], ()⟩) g prepared).1 (by decide)
  exact ⟨r, h, returned, taken, bracketed⟩

end Superstep
