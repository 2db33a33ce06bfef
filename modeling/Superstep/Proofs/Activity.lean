import Superstep.Proofs.Acyclic
import Superstep.Proofs.Turns

/-! # Active nodes

The nodes that are active in a step are distinct nodes of the workflow, and
edges lead to all of them from the start. So the engine finds every node that it
looks for, in a step as well as after it, and a step that is completed has
executed each of its nodes once.
-/

namespace Superstep

namespace Workflow

variable {w : Workflow}

/-- Nodes that a run may have active together. -/
structure Awake (w : Workflow) (active : List String) : Prop where
  distinct : active.Nodup
  inside : ∀ id ∈ active, id ∈ w.ids
  reached : ∀ id ∈ active, Relation.ReflTransGen w.Leads w.startNode id

theorem Valid.awake_start (valid : w.Valid) : w.Awake [w.startNode] where
  distinct := List.nodup_singleton _
  inside _ member := List.mem_singleton.1 member ▸ valid.start
  reached _ member := List.mem_singleton.1 member ▸ .refl

/-- Visits wake the nodes themselves, for a retry, and nodes behind one more edge. -/
theorem Valid.awake_activeAfter (valid : w.Valid) {b : Behaviour} {runId : String}
    {active unended : List String} {s : State} {visits : List Visit}
    (round : Round w b runId active s visits unended) (awake : w.Awake active) :
    w.Awake (w.activeAfter runId s visits) where
  distinct := w.activeAfter_nodup runId s visits
  inside _ member := valid.mem_activeAfter round member
  reached id member := by
    rw [activeAfter, List.mem_eraseDups, List.mem_flatMap] at member
    obtain ⟨v, among, taken⟩ := member
    have here := awake.reached v.node.id (round.mem_active among)
    rcases routeOf_next_mem taken with ⟨rfl, _⟩ | ⟨e, edge, source, target⟩
    · exact here
    · exact here.tail ⟨e, edge, source, target⟩

end Workflow

theorem Course.awake {w : Workflow} (valid : w.Valid) {b : Behaviour} {runId : String}
    {limit left number : Nat} {active : List String} {s : State} {h : History}
    (course : Course w b runId limit left number active s h) (awake : w.Awake active) :
    ∀ step ∈ h.steps, step.active ≠ [] ∧ w.Awake step.active :=
  (course.invariant (P := fun _ active _ => w.Awake active)
    (fun _ round awake => valid.awake_activeAfter round awake) awake).1

section

variable {τ ε : Type} {e : Engine τ ε} {w : Workflow} {runId prompt : String}
  {given : Metadata} {t : τ}

/-- What happens in a step of a run is what the worker does with the calls of its active
    nodes. -/
theorem Engine.jobs_of_run (faithful : e.worker.Faithful) {start : String} {h : History}
    (ran : (e.run w runId prompt given t).2.course = .ok (start, h)) {step : Step}
    (member : step ∈ h.steps) :
    w.Awake step.active ∧ ∃ g jobs t', Graph.compile e.resolve w = .ok g ∧
      g.jobs runId step.before step.active = .ok jobs ∧
      (e.worker jobs t').2.happenings = step.happenings ∧
      (step ∈ h.completed → (e.worker jobs t').2.crashed = false) := by
  obtain ⟨valid, _, course⟩ := Engine.course_of_run faithful (e.worker.shows_any e.resolve) ran
  obtain ⟨g, t', compiled, _, rfl⟩ := Engine.history_of_run ran
  have awake := (course.awake valid valid.awake_start step member).2
  obtain ⟨jobs, made, _⟩ := Graph.jobs_compile compiled runId step.before awake.inside
  obtain ⟨t'', same, calm⟩ := Graph.proceed_told g e.worker runId _ _ _ _ _ t' member made
  exact ⟨awake, g, jobs, t'', compiled, made, same, calm⟩

/-- Every step of a run is on record, and if it was completed it is whole. -/
theorem Engine.records_of_run (faithful : e.worker.Faithful) (orderly : e.worker.Orderly)
    {start : String} {h : History}
    (ran : (e.run w runId prompt given t).2.course = .ok (start, h)) :
    (∀ step ∈ h.steps, step.Record w runId) ∧ ∀ step ∈ h.completed, step.Whole := by
  have told {step : Step} (member : step ∈ h.steps) :
      step.Record w runId ∧ (step ∈ h.completed → step.Whole) := by
    obtain ⟨awake, g, jobs, t', compiled, made, same, calm⟩ :=
      Engine.jobs_of_run faithful ran member
    obtain ⟨record, whole⟩ :=
      Graph.record_of_jobs compiled faithful orderly awake.distinct awake.inside made same
    exact ⟨record, fun completed => whole (calm completed)⟩
  refine ⟨fun step member => (told member).1, fun step completed => ?_⟩
  exact (told (History.mem_steps_of_completed completed)).2 completed

/-- Whatever the executors do and in whatever order calls end, the active nodes of
    every step are at least one, distinct, nodes of the workflow, and reached from
    the start, and a step that is completed has executed each of them once. The
    engine never misses a node, a route or the start. -/
theorem active_sets_sound (faithful : e.worker.Faithful) (orderly : e.worker.Orderly) :
    (∀ start h, (e.run w runId prompt given t).2.course = .ok (start, h) →
      (∀ step ∈ h.steps, step.active ≠ [] ∧ step.active.Nodup ∧
        ∀ id ∈ step.active, id ∈ w.ids ∧ Relation.ReflTransGen w.Leads w.startNode id) ∧
      (∀ step ∈ h.completed,
        ((beginnings step.happenings).map Call.nodeId).Perm step.active ∧
          ((endings step.happenings).map (·.call.nodeId)).Perm step.active) ∧
      ∀ id, h.outcome ≠ .error (.unknownNode id) ∧ h.outcome ≠ .error (.unroutedNode id)) ∧
    ∀ id, (∀ n ∈ w.nodes, e.resolve n.taskType ≠ .error (.engine (.startNotCompiled id))) →
      Graph.compile e.resolve w ≠ .error (.engine (.startNotCompiled id)) := by
  constructor
  · intro start h ran
    obtain ⟨valid, _, course⟩ := Engine.course_of_run faithful (e.worker.shows_any e.resolve) ran
    refine ⟨?_, (Engine.records_of_run faithful orderly ran).2, fun id => ⟨?_, ?_⟩⟩
    · intro step member
      obtain ⟨busy, awake⟩ := course.awake valid valid.awake_start step member
      exact ⟨busy, awake.distinct, fun id among => ⟨awake.inside id among, awake.reached id among⟩⟩
    · intro stopped
      rcases course.fault stopped with same | ⟨_, same⟩ <;> cases same
    · intro stopped
      rcases course.fault stopped with same | ⟨_, same⟩ <;> cases same
  · intro id known failed
    rcases Graph.compile_error failed with other | ⟨n, member, missing⟩
    · cases other
    · exact known n member missing

end

open Diamond in
theorem active_sets_sound_diamond :
    ∃ h, (pooled.run flow "one" "go" .empty ⟨[], ()⟩).2.course = .ok ("a", h) ∧
      (∀ step ∈ h.steps, step.active ≠ [] ∧ step.active.Nodup ∧
        ∀ id ∈ step.active, id ∈ flow.ids ∧ Relation.ReflTransGen flow.Leads "a" id) ∧
      ∀ step ∈ h.completed, ((endings step.happenings).map (·.call.nodeId)).Perm step.active := by
  obtain ⟨h, ran⟩ := pooled_ready.exists_history "one" "go" .empty
  obtain ⟨steps, whole, _⟩ :=
    (active_sets_sound (Pool.worker_faithful 1) (Pool.worker_orderly 1)).1 _ h ran
  exact ⟨h, ran, steps, fun step completed => (whole step completed).2⟩

end Superstep
