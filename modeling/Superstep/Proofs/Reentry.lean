import Superstep.Proofs.Attempts
import Superstep.Proofs.Failures

/-! # Nodes that are entered again

Attempts are counted over a whole run, and the allowance of a node is for its retries
only. The retry rule stays within it. An edge that leads back to the node does not ask
for it, and is the only way to an attempt beyond it.
-/

namespace Superstep

namespace Workflow

/-- A completion of the step goes along an edge to the node. -/
def LeadsOn (w : Workflow) (step : Step) (id : String) : Prop :=
  ∃ x ∈ endings step.happenings, ∃ n ∈ w.nodes, n.id = x.call.nodeId ∧
    id ∈ (w.completion step n x).targets ∧ ∃ e ∈ w.edges, e.source = n.id ∧ e.target = id

variable {w : Workflow} {step : Step} {runId : String}

theorem mem_union_completions {id : String} (member : id ∈ Completion.union (w.completions step)) :
    ∃ x ∈ endings step.happenings, ∃ n ∈ w.nodes, n.id = x.call.nodeId ∧
      id ∈ (w.completion step n x).targets := by
  rw [Completion.union, List.mem_eraseDups, List.mem_flatMap] at member
  obtain ⟨completion, listed, target⟩ := member
  obtain ⟨x, ended, made⟩ := List.mem_filterMap.1 listed
  obtain ⟨n, found, rfl⟩ := Option.map_eq_some_iff.1 made
  have own := List.find?_some (p := fun n : Node => n.id == x.call.nodeId) found
  exact ⟨x, ended, n, List.mem_of_find?_eq_some found, eq_of_beq own, target⟩

/-- The own view of a completion counts one more attempt than there were before. -/
theorem attemptsOf_ownView_of_record (valid : w.Valid) (record : step.Record w runId) {n : Node}
    (member : n ∈ w.nodes) {x : Ending} (ended : x ∈ endings step.happenings)
    (same : n.id = x.call.nodeId) :
    (w.ownView n ⟨step, x⟩).attemptsOf n.id = step.before.attemptsOf n.id + 1 := by
  obtain ⟨m, inside, called⟩ := record.called _ (mem_endings.1 ended)
  obtain rfl : n = m := valid.node_unique member inside (same.trans (congrArg Call.nodeId called))
  have patched : (w.completion step n x).patch.nodeId = x.call.nodeId := by
    unfold completion Station.completion Node.complete
    cases x.answer <;> rfl
  rw [ownView, State.attemptsOf_apply, if_pos (same.trans patched.symm), completion_attempt]
  exact congrArg Call.attempt called

end Workflow

theorem History.executionsBefore_succ {h : History} {i : Nat} {step : Step}
    (found : h.steps[i]? = some step) (id : String) :
    h.executionsBefore (i + 1) id = h.executionsBefore i id + (step.executions id).length := by
  obtain ⟨inside, rfl⟩ := List.getElem?_eq_some_iff.1 found
  rw [executionsBefore, List.take_succ_eq_append_getElem inside, List.flatMap_append,
    List.length_append, List.flatMap_singleton]
  rfl

namespace Course

variable {w : Workflow} {b : Behaviour} {runId prompt : String} {given : Metadata}
  {limit left number : Nat} {active : List String} {h : History}

/-- The attempts that a step finds are the executions in the steps before it. -/
theorem attemptsOf_before (valid : w.Valid)
    (course : Course w b runId limit left number active (Engine.startState w prompt given) h)
    {i : Nat} {step : Step} (found : h.steps[i]? = some step) (id : String) :
    step.before.attemptsOf id = h.executionsBefore i id := by
  have counts : step.before.attempts.get? id = counted none (h.executionsBefore i id) :=
    course.get?_attempts valid (course.boundary_before valid found) id
  rw [State.attemptsOf, counts, getD_counted]

/-- A node that is active has attempts left, or the step before led to it along an
    edge. -/
theorem left_or_leadsOn (valid : w.Valid)
    (course : Course w b runId limit left number active (Engine.startState w prompt given) h)
    (records : ∀ step ∈ h.steps, step.Record w runId) {i : Nat} {step : Step}
    (found : h.steps[i]? = some step) {n : Node} (member : n ∈ w.nodes)
    (awake : n.id ∈ step.active) :
    h.executionsBefore i n.id < n.maxAttempts ∨
      ∃ j before, i = j + 1 ∧ h.steps[j]? = some before ∧ w.LeadsOn before n.id := by
  cases i with
  | zero => exact .inl n.maxAttempts_pos
  | succ j =>
      obtain ⟨inside, rfl⟩ := List.getElem?_eq_some_iff.1 found
      have earlier : h.steps[j]? = some h.steps[j] := List.getElem?_eq_getElem (by omega)
      have follows : w.Follows h.steps[j] h.steps[j + 1] :=
        (course.chained valid).1.getElem j inside
      rw [follows.active] at awake
      obtain ⟨x, ended, m, node, same, target⟩ := Workflow.mem_union_completions awake
      rcases Workflow.routeOf_next_mem target with ⟨self, remaining⟩ | ⟨e, edge, source, goal⟩
      -- The retry rule reads the count of the node's own view, which is that of the next step.
      · left
        obtain rfl := valid.node_unique member node self
        have record := records _ (List.mem_of_getElem? earlier)
        have own := Workflow.attemptsOf_ownView_of_record valid record node ended same
        have once := record.executions_le n.id
        have grown := History.executionsBefore_succ earlier n.id
        rw [course.attemptsOf_before valid earlier] at own
        have remaining : (w.ownView n ⟨h.steps[j], x⟩).attemptsOf n.id < n.maxAttempts := remaining
        omega
      · exact .inr ⟨j, _, rfl, earlier, x, ended, m, node, same, target, e, edge, source, goal⟩

end Course

theorem Call.errorText_of_left {call : Call} (left : call.attempt < call.maxAttempts)
    (cause : Failure) :
    call.errorText cause = "Node " ++ call.nodeId ++ " failed (attempt " ++
      toString call.attempt ++ " of " ++ toString call.maxAttempts ++ "): " ++ cause.message := by
  rw [errorText, if_pos left]

theorem Call.errorText_of_used {call : Call} (used : call.maxAttempts ≤ call.attempt)
    (cause : Failure) :
    call.errorText cause = "Node " ++ call.nodeId ++ " failed after " ++
      toString call.attempt ++ " attempts: " ++ cause.message := by
  rw [errorText, if_neg (Nat.not_lt.2 used)]

section

variable {τ ε : Type} {e : Engine τ ε} {w : Workflow} {runId prompt : String}
  {given : Metadata} {t : τ}

/-- An attempt has the number of the executions of its node in the run so far, itself
    included, and failures tell that number. It goes beyond the allowance of the node
    only where the step before leads to the node along an edge: a retry never does.
    Attempts stay within 32 bits if the numbers of the steps do. -/
theorem allowance_exceeded_by_edges (faithful : e.worker.Faithful) (orderly : e.worker.Orderly)
    {start : String} {h : History}
    (ran : (e.run w runId prompt given t).2.course = .ok (start, h))
    (few : h.steps.length < twoTo 32) :
    (∀ i step, h.steps[i]? = some step → ∀ y ∈ step.happenings, ∃ n ∈ w.nodes,
      y.call.nodeId = n.id ∧ y.call.maxAttempts = n.maxAttempts ∧
      y.call.attempt = h.executionsBefore i n.id + 1 ∧ y.call.attempt < twoTo 32 ∧
      (n.maxAttempts < y.call.attempt → ∃ j before,
        i = j + 1 ∧ h.steps[j]? = some before ∧ w.LeadsOn before n.id)) ∧
    ∀ n ∈ w.nodes, ∀ k x, (h.executions n.id)[k]? = some x →
      (w.resends n x = true → ∀ y, (h.executions n.id)[k + 1]? = some y →
        y.ending.call.attempt ≤ n.maxAttempts) ∧
      ∀ cause, x.ending.answer = .error cause →
        (k + 1 < n.maxAttempts → (w.completion x.step n x.ending).patch.error =
          some ("Node " ++ n.id ++ " failed (attempt " ++ toString (k + 1) ++ " of " ++
            toString n.maxAttempts ++ "): " ++ cause.message)) ∧
        (n.maxAttempts ≤ k + 1 → (w.completion x.step n x.ending).patch.error =
          some ("Node " ++ n.id ++ " failed after " ++ toString (k + 1) ++ " attempts: " ++
            cause.message)) := by
  obtain ⟨valid, _, course⟩ := Engine.course_of_run faithful (e.worker.shows_any e.resolve) ran
  obtain ⟨records, _⟩ := Engine.records_of_run faithful orderly ran
  have called {i : Nat} {step : Step} (found : h.steps[i]? = some step) {y : Happening}
      (happened : y ∈ step.happenings) : ∃ n ∈ w.nodes, y.call.nodeId = n.id ∧
        y.call.maxAttempts = n.maxAttempts ∧ y.call.attempt = h.executionsBefore i n.id + 1 := by
    obtain ⟨n, member, same⟩ := (records step (List.mem_of_getElem? found)).called y happened
    refine ⟨n, member, ?_⟩
    rw [same, ← course.attemptsOf_before valid found]
    exact ⟨rfl, rfl, rfl⟩
  constructor
  · intro i step found y happened
    obtain ⟨n, member, own, allowed, counted⟩ := called found happened
    refine ⟨n, member, own, allowed, counted, ?_, fun beyond => ?_⟩
    · have inside := (List.getElem?_eq_some_iff.1 found).1
      have most := History.executionsBefore_le records i n.id
      omega
    · have record := records step (List.mem_of_getElem? found)
      have awake : n.id ∈ step.active := own ▸ record.mem_active happened
      rcases course.left_or_leadsOn valid records found member awake with left | led
      · omega
      · exact led
  · intro n member k x found
    have numbered {k : Nat} {x : Execution} (found : (h.executions n.id)[k]? = some x) :
        x.ending.call.nodeId = n.id ∧ x.ending.call.maxAttempts = n.maxAttempts ∧
          x.ending.call.attempt = k + 1 := by
      obtain ⟨i, part, rfl, ended, own⟩ := History.step_of_execution records found
      obtain ⟨m, inside, same, allowed, counted⟩ := called part (mem_endings.1 ended)
      obtain rfl := valid.node_unique member inside (own.symm.trans same)
      exact ⟨own, allowed, counted⟩
    obtain ⟨own, allowed, attempt⟩ := numbered found
    refine ⟨fun again y later => ?_, fun cause failed => ?_⟩
    · have remaining := ((course.resends_iff valid member found).1 again).2
      rw [(numbered later).2.2]
      exact remaining
    · have told : (w.completion x.step n x.ending).patch.error =
          some (x.ending.call.errorText cause) := by
        unfold Workflow.completion Station.completion Node.complete
        rw [failed]
      rw [told, ← own, ← allowed, ← attempt]
      exact ⟨fun left => congrArg some (Call.errorText_of_left left cause),
        fun used => congrArg some (Call.errorText_of_used used cause)⟩

end

open Relapse in
theorem allowance_exceeded_by_edges_relapse :
    ∃ h, (engine.run flow "one" "go" .empty ()).2.course = .ok ("x", h) ∧
      h.steps.length < twoTo 32 ∧
      ∀ i step, h.steps[i]? = some step → ∀ y ∈ step.happenings, ∃ n ∈ flow.nodes,
        y.call.nodeId = n.id ∧ y.call.attempt = h.executionsBefore i n.id + 1 ∧
        (n.maxAttempts < y.call.attempt → ∃ j before,
          i = j + 1 ∧ h.steps[j]? = some before ∧ flow.LeadsOn before n.id) := by
  obtain ⟨h, ran⟩ := ready.exists_history "one" "go" .empty
  refine ⟨h, ran, few_steps ran, fun i step found y happened => ?_⟩
  obtain ⟨calls, _⟩ := allowance_exceeded_by_edges (Worker.oneByOne_faithful fun _ => .refl _)
    (Worker.oneByOne_orderly fun _ => .refl _) ran (few_steps ran)
  obtain ⟨n, member, own, _, counted, _, led⟩ := calls i step found y happened
  exact ⟨n, member, own, counted, led⟩

open Relapse in
/-- A node may be called with an attempt beyond its allowance. -/
theorem attempt_beyond_allowance :
    ∃ h step call, (engine.run flow "one" "go" .empty ()).2.course = .ok ("x", h) ∧
      step ∈ h.steps ∧ .started call ∈ step.happenings ∧ call.maxAttempts < call.attempt := by
  obtain ⟨h, ran⟩ := ready.exists_history "one" "go" .empty
  have facts : (match (engine.run flow "one" "go" .empty ()).2.course with
      | .ok (_, h) => h.steps.any fun step =>
          (beginnings step.happenings).any fun call => decide (call.maxAttempts < call.attempt)
      | .error _ => false) = true := by
    decide +kernel
  rw [ran] at facts
  obtain ⟨step, listed, call, begun, beyond⟩ : ∃ step ∈ h.steps,
      ∃ call ∈ beginnings step.happenings, call.maxAttempts < call.attempt := by
    simpa using facts
  obtain ⟨happening, happened, same⟩ := List.mem_filterMap.1 begun
  refine ⟨h, step, call, ran, listed, ?_, beyond⟩
  cases happening with
  | started other => exact Option.some.inj same ▸ happened
  | ended other answer elapsed => cases same

end Superstep
