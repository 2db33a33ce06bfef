import Superstep.Proofs.Activity
import Superstep.Proofs.Retries

/-! # Counting attempts

The attempts that a state has counted for a node are the executions of the node
so far, because a node is executed at most once in a step and nobody else writes
its count. So executions are numbered without a gap, and the numbers stay below
that of the step. Nothing that a state knows is ever forgotten.
-/

namespace Superstep

namespace KeyMap

variable {α : Type u}

theorem contains_insertAll (pairs : List (String × α)) {m : KeyMap α} {key : String}
    (known : m.contains key = true) : (m.insertAll pairs).contains key = true := by
  unfold insertAll
  induction pairs generalizing m with
  | nil => exact known
  | cons pair rest ih =>
      apply ih
      unfold contains at known ⊢
      rw [get?_insert]
      split
      next => rfl
      next => exact known

end KeyMap

namespace State

/-- The later state has forgotten nothing that the earlier one knows. -/
structure Within (s later : State) : Prop where
  prompt : later.prompt = s.prompt
  outputs : ∀ id, s.outputs.contains id = true → later.outputs.contains id = true
  metadata : ∀ key, s.metadata.contains key = true → later.metadata.contains key = true
  attempts : ∀ id, s.attempts.contains id = true → later.attempts.contains id = true

theorem Within.refl (s : State) : s.Within s :=
  ⟨rfl, fun _ => id, fun _ => id, fun _ => id⟩

theorem Within.trans {s₁ s₂ s₃ : State} (first : s₁.Within s₂) (second : s₂.Within s₃) :
    s₁.Within s₃ where
  prompt := second.prompt.trans first.prompt
  outputs id known := second.outputs id (first.outputs id known)
  metadata key known := second.metadata key (first.metadata key known)
  attempts id known := second.attempts id (first.attempts id known)

theorem within_apply (s : State) (p : Patch) : s.Within (s.apply p) where
  prompt := s.prompt_apply p
  outputs id known := by rw [contains_apply, known, Bool.or_true]
  metadata key known := by
    rw [metadata_apply]
    exact KeyMap.contains_insertAll _ known
  attempts id known := by
    rw [attempts_apply]
    exact KeyMap.contains_insertAll [(p.nodeId, p.attempt)] known

theorem within_applyAll (s : State) (ps : List Patch) : s.Within (s.applyAll ps) := by
  unfold applyAll
  induction ps generalizing s with
  | nil => exact .refl s
  | cons p rest ih => exact (s.within_apply p).trans (ih _)

theorem attempts_applyAll (s : State) (ps : List Patch) :
    (s.applyAll ps).attempts = s.attempts.insertAll (ps.map fun p => (p.nodeId, p.attempt)) := by
  unfold applyAll
  induction ps generalizing s with
  | nil => rfl
  | cons p rest ih =>
      rw [List.foldl_cons, ih, attempts_apply]
      rfl

end State

/-- What becomes of a count by so many executions. Without any it stays as it is. -/
def counted (before : Option Nat) (executions : Nat) : Option Nat :=
  if executions = 0 then before else some (before.getD 0 + executions)

theorem counted_add (before : Option Nat) (m n : Nat) :
    counted (counted before m) n = counted before (m + n) := by
  cases m with
  | zero => simp [counted]
  | succ m =>
      cases n with
      | zero => rfl
      | succ n => simp [counted, Nat.add_assoc]

theorem getD_counted (n : Nat) : (counted none n).getD 0 = n := by
  cases n <;> simp [counted]

/-- An element of a joined list stands in one of the parts, behind all of the parts
    before it. -/
theorem exists_part {α β : Type} {f : α → List β} {items : List α} {k : Nat} {x : β}
    (found : (items.flatMap f)[k]? = some x) :
    ∃ i a j, items[i]? = some a ∧ (f a)[j]? = some x ∧
      k = ((items.take i).flatMap f).length + j := by
  induction items generalizing k with
  | nil => simp at found
  | cons first rest ih =>
      rw [List.flatMap_cons] at found
      rcases Nat.lt_or_ge k (f first).length with here | later
      · rw [List.getElem?_append_left here] at found
        exact ⟨0, first, k, rfl, found, by simp⟩
      · rw [List.getElem?_append_right later] at found
        obtain ⟨i, a, j, part, inside, offset⟩ := ih found
        refine ⟨i + 1, a, j, part, inside, ?_⟩
        rw [List.take_succ_cons, List.flatMap_cons, List.length_append]
        omega

theorem length_flatMap_le {α β : Type} {f : α → List β} {items : List α}
    (few : ∀ a ∈ items, (f a).length ≤ 1) : (items.flatMap f).length ≤ items.length := by
  induction items with
  | nil => exact Nat.le_refl _
  | cons first rest ih =>
      have one := few first List.mem_cons_self
      have others := ih fun a later => few a (List.mem_cons_of_mem _ later)
      rw [List.flatMap_cons, List.length_append, List.length_cons]
      omega

namespace History

/-- How often a node has been executed in the first so many steps. -/
def executionsBefore (h : History) (steps : Nat) (id : String) : Nat :=
  ((h.steps.take steps).flatMap (·.executions id)).length

theorem executionsBefore_after (h : History) (step : Step) (i : Nat) (id : String) :
    (h.after step).executionsBefore (i + 1) id =
      (step.executions id).length + h.executionsBefore i id := by
  simp [executionsBefore, after]

end History

namespace Step

theorem mem_executions {step : Step} {id : String} {x : Execution} :
    x ∈ step.executions id ↔
      x.step = step ∧ x.ending ∈ endings step.happenings ∧ x.ending.call.nodeId = id := by
  rw [executions, List.mem_map]
  constructor
  · rintro ⟨ending, member, rfl⟩
    obtain ⟨ended, same⟩ := List.mem_filter.1 member
    exact ⟨rfl, ended, eq_of_beq same⟩
  · rintro ⟨rfl, ended, same⟩
    exact ⟨x.ending, List.mem_filter.2 ⟨ended, beq_iff_eq.2 same⟩, rfl⟩

theorem Record.executions_le {w : Workflow} {runId : String} {step : Step}
    (record : step.Record w runId) (id : String) : (step.executions id).length ≤ 1 := by
  obtain ⟨unended, shared⟩ := record.ended
  have counts : (step.executions id).length =
      ((endings step.happenings).map (·.call.nodeId)).count id := by
    rw [executions, List.length_map, List.count, List.countP_map, List.countP_eq_length_filter]
    rfl
  have whole := shared.count_eq id
  have once := List.nodup_iff_count_le_one.1 record.distinct id
  rw [List.count_append] at whole
  omega

end Step

namespace History

variable {w : Workflow} {runId : String} {h : History}

theorem executionsBefore_le (records : ∀ step ∈ h.steps, step.Record w runId) (i : Nat)
    (id : String) : h.executionsBefore i id ≤ i := by
  have most : h.executionsBefore i id ≤ (h.steps.take i).length :=
    length_flatMap_le fun step member =>
      (records step (List.mem_of_mem_take member)).executions_le id
  exact Nat.le_trans most (List.length_take_le i h.steps)

/-- An execution stands in one of the steps, and as many have gone before it as there
    are in the steps before that one. -/
theorem step_of_execution (records : ∀ step ∈ h.steps, step.Record w runId) {id : String}
    {k : Nat} {x : Execution} (found : (h.executions id)[k]? = some x) :
    ∃ i, h.steps[i]? = some x.step ∧ h.executionsBefore i id = k ∧
      x.ending ∈ endings x.step.happenings ∧ x.ending.call.nodeId = id := by
  obtain ⟨i, step, j, part, inside, offset⟩ := exists_part found
  have first : j = 0 := by
    have bound := (List.getElem?_eq_some_iff.1 inside).1
    have one := (records step (List.mem_of_getElem? part)).executions_le id
    omega
  obtain ⟨rfl, ended, own⟩ := Step.mem_executions.1 (List.mem_of_getElem? inside)
  refine ⟨i, part, ?_, ended, own⟩
  rw [offset, first]
  rfl

end History

/-- A round counts one more attempt for each node that is visited. -/
theorem Round.get?_attempts {w : Workflow} {b : Behaviour} {runId : String}
    {active unended : List String} {s : State} {visits : List Visit} {number : Nat}
    {happenings : List Happening} (round : Round w b runId active s visits unended)
    (told : endings happenings = visits.map (·.ending runId s)) (id : String) :
    (s.afterVisits runId visits).attempts.get? id = counted (s.attempts.get? id)
      (Step.executions ⟨number, active, s, happenings⟩ id).length := by
  have distinct : ((visits.map fun v => (v.node.id, s.attemptsOf v.node.id + 1)).map
      Prod.fst).Nodup := by
    rw [List.map_map]
    exact round.ids_nodup
  have attempts : (s.afterVisits runId visits).attempts = s.attempts.insertAll
      (visits.map fun v => (v.node.id, s.attemptsOf v.node.id + 1)) := by
    rw [State.afterVisits, State.attempts_applyAll, List.map_map]
    simp only [Function.comp_def, Visit.patch_nodeId, Visit.patch_attempt]
  rw [attempts, KeyMap.get?_insertAll distinct]
  by_cases visited : ∃ v ∈ visits, v.node.id = id
  · obtain ⟨v, among, rfl⟩ := visited
    have found : (visits.map fun v => (v.node.id, s.attemptsOf v.node.id + 1)).lookup v.node.id =
        some (s.attemptsOf v.node.id + 1) :=
      (KeyMap.lookup_eq_some_iff_mem distinct).2 (List.mem_map.2 ⟨v, among, rfl⟩)
    rw [found, round.executions_visited told among]
    rfl
  · have idle : ∀ v ∈ visits, v.node.id ≠ id := fun v among same => visited ⟨v, among, same⟩
    have absent : (visits.map fun v => (v.node.id, s.attemptsOf v.node.id + 1)).lookup id =
        none := by
      rw [List.lookup_eq_none_iff]
      intro entry member
      obtain ⟨v, among, rfl⟩ := List.mem_map.1 member
      simpa using (idle v among).symm
    rw [absent, Round.executions_idle told idle]
    rfl

namespace Course

variable {w : Workflow} {b : Behaviour} {runId : String} {limit left number : Nat}
  {active : List String} {s : State} {h : History}

/-- At every boundary the executions so far have been counted. -/
theorem get?_attempts (valid : w.Valid) (course : Course w b runId limit left number active s h)
    {i : Nat} {later : State} (found : (w.boundaries s h)[i]? = some later) (id : String) :
    later.attempts.get? id = counted (s.attempts.get? id) (h.executionsBefore i id) := by
  induction course generalizing i with
  | finished | limited | crashed =>
      obtain ⟨rfl, rfl⟩ : i = 0 ∧ _ = later := by
        simpa [Workflow.boundaries, History.completed, List.getElem?_cons] using found
      rfl
  | step busy round told rest ih =>
      rw [rest.boundaries_after valid round told] at found
      cases i with
      | zero =>
          obtain rfl := Option.some.inj found
          rfl
      | succ i =>
          rw [ih found, History.executionsBefore_after, round.get?_attempts told, counted_add]

/-- Along the boundaries nothing is forgotten. -/
theorem within (valid : w.Valid) (course : Course w b runId limit left number active s h) :
    (w.boundaries s h).Pairwise State.Within ∧ ∀ later ∈ w.boundaries s h, s.Within later := by
  induction course with
  | finished | limited | crashed =>
      simp [Workflow.boundaries, History.completed, State.Within.refl]
  | step busy round told rest ih =>
      obtain ⟨chain, first⟩ := ih
      rw [rest.boundaries_after valid round told]
      have grown : ∀ later ∈ w.boundaries _ _, State.Within _ later := fun later member =>
        (State.within_applyAll _ _).trans (first later member)
      exact ⟨List.pairwise_cons.2 ⟨grown, chain⟩,
        List.forall_mem_cons.2 ⟨.refl _, grown⟩⟩

end Course

theorem Workflow.completion_attempt (w : Workflow) (step : Step) (n : Node) (x : Ending) :
    (w.completion step n x).patch.attempt = x.call.attempt := by
  unfold completion Station.completion Node.complete
  cases x.answer <;> rfl

def Event.attempt? : Event → Option Nat
  | .nodeStarted _ _ attempt | .nodeSucceeded _ _ attempt _ | .nodeFailed _ _ attempt _ _ =>
      some attempt
  | .runStarted .. | .stepStarted .. | .runComplete .. => none

theorem Happening.attempt?_event (x : Happening) (runId : String) :
    (x.event runId).attempt? = some x.call.attempt := by
  cases x with
  | started call => rfl
  | ended call answer elapsed => cases answer <;> rfl

section

variable {τ ε : Type} {e : Engine τ ε} {w : Workflow} {runId prompt : String}
  {given : Metadata} {t : τ}

/-- The executions of a node are numbered one after another over the whole run, in
    what executors are told, in events and in patches. At every boundary the attempts
    of a node are its executions so far, so the numbers stay within 32 bits if those
    of the steps do; and no output, metadata or count is ever lost. -/
theorem attempts_count_executions (faithful : e.worker.Faithful) (orderly : e.worker.Orderly)
    {start : String} {h : History}
    (ran : (e.run w runId prompt given t).2.course = .ok (start, h))
    (few : h.steps.length < twoTo 32) :
    (∀ id k x, (h.executions id)[k]? = some x →
      x.ending.call.attempt = k + 1 ∧
      (∀ n ∈ w.nodes, n.id = id → (w.completion x.step n x.ending).patch.attempt = k + 1) ∧
      ∀ y ∈ x.step.happenings, y.call.nodeId = id → (y.event runId).attempt? = some (k + 1)) ∧
    (∀ i step, h.steps[i]? = some step →
      (w.boundaries (Engine.startState w prompt given) h)[i]? = some step.before ∧
      (∀ y ∈ step.happenings, y.call.attempt = h.executionsBefore i y.call.nodeId + 1 ∧
        (y.event runId).attempt? = some (h.executionsBefore i y.call.nodeId + 1)) ∧
      ∀ id, step.before.attemptsOf id + 1 < twoTo 32) ∧
    (∀ i s, (w.boundaries (Engine.startState w prompt given) h)[i]? = some s →
      ∀ id, s.attempts.get? id =
        if h.executionsBefore i id = 0 then none else some (h.executionsBefore i id)) ∧
    (∀ last, h.outcome = .ok last →
      (w.boundaries (Engine.startState w prompt given) h).getLast? = some last) ∧
    (w.boundaries (Engine.startState w prompt given) h).Pairwise State.Within ∧
    ∀ s ∈ w.boundaries (Engine.startState w prompt given) h, s.prompt = prompt := by
  obtain ⟨valid, _, course⟩ := Engine.course_of_run faithful (e.worker.shows_any e.resolve) ran
  obtain ⟨records, _⟩ := Engine.records_of_run faithful orderly ran
  have counts {i : Nat} {s : State}
      (found : (w.boundaries (Engine.startState w prompt given) h)[i]? = some s) (id : String) :
      s.attempts.get? id = counted none (h.executionsBefore i id) :=
    course.get?_attempts valid found id
  have before {i : Nat} {step : Step} (found : h.steps[i]? = some step) (id : String) :
      step.before.attemptsOf id = h.executionsBefore i id := by
    rw [State.attemptsOf, counts (course.boundary_before valid found), getD_counted]
  have called {i : Nat} {step : Step} (found : h.steps[i]? = some step) {y : Happening}
      (member : y ∈ step.happenings) :
      y.call.attempt = h.executionsBefore i y.call.nodeId + 1 := by
    obtain ⟨n, _, same⟩ := (records step (List.mem_of_getElem? found)).called y member
    rw [same, ← before found]
    rfl
  refine ⟨?_, ?_, ?_, ?_, (course.within valid).1, ?_⟩
  · intro id k x found
    obtain ⟨i, part, rfl, ended, rfl⟩ := History.step_of_execution records found
    have attempt : x.ending.call.attempt = h.executionsBefore i x.ending.call.nodeId + 1 :=
      called part (mem_endings.1 ended)
    refine ⟨attempt, fun n _ _ => (w.completion_attempt x.step n x.ending).trans attempt, ?_⟩
    intro y member same
    rw [Happening.attempt?_event, called part member, same]
  · intro i step found
    refine ⟨course.boundary_before valid found, fun y member => ?_, fun id => ?_⟩
    · rw [Happening.attempt?_event, called found member]
      exact ⟨rfl, rfl⟩
    · have inside := (List.getElem?_eq_some_iff.1 found).1
      have most := History.executionsBefore_le records i id
      rw [before found]
      omega
  · intro i s found id
    rw [counts found]
    simp [counted]
  · exact fun last ended => course.boundary_last valid ended
  · intro s member
    exact ((course.within valid).2 s member).prompt

end

open Diamond in
theorem attempts_count_executions_diamond :
    ∃ h, (pooled.run flow "one" "go" .empty ⟨[], ()⟩).2.course = .ok ("a", h) ∧
      h.steps.length < twoTo 32 ∧
      (∀ id k x, (h.executions id)[k]? = some x → x.ending.call.attempt = k + 1) ∧
      ∀ i s, (flow.boundaries (Engine.startState flow "go" .empty) h)[i]? = some s →
        ∀ id, s.attempts.get? id =
          if h.executionsBefore i id = 0 then none else some (h.executionsBefore i id) := by
  obtain ⟨h, ran⟩ := pooled_ready.exists_history "one" "go" .empty
  have few : h.steps.length < twoTo 32 := by
    obtain ⟨_, _, course⟩ :=
      Engine.course_of_run (Pool.worker_faithful 1) (Worker.shows_any _ _) ran
    exact Nat.lt_of_le_of_lt course.length_le (by decide)
  obtain ⟨numbers, _, counts, _⟩ :=
    attempts_count_executions (Pool.worker_faithful 1) (Pool.worker_orderly 1) ran few
  exact ⟨h, ran, few, fun id k x found => (numbers id k x found).1, counts⟩

end Superstep
