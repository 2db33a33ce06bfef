import Superstep.Proofs.Retries

/-! # What executions leave behind

The output of a node is that of its last success, and its attempts are its
executions: a failure leaves the output as it is, and no other node writes either
of them. So the executions of a node tell all that its next one finds.
-/

namespace Superstep

/-- The output of an execution, if it was a success. -/
def Execution.output? (x : Execution) : Option String :=
  x.ending.answer.toOption

/-- The output of the last success among executions. -/
def lastOutput? (executions : List Execution) : Option String :=
  (executions.filterMap Execution.output?).getLast?

theorem lastOutput?_append (earlier later : List Execution) (before : Option String) :
    (lastOutput? (earlier ++ later)).or before =
      (lastOutput? later).or ((lastOutput? earlier).or before) := by
  rw [lastOutput?, List.filterMap_append, List.getLast?_append, Option.or_assoc]
  rfl

theorem lastOutput?_of_success {executions : List Execution} {x : Execution} {output : String}
    (last : executions.getLast? = some x) (answered : x.ending.answer = .ok output) :
    lastOutput? executions = some output := by
  obtain ⟨earlier, rfl⟩ := List.getLast?_eq_some_iff.1 last
  simp [lastOutput?, Execution.output?, answered, Except.toOption]

namespace Round

variable {w : Workflow} {b : Behaviour} {runId : String} {active unended : List String}
  {s : State} {visits : List Visit} {number : Nat} {happenings : List Happening}

theorem get?_afterVisits (round : Round w b runId active s visits unended) {v : Visit}
    (among : v ∈ visits) :
    (s.afterVisits runId visits).outputs.get? v.node.id =
      v.answer.toOption.or (s.outputs.get? v.node.id) := by
  have decided := State.get?_applyAll (s := s) round.patches_nodup
    (List.mem_map_of_mem (f := (·.patch runId s)) among)
  rw [Visit.patch_nodeId, Visit.patch_output] at decided
  exact decided

/-- In a round a node is executed once, or it is not visited. -/
theorem executions_cases (round : Round w b runId active s visits unended)
    (told : endings happenings = visits.map (·.ending runId s)) (number : Nat) (id : String) :
    (∃ v ∈ visits, v.node.id = id ∧ Step.executions ⟨number, active, s, happenings⟩ id =
        [v.execution runId ⟨number, active, s, happenings⟩]) ∨
      (∀ v ∈ visits, v.node.id ≠ id) ∧
        Step.executions ⟨number, active, s, happenings⟩ id = [] := by
  by_cases visited : ∃ v ∈ visits, v.node.id = id
  · obtain ⟨v, among, rfl⟩ := visited
    exact .inl ⟨v, among, rfl, round.executions_visited told among⟩
  · have idle : ∀ v ∈ visits, v.node.id ≠ id := fun v among same => visited ⟨v, among, same⟩
    exact .inr ⟨idle, executions_idle told idle⟩

theorem length_executions_le (round : Round w b runId active s visits unended)
    (told : endings happenings = visits.map (·.ending runId s)) (number : Nat) (id : String) :
    (Step.executions ⟨number, active, s, happenings⟩ id).length ≤ 1 := by
  rcases round.executions_cases told number id with ⟨_, _, _, once⟩ | ⟨_, none_⟩
  · rw [once]
    exact Nat.le_refl 1
  · rw [none_]
    exact Nat.zero_le 1

/-- A round leaves behind what the execution of a node in it does, if there is one. -/
theorem left_behind (round : Round w b runId active s visits unended)
    (told : endings happenings = visits.map (·.ending runId s)) (number : Nat) (id : String) :
    (s.afterVisits runId visits).attemptsOf id = s.attemptsOf id +
        (Step.executions ⟨number, active, s, happenings⟩ id).length ∧
      (s.afterVisits runId visits).outputs.get? id =
        (lastOutput? (Step.executions ⟨number, active, s, happenings⟩ id)).or
          (s.outputs.get? id) := by
  rcases round.executions_cases told number id with ⟨v, among, rfl, once⟩ | ⟨idle, none_⟩
  · rw [once, round.attemptsOf_afterVisits among, round.get?_afterVisits among]
    refine ⟨rfl, ?_⟩
    cases answered : v.answer with
    | ok output =>
        simp [lastOutput?, Execution.output?, Visit.execution, Visit.ending, answered,
          Except.toOption]
    | error cause =>
        simp [lastOutput?, Execution.output?, Visit.execution, Visit.ending, answered,
          Except.toOption]
  · have others : ∀ p ∈ visits.map (·.patch runId s), p.nodeId ≠ id := by
      intro p member same
      obtain ⟨v, among, rfl⟩ := List.mem_map.1 member
      exact idle v among (by rwa [Visit.patch_nodeId] at same)
    rw [none_]
    exact ⟨State.attemptsOf_applyAll_other others, State.get?_applyAll_other others⟩

/-- A round executes a node at most once, in the state that it starts from. -/
theorem first_execution (round : Round w b runId active s visits unended)
    (told : endings happenings = visits.map (·.ending runId s)) {number k : Nat} {id : String}
    {x : Execution} (found : (Step.executions ⟨number, active, s, happenings⟩ id)[k]? = some x) :
    k = 0 ∧ x.step.before = s := by
  rcases round.executions_cases told number id with ⟨v, _, _, once⟩ | ⟨_, none_⟩
  · rw [once, List.getElem?_singleton] at found
    split at found
    next first =>
      obtain rfl := Option.some.inj found
      exact ⟨first, rfl⟩
    next => cases found
  · rw [none_] at found
    cases found

end Round

namespace Course

variable {w : Workflow} {b : Behaviour} {runId : String} {limit left number : Nat}
  {active : List String} {s : State} {h : History}

/-- An execution finds the node with the attempts and the output that the executions
    before it have left behind. -/
theorem found_before (course : Course w b runId limit left number active s h) {id : String}
    {k : Nat} {x : Execution} (found : (h.executions id)[k]? = some x) :
    x.step.before.attemptsOf id = s.attemptsOf id + k ∧
      x.step.before.outputs.get? id =
        (lastOutput? ((h.executions id).take k)).or (s.outputs.get? id) := by
  induction course generalizing k with
  | finished | limited => cases found
  | crashed busy round told =>
      simp only [History.executions, List.flatMap_cons, List.flatMap_nil, List.append_nil]
        at found ⊢
      obtain ⟨rfl, same⟩ := round.first_execution told found
      rw [same]
      exact ⟨rfl, rfl⟩
  | @step left number active s happenings visits h busy round told later ih =>
      obtain ⟨attempts, outputs⟩ := round.left_behind told number id
      rw [History.executions_after] at found ⊢
      by_cases here : k < (Step.executions ⟨number, active, s, happenings⟩ id).length
      · rw [List.getElem?_append_left here] at found
        obtain ⟨rfl, same⟩ := round.first_execution told found
        rw [same]
        exact ⟨rfl, rfl⟩
      · rw [Nat.not_lt] at here
        rw [List.getElem?_append_right here] at found
        obtain ⟨counted, known⟩ := ih found
        rw [counted, known, attempts, outputs, List.take_append, List.take_of_length_le here,
          lastOutput?_append]
        exact ⟨by omega, rfl⟩

/-- Every execution is that of a visit. -/
theorem exists_visit (course : Course w b runId limit left number active s h) {id : String}
    {x : Execution} (member : x ∈ h.executions id) :
    ∃ v : Visit, v.node ∈ w.nodes ∧ v.node.id = id ∧ x = v.execution runId x.step := by
  have visited {active unended : List String} {s : State} {visits : List Visit} {number : Nat}
      {happenings : List Happening} (round : Round w b runId active s visits unended)
      (told : endings happenings = visits.map (·.ending runId s))
      (own : x ∈ Step.executions ⟨number, active, s, happenings⟩ id) :
      ∃ v : Visit, v.node ∈ w.nodes ∧ v.node.id = id ∧ x = v.execution runId x.step := by
    rw [Round.executions_eq told] at own
    obtain ⟨v, listed, rfl⟩ := List.mem_map.1 own
    obtain ⟨among, same⟩ := List.mem_filter.1 listed
    exact ⟨v, round.inside v among, eq_of_beq same, rfl⟩
  induction course with
  | finished | limited => cases member
  | crashed busy round told =>
      rw [History.executions, List.flatMap_cons, List.flatMap_nil, List.append_nil] at member
      exact visited round told member
  | step busy round told later ih =>
      rw [History.executions_after, List.mem_append] at member
      rcases member with own | rest
      · exact visited round told own
      · exact ih rest

/-- Executions are numbered one after another, as long as nothing was attempted before. -/
theorem attempt_of_execution (course : Course w b runId limit left number active s h) {id : String}
    {k : Nat} {x : Execution} (found : (h.executions id)[k]? = some x) :
    x.ending.call.attempt = s.attemptsOf id + k + 1 := by
  obtain ⟨v, _, rfl, visit⟩ := course.exists_visit (List.mem_of_getElem? found)
  rw [← (course.found_before found).1, visit]
  rfl

/-- A node is executed in no more steps than there are. -/
theorem length_executions_le (course : Course w b runId limit left number active s h)
    (id : String) : (h.executions id).length ≤ h.steps.length := by
  induction course with
  | finished | limited => exact Nat.le_refl 0
  | @crashed left number active _ s happenings _ busy round told =>
      rw [History.executions, List.flatMap_singleton]
      exact round.length_executions_le told number id
  | @step left number active s happenings visits h busy round told later ih =>
      have here := round.length_executions_le told number id
      rw [History.executions_after, List.length_append, History.after, List.length_cons]
      omega

/-- At the end a node has the output of its last success. -/
theorem get?_last (course : Course w b runId limit left number active s h) {last : State}
    (ended : h.outcome = .ok last) (id : String) :
    last.outputs.get? id = (lastOutput? (h.executions id)).or (s.outputs.get? id) := by
  induction course with
  | finished =>
      cases ended
      rfl
  | limited | crashed => cases ended
  | @step left number active s happenings visits h busy round told later ih =>
      rw [History.executions_after, lastOutput?_append, ih ended,
        (round.left_behind told number id).2]

end Course

end Superstep
