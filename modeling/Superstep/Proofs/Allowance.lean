import Superstep.Proofs.Answers

/-! # The retries that a node is allowed

A node is sent back to itself only while all of its executions have failed and
attempts are left. Neither attempts nor outputs are ever taken back, however often
a run comes by the node again, so this is over after the first success and after
as many failures as the node has retries.
-/

namespace Superstep

/-- Whether the route sends a node back to itself because of its retry rule. -/
def Route.retries : Route → State → Bool
  | .dynamic router, s => router.retries s
  | .direct _, _ | .terminal, _ => false

/-- Whether the retry rule sends a node back to itself after an execution. -/
def Workflow.resends (w : Workflow) (n : Node) (x : Execution) : Bool :=
  (w.routeOf n).retries (w.ownView n x)

theorem Route.next_of_retries {w : Workflow} {n : Node} {s : State}
    (again : (w.routeOf n).retries s = true) : (w.routeOf n).next s = [n.id] := by
  rcases w.routeOf_cases n with route | ⟨_, ⟨route, _⟩ | ⟨_, route, _⟩⟩
  · rw [route] at again ⊢
    have rule : Router.retries ⟨n.id, n.maxAttempts, w.exits n.id⟩ s = true := again
    simp only [Route.next, Router.next, rule, if_true]
  · rw [route] at again
    cases again
  · rw [route] at again
    cases again

theorem Visit.retries_iff {w : Workflow} {v : Visit} {runId : String} {s : State} :
    (w.routeOf v.node).retries (s.apply (v.patch runId s)) = true ↔
      v.answer.toBool = false ∧ s.outputs.get? v.node.id = none ∧
        s.attemptsOf v.node.id + 1 < v.node.maxAttempts := by
  rcases w.routeOf_cases v.node with route | ⟨once, other⟩
  · rw [route, Route.retries, Router.retries_iff, v.attemptsOf_ownView, State.error_apply,
      Outputs.contains, State.get?_apply, if_pos (v.patch_nodeId ..), v.patch_output]
    cases answered : v.answer with
    | ok output => simp [v.error_patch_ok answered, Except.toBool]
    | error cause => simp [v.error_patch_error answered, Except.toBool, Except.toOption]
  · have never : (w.routeOf v.node).retries (s.apply (v.patch runId s)) = false := by
      rcases other with ⟨route, _⟩ | ⟨_, route, _⟩ <;> rw [route] <;> rfl
    rw [never]
    constructor
    · intro again
      cases again
    · rintro ⟨_, _, left⟩
      omega

theorem lastOutput?_eq_none_iff {executions : List Execution} :
    lastOutput? executions = none ↔ ∀ x ∈ executions, x.ending.answer.toBool = false := by
  rw [lastOutput?, List.getLast?_eq_none_iff, List.filterMap_eq_nil_iff]
  apply forall₂_congr
  intro x _
  unfold Execution.output?
  cases x.ending.answer <;> simp [Except.toOption, Except.toBool]

/-- Elements that all stand among the first so many are found there. -/
theorem filter_take_of_index {α : Type} {p : α → Bool} {items : List α} {most : Nat}
    (early : ∀ i a, items[i]? = some a → p a = true → i < most) :
    items.filter p = (items.take most).filter p := by
  have late : (items.drop most).filter p = [] := by
    rw [List.filter_eq_nil_iff]
    intro a member holds
    obtain ⟨i, found⟩ := List.mem_iff_getElem?.1 member
    rw [List.getElem?_drop] at found
    have := early _ a found holds
    omega
  calc items.filter p
      = (items.take most ++ items.drop most).filter p := by rw [List.take_append_drop]
    _ = (items.take most).filter p := by rw [List.filter_append, late, List.append_nil]

theorem length_filter_le_of_index {α : Type} {p : α → Bool} {items : List α} {most : Nat}
    (early : ∀ i a, items[i]? = some a → p a = true → i < most) :
    (items.filter p).length ≤ most := by
  rw [filter_take_of_index early]
  exact Nat.le_trans (List.length_filter_le _ _) (List.length_take_le _ _)

/-- An execution finds no output exactly if all those before it have failed. -/
theorem History.silent_iff {h : History} {id : String} {k : Nat} {x : Execution}
    (found : (h.executions id)[k]? = some x) :
    lastOutput? ((h.executions id).take k) = none ↔ ∀ i < k, h.Fails id i := by
  rw [lastOutput?_eq_none_iff]
  constructor
  · intro failed i before
    have inside := (List.getElem?_eq_some_iff.1 found).1
    have here := List.getElem?_eq_getElem (Nat.lt_trans before inside)
    have among : (h.executions id)[i] ∈ (h.executions id).take k :=
      List.mem_take_iff_getElem.2 ⟨i, by omega, rfl⟩
    rw [History.Fails, History.success?, here, Option.map_some, failed _ among]
  · intro failed y among
    obtain ⟨i, before, rfl⟩ := List.mem_take_iff_getElem.1 among
    have answer := failed i (by omega)
    rw [History.Fails, History.success?, List.getElem?_eq_getElem (by omega)] at answer
    exact Option.some.inj answer

/-- The retry rule sends a node back to itself after exactly those executions that have
    failed like all before them and leave attempts over. -/
theorem Course.resends_iff {w : Workflow} {b : Behaviour} {runId prompt : String}
    {given : Metadata} {limit left number : Nat} {active : List String} {h : History}
    (valid : w.Valid)
    (course : Course w b runId limit left number active (Engine.startState w prompt given) h)
    {n : Node} (member : n ∈ w.nodes) {k : Nat} {x : Execution}
    (found : (h.executions n.id)[k]? = some x) :
    w.resends n x = true ↔ (∀ i ≤ k, h.Fails n.id i) ∧ k + 1 < n.maxAttempts := by
  obtain ⟨attempts, outputs⟩ := course.found_before found
  obtain ⟨v, inside, same, visit⟩ := course.exists_visit (List.mem_of_getElem? found)
  obtain rfl := valid.node_unique inside member same
  have counted : x.step.before.attemptsOf v.node.id = k := attempts.trans (Nat.zero_add k)
  have known : x.step.before.outputs.get? v.node.id =
      lastOutput? ((h.executions v.node.id).take k) := outputs.trans (Option.or_none ..)
  have own : w.ownView v.node x = x.step.before.apply (v.patch runId x.step.before) := by
    rw [visit]
    rfl
  have answer : h.Fails v.node.id k ↔ v.answer.toBool = false := by
    rw [History.Fails, History.success?, found, visit]
    simp [Visit.execution, Visit.ending]
  rw [Workflow.resends, own, Visit.retries_iff, counted, known, History.silent_iff found,
    ← answer, ← and_assoc]
  refine and_congr_left fun _ => ?_
  constructor
  · rintro ⟨last, earlier⟩ i upTo
    rcases Nat.lt_or_eq_of_le upTo with before | rfl
    · exact earlier i before
    · exact last
  · exact fun all => ⟨all k (Nat.le_refl k), fun i before => all i (Nat.le_of_lt before)⟩

section

variable {τ ε : Type} {e : Engine τ ε} {w : Workflow} {runId prompt : String}
  {given : Metadata} {t : τ}

/-- Whatever way a run comes by a node, its retry rule sends it back to itself at most
    one time less than it may be attempted, and never again after a success. -/
theorem retries_within_allowance (faithful : e.worker.Faithful) {start : String} {h : History}
    (ran : (e.run w runId prompt given t).2.course = .ok (start, h)) {n : Node}
    (member : n ∈ w.nodes) :
    ((h.executions n.id).filter (w.resends n)).length ≤ n.maxAttempts - 1 ∧
    (∀ i k x, h.Succeeds n.id i → i ≤ k → (h.executions n.id)[k]? = some x →
      w.resends n x = false) ∧
    (∀ k x, (h.executions n.id)[k]? = some x →
      (w.resends n x = true ↔ (∀ i ≤ k, h.Fails n.id i) ∧ k + 1 < n.maxAttempts)) ∧
    ∀ x ∈ h.executions n.id, w.resends n x = true →
      (w.completion x.step n x.ending).targets = [n.id] := by
  obtain ⟨valid, _, course⟩ := Engine.course_of_run faithful (e.worker.shows_any e.resolve) ran
  refine ⟨length_filter_le_of_index fun k x found again => ?_,
    fun i k x succeeded later found => ?_,
    fun k x found => course.resends_iff valid member found,
    fun x _ again => Route.next_of_retries again⟩
  · obtain ⟨_, remaining⟩ := (course.resends_iff valid member found).1 again
    omega
  · rw [Bool.eq_false_iff]
    intro again
    obtain ⟨all, _⟩ := (course.resends_iff valid member found).1 again
    have failed := all i later
    rw [History.Fails, succeeded] at failed
    cases failed

end

open Diamond in
theorem retries_within_allowance_diamond :
    ∃ h, ((engine id).run flow "one" "go" .empty ()).2.course = .ok ("a", h) ∧
      ∃ n ∈ flow.nodes, n.id = "b" ∧ ((h.executions "b").filter (flow.resends n)).length ≤ 1 ∧
        ∃ x, (h.executions "b")[0]? = some x ∧ flow.resends n x = true := by
  obtain ⟨h, ran⟩ := (ready id).exists_history "one" "go" .empty
  have failed : (match ((engine id).run flow "one" "go" .empty ()).2.course with
      | .ok (_, h) => decide (h.Fails "b" 0)
      | .error _ => false) = true := by
    decide +kernel
  rw [ran] at failed
  have failed := of_decide_eq_true failed
  have member : { Node.plain "b" "work" with maxRetries := 1, onError := some "{b: true}" } ∈
      flow.nodes := by
    simp [flow]
  obtain ⟨few, _, sent, _⟩ :=
    retries_within_allowance (Worker.oneByOne_faithful fun _ => .refl _) ran member
  obtain ⟨x, found, _⟩ := Option.map_eq_some_iff.1 failed
  refine ⟨h, ran, _, member, rfl, few, x, found, (sent 0 x found).2 ⟨?_, by decide⟩⟩
  intro i upTo
  obtain rfl := Nat.le_zero.1 upTo
  exact failed

end Superstep
