import Superstep.Proofs.Allowance
import Superstep.Proofs.Boundaries

/-! # Where failures lead

A node with a router that fails is sent back to itself, or goes along the first edge
whose condition holds. There is one case besides: a failure that leaves attempts over
is not retried when the node has succeeded before, and then takes every open edge, as
a success does.
-/

namespace Superstep

/-- An execution leads nowhere but back to its node, or along one edge with a condition
    that holds in its own view. -/
def Workflow.Contained (w : Workflow) (n : Node) (x : Execution) : Prop :=
  (w.completion x.step n x.ending).targets = [n.id] ∨
    (w.completion x.step n x.ending).targets.length ≤ 1 ∧
      ∀ target ∈ (w.completion x.step n x.ending).targets,
        ∃ e ∈ w.outgoing n.id, e.target = target ∧ e.Holds (w.ownView n x)

namespace Workflow

variable {w : Workflow} {n : Node} {s : State}

theorem length_fallbackTarget (w : Workflow) (id : String) (s : State) :
    (w.fallbackTarget id s).length ≤ 1 := by
  unfold fallbackTarget
  cases w.edges.find? fun e => e.source = id ∧ e.Holds s <;> simp

theorem edge_of_fallbackTarget {id target : String} (member : target ∈ w.fallbackTarget id s) :
    ∃ e ∈ w.outgoing id, e.target = target ∧ e.Holds s := by
  rw [fallbackTarget, Option.mem_toList, Option.map_eq_some_iff] at member
  obtain ⟨e, found, same⟩ := member
  have holding := List.find?_some found
  obtain ⟨source, holds⟩ := of_decide_eq_true holding
  refine ⟨e, ?_, same, holds⟩
  exact List.mem_filter.2 ⟨List.mem_of_find?_eq_some found, beq_iff_eq.2 source⟩

/-- With an output and attempts left neither the retry rule nor the one for the last
    failure applies. -/
theorem routeOf_next_relapse {router : Router} (route : w.routeOf n = .dynamic router)
    (told : s.outputs.contains n.id = true) (left : s.attemptsOf n.id < n.maxAttempts) :
    (w.routeOf n).next s = w.openTargets n.id s := by
  rw [openTargets_eq]
  rcases w.routeOf_cases n with same | ⟨_, ⟨other, _⟩ | ⟨_, other, _⟩⟩
  · have noRetry : Router.retries ⟨n.id, n.maxAttempts, w.exits n.id⟩ s = false := by
      simp [Router.retries, told]
    have notUp : Router.exhausted ⟨n.id, n.maxAttempts, w.exits n.id⟩ s = false := by
      simp [Router.exhausted, left]
    simp only [same, Route.next, Router.next, noRetry, notUp, Bool.false_eq_true, if_false]
  · rw [route] at other
    cases other
  · rw [route] at other
    cases other

end Workflow

/-- An execution that does not find the node with failures only comes after a success. -/
theorem History.fails_or_succeeds {h : History} {id : String} {k : Nat} {x : Execution}
    (found : (h.executions id)[k]? = some x) :
    (∀ i < k, h.Fails id i) ∨ ∃ i < k, h.Succeeds id i := by
  by_cases failed : ∀ i < k, h.Fails id i
  · exact .inl failed
  · right
    push Not at failed
    obtain ⟨i, before, other⟩ := failed
    refine ⟨i, before, ?_⟩
    have inside := (List.getElem?_eq_some_iff.1 found).1
    rw [History.Fails, History.success?, List.getElem?_eq_getElem (by omega)] at other
    rw [History.Succeeds, History.success?, List.getElem?_eq_getElem (by omega)]
    simpa using other

namespace Course

variable {w : Workflow} {b : Behaviour} {runId prompt : String} {given : Metadata}
  {limit left number : Nat} {active : List String} {h : History} {n : Node}

/-- The own view of a failed execution: it has an error, as many attempts as the node
    has had, and an output exactly if one of the earlier executions was a success. -/
theorem ownView_of_failure (valid : w.Valid)
    (course : Course w b runId limit left number active (Engine.startState w prompt given) h)
    (member : n ∈ w.nodes) {k : Nat} {x : Execution} {cause : Failure}
    (found : (h.executions n.id)[k]? = some x) (failed : x.ending.answer = .error cause) :
    (w.ownView n x).error.isSome = true ∧ (w.ownView n x).attemptsOf n.id = k + 1 ∧
      (w.ownView n x).outputs.get? n.id = lastOutput? ((h.executions n.id).take k) := by
  obtain ⟨attempts, outputs⟩ := course.found_before found
  obtain ⟨v, inside, same, visit⟩ := course.exists_visit (List.mem_of_getElem? found)
  obtain rfl := valid.node_unique inside member same
  have answered : v.answer = .error cause := by
    rw [visit] at failed
    exact failed
  have own : w.ownView v.node x = x.step.before.apply (v.patch runId x.step.before) := by
    rw [visit]
    rfl
  rw [own]
  refine ⟨?_, ?_, ?_⟩
  · rw [State.error_apply, v.error_patch_error answered]
    rfl
  · rw [v.attemptsOf_ownView, attempts]
    exact congrArg (· + 1) (Nat.zero_add k)
  · rw [State.get?_apply, if_pos (v.patch_nodeId ..), v.patch_output, answered, outputs]
    exact Option.or_none ..

end Course

section

variable {τ ε : Type} {e : Engine τ ε} {w : Workflow} {runId prompt : String}
  {given : Metadata} {t : τ}

/-- A failure of a node with a router leads nowhere but back to the node or along an
    edge with a condition that holds, unless the node has succeeded before and has
    attempts left. Then it takes the open edges. Attempts stay within 32 bits if the
    numbers of the steps do. -/
theorem failures_contained (faithful : e.worker.Faithful) {start : String} {h : History}
    (ran : (e.run w runId prompt given t).2.course = .ok (start, h))
    (few : h.steps.length < twoTo 32) {n : Node} (member : n ∈ w.nodes) {router : Router}
    (route : w.routeOf n = .dynamic router) {k : Nat} {x : Execution}
    (found : (h.executions n.id)[k]? = some x) {cause : Failure}
    (failed : x.ending.answer = .error cause) :
    (x.ending.call.attempt = k + 1 ∧ k + 1 < twoTo 32) ∧
    (w.Contained n x ∨ k + 1 < n.maxAttempts ∧ ∃ i < k, h.Succeeds n.id i) ∧
    (k + 1 < n.maxAttempts → (∀ i < k, h.Fails n.id i) →
      (w.completion x.step n x.ending).targets = [n.id]) ∧
    (n.maxAttempts ≤ k + 1 → (w.completion x.step n x.ending).targets =
      w.fallbackTarget n.id (w.ownView n x)) ∧
    (k + 1 < n.maxAttempts → (∃ i < k, h.Succeeds n.id i) →
      (w.completion x.step n x.ending).targets = w.openTargets n.id (w.ownView n x)) := by
  obtain ⟨valid, _, course⟩ := Engine.course_of_run faithful (e.worker.shows_any e.resolve) ran
  obtain ⟨wrong, attempts, output⟩ := course.ownView_of_failure valid member found failed
  have routed : (w.completion x.step n x.ending).targets =
      (w.routeOf n).next (w.ownView n x) := rfl
  have retried (left : k + 1 < n.maxAttempts) (all : ∀ i < k, h.Fails n.id i) :
      (w.completion x.step n x.ending).targets = [n.id] := by
    have silent : (w.ownView n x).outputs.contains n.id = false := by
      rw [Outputs.contains, output, (History.silent_iff found).2 all]
      rfl
    rw [routed]
    exact Workflow.routeOf_next_retry wrong silent (by omega) (by omega)
  have last (used : n.maxAttempts ≤ k + 1) : (w.completion x.step n x.ending).targets =
      w.fallbackTarget n.id (w.ownView n x) := by
    rw [routed]
    exact Workflow.routeOf_next_exhausted route wrong (by omega)
  have relapse (left : k + 1 < n.maxAttempts) (some_ : ∃ i < k, h.Succeeds n.id i) :
      (w.completion x.step n x.ending).targets = w.openTargets n.id (w.ownView n x) := by
    rw [routed]
    refine Workflow.routeOf_next_relapse route ?_ (by omega)
    rw [Outputs.contains, output, Option.isSome_iff_ne_none, ne_eq, History.silent_iff found]
    intro all
    obtain ⟨i, before, succeeded⟩ := some_
    have failed := all i before
    rw [History.Fails, succeeded] at failed
    cases failed
  refine ⟨⟨?_, ?_⟩, ?_, retried, last, relapse⟩
  · rw [course.attempt_of_execution found]
    exact congrArg (· + 1) (Nat.zero_add k)
  · have inside := (List.getElem?_eq_some_iff.1 found).1
    have most := course.length_executions_le n.id
    omega
  rcases Nat.lt_or_ge (k + 1) n.maxAttempts with left | used
  · rcases History.fails_or_succeeds found with all | some_
    · exact .inl (.inl (retried left all))
    · exact .inr ⟨left, some_⟩
  · refine .inl (.inr ?_)
    rw [last used]
    exact ⟨w.length_fallbackTarget .., fun target member => Workflow.edge_of_fallbackTarget member⟩

end

/-! ## A relapse -/

namespace Relapse

/-- A node with retries, which says when it has failed. -/
def first : Node :=
  { Node.plain "x" "work" with maxRetries := 2, onError := some "{stop: true}" }

/-- Two nodes that lead to each other until the first one has failed. -/
def flow : Workflow where
  plan := ""
  diagram := ""
  nodes := [first, .plain "y" "work"]
  edges := [.always "x" "y", .conditional "y" "x" "!metadata.stop"]
  startNode := "x"
  endNode := "y"
  initialMetadata := none

/-- The first node fails when it is called again. -/
def answer (id : String) (attempt : Nat) : Answer :=
  if id = "x" ∧ attempt = 2 then .error (.task "work" "no more") else .ok ("done " ++ id)

def engine : Engine Unit (Call → Answer) where
  settings := {}
  resolve _ := .ok fun call => answer call.nodeId call.attempt
  openSessions _ t := (t, .ok ())
  worker := .oneByOne id

theorem ready : engine.Ready flow () where
  valid := by decide +kernel
  resolved _ _ := ⟨_, rfl⟩
  opened _ _ := rfl
  calm _ _ := rfl

theorem member_first : first ∈ flow.nodes :=
  List.mem_cons_self

theorem routeOf_first : flow.routeOf first = .dynamic ⟨"x", 3, flow.exits "x"⟩ := by
  rfl

theorem few_steps {h : History}
    (ran : (engine.run flow "one" "go" .empty ()).2.course = .ok ("x", h)) :
    h.steps.length < twoTo 32 := by
  obtain ⟨_, _, course⟩ :=
    Engine.course_of_run (Worker.oneByOne_faithful fun _ => .refl _) (Worker.shows_any _ _) ran
  exact Nat.lt_of_le_of_lt course.length_le (by decide)

/-- The first node succeeds, and its failure after that leads on all the same. -/
theorem executions_first :
    ∃ h x cause, (engine.run flow "one" "go" .empty ()).2.course = .ok ("x", h) ∧
      h.Succeeds "x" 0 ∧ (h.executions "x")[1]? = some x ∧ x.ending.answer = .error cause ∧
      (flow.completion x.step first x.ending).targets = ["y"] := by
  obtain ⟨h, ran⟩ := ready.exists_history "one" "go" .empty
  have facts : (match (engine.run flow "one" "go" .empty ()).2.course with
      | .ok (_, h) => decide (h.Succeeds "x" 0 ∧ h.Fails "x" 1 ∧
          (h.executions "x")[1]?.map (fun x => (flow.completion x.step first x.ending).targets) =
            some ["y"])
      | .error _ => false) = true := by
    decide +kernel
  rw [ran] at facts
  obtain ⟨succeeded, failed, routed⟩ := of_decide_eq_true facts
  obtain ⟨x, found, answer⟩ := Option.map_eq_some_iff.1 failed
  obtain ⟨cause, answered⟩ := exists_error answer
  rw [found, Option.map_some, Option.some.injEq] at routed
  exact ⟨h, x, cause, ran, succeeded, found, answered, routed⟩

end Relapse

open Relapse in
theorem failures_contained_relapse :
    ∃ h x cause, (engine.run flow "one" "go" .empty ()).2.course = .ok ("x", h) ∧
      h.steps.length < twoTo 32 ∧
      (h.executions first.id)[1]? = some x ∧ x.ending.answer = .error cause ∧
      (flow.completion x.step first x.ending).targets =
        flow.openTargets first.id (flow.ownView first x) := by
  obtain ⟨h, x, cause, ran, succeeded, found, answered, _⟩ := executions_first
  have rules := failures_contained (Worker.oneByOne_faithful fun _ => .refl _) ran (few_steps ran)
    member_first routeOf_first found answered
  refine ⟨h, x, cause, ran, few_steps ran, found, answered, ?_⟩
  exact rules.2.2.2.2 (by decide) ⟨0, Nat.one_pos, succeeded⟩

open Relapse in
/-- A failure of a node with a router may follow an edge without a condition. -/
theorem failure_uncontained :
    ∃ h x cause router, (engine.run flow "one" "go" .empty ()).2.course = .ok ("x", h) ∧
      first ∈ flow.nodes ∧ flow.routeOf first = .dynamic router ∧ x ∈ h.executions first.id ∧
      x.ending.answer = .error cause ∧ ¬ flow.Contained first x := by
  obtain ⟨h, x, cause, ran, _, found, answered, routed⟩ := executions_first
  refine ⟨h, x, cause, _, ran, member_first, routeOf_first, List.mem_of_getElem? found, answered,
    ?_⟩
  rintro (again | ⟨_, conditional⟩)
  · rw [routed] at again
    exact absurd again (by decide)
  · obtain ⟨e, edge, _, text, _, _, given, _⟩ :=
      conditional "y" (routed ▸ List.mem_singleton_self _)
    obtain rfl : e = .always "x" "y" := List.mem_singleton.1 edge
    cases given

end Superstep
