import Superstep.Proofs.Patches
import Superstep.Proofs.Routes
import Superstep.Proofs.Sequential

/-! # Routes that need no router

A node that is attempted once and has no edge, or a single one without a condition, is
routed without looking at the state. This is a shortcut: the router of the node would
lead to the same nodes, with one exception. After a failure the router takes no edge that
has no condition, and the direct route takes it all the same.
-/

namespace Superstep

/-- The router that a node would have whatever its edges are. -/
def Workflow.routerOf (w : Workflow) (n : Node) : Router :=
  ⟨n.id, n.maxAttempts, w.exits n.id⟩

namespace Workflow

variable {w : Workflow} {n : Node} {s : State} {target : String}

theorem exits_of_terminal (route : w.routeOf n = .terminal) :
    n.maxAttempts ≤ 1 ∧ w.exits n.id = [] := by
  rcases w.routeOf_cases n with other | ⟨once, ⟨_, none⟩ | ⟨_, other, _⟩⟩
  · rw [route] at other
    cases other
  · exact ⟨once, none⟩
  · rw [route] at other
    cases other

theorem exits_of_direct (route : w.routeOf n = .direct target) :
    n.maxAttempts ≤ 1 ∧ w.exits n.id = [⟨target, .always⟩] := by
  rcases w.routeOf_cases n with other | ⟨once, ⟨other, _⟩ | ⟨only, same, exits⟩⟩
  · rw [route] at other
    cases other
  · rw [route] at other
    cases other
  · obtain rfl := Route.direct.inj (route.symm.trans same)
    exact ⟨once, exits⟩

/-- After a success every route leads where the router does. -/
theorem next_routeOf_of_clear (clear : s.error = none) :
    (w.routeOf n).next s = (w.routerOf n).next s := by
  rw [routeOf_next_success clear, Router.next_of_clear clear, openTargets_eq]
  rfl

/-- After the last failure the router finds no condition that holds among edges that have
    none. -/
theorem next_routerOf_of_failure (failed : s.error.isSome = true)
    (used : n.maxAttempts ≤ s.attemptsOf n.id)
    (plain : ∀ x ∈ w.exits n.id, x.guard = .always) : (w.routerOf n).next s = [] := by
  have none : (w.exits n.id).find? (·.guard.holds s.conditionContext) = none := by
    rw [List.find?_eq_none]
    intro x exit holds
    rw [plain x exit] at holds
    cases holds
  rw [Router.next_of_exhausted failed used, routerOf, none]
  rfl

end Workflow

/-- In a state that a completion of a node has just made, a node that may be attempted once
    has used up its attempts. -/
theorem State.used_of_own (s : State) {p : Patch} {n : Node} (own : p.nodeId = n.id)
    (begun : 1 ≤ p.attempt) (once : n.maxAttempts ≤ 1) :
    n.maxAttempts ≤ (s.apply p).attemptsOf n.id := by
  rw [State.attemptsOf_apply, if_pos own.symm]
  exact Nat.le_trans once begun

/-- A node has its router, no route or a direct one. From a state that a completion of the
    node has made out of any other, a shortcut leads where the router does, but for a direct
    route after a failure: this keeps to its target, where the router ends the branch. -/
theorem shortcuts_follow_router (w : Workflow) (n : Node) (s : State) {p : Patch}
    (own : p.nodeId = n.id) (begun : 1 ≤ p.attempt) :
    (w.routeOf n = .terminal ∨ (∃ target, w.routeOf n = .direct target) ∨
      w.routeOf n = .dynamic (w.routerOf n)) ∧
    (p.error = none → (w.routeOf n).next (s.apply p) = (w.routerOf n).next (s.apply p)) ∧
    (p.error.isSome = true →
      (w.routeOf n = .terminal →
        (w.routeOf n).next (s.apply p) = (w.routerOf n).next (s.apply p)) ∧
      ∀ target, w.routeOf n = .direct target →
        (w.routeOf n).next (s.apply p) = [target] ∧ (w.routerOf n).next (s.apply p) = []) := by
  refine ⟨?_, fun succeeded => Workflow.next_routeOf_of_clear succeeded, ?_⟩
  · rcases w.routeOf_cases n with route | ⟨_, ⟨route, _⟩ | ⟨target, route, _⟩⟩
    · exact .inr (.inr route)
    · exact .inl route
    · exact .inr (.inl ⟨target, route⟩)
  · intro failed
    constructor
    · intro route
      obtain ⟨once, exits⟩ := Workflow.exits_of_terminal route
      have plain : ∀ x ∈ w.exits n.id, x.guard = .always := by simp [exits]
      rw [Workflow.next_routerOf_of_failure failed (s.used_of_own own begun once) plain, route]
      rfl
    · intro target route
      obtain ⟨once, exits⟩ := Workflow.exits_of_direct route
      have plain : ∀ x ∈ w.exits n.id, x.guard = .always := by simp [exits]
      refine ⟨?_, Workflow.next_routerOf_of_failure failed (s.used_of_own own begun once) plain⟩
      rw [route]
      rfl

open Diamond in
theorem shortcuts_follow_router_diamond :
    ∃ n ∈ flow.nodes, ∃ p : Patch, p.nodeId = n.id ∧ 1 ≤ p.attempt ∧ p.error.isSome = true ∧
      flow.routeOf n = .direct "d" ∧
      ∀ s : State, (flow.routeOf n).next (s.apply p) = ["d"] ∧
        (flow.routerOf n).next (s.apply p) = [] := by
  have member : { Node.plain "c" "work" with onSuccess := some "{c: true}" } ∈ flow.nodes := by
    simp [flow]
  refine ⟨_, member, ⟨"c", none, some "no", .empty, 3⟩, rfl, by decide, rfl, rfl, fun s => ?_⟩
  obtain ⟨_, _, failure⟩ := shortcuts_follow_router flow
    { Node.plain "c" "work" with onSuccess := some "{c: true}" } s
    (p := ⟨"c", none, some "no", .empty, 3⟩) rfl (by decide)
  exact (failure rfl).2 "d" rfl

end Superstep
