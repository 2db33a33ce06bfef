import Superstep.Proofs.Patches
import Superstep.Proofs.Sequential

/-! # What a node sees of a state

A node reads the outputs as a map, the metadata and its own attempts. Its route
also reads the error and the current node, but a completion sets both before it is
routed. The prompt, the answer, the order of the outputs and the attempts of other
nodes make no difference to anyone.
-/

namespace Superstep

/-- Two states that look the same to a node, apart from what the last completion has
    set. -/
structure State.AlikeTo (id : String) (s₁ s₂ : State) : Prop where
  outputs : ∀ k, s₁.outputs.get? k = s₂.outputs.get? k
  metadata : s₁.metadata = s₂.metadata
  attempts : s₁.attemptsOf id = s₂.attemptsOf id

namespace State.AlikeTo

variable {id : String} {s₁ s₂ : State}

/-- Sorting the outputs hides in which order they came. -/
theorem sorted (alike : AlikeTo id s₁ s₂) : s₁.outputs.sorted = s₂.outputs.sorted :=
  Outputs.sorted_eq_iff.2 alike.outputs

theorem contains (alike : AlikeTo id s₁ s₂) (k : String) :
    s₁.outputs.contains k = s₂.outputs.contains k :=
  congrArg Option.isSome (alike.outputs k)

theorem isEmpty (alike : AlikeTo id s₁ s₂) : s₁.outputs.isEmpty = s₂.outputs.isEmpty := by
  rw [Bool.eq_iff_iff, Outputs.isEmpty_iff, Outputs.isEmpty_iff]
  simp only [alike.outputs]

theorem conditionContext (alike : AlikeTo id s₁ s₂) (errors : s₁.error = s₂.error)
    (current : s₁.currentNode = s₂.currentNode) : s₁.conditionContext = s₂.conditionContext := by
  simp only [State.conditionContext, Outputs.toJson, alike.sorted, alike.metadata, errors, current]

/-- A patch that is applied to both states does not make them differ. -/
theorem apply (alike : AlikeTo id s₁ s₂) (p : Patch) : AlikeTo id (s₁.apply p) (s₂.apply p) where
  outputs k := by rw [get?_apply, get?_apply, alike.outputs k]
  metadata := by rw [metadata_apply, metadata_apply, alike.metadata]
  attempts := by rw [attemptsOf_apply, attemptsOf_apply, alike.attempts]

end State.AlikeTo

section

variable {s₁ s₂ : State}

theorem Node.instructionIn_of_alike {n : Node} (alike : s₁.AlikeTo n.id s₂) :
    n.instructionIn s₁ = n.instructionIn s₂ := by
  unfold instructionIn Outputs.toJson
  rw [alike.isEmpty, alike.sorted]

theorem Router.next_of_alike {r : Router} (alike : s₁.AlikeTo r.nodeId s₂)
    (errors : s₁.error = s₂.error) (current : s₁.currentNode = s₂.currentNode) :
    r.next s₁ = r.next s₂ := by
  have retries : r.retries s₁ = r.retries s₂ := by
    unfold Router.retries
    rw [errors, alike.contains, alike.attempts]
  have exhausted : r.exhausted s₁ = r.exhausted s₂ := by
    unfold Router.exhausted
    rw [errors, alike.attempts]
  simp only [next, alike.conditionContext errors current, retries, exhausted]

theorem Workflow.routeOf_next_of_alike {w : Workflow} {n : Node} (alike : s₁.AlikeTo n.id s₂)
    (errors : s₁.error = s₂.error) (current : s₁.currentNode = s₂.currentNode) :
    (w.routeOf n).next s₁ = (w.routeOf n).next s₂ := by
  rcases w.routeOf_cases n with route | ⟨_, ⟨route, _⟩ | ⟨_, route, _⟩⟩ <;> rw [route]
  · exact Router.next_of_alike alike errors current
  · rfl
  · rfl

/-- The instruction and the route of a compiled node depend on nothing but the outputs
    as a map, the metadata, the attempts of the node, and for the route the error and
    the current node. When a completion has set these two, it is routed the same
    whatever they were before. -/
theorem irrelevant_state_ignored {ε : Type} {resolve : String → Except Failure ε} {w : Workflow}
    {g : Graph ε} (compiled : Graph.compile resolve w = .ok g) {id : String} {station : Station ε}
    (found : g.station? id = some station)
    (outputs : ∀ k, s₁.outputs.get? k = s₂.outputs.get? k) (metadata : s₁.metadata = s₂.metadata)
    (attempts : s₁.attemptsOf id = s₂.attemptsOf id) :
    station.node.instructionIn s₁ = station.node.instructionIn s₂ ∧
    (s₁.error = s₂.error → s₁.currentNode = s₂.currentNode →
      station.route.next s₁ = station.route.next s₂) ∧
    ∀ p, station.route.next (s₁.apply p) = station.route.next (s₂.apply p) := by
  obtain ⟨rfl, _, _, route⟩ :=
    Graph.station_of_compile compiled (g.stations.get?_eq_some_iff.1 found)
  have alike : s₁.AlikeTo station.node.id s₂ := ⟨outputs, metadata, attempts⟩
  rw [route]
  refine ⟨Node.instructionIn_of_alike alike, Workflow.routeOf_next_of_alike alike, fun p => ?_⟩
  exact Workflow.routeOf_next_of_alike (alike.apply p) rfl rfl

end

namespace Diamond

/-- Two branches have been taken. -/
def forth : State :=
  { State.initial "go" .empty with outputs := (Outputs.empty.insert "a" "x").insert "c" "y" }

/-- The same, in the other order and in another run. -/
def back : State :=
  { State.initial "stop" .empty with
    outputs := (Outputs.empty.insert "c" "y").insert "a" "x"
    finalAnswer := some "y"
    attempts := KeyMap.empty.insert "c" 1 }

end Diamond

open Diamond in
theorem irrelevant_state_ignored_diamond :
    ∃ g station, Graph.compile (engine id).resolve flow = .ok g ∧
      g.station? "b" = some station ∧
      station.node.instructionIn forth = station.node.instructionIn back ∧
      station.route.next forth = station.route.next back ∧
      ∀ p, station.route.next (forth.apply p) = station.route.next (back.apply p) := by
  obtain ⟨g, compiled⟩ := Graph.exists_compile (ready id).valid (ready id).resolved
  obtain ⟨n, member, named⟩ : ∃ n ∈ flow.nodes, n.id = "b" := by decide +kernel
  obtain ⟨executor, _, found⟩ := Graph.station?_compile compiled member
  rw [named] at found
  have outputs (k : String) : forth.outputs.get? k = back.outputs.get? k := by
    simp only [forth, back, Outputs.get?_insert, Outputs.get?_empty]
    by_cases own : k = "a" <;> simp [own]
  obtain ⟨input, route, own⟩ :=
    irrelevant_state_ignored compiled found outputs rfl (by decide)
  exact ⟨g, _, compiled, found, input, route rfl rfl, own⟩

end Superstep
