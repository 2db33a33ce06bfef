import Superstep.Proofs.Course
import Superstep.Proofs.Patches

/-! # What visits change

Every patch counts one attempt of its node and nothing of the others, and gives
its node an output if it is a success. Since no node is visited twice in a step,
this is also what the visits of a step do together, in any order.
-/

namespace Superstep

namespace Round

variable {w : Workflow} {b : Behaviour} {runId : String} {active unended : List String}
  {s : State} {visits : List Visit}

theorem patches_nodup (round : Round w b runId active s visits unended) :
    ((visits.map (·.patch runId s)).map Patch.nodeId).Nodup := by
  rw [List.map_map]
  simpa only [Function.comp_def, Visit.patch_nodeId] using round.ids_nodup

theorem attemptsOf_afterVisits (round : Round w b runId active s visits unended) {v : Visit}
    (among : v ∈ visits) :
    (s.afterVisits runId visits).attemptsOf v.node.id = s.attemptsOf v.node.id + 1 := by
  have counted := State.attemptsOf_applyAll (s := s) round.patches_nodup
    (List.mem_map_of_mem (f := (·.patch runId s)) among)
  rw [Visit.patch_nodeId, Visit.patch_attempt] at counted
  exact counted

theorem attemptsOf_afterVisits_other (round : Round w b runId active s visits unended)
    {id : String} (idle : id ∉ active) :
    (s.afterVisits runId visits).attemptsOf id = s.attemptsOf id := by
  apply State.attemptsOf_applyAll_other
  intro p member same
  obtain ⟨v, among, rfl⟩ := List.mem_map.1 member
  rw [Visit.patch_nodeId] at same
  exact idle (same ▸ round.mem_active among)

theorem contains_afterVisits (id : String) :
    (s.afterVisits runId visits).outputs.contains id =
      (visits.any (fun v => decide (v.node.id = id) && v.answer.toBool) ||
        s.outputs.contains id) := by
  rw [State.afterVisits, State.contains_applyAll, List.any_map]
  congr 2
  funext v
  have outcome : (v.patch runId s).succeeded = v.answer.toBool := by
    unfold Visit.patch Node.complete Patch.succeeded
    cases v.answer <;> rfl
  rw [Function.comp_apply, Visit.patch_nodeId, outcome]

theorem contains_afterVisits_other (round : Round w b runId active s visits unended)
    {id : String} (idle : id ∉ active) :
    (s.afterVisits runId visits).outputs.contains id = s.outputs.contains id := by
  have none : visits.any (fun v => decide (v.node.id = id) && v.answer.toBool) = false := by
    rw [List.any_eq_false]
    intro v among found
    rw [Bool.and_eq_true, decide_eq_true_eq] at found
    exact idle (found.1 ▸ round.mem_active among)
  rw [contains_afterVisits, none, Bool.false_or]

end Round

end Superstep
