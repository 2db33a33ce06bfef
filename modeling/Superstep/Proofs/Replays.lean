import Superstep.Proofs.Patches

/-! # Patches applied again

A batch of patches decides what it writes, so applying it once more changes nothing: a
value that was overwritten on the way is written again in the end, and the ids of the
outputs have found their places the first time. What no patch of a batch writes stays as
it is.
-/

namespace Superstep

namespace Cell

variable {α : Type} (c : Cell α)

/-- What a batch writes into a cell it writes there whatever was in it before. -/
theorem read_applyAll_again (s : State) (ps : List Patch) :
    c.read ((s.applyAll ps).applyAll ps) = c.read (s.applyAll ps) := by
  simp only [read_applyAll]
  cases ps.reverse.findSome? c.write <;> rfl

end Cell

namespace State

variable {s : State} {ps : List Patch}

theorem ext {s₁ s₂ : State} (prompt : s₁.prompt = s₂.prompt) (outputs : s₁.outputs = s₂.outputs)
    (finalAnswer : s₁.finalAnswer = s₂.finalAnswer) (error : s₁.error = s₂.error)
    (metadata : s₁.metadata = s₂.metadata) (currentNode : s₁.currentNode = s₂.currentNode)
    (attempts : s₁.attempts = s₂.attempts) : s₁ = s₂ := by
  cases s₁
  cases s₂
  simp only at prompt outputs finalAnswer error metadata currentNode attempts
  simp only [prompt, outputs, finalAnswer, error, metadata, currentNode, attempts]

@[simp] theorem finalAnswer_apply (s : State) (p : Patch) :
    (s.apply p).finalAnswer = s.finalAnswer := by
  unfold apply patchOutputs
  cases p.output <;> rfl

/-- What every patch leaves as it is stays the same over a batch. -/
theorem kept_applyAll {α : Type} {f : State → α} (kept : ∀ s p, f (s.apply p) = f s) (s : State)
    (ps : List Patch) : f (s.applyAll ps) = f s := by
  unfold applyAll
  induction ps generalizing s with
  | nil => rfl
  | cons p rest ih => rw [List.foldl_cons, ih, kept]

theorem prompt_applyAll (s : State) (ps : List Patch) : (s.applyAll ps).prompt = s.prompt :=
  kept_applyAll prompt_apply s ps

theorem finalAnswer_applyAll (s : State) (ps : List Patch) :
    (s.applyAll ps).finalAnswer = s.finalAnswer :=
  kept_applyAll finalAnswer_apply s ps

/-- The ids that there are keep their places. -/
theorem ids_prefix_applyAll (s : State) (ps : List Patch) :
    s.outputs.ids <+: (s.applyAll ps).outputs.ids := by
  unfold applyAll
  induction ps generalizing s with
  | nil => exact List.prefix_refl _
  | cons p rest ih =>
      refine List.IsPrefix.trans ?_ (ih (s.apply p))
      rw [ids_apply]
      exact List.prefix_append _ _

/-- Successes of nodes that have outputs add no ids. -/
theorem ids_applyAll_of_contained
    (contained : ∀ p ∈ ps, p.succeeded = true → s.outputs.contains p.nodeId = true) :
    (s.applyAll ps).outputs.ids = s.outputs.ids := by
  unfold applyAll
  induction ps generalizing s with
  | nil => rfl
  | cons p rest ih =>
      obtain ⟨first, later⟩ := List.forall_mem_cons.1 contained
      have none_ : (p.succeeded && !s.outputs.contains p.nodeId) = false := by
        cases succeeded : p.succeeded with
        | false => rfl
        | true => rw [first succeeded]; rfl
      rw [List.foldl_cons, ih, ids_apply, none_]
      · exact List.append_nil _
      · intro q among succeeded
        rw [contains_apply, later q among succeeded, Bool.or_true]

/-- A batch has no more ids to add when it is applied again. -/
theorem outputs_applyAll_again (s : State) (ps : List Patch) :
    ((s.applyAll ps).applyAll ps).outputs = (s.applyAll ps).outputs := by
  apply Outputs.ext_ids
  · refine ids_applyAll_of_contained fun p among succeeded => ?_
    rw [contains_applyAll, Bool.or_eq_true]
    exact .inl (List.any_eq_true.2 ⟨p, among, by simpa using succeeded⟩)
  · exact fun id => (Cell.output id).read_applyAll_again s ps

/-- Whatever a batch is applied to, its last patch decides about the error and the current
    node. -/
theorem last_applyAll_again (s : State) (ps : List Patch) :
    ((s.applyAll ps).applyAll ps).error = (s.applyAll ps).error ∧
      ((s.applyAll ps).applyAll ps).currentNode = (s.applyAll ps).currentNode := by
  cases latest : ps.getLast? with
  | none =>
      obtain rfl := List.getLast?_eq_none_iff.1 latest
      exact ⟨rfl, rfl⟩
  | some p =>
      obtain ⟨error, currentNode⟩ := s.last_applyAll latest
      obtain ⟨error', currentNode'⟩ := (s.applyAll ps).last_applyAll latest
      exact ⟨error'.trans error.symm, currentNode'.trans currentNode.symm⟩

theorem applyAll_again (s : State) (ps : List Patch) :
    (s.applyAll ps).applyAll ps = s.applyAll ps := by
  obtain ⟨error, currentNode⟩ := last_applyAll_again s ps
  have metadata : ((s.applyAll ps).applyAll ps).metadata = (s.applyAll ps).metadata :=
    KeyMap.ext_get? fun key => (Cell.metadata key).read_applyAll_again s ps
  have attempts : ((s.applyAll ps).applyAll ps).attempts = (s.applyAll ps).attempts :=
    KeyMap.ext_get? fun id => (Cell.attempts id).read_applyAll_again s ps
  exact ext (prompt_applyAll _ ps) (outputs_applyAll_again s ps) (finalAnswer_applyAll _ ps)
    error metadata currentNode attempts

end State

/-- A batch of patches that has been applied changes nothing when it is applied once more.
    It leaves the prompt and the answer alone, and the outputs and attempts of nodes and
    the keys of metadata that it has no patch for. -/
theorem batches_replay_and_stay_local (s : State) (ps : List Patch) :
    (s.applyAll ps).applyAll ps = s.applyAll ps ∧
    (s.applyAll ps).prompt = s.prompt ∧ (s.applyAll ps).finalAnswer = s.finalAnswer ∧
    s.outputs.ids <+: (s.applyAll ps).outputs.ids ∧
    (∀ id, (∀ p ∈ ps, p.nodeId ≠ id) →
      (s.applyAll ps).outputs.get? id = s.outputs.get? id ∧
        (s.applyAll ps).attempts.get? id = s.attempts.get? id) ∧
    ∀ key, (∀ p ∈ ps, p.metadata.contains key = false) →
      (s.applyAll ps).metadata.get? key = s.metadata.get? key := by
  refine ⟨s.applyAll_again ps, s.prompt_applyAll ps, s.finalAnswer_applyAll ps,
    s.ids_prefix_applyAll ps, fun id others => ⟨State.get?_applyAll_other others, ?_⟩,
    fun key unwritten => ?_⟩
  · exact (Cell.attempts id).read_applyAll_of_silent fun p among => if_neg (others p among)
  · refine (Cell.metadata key).read_applyAll_of_silent fun p among => ?_
    exact Option.not_isSome_iff_eq_none.1 (Bool.eq_false_iff.1 (unwritten p among))

namespace Diamond

/-- Two nodes have answered, and there are metadata. -/
def halfway : State :=
  { State.initial "go" (.ofList [("kept", .bool true), ("turn", .string "a")]) with
    outputs := Outputs.empty.insertAll [("a", "done a"), ("c", "early")]
    attempts := .ofList [("a", 1), ("c", 1)] }

/-- Two nodes take turns. Both write the same metadata, and one fails at first. -/
def rework : List Patch := [
  ⟨"b", none, some "not yet", .ofList [("turn", .string "b")], 1⟩,
  ⟨"c", some "late", none, .ofList [("turn", .string "c")], 2⟩,
  ⟨"b", some "done b", none, .empty, 2⟩,
  ⟨"c", some "later", none, .ofList [("turn", .null)], 3⟩]

end Diamond

open Diamond in
theorem batches_replay_and_stay_local_diamond :
    (halfway.applyAll rework).applyAll rework = halfway.applyAll rework ∧
      (halfway.applyAll rework).outputs.entries =
        [("a", "done a"), ("c", "later"), ("b", "done b")] ∧
      (halfway.applyAll rework).outputs.get? "a" = some "done a" ∧
      (halfway.applyAll rework).attempts.get? "a" = some 1 ∧
      (halfway.applyAll rework).metadata.get? "kept" = halfway.metadata.get? "kept" := by
  obtain ⟨again, _, _, _, nodes, keys⟩ := batches_replay_and_stay_local halfway rework
  obtain ⟨output, attempts⟩ := nodes "a" (by decide +kernel)
  exact ⟨again, by decide +kernel, output, attempts, keys "kept" (by decide +kernel)⟩

end Superstep
