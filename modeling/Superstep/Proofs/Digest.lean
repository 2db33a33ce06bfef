import Mathlib.Data.List.Pairwise
import Superstep.Proofs.Views

/-! # Digests of states

A digest keeps what does not depend on the order of completions in a step: the
outputs as a map, the metadata and the attempts. It leaves out the order of the
outputs, the error and the current node. Patches of different nodes that write
different metadata can change places in it, and a route whose node has just
completed sees nothing of what it leaves out.
-/

namespace Superstep

/-- A state without the order of its outputs, its error and its current node. -/
structure Digest where
  prompt : String
  outputs : KeyMap String
  finalAnswer : Option String
  metadata : Metadata
  attempts : KeyMap Nat

/-- Patches of different nodes that write different metadata. -/
def Patch.Apart (p q : Patch) : Prop :=
  p.nodeId ≠ q.nodeId ∧ ∀ key ∈ p.metadata.keys, q.metadata.contains key = false

namespace Digest

def apply (d : Digest) (p : Patch) : Digest where
  prompt := d.prompt
  outputs :=
    match p.output with
    | some output => d.outputs.insert p.nodeId output
    | none => d.outputs
  finalAnswer := d.finalAnswer
  metadata := d.metadata.insertAll p.metadata.entries
  attempts := d.attempts.insert p.nodeId p.attempt

theorem apply_comm (d : Digest) {p q : Patch} (apart : p.Apart q) :
    (d.apply p).apply q = (d.apply q).apply p := by
  obtain ⟨differ, keys⟩ := apart
  simp only [apply, KeyMap.merge_comm _ _ _ keys, KeyMap.insert_comm d.attempts differ,
    Digest.mk.injEq, true_and, and_true]
  cases p.output <;> cases q.output <;>
    simp only [KeyMap.insert_comm d.outputs differ]

theorem foldl_perm (d : Digest) {ps qs : List Patch} (apart : ps.Pairwise Patch.Apart)
    (shuffled : ps.Perm qs) : ps.foldl apply d = qs.foldl apply d := by
  apply shuffled.foldl_eq'
  have commute : ps.Pairwise fun p q => ∀ d : Digest, (d.apply p).apply q = (d.apply q).apply p :=
    apart.imp fun apart d => d.apply_comm apart
  have backwards : ps.Pairwise (flip fun p q => ∀ d : Digest,
      (d.apply p).apply q = (d.apply q).apply p) :=
    commute.imp fun commute d => (commute d).symm
  intro p left q right
  exact commute.forall_of_forall_of_flip (fun _ _ _ => rfl) backwards left right

end Digest

namespace State

def digest (s : State) : Digest :=
  ⟨s.prompt, s.outputs.sorted, s.finalAnswer, s.metadata, s.attempts⟩

theorem digest_apply (s : State) (p : Patch) : (s.apply p).digest = s.digest.apply p := by
  cases given : p.output with
  | none =>
      simp only [digest, apply, patchOutputs, patchError, patchMetadata, patchCurrentNode,
        patchAttempts, Digest.apply, given]
  | some output =>
      simp only [digest, apply, patchOutputs, patchError, patchMetadata, patchCurrentNode,
        patchAttempts, Digest.apply, given, Outputs.sorted_insert]

theorem digest_applyAll (s : State) (ps : List Patch) :
    (s.applyAll ps).digest = ps.foldl Digest.apply s.digest := by
  unfold applyAll
  induction ps generalizing s with
  | nil => rfl
  | cons p rest ih => rw [List.foldl_cons, List.foldl_cons, ih, digest_apply]

/-- States of one digest keep one digest when patches that are apart are applied
    to them in two orders. -/
theorem digest_applyAll_perm {s₁ s₂ : State} (same : s₁.digest = s₂.digest) {ps qs : List Patch}
    (apart : ps.Pairwise Patch.Apart) (shuffled : ps.Perm qs) :
    (s₁.applyAll ps).digest = (s₂.applyAll qs).digest := by
  rw [digest_applyAll, digest_applyAll, same]
  exact Digest.foldl_perm _ apart shuffled

section

variable {s₁ s₂ : State} (same : s₁.digest = s₂.digest)

include same

theorem sorted_of_digest : s₁.outputs.sorted = s₂.outputs.sorted :=
  congrArg Digest.outputs same

theorem metadata_of_digest : s₁.metadata = s₂.metadata :=
  congrArg Digest.metadata same

theorem alikeTo_of_digest (id : String) : s₁.AlikeTo id s₂ where
  outputs := Outputs.sorted_eq_iff.1 (sorted_of_digest same)
  metadata := metadata_of_digest same
  attempts := by
    unfold attemptsOf
    rw [show s₁.attempts = s₂.attempts from congrArg Digest.attempts same]

end

end State

theorem Route.next_apply_congr (route : Route) {s₁ s₂ : State} (same : s₁.digest = s₂.digest)
    (p : Patch) : route.next (s₁.apply p) = route.next (s₂.apply p) := by
  cases route with
  | direct target => rfl
  | terminal => rfl
  | dynamic router =>
      have alike := State.alikeTo_of_digest same router.nodeId
      exact Router.next_of_alike (alike.apply p) rfl rfl

end Superstep
