import Superstep.Proofs.Patches
import Superstep.Proofs.Turns

/-! # Coherent results

A result tells either an error or an answer. An error is never empty, because all
failures say what they are; and after a step without an error the last completion
was a success, so there is an output to answer with. Only a session that crashes and
a cap that is too great to be kept leave no result at all.
-/

namespace Superstep

theorem violationSummary_ne_empty (violations : List Violation) :
    violationSummary violations ≠ "" := by
  unfold violationSummary
  simp

theorem Failure.message_ne_empty (cause : Failure) : cause.message ≠ "" := by
  unfold Failure.message
  cases cause with
  | invalidWorkflow violations => exact violationSummary_ne_empty violations
  | _ => simp

theorem Call.errorText_ne_empty (call : Call) (cause : Failure) : call.errorText cause ≠ "" := by
  unfold Call.errorText
  split <;> simp

namespace State

/-- A state after a completion: its error says something, and without an error there
    is an output. -/
structure Settled (s : State) : Prop where
  error : ∀ error, s.error = some error → error ≠ ""
  output : s.error = none → s.outputs.entries ≠ []

theorem settled_apply (s : State) {v : Visit} {runId : String} {before : State} :
    (s.apply (v.patch runId before)).Settled := by
  cases answered : v.answer with
  | ok output =>
      have failed : (s.apply (v.patch runId before)).error = none :=
        (s.error_apply _).trans (v.error_patch_ok answered)
      have found : (s.apply (v.patch runId before)).outputs.get? v.node.id = some output := by
        rw [get?_apply, if_pos (v.patch_nodeId ..), v.patch_output, answered]
        rfl
      refine ⟨fun error told => ?_, fun _ empty => ?_⟩
      · rw [failed] at told
        cases told
      · rw [Outputs.get?, empty] at found
        cases found
  | error cause =>
      have failed : (s.apply (v.patch runId before)).error =
          some ((v.node.callIn runId before).errorText cause) :=
        (s.error_apply _).trans (v.error_patch_error answered)
      refine ⟨fun error told => ?_, fun none_ => ?_⟩
      · rw [failed] at told
        obtain rfl := Option.some.inj told
        exact Call.errorText_ne_empty _ cause
      · rw [failed] at none_
        cases none_

end State

/-- A round settles the state, whatever it was before: the visit that ended last
    decides about the error. -/
theorem Round.settled {w : Workflow} {b : Behaviour} {runId : String} {active : List String}
    {s : State} {visits : List Visit} (busy : active ≠ [])
    (round : Round w b runId active s visits []) : (s.afterVisits runId visits).Settled := by
  rcases List.eq_nil_or_concat visits with none_ | ⟨earlier, last, rfl⟩
  · subst none_
    exact absurd round.ids_perm.symm.eq_nil busy
  · rw [State.afterVisits, State.applyAll, List.concat_eq_append, List.map_append,
      List.foldl_append]
    exact State.settled_apply _

/-- A course that starts with active nodes finishes in a settled state. -/
theorem Course.settled {w : Workflow} {b : Behaviour} {runId : String} {limit left number : Nat}
    {active : List String} {s last : State} {h : History} (busy : active ≠ [])
    (course : Course w b runId limit left number active s h) (ended : h.outcome = .ok last) :
    last.Settled := by
  obtain ⟨_, kept⟩ :=
    (course.invariant (P := fun _ active s => active ≠ [] ∨ s.Settled)
      (fun busy round _ => .inr (round.settled busy)) (.inl busy)).2 last ended
  exact kept.resolve_left fun some_ => some_ rfl

namespace RunResult

/-- Either an error that is also told as the answer, or the output of the node that
    was the last to answer for the first time. -/
def Coherent (r : RunResult) : Prop :=
  (∃ error, r.error = some error ∧ error ≠ "" ∧
      r.finalAnswer = "Error during execution: " ++ error) ∨
    (r.error = none ∧ ∃ id, r.outputs.entries.getLast? = some (id, r.finalAnswer))

theorem coherent_ofFailure (cause : Failure) : (ofFailure cause).Coherent :=
  .inl ⟨cause.message, rfl, cause.message_ne_empty, rfl⟩

theorem ofState_eq {s : State} (settled : s.Settled) (placeholder : String) :
    ofState s placeholder = ofState s "" ∧ (ofState s placeholder).Coherent := by
  cases failed : s.error with
  | some error =>
      have said := settled.error error failed
      have answer (placeholder : String) : s.answer placeholder = State.errorAnswer error := by
        simp [State.answer, failed, said]
      exact ⟨by simp [ofState, answer], .inl ⟨error, failed, said, answer placeholder⟩⟩
  | none =>
      obtain ⟨⟨id, output⟩, last⟩ :=
        Option.isSome_iff_exists.1 (List.getLast?_isSome.2 (settled.output failed))
      have answer (placeholder : String) : s.answer placeholder = output := by
        simp [State.answer, failed, Outputs.last?, last]
      refine ⟨by simp [ofState, answer], .inr ⟨failed, id, ?_⟩⟩
      rw [show (ofState s placeholder).finalAnswer = output from answer placeholder]
      exact last

end RunResult

/-- Nothing has stopped the run. -/
def Run.Finished (r : Run) : Prop :=
  ∃ start h s, r.course = .ok (start, h) ∧ h.outcome = .ok s

section

variable {τ ε : Type} {e : Engine τ ε} {w : Workflow} {runId prompt : String}
  {given : Metadata} {t : τ}

/-- A run has a result unless one of its sessions crashes, or they all open and the cap
    is too great. Every result is coherent: the placeholder never shows in it, and what
    stopped the run leaves neither outputs nor metadata. -/
theorem run_results_coherent (faithful : e.worker.Faithful) :
    ((e.run? w runId prompt given t).2 = none ↔
      e.startCrash w t ≠ none ∨
        Engine.capLimit < e.settings.maxConcurrency ∧ ∃ g, (e.prepare w t).2 = .ok g) ∧
    ∀ r, (e.run? w runId prompt given t).2 = some r →
      r.result.Coherent ∧
      (∀ other, Run.result { r with placeholder := other } = r.result) ∧
      (¬ r.Finished → r.result.outputs = .empty ∧ r.result.metadata = .empty) := by
  refine ⟨Engine.run?_eq_none_iff, fun r found => ?_⟩
  obtain rfl := Engine.eq_run_of_run? found
  cases taken : (e.run w runId prompt given t).2.course with
  | error cause =>
      simp only [Run.result, taken]
      exact ⟨RunResult.coherent_ofFailure cause, fun _ => trivial, fun _ => ⟨rfl, rfl⟩⟩
  | ok course =>
      obtain ⟨start, steps, fault | s⟩ := course
      · simp only [Run.result, taken]
        exact ⟨RunResult.coherent_ofFailure _, fun _ => trivial, fun _ => ⟨rfl, rfl⟩⟩
      · obtain ⟨_, _, course⟩ :=
          Engine.course_of_run faithful (e.worker.shows_any e.resolve) taken
        have settled : s.Settled := course.settled (List.cons_ne_nil _ _) rfl
        simp only [Run.result, taken]
        refine ⟨(RunResult.ofState_eq settled _).2, fun other => ?_, fun stopped => ?_⟩
        · exact (RunResult.ofState_eq settled _).1.trans (RunResult.ofState_eq settled _).1.symm
        · exact absurd ⟨start, ⟨steps, .ok s⟩, s, taken, rfl⟩ stopped

end

namespace Diamond

/-- An engine for the diamond with a cap one beyond the greatest that can be kept. -/
def crowded : Engine (Site Unit) (Executor Unit) :=
  pool.engine { maxConcurrency := Engine.capLimit + 1 }

theorem prepare_pooled (settings : EngineSettings) (site : Site Unit) :
    ∃ g, ((pool.engine settings).prepare flow site).2 = .ok g := by
  have resolved : ∀ n ∈ flow.nodes, ∃ executor, pool.resolve n.taskType = .ok executor :=
    pooled_ready.resolved
  obtain ⟨g, compiled⟩ := Graph.exists_compile pooled_ready.valid resolved
  exact ⟨g, Engine.prepare_of_opened compiled (openSessions_pool g.taskTypes site)⟩

theorem startCrash_pool (settings : EngineSettings) (site : Site Unit) :
    (pool.engine settings).startCrash flow site = none :=
  Engine.startCrash_eq_none fun taskTypes => sessionsCrash_pool taskTypes site

end Diamond

open Diamond in
theorem run_results_coherent_diamond :
    ∃ r, (pooled.run? flow "one" "go" .empty ⟨[], ()⟩).2 = some r ∧ r.result.Coherent := by
  obtain ⟨none_iff, coherent⟩ :=
    @run_results_coherent _ _ pooled flow "one" "go" .empty ⟨[], ()⟩ (Pool.worker_faithful 1)
  cases found : (pooled.run? flow "one" "go" .empty ⟨[], ()⟩).2 with
  | none =>
      rcases none_iff.1 found with crashed | ⟨beyond, _⟩
      · exact absurd (startCrash_pool { maxConcurrency := 1 } ⟨[], ()⟩) crashed
      · exact absurd beyond (by decide)
  | some r => exact ⟨r, rfl, (coherent r found).1⟩

open Diamond in
/-- A session that crashes leaves no result either. -/
example : (((pool.register "work" { hand with sessionCrash := some }).engine {}).run? flow "one"
    "go" .empty ⟨[], ()⟩).2.isNone = true := by
  decide +kernel

open Diamond in
/-- A valid workflow whose sessions open has no result if the cap is too great. -/
theorem no_result_beyond_cap :
    1 ≤ crowded.settings.maxSteps ∧ flow.violations = [] ∧
      (crowded.run? flow "one" "go" .empty ⟨[], ()⟩).2 = none := by
  refine ⟨by decide, pooled_ready.valid, ?_⟩
  exact Engine.run?_eq_none_iff.2 (.inr ⟨Nat.lt_succ_self _, prepare_pooled _ _⟩)

end Superstep
