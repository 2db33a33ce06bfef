import Superstep.Proofs.Course

/-! # Between the steps of a run

A run stands at a boundary before its first step and after every step that is
not cut off by a crash. What holds at the first boundary and is kept by every
round of visits holds at all of them.
-/

namespace Superstep

namespace History

/-- The steps whose calls have all ended: all of them, or all but the last one if
    the run has crashed. -/
def completed (h : History) : List Step :=
  match h.outcome with
  | .error .crash => h.steps.dropLast
  | _ => h.steps

theorem completed_of_outcome {h : History} (fine : h.outcome ≠ .error .crash) :
    h.completed = h.steps := by
  unfold completed
  split
  next crashed => exact absurd crashed fine
  next => rfl

theorem completed_of_crash {h : History} (crashed : h.outcome = .error .crash) :
    h.completed = h.steps.dropLast := by
  simp only [completed, crashed]

theorem mem_steps_of_completed {h : History} {step : Step} (member : step ∈ h.completed) :
    step ∈ h.steps := by
  by_cases crashed : h.outcome = .error .crash
  · rw [completed_of_crash crashed] at member
    exact List.dropLast_subset _ member
  · rwa [completed_of_outcome crashed] at member

theorem mem_completed_after {h : History} {first step : Step}
    (member : step ∈ (h.after first).completed) : step = first ∨ step ∈ h.completed := by
  by_cases crashed : h.outcome = .error .crash
  · have late : (h.after first).outcome = .error .crash := crashed
    rw [completed_of_crash late] at member
    rw [completed_of_crash crashed]
    cases rest : h.steps with
    | nil => simp [after, rest] at member
    | cons second steps => simpa [after, rest] using member
  · have fine : (h.after first).outcome ≠ .error .crash := crashed
    rw [completed_of_outcome fine] at member
    rw [completed_of_outcome crashed]
    exact List.mem_cons.1 member

end History

/-- The states between the steps of a run that starts in a given state. -/
def Workflow.boundaries (w : Workflow) (start : State) (h : History) : List State :=
  start :: h.completed.map w.stateAfter

namespace Course

variable {w : Workflow} {b : Behaviour} {runId : String} {limit left number : Nat}
  {active : List String} {s : State} {h : History}

/-- What holds at the start and is kept by every round holds at the start of every
    step and at the end of the run. -/
theorem invariant {P : Nat → List String → State → Prop}
    (keeps : ∀ {number active s visits}, active ≠ [] → Round w b runId active s visits [] →
      P number active s →
        P (number + 1) (w.activeAfter runId s visits) (s.afterVisits runId visits))
    (course : Course w b runId limit left number active s h) (start : P number active s) :
    (∀ step ∈ h.steps, step.active ≠ [] ∧ P step.number step.active step.before) ∧
      ∀ last, h.outcome = .ok last → ∃ number, P number [] last := by
  induction course with
  | finished =>
      refine ⟨by simp, fun last same => ?_⟩
      cases same
      exact ⟨_, start⟩
  | limited => simp
  | crashed busy => simpa using ⟨busy, start⟩
  | step busy round told later ih =>
      obtain ⟨steps, outcome⟩ := ih (keeps busy round start)
      exact ⟨List.forall_mem_cons.2 ⟨⟨busy, start⟩, steps⟩, outcome⟩

/-- Steps are numbered one after another. -/
theorem numbered (course : Course w b runId limit left number active s h) {i : Nat} {step : Step}
    (found : h.steps[i]? = some step) : step.number = number + i := by
  induction course generalizing i with
  | finished | limited => simp at found
  | crashed =>
      cases i with
      | zero => simp at found; simp [← found]
      | succ i => simp at found
  | step busy round told later ih =>
      cases i with
      | zero =>
          obtain rfl := Option.some.inj found
          rfl
      | succ i => rw [ih found, Nat.add_assoc, Nat.add_comm 1]

theorem length_le (course : Course w b runId limit left number active s h) :
    h.steps.length ≤ left := by
  induction course with
  | finished | limited => exact Nat.zero_le _
  | crashed => exact Nat.succ_le_succ (Nat.zero_le _)
  | step busy round told later ih => exact Nat.succ_le_succ ih

/-- As long as a step may be taken and there are active nodes, one is. -/
theorem exists_step (course : Course w b runId limit left number active s h) (busy : active ≠ [])
    (allowed : 0 < left) : ∃ happenings later,
      h.steps = ⟨number, active, s, happenings⟩ :: later := by
  cases course with
  | finished => exact absurd rfl busy
  | limited => exact absurd rfl (Nat.ne_of_gt allowed)
  | crashed => exact ⟨_, _, rfl⟩
  | step => exact ⟨_, _, rfl⟩

/-- Nothing stops a course but a crash and the limit of steps. -/
theorem fault (course : Course w b runId limit left number active s h) {cause : EngineFault}
    (stopped : h.outcome = .error cause) :
    cause = .crash ∨ ∃ active, cause = .stepLimit limit active := by
  induction course with
  | finished => cases stopped
  | limited =>
      cases stopped
      exact .inr ⟨_, rfl⟩
  | crashed =>
      cases stopped
      exact .inl rfl
  | step busy round told later ih => exact ih stopped

theorem may_crash (course : Course w b runId limit left number active s h)
    (crashed : h.outcome = .error .crash) : b.crashes := by
  induction course with
  | finished | limited => cases crashed
  | crashed busy round told may => exact may
  | step busy round told later ih => exact ih crashed

/-- Every step of a course is a round of visits. -/
theorem exists_round (course : Course w b runId limit left number active s h) {step : Step}
    (member : step ∈ h.steps) :
    ∃ visits unended, Round w b runId step.active step.before visits unended ∧
      endings step.happenings = visits.map (·.ending runId step.before) := by
  induction course with
  | finished | limited => cases member
  | crashed busy round told =>
      obtain rfl := List.mem_singleton.1 member
      exact ⟨_, _, round, told⟩
  | step busy round told later ih =>
      rcases List.mem_cons.1 member with rfl | rest
      · exact ⟨_, _, round, told⟩
      · exact ih rest

theorem completed_after (course : Course w b runId limit left number active s h) (first : Step) :
    (h.after first).completed = first :: h.completed := by
  by_cases crashed : h.outcome = .error .crash
  · have late : (h.after first).outcome = .error .crash := crashed
    rw [History.completed_of_crash late, History.completed_of_crash crashed]
    have some_ : h.steps ≠ [] := by
      cases course with
      | finished | limited => cases crashed
      | crashed => simp
      | step => simp [History.after]
    exact List.dropLast_cons_of_ne_nil some_
  · have fine : (h.after first).outcome ≠ .error .crash := crashed
    rw [History.completed_of_outcome fine, History.completed_of_outcome crashed]
    rfl

/-- One more step at the front puts the state before it in front of all boundaries
    from the state after it on. -/
theorem boundaries_after (valid : w.Valid) {visits : List Visit} {happenings : List Happening}
    (round : Round w b runId active s visits [])
    (told : endings happenings = visits.map (·.ending runId s)) {next : List String}
    (later : Course w b runId limit left (number + 1) next (s.afterVisits runId visits) h) :
    w.boundaries s (h.after ⟨number, active, s, happenings⟩) =
      s :: w.boundaries (s.afterVisits runId visits) h := by
  rw [Workflow.boundaries, later.completed_after, List.map_cons,
    valid.stateAfter_eq told round.inside]
  rfl

theorem boundary_before (valid : w.Valid) (course : Course w b runId limit left number active s h)
    {i : Nat} {step : Step} (found : h.steps[i]? = some step) :
    (w.boundaries s h)[i]? = some step.before := by
  induction course generalizing i with
  | finished | limited => simp at found
  | crashed =>
      cases i with
      | zero => simp at found; simp [← found, Workflow.boundaries]
      | succ i => simp at found
  | step busy round told later ih =>
      rw [later.boundaries_after valid round told]
      cases i with
      | zero =>
          obtain rfl := Option.some.inj found
          rfl
      | succ i => exact ih found

theorem boundary_last (valid : w.Valid) (course : Course w b runId limit left number active s h)
    {last : State} (ended : h.outcome = .ok last) :
    (w.boundaries s h).getLast? = some last := by
  induction course with
  | finished =>
      cases ended
      rfl
  | limited | crashed => cases ended
  | step busy round told later ih =>
      rw [later.boundaries_after valid round told, List.getLast?_cons, ih ended]
      rfl

end Course

end Superstep
