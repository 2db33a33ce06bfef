import Superstep.Command.Execute
import Superstep.Proofs.Allowance
import Superstep.Proofs.Traces

/-! # Dry runs

In a dry run every node is answered with its own instruction. The pool is made for the
workflow, so no task type lacks an executor, every session opens and no call fails: what
is left to go wrong is the workflow itself and the limit of steps.
-/

namespace Superstep

variable {σ : Type}

/-- Executors that answer with the instruction and never crash. -/
def Behaviour.echoes : Behaviour :=
  .ofAnswers fun _ _ instruction => .ok instruction

theorem Executor.shows_echo (name : String) : (echo name : Executor σ).Shows .echoes :=
  fun _ _ => rfl

theorem Executor.opens_echo (name : String) : (echo name : Executor σ).Opens :=
  fun _ => rfl

/-! ## The pool -/

namespace Pool

/-- The executors of a pool are those that echo certain task types. -/
structure Echoes (p : Pool σ) (taskTypes : List String) : Prop where
  get? : ∀ taskType, p.get? taskType =
    if taskType ∈ taskTypes then some (.echo taskType) else none
  fallback : p.fallback = none

namespace Echoes

variable {p : Pool σ} {taskTypes : List String}

theorem add (echoes : p.Echoes taskTypes) (taskType : String) :
    (if (p.get? taskType).isSome then p else p.register taskType (.echo taskType)).Echoes
      (taskTypes ++ [taskType]) := by
  have known := echoes.get? taskType
  split
  next found =>
    have listed : taskType ∈ taskTypes := by
      refine Decidable.by_contra fun absent => ?_
      rw [known, if_neg absent] at found
      cases found
    refine ⟨fun other => ?_, echoes.fallback⟩
    rw [echoes.get?]
    by_cases same : other = taskType
    · simp [same, listed]
    · simp [same]
  next =>
    refine ⟨fun other => ?_, echoes.fallback⟩
    rw [get?_register, echoes.get?]
    by_cases same : other = taskType
    · simp [same]
    · simp [same]

theorem provider?_eq (echoes : p.Echoes taskTypes) (taskType : String) :
    p.provider? taskType =
      if taskType ∈ taskTypes then some (taskType, .echo taskType) else none := by
  rw [provider?, echoes.get?, echoes.fallback]
  by_cases listed : taskType ∈ taskTypes
  · rw [if_pos listed, if_pos listed]
  · rw [if_neg listed, if_neg listed]
    rfl

theorem resolve_eq (echoes : p.Echoes taskTypes) (taskType : String) :
    p.resolve taskType =
      if taskType ∈ taskTypes then .ok (.echo taskType)
      else .error (.unknownTaskType taskType) := by
  rw [resolve, echoes.provider?_eq]
  by_cases listed : taskType ∈ taskTypes
  · rw [if_pos listed, if_pos listed]
  · rw [if_neg listed, if_neg listed]

theorem shows (echoes : p.Echoes taskTypes) {taskType : String} {e : Executor σ}
    (resolved : p.resolve taskType = .ok e) : e.Shows .echoes := by
  rw [echoes.resolve_eq] at resolved
  split at resolved
  · cases resolved
    exact Executor.shows_echo taskType
  · cases resolved

theorem opened (echoes : p.Echoes taskTypes) {asked : List String} (listed : asked ⊆ taskTypes)
    (site : Site σ) : (p.openSessions asked site).2 = .ok () := by
  refine openSessions_ok (fun taskType member => ⟨taskType, .echo taskType, ?_, ?_⟩) site
  · rw [echoes.provider?_eq, if_pos (listed member)]
  · exact Executor.opens_echo taskType

theorem calm (echoes : p.Echoes taskTypes) (asked : List String) (site : Site σ) :
    p.sessionsCrash asked site = none := by
  refine sessionsCrash_eq_none (fun taskType _ e resolved _ => ?_) site
  rw [echoes.resolve_eq] at resolved
  split at resolved
  · cases resolved
    rfl
  · cases resolved

end Echoes

end Pool

/-- The pool for a dry run echoes the task types of the workflow, and no others. -/
theorem Command.echoes_dryPool (w : Workflow) :
    (dryPool w : Pool σ).Echoes (w.nodes.map Node.taskType) := by
  have all (nodes : List Node) {p : Pool σ} {taskTypes : List String}
      (echoes : p.Echoes taskTypes) :
      (nodes.foldl (fun p n => if (p.get? n.taskType).isSome then p
        else p.register n.taskType (.echo n.taskType)) p).Echoes
          (taskTypes ++ nodes.map Node.taskType) := by
    induction nodes generalizing p taskTypes with
    | nil => simpa using echoes
    | cons n rest ih => simpa using ih (echoes.add n.taskType)
  have none_ : (Pool.empty : Pool σ).Echoes [] := ⟨fun _ => rfl, rfl⟩
  exact all w.nodes none_

/-! ## Runs without failures -/

theorem State.error_afterVisits {s : State} {runId : String} {visits : List Visit}
    (clear : s.error = none) (fine : ∀ v ∈ visits, v.answer.toBool = true) :
    (s.afterVisits runId visits).error = none := by
  cases latest : visits.getLast? with
  | none =>
      obtain rfl := List.getLast?_eq_none_iff.1 latest
      exact clear
  | some v =>
      obtain ⟨output, answered⟩ := exists_ok (fine v (List.mem_of_getLast? latest))
      have patched : (visits.map (·.patch runId s)).getLast? = some (v.patch runId s) := by
        rw [List.getLast?_map, latest]
        rfl
      exact (s.last_applyAll patched).1.trans (v.error_patch_ok answered)

/-- A step in which every active node is executed once, is answered with its own
    instruction, and is not sent back to itself to be retried. -/
structure Step.Echoed (w : Workflow) (runId : String) (step : Step) : Prop where
  whole : step.Whole
  answers : ∀ x ∈ endings step.happenings, ∃ n ∈ w.nodes,
    x.call = n.callIn runId step.before ∧ x.answer = .ok (n.instructionIn step.before) ∧
      w.resends n ⟨step, x⟩ = false

namespace Course

variable {w : Workflow} {runId : String} {limit left number : Nat} {active : List String}
  {s : State} {h : History}

theorem echoed (course : Course w .echoes runId limit left number active s h) {step : Step}
    (member : step ∈ h.steps) (whole : step.Whole) : step.Echoed w runId := by
  refine ⟨whole, fun x ended => ?_⟩
  obtain ⟨visits, unended, round, told⟩ := course.exists_round member
  obtain ⟨v, among, rfl⟩ := List.mem_map.1 (told ▸ ended)
  have answer : v.answer = .ok (v.node.instructionIn step.before) := round.allowed v among
  refine ⟨v.node, round.inside v among, rfl, answer, Bool.eq_false_iff.2 fun again => ?_⟩
  obtain ⟨failed, _⟩ := Visit.retries_iff.1 again
  rw [answer] at failed
  cases failed

theorem error_of_echoes (course : Course w .echoes runId limit left number active s h)
    (clear : s.error = none) {last : State} (ended : h.outcome = .ok last) :
    last.error = none := by
  refine ((course.invariant (P := fun _ _ s => s.error = none) ?_ clear).2 last ended).elim
    fun _ kept => kept
  intro _ _ s visits _ round clear
  refine State.error_afterVisits clear fun v among => ?_
  rw [show v.answer = .ok (v.node.instructionIn s) from round.allowed v among]
  rfl

end Course

section

variable {w : Workflow} {p : Pool σ} {worker : Worker (Site σ) (Executor σ)} {cap : Nat}
  {inOrder : Prop} {settings : EngineSettings} {runId prompt : String} {given : Metadata}
  {site : Site σ}

theorem Pool.Echoes.ready (echoes : p.Echoes (w.nodes.map Node.taskType))
    (valid : w.violations = []) : (p.engineWith settings worker).Ready w site where
  valid := valid
  resolved n member :=
    ⟨.echo n.taskType, (echoes.resolve_eq _).trans (if_pos (List.mem_map_of_mem member))⟩
  opened g compiled := by
    refine echoes.opened (fun taskType asked => ?_) site
    exact List.mem_map.2 ((Graph.mem_taskTypes_compile compiled).1 asked)
  calm g _ := echoes.calm g.taskTypes site

/-- A dry run of a valid workflow is compiled, its sessions open, and it has a result
    unless its cap is too great. Every node is answered with its own instruction, none is
    ever retried, and the run has no error unless it is stopped by the limit of steps.
    A dry run of an invalid workflow tells all that is wrong with it. -/
theorem dry_runs_never_fail {launcher : Launcher σ} {c : Configuration}
    (made : Command.poolFor launcher c w true = .ok p) (schedules : worker.Schedules cap inOrder) :
    (w.violations = [] →
      (∃ g, Graph.compile p.resolve w = .ok g ∧ (p.openSessions g.taskTypes site).2 = .ok () ∧
        p.sessionsCrash g.taskTypes site = none) ∧
      (((p.engineWith settings worker).run? w runId prompt given site).2 = none ↔
        Engine.capLimit < settings.maxConcurrency) ∧
      ∀ r, ((p.engineWith settings worker).run? w runId prompt given site).2 = some r →
        (∃ h, r.course = .ok (w.startNode, h) ∧ ∀ step ∈ h.steps, step.Echoed w runId) ∧
        (r.result.error = none ∨ ∃ still, r.result.error =
          some (Failure.engine (.stepLimit settings.maxSteps still)).message)) ∧
    (w.violations ≠ [] →
      ∃ r, ((p.engineWith settings worker).run? w runId prompt given site).2 = some r ∧
        r.result.error = some (Failure.invalidWorkflow w.violations).message) := by
  obtain rfl := Except.ok.inj made
  have echoes := Command.echoes_dryPool (σ := σ) w
  constructor
  · intro valid
    have ready : ((Command.dryPool w).engineWith settings worker).Ready w site :=
      echoes.ready valid
    obtain ⟨g, _, compiled, _⟩ := ready.exists_prepare
    refine ⟨⟨g, compiled, ready.opened g compiled, ready.calm g compiled⟩, ?_, fun r found => ?_⟩
    · exact ready.run?_eq_none_iff
    · obtain rfl := Engine.eq_run_of_run? found
      obtain ⟨h, ran⟩ := ready.exists_history runId prompt given
      have shows : worker.Shows (Command.dryPool w).resolve .echoes :=
        schedules.shows fun _ _ => echoes.shows
      obtain ⟨_, _, course⟩ := Engine.course_of_run schedules.faithful shows ran
      have calm : h.outcome ≠ .error .crash := course.may_crash
      have whole := (Engine.records_of_run schedules.faithful schedules.orderly ran).2
      rw [History.completed_of_outcome calm] at whole
      refine ⟨⟨h, ran, fun step member => course.echoed member (whole step member)⟩, ?_⟩
      cases outcome : h.outcome with
      | ok last =>
          rw [Run.result_of_outcome ran outcome]
          exact .inl (course.error_of_echoes rfl outcome)
      | error fault =>
          rw [Run.result_of_fault ran outcome]
          rcases course.fault outcome with rfl | ⟨still, rfl⟩
          · exact absurd outcome calm
          · exact .inr ⟨still, rfl⟩
  · intro invalid
    have failed : (((Command.dryPool w).engineWith settings worker).prepare w site).2 =
        .error (.invalidWorkflow w.violations) := by
      simp only [Engine.prepare, Graph.compile_invalid invalid]
    have calm : ((Command.dryPool w).engineWith settings worker).startCrash w site = none :=
      Engine.startCrash_eq_none fun taskTypes => echoes.calm taskTypes site
    exact ⟨_, Engine.run?_of_prepare_error calm failed, rfl⟩

end

open Diamond in
theorem dry_runs_never_fail_diamond :
    ∃ p : Pool Unit, Command.poolFor (fun _ world => (world, .ok "")) {} flow true = .ok p ∧
      ∃ r h, ((p.engineWith {} (Pool.worker 8)).run? flow "one" "go" .empty ⟨[], ()⟩).2 = some r ∧
        r.course = .ok ("a", h) ∧ (∀ step ∈ h.steps, step.Echoed flow "one") ∧
        (r.result.error = none ∨ ∃ still, r.result.error =
          some (Failure.engine (.stepLimit 100 still)).message) := by
  refine ⟨_, rfl, ?_⟩
  obtain ⟨dry, _⟩ :=
    @dry_runs_never_fail _ flow _ (Pool.worker 8) 8 True {} "one" "go" .empty ⟨[], ()⟩
      (fun _ world => (world, .ok "")) {} rfl (Pool.worker_schedules 8 True)
  obtain ⟨_, none_iff, told⟩ := dry pooled_ready.valid
  cases found : ((Pool.engineWith (Command.dryPool flow) {} (Pool.worker 8)).run? flow "one" "go"
      .empty ⟨[], ()⟩).2 with
  | none => exact absurd (none_iff.1 found) (by decide)
  | some r =>
      obtain ⟨⟨h, taken, echoed⟩, error⟩ := told r found
      exact ⟨r, h, rfl, taken, echoed, error⟩

end Superstep
