import Superstep.Proofs.Course

/-! # Runs take courses

Whatever a faithful worker does with the calls of a step, the step is a round of
visits, so a run of an engine takes a course of its workflow. The course starts
at the start node, in a state without outputs, errors and attempts.
-/

namespace Superstep

namespace Graph

variable {τ ε : Type} {resolve : String → Except Failure ε} {w : Workflow} {g : Graph ε}
  {worker : Worker τ ε} {b : Behaviour}

theorem round_of_worker (compiled : compile resolve w = .ok g) (faithful : worker.Faithful)
    (shows : worker.Shows resolve b) (runId : String) (s : State) (t : τ)
    {active : List String} (distinct : active.Nodup) (inside : ∀ id ∈ active, id ∈ w.ids) :
    ∃ jobs visits unended, g.jobs runId s active = .ok jobs ∧
      Round w b runId active s visits unended ∧
      endings (worker jobs t).2.happenings = visits.map (·.ending runId s) ∧
      ((worker jobs t).2.crashed = false → unended = []) ∧
      ((worker jobs t).2.crashed = true → b.crashes) := by
  obtain ⟨jobs, made, known, ids⟩ := jobs_compile compiled runId s inside
  obtain ⟨missing, shared, complete⟩ := faithful jobs t
  obtain ⟨allowed, may⟩ := shows jobs t fun job among => (known job among).1
  have called : ∀ x ∈ endings (worker jobs t).2.happenings,
      ∃ n ∈ w.nodes, x.call = n.callIn runId s := by
    intro x ended
    have listed := shared.subset (List.mem_append_left _ (List.mem_map_of_mem ended))
    obtain ⟨job, among, same⟩ := List.mem_map.1 listed
    rw [← same]
    exact (known job among).2
  obtain ⟨visits, told, visited⟩ := exists_visits called
  refine ⟨jobs, visits, missing.map Call.nodeId, made, ?_, told, ?_, may⟩
  · refine ⟨distinct, visited, ?_, ?_⟩
    · have nodes := shared.map Call.nodeId
      rw [List.map_append, told, List.map_map, List.map_map, List.map_map] at nodes
      have ids : jobs.map (Call.nodeId ∘ Job.call) = active := ids
      rw [ids] at nodes
      exact nodes
    · intro v among
      exact allowed _ (told ▸ List.mem_map_of_mem among)
  · intro calm
    rw [complete calm, List.map_nil]

/-- A step keeps its number, its active nodes and the state at its start, whatever comes
    of it. -/
theorem takeStep_keeps {worker : Worker τ ε} {runId : String} {number : Nat}
    {active : List String} {s : State} {t t' : τ} {step : Step}
    {outcome : Except EngineFault (State × List String)}
    (taken : g.takeStep worker runId number active s t = (t', step, outcome)) :
    step.number = number ∧ step.active = active ∧ step.before = s := by
  unfold takeStep at taken
  split at taken <;> cases taken <;> exact ⟨rfl, rfl, rfl⟩

/-- A step is a round of visits, which lead on together unless a call has crashed. -/
theorem takeStep_of_worker (compiled : compile resolve w = .ok g) (faithful : worker.Faithful)
    (shows : worker.Shows resolve b) (runId : String) (number : Nat) (s : State) (t : τ)
    {active : List String} (distinct : active.Nodup) (inside : ∀ id ∈ active, id ∈ w.ids) :
    ∃ jobs visits unended, g.jobs runId s active = .ok jobs ∧
      Round w b runId active s visits unended ∧
      endings (worker jobs t).2.happenings = visits.map (·.ending runId s) ∧
      ((worker jobs t).2.crashed = false → unended = []) ∧
      ((worker jobs t).2.crashed = true → b.crashes) ∧
      g.takeStep worker runId number active s t =
        ((worker jobs t).1, ⟨number, active, s, (worker jobs t).2.happenings⟩,
          if (worker jobs t).2.crashed then .error .crash
          else .ok (s.afterVisits runId visits, w.activeAfter runId s visits)) := by
  obtain ⟨jobs, visits, unended, made, round, told, complete, may⟩ :=
    round_of_worker compiled faithful shows runId s t distinct inside
  refine ⟨jobs, visits, unended, made, round, told, complete, may, ?_⟩
  have patches : s.applyAll ((visits.map fun v => Completion.mk (v.patch runId s)
      (v.targets w runId s)).map Completion.patch) = s.afterVisits runId visits := by
    rw [List.map_map]
    rfl
  have targets : Completion.union (visits.map fun v =>
      Completion.mk (v.patch runId s) (v.targets w runId s)) = w.activeAfter runId s visits := by
    rw [Completion.union, List.flatMap_map]
    rfl
  simp only [takeStep, made, conclude, completions_compile compiled told round.inside, bind,
    Except.bind, patches, targets]

theorem proceed_course (compiled : compile resolve w = .ok g) (faithful : worker.Faithful)
    (shows : worker.Shows resolve b) (runId : String) (limit left number : Nat)
    {active : List String} (distinct : active.Nodup) (inside : ∀ id ∈ active, id ∈ w.ids)
    (s : State) (t : τ) :
    Course w b runId limit left number active s
      (g.proceed worker runId limit left number active s t).2 := by
  have valid := Workflow.valid_of_violations (compile_ok compiled).1
  induction left generalizing number active s t with
  | zero =>
      cases active with
      | nil => exact .finished
      | cons id rest => exact .limited (List.cons_ne_nil _ _)
  | succ left ih =>
      cases active with
      | nil => exact .finished
      | cons id rest =>
          obtain ⟨jobs, visits, unended, _, round, told, complete, may, taken⟩ :=
            takeStep_of_worker compiled faithful shows runId number s t distinct inside
          simp only [proceed, taken]
          cases crashed : (worker jobs t).2.crashed with
          | true => exact .crashed (List.cons_ne_nil _ _) round told (may crashed)
          | false =>
              rw [complete crashed] at round
              have next := ih (number + 1) (w.activeAfter_nodup runId s visits)
                (fun id member => valid.mem_activeAfter round member)
                (s.afterVisits runId visits) (worker jobs t).1
              exact .step (List.cons_ne_nil _ _) round told next

end Graph

namespace Run

variable {r : Run} {start : String} {h : History}

theorem result_of_outcome {last : State} (taken : r.course = .ok (start, h))
    (ended : h.outcome = .ok last) : r.result = .ofState last r.placeholder := by
  obtain ⟨steps, outcome⟩ := h
  cases ended
  unfold result
  rw [taken]

theorem result_of_fault {fault : EngineFault} (taken : r.course = .ok (start, h))
    (stopped : h.outcome = .error fault) : r.result = .ofFailure (.engine fault) := by
  obtain ⟨steps, outcome⟩ := h
  cases stopped
  unfold result
  rw [taken]

end Run

namespace Engine

variable {τ ε : Type} {e : Engine τ ε} {w : Workflow} {b : Behaviour} {runId prompt : String}
  {given : Metadata} {t : τ}

def startState (w : Workflow) (prompt : String) (given : Metadata) : State :=
  .initial prompt (startMetadata w given)

theorem prepare_ok {g : Graph ε} (prepared : (e.prepare w t).2 = .ok g) :
    Graph.compile e.resolve w = .ok g := by
  unfold prepare at prepared
  cases compiled : Graph.compile e.resolve w with
  | error cause =>
      rw [compiled] at prepared
      cases prepared
  | ok graph =>
      rw [compiled] at prepared
      rcases opened : e.openSessions graph.taskTypes t with ⟨t', _ | _⟩ <;>
        simp only [opened] at prepared <;> cases prepared
      rfl

theorem prepare_of_opened {g : Graph ε} (compiled : Graph.compile e.resolve w = .ok g)
    (opened : (e.openSessions g.taskTypes t).2 = .ok ()) : (e.prepare w t).2 = .ok g := by
  rcases sessions : e.openSessions g.taskTypes t with ⟨t', outcome⟩
  rw [sessions] at opened
  subst opened
  simp only [prepare, compiled, sessions]

theorem run_of_ok {t' : τ} {g : Graph ε} (prepared : e.prepare w t = (t', .ok g))
    (runId prompt : String) (given : Metadata) :
    (e.run w runId prompt given t).2.course = .ok (g.startNode,
      (g.history e.worker runId e.settings.maxSteps (startState w prompt given) t').2) := by
  simp only [run, prepared]
  rfl

theorem startCrash_of_compiled {g : Graph ε} (compiled : Graph.compile e.resolve w = .ok g) :
    e.startCrash w t = e.sessionsCrash g.taskTypes t := by
  simp only [startCrash, compiled]

theorem startCrash_eq_none (calm : ∀ taskTypes, e.sessionsCrash taskTypes t = none) :
    e.startCrash w t = none := by
  unfold startCrash
  split
  · rfl
  · exact calm _

theorem run?_of_crash {left : τ} (crashed : e.startCrash w t = some left) :
    e.run? w runId prompt given t = (left, none) := by
  simp only [run?, crashed]

theorem run?_of_error {t' : τ} {cause : Failure} (calm : e.startCrash w t = none)
    (failed : e.prepare w t = (t', .error cause)) :
    e.run? w runId prompt given t =
      (t', some ⟨runId, e.settings.placeholder, .error cause⟩) := by
  simp only [run?, run, calm, failed]

theorem run?_of_ok {t' : τ} {g : Graph ε} (calm : e.startCrash w t = none)
    (prepared : e.prepare w t = (t', .ok g)) :
    e.run? w runId prompt given t =
      if capLimit < e.settings.maxConcurrency then (t', none)
      else
        let (ended, h) :=
          g.history e.worker runId e.settings.maxSteps (startState w prompt given) t'
        (ended, some ⟨runId, e.settings.placeholder, .ok (g.startNode, h)⟩) := by
  simp only [run?, run, calm, prepared]
  rfl

theorem run?_eq_none_iff :
    (e.run? w runId prompt given t).2 = none ↔
      e.startCrash w t ≠ none ∨
        capLimit < e.settings.maxConcurrency ∧ ∃ g, (e.prepare w t).2 = .ok g := by
  unfold run?
  cases e.startCrash w t with
  | some left => simp
  | none =>
      rcases e.prepare w t with ⟨t', cause | g⟩
      · simp
      · by_cases beyond : capLimit < e.settings.maxConcurrency <;> simp [beyond]

theorem eq_run_of_run? {r : Run} (found : (e.run? w runId prompt given t).2 = some r) :
    r = (e.run w runId prompt given t).2 := by
  unfold run? at found
  split at found
  · cases found
  · split at found
    · split at found
      · cases found
      · exact (Option.some.inj found).symm
    · exact (Option.some.inj found).symm

/-- A run whose sessions do not crash is lost just when its cap is too great. -/
theorem run?_eq_none_iff_of_calm (calm : e.startCrash w t = none) :
    (e.run? w runId prompt given t).2 = none ↔
      capLimit < e.settings.maxConcurrency ∧ ∃ g, (e.prepare w t).2 = .ok g := by
  simp [run?_eq_none_iff, calm]

/-- A run whose sessions do not crash and whose cap can be kept is not lost. -/
theorem run?_eq_run (calm : e.startCrash w t = none)
    (fits : e.settings.maxConcurrency ≤ capLimit) :
    (e.run? w runId prompt given t).2 = some (e.run w runId prompt given t).2 := by
  cases returned : (e.run? w runId prompt given t).2 with
  | none => exact absurd ((run?_eq_none_iff_of_calm calm).1 returned).1 (Nat.not_lt.2 fits)
  | some r => rw [eq_run_of_run? returned]

/-- What it takes for a run to get under way: the workflow is valid, its task
    types have executors, and their sessions open without a crash. -/
structure Ready (e : Engine τ ε) (w : Workflow) (t : τ) : Prop where
  valid : w.violations = []
  resolved : ∀ n ∈ w.nodes, ∃ executor, e.resolve n.taskType = .ok executor
  opened : ∀ g, Graph.compile e.resolve w = .ok g →
    (e.openSessions g.taskTypes t).2 = .ok ()
  calm : ∀ g, Graph.compile e.resolve w = .ok g → e.sessionsCrash g.taskTypes t = none

theorem Ready.startCrash (ready : e.Ready w t) : e.startCrash w t = none := by
  obtain ⟨g, compiled⟩ := Graph.exists_compile ready.valid ready.resolved
  rw [startCrash_of_compiled compiled]
  exact ready.calm g compiled

theorem Ready.exists_prepare (ready : e.Ready w t) :
    ∃ g opened, Graph.compile e.resolve w = .ok g ∧ e.prepare w t = (opened, .ok g) := by
  obtain ⟨g, compiled⟩ := Graph.exists_compile ready.valid ready.resolved
  exact ⟨g, _, compiled, Prod.ext rfl (prepare_of_opened compiled (ready.opened g compiled))⟩

/-- A run that is ready to get under way is lost just when its cap is too great. -/
theorem Ready.run?_eq_none_iff (ready : e.Ready w t) :
    (e.run? w runId prompt given t).2 = none ↔ capLimit < e.settings.maxConcurrency := by
  obtain ⟨g, _, _, prepared⟩ := ready.exists_prepare
  rw [run?_eq_none_iff_of_calm ready.startCrash]
  exact and_iff_left ⟨g, congrArg Prod.snd prepared⟩

theorem Ready.exists_history (ready : e.Ready w t) (runId prompt : String) (given : Metadata) :
    ∃ h, (e.run w runId prompt given t).2.course = .ok (w.startNode, h) := by
  obtain ⟨g, opened, compiled, prepared⟩ := ready.exists_prepare
  rw [← Graph.startNode_compile compiled]
  exact ⟨_, run_of_ok prepared runId prompt given⟩

theorem history_of_run {start : String} {h : History}
    (ran : (e.run w runId prompt given t).2.course = .ok (start, h)) :
    ∃ g t', Graph.compile e.resolve w = .ok g ∧ start = w.startNode ∧
      h = (g.history e.worker runId e.settings.maxSteps (startState w prompt given) t').2 := by
  unfold run prepare at ran
  cases compiled : Graph.compile e.resolve w with
  | error cause => simp [compiled] at ran
  | ok g =>
      simp only [compiled] at ran
      rcases opened : e.openSessions g.taskTypes t with ⟨t', outcome⟩
      cases outcome with
      | error cause => simp [opened] at ran
      | ok _ =>
          simp only [opened, Except.ok.injEq, Prod.mk.injEq] at ran
          obtain ⟨same, history⟩ := ran
          exact ⟨g, t', rfl, same.symm.trans (Graph.startNode_compile compiled), history.symm⟩

/-- A run that gets under way takes a course from the start node of a valid
    workflow. -/
theorem course_of_run (faithful : e.worker.Faithful) (shows : e.worker.Shows e.resolve b)
    {start : String} {h : History}
    (ran : (e.run w runId prompt given t).2.course = .ok (start, h)) :
    w.Valid ∧ start = w.startNode ∧
      Course w b runId e.settings.maxSteps e.settings.maxSteps 1 [w.startNode]
        (startState w prompt given) h := by
  obtain ⟨g, t', compiled, same, rfl⟩ := history_of_run ran
  have valid := Workflow.valid_of_violations (Graph.compile_ok compiled).1
  refine ⟨valid, same, ?_⟩
  rw [Graph.history, Graph.startNode_compile compiled]
  refine Graph.proceed_course compiled faithful shows runId _ _ 1 (List.nodup_singleton _) ?_ _ t'
  intro id member
  rw [List.mem_singleton.1 member]
  exact valid.start

end Engine

end Superstep
