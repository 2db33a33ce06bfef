import Superstep.Config.Read
import Superstep.Executor.Create
import Superstep.Proofs.Alone
import Superstep.Proofs.Binding
import Superstep.Proofs.Traces

/-! # Configurations that can be run

What is wrong with a configuration is found before anything is made of it: its checks leave
nothing over that could fail when executors are made or looked up, or keep a run from its
first step. Only how many calls may run at a time is not checked.
-/

namespace Superstep

namespace Configuration

/-- What can be wrong with a configuration. -/
inductive Faulty (c : Configuration) : ConfigFault → Prop where
  | zeroSteps (none : c.engine.maxSteps = 0) : c.Faulty .zeroSteps
  | programMissing {taskType : String} {s : ExecutorSettings}
      (listed : c.executors.get? taskType = some s) (kind : s.kind = .command)
      (missing : s.program = none) : c.Faulty (.programMissing taskType)
  | defaultMissing {taskType : String} (default : c.engine.defaultTaskType = some taskType)
      (missing : taskType ∉ c.executors.keys) : c.Faulty (.defaultMissing taskType)

theorem lacksProgram_iff {s : ExecutorSettings} :
    lacksProgram s = true ↔ s.kind = .command ∧ s.program = none := by
  simp [lacksProgram]

variable {c : Configuration}

theorem faulty_of_fault? {fault : ConfigFault} (found : c.fault? = some fault) :
    c.Faulty fault := by
  unfold fault? at found
  split at found
  next none =>
    cases found
    exact .zeroSteps none
  next =>
    split at found
    next taskType s first =>
      cases found
      have lacks : lacksProgram s = true := by simpa using List.find?_some first
      obtain ⟨kind, missing⟩ := lacksProgram_iff.1 lacks
      have listed := c.executors.get?_eq_some_iff.2 (List.mem_of_find?_eq_some first)
      exact .programMissing listed kind missing
    next =>
      split at found
      next taskType default =>
        split at found
        next => cases found
        next missing =>
          cases found
          exact .defaultMissing default fun listed => missing (c.executors.mem_keys_iff.1 listed)
      next => cases found

theorem not_faulty_of_fault? (none : c.fault? = none) (fault : ConfigFault) :
    ¬ c.Faulty fault := by
  unfold fault? at none
  split at none
  next => cases none
  next steps =>
    split at none
    next => cases none
    next programs =>
      intro faulty
      cases faulty with
      | zeroSteps zero => exact steps zero
      | programMissing listed kind missing =>
          have passed := List.find?_eq_none.1 programs _ (c.executors.get?_eq_some_iff.1 listed)
          exact passed (lacksProgram_iff.2 ⟨kind, missing⟩)
      | defaultMissing default missing =>
          simp only [default] at none
          split at none
          next listed => exact missing (c.executors.mem_keys_iff.2 listed)
          next => cases none

variable {lookup : String → Option String} {text : String}

/-- Of a text that spells a configuration it only matters what is wrong with that. -/
theorem parse_of_decode? (decoded : decode? (expandReferences lookup text) = some c) :
    parse lookup text = c.fault?.elim (.ok c) .error := by
  simp only [parse, ofText, decoded]
  cases c.fault? <;> rfl

theorem not_faulty_of_parse (accepted : parse lookup text = .ok c) (fault : ConfigFault) :
    ¬ c.Faulty fault := by
  unfold parse ofText at accepted
  split at accepted
  next => cases accepted
  next =>
    split at accepted
    next => cases accepted
    next none =>
      cases accepted
      exact not_faulty_of_fault? none fault

end Configuration

variable {σ : Type}

/-- There is an executor for an entry that does not lack a program. -/
theorem Executor.exists_ofSettings (launcher : Launcher σ) (taskType : String)
    {s : ExecutorSettings} (runnable : ¬ (s.kind = .command ∧ s.program = none)) :
    ∃ e, ofSettings launcher taskType s = .ok e := by
  obtain ⟨kind, program, _, _, _, _, retry⟩ := s
  cases kind with
  | echo => cases retry <;> exact ⟨_, rfl⟩
  | command =>
      cases program with
      | none => exact absurd ⟨rfl, rfl⟩ runnable
      | some path => cases retry <;> exact ⟨_, rfl⟩

/-- Getting ready does not crash: at worst the program of an executor cannot be run. -/
theorem Executor.calm_ofSettings {launcher : Launcher σ} {taskType : String}
    {s : ExecutorSettings} {e : Executor σ} (made : ofSettings launcher taskType s = .ok e)
    (world : σ) : e.sessionCrash world = none := by
  obtain ⟨kind, program, _, _, _, _, retry⟩ := s
  cases kind with
  | echo =>
      cases retry <;> cases made
      · rfl
      · rfl
  | command =>
      cases program with
      | none => cases made
      | some path =>
          cases retry <;> cases made
          · rfl
          · rfl

namespace Pool

/-- The pool has the executors that a configuration tells of, and no others. -/
structure Implements (p : Pool σ) (launcher : Launcher σ) (c : Configuration) : Prop where
  fallback : p.fallback = c.engine.defaultTaskType
  own : ∀ taskType s, c.executors.get? taskType = some s →
    ∃ e, Executor.ofSettings launcher taskType s = .ok e ∧ p.get? taskType = some e
  taskTypes : p.taskTypes = c.executors.keys

/-- Adding entries gives each of them its executor, and changes no others. -/
theorem exists_addEntries (launcher : Launcher σ) {entries : List (String × ExecutorSettings)}
    (distinct : (entries.map Prod.fst).Nodup)
    (runnable : ∀ entry ∈ entries, ¬ (entry.2.kind = .command ∧ entry.2.program = none))
    (p : Pool σ) :
    ∃ q, addEntries launcher entries p = .ok q ∧ q.fallback = p.fallback ∧
      (∀ entry ∈ entries, ∃ e, Executor.ofSettings launcher entry.1 entry.2 = .ok e ∧
        q.get? entry.1 = some e) ∧
      ∀ taskType ∉ entries.map Prod.fst, q.get? taskType = p.get? taskType := by
  induction entries generalizing p with
  | nil => exact ⟨p, rfl, rfl, nofun, fun _ _ => rfl⟩
  | cons entry rest ih =>
      obtain ⟨taskType, s⟩ := entry
      obtain ⟨fresh, distinct⟩ := List.nodup_cons.1 distinct
      obtain ⟨first, runnable⟩ := List.forall_mem_cons.1 runnable
      obtain ⟨e, made⟩ := Executor.exists_ofSettings launcher taskType first
      obtain ⟨q, added, fallback, own, others⟩ := ih distinct runnable (p.register taskType e)
      refine ⟨q, ?_, fallback, List.forall_mem_cons.2 ⟨⟨e, made, ?_⟩, own⟩, ?_⟩
      · rw [addEntries, made]
        exact added
      · -- No later entry has the same key, so the executor is not replaced.
        rw [others taskType fresh, get?_register, if_pos rfl]
      · intro other unlisted
        rw [List.map_cons, List.mem_cons, not_or] at unlisted
        rw [others other unlisted.2, get?_register, if_neg unlisted.1]

/-- A pool is made of a configuration in which no program is missing. -/
theorem exists_ofConfiguration (launcher : Launcher σ) {c : Configuration}
    (complete : ∀ taskType, ¬ c.Faulty (.programMissing taskType)) :
    ∃ p, ofConfiguration launcher c = .ok p ∧ p.Implements launcher c := by
  have runnable : ∀ entry ∈ c.executors.entries,
      ¬ (entry.2.kind = .command ∧ entry.2.program = none) := by
    rintro ⟨taskType, s⟩ member ⟨kind, missing⟩
    exact complete taskType (.programMissing (c.executors.get?_eq_some_iff.2 member) kind missing)
  obtain ⟨p, made, fallback, own, others⟩ := exists_addEntries launcher c.executors.keys_nodup
    runnable ⟨.empty, c.engine.defaultTaskType⟩
  have entered (taskType : String) (s : ExecutorSettings)
      (listed : c.executors.get? taskType = some s) :
      ∃ e, Executor.ofSettings launcher taskType s = .ok e ∧ p.get? taskType = some e :=
    own _ (c.executors.get?_eq_some_iff.1 listed)
  refine ⟨p, made, fallback, entered, KeyMap.keys_eq_of_mem fun taskType => ?_⟩
  rw [KeyMap.mem_keys_iff]
  constructor
  · intro found
    refine Decidable.by_contra fun unlisted => ?_
    have nothing : p.get? taskType = none := others taskType unlisted
    rw [Pool.get?] at nothing
    rw [nothing] at found
    cases found
  · intro listed
    obtain ⟨s, listed⟩ := Option.isSome_iff_exists.1 (c.executors.mem_keys_iff.1 listed)
    obtain ⟨e, _, found⟩ := entered taskType s listed
    exact congrArg Option.isSome found

namespace Implements

variable {p : Pool σ} {launcher : Launcher σ} {c : Configuration}

theorem exists_get?_iff (implements : p.Implements launcher c) {taskType : String} :
    (∃ e, p.get? taskType = some e) ↔ taskType ∈ c.executors.keys := by
  rw [← implements.taskTypes, Pool.taskTypes, KeyMap.mem_keys_iff, Option.isSome_iff_exists]
  rfl

/-- With a default task type that has an executor, every task type has one. -/
theorem resolves_with_default (implements : p.Implements launcher c) {default : String}
    (set : c.engine.defaultTaskType = some default) (listed : default ∈ c.executors.keys)
    (taskType : String) : ∃ e, p.resolve taskType = .ok e := by
  simp only [← serves_iff]
  cases found : p.get? taskType with
  | some e => exact ⟨e, .own found⟩
  | none =>
      obtain ⟨e, standby⟩ := implements.exists_get?_iff.2 listed
      exact ⟨e, .standby found (implements.fallback.trans set) standby⟩

theorem resolves_iff (implements : p.Implements launcher c)
    (unset : c.engine.defaultTaskType = none) {taskType : String} :
    (∃ e, p.resolve taskType = .ok e) ↔ taskType ∈ c.executors.keys := by
  rw [← implements.exists_get?_iff]
  simp only [← serves_iff]
  refine exists_congr fun e => ⟨fun serves => ?_, .own⟩
  cases serves with
  | own found => exact found
  | standby _ fallback _ =>
      rw [implements.fallback, unset] at fallback
      cases fallback

/-- No session of a configured executor crashes. -/
theorem calm (implements : p.Implements launcher c) (taskTypes : List String) (site : Site σ) :
    p.sessionsCrash taskTypes site = none := by
  have own {taskType : String} {e : Executor σ} (found : p.get? taskType = some e) (world : σ) :
      e.sessionCrash world = none := by
    have listed := implements.exists_get?_iff.1 ⟨e, found⟩
    obtain ⟨s, entry⟩ := Option.isSome_iff_exists.1 (c.executors.mem_keys_iff.1 listed)
    obtain ⟨e', made, found'⟩ := implements.own taskType s entry
    rw [found] at found'
    obtain rfl := Option.some.inj found'
    exact Executor.calm_ofSettings made world
  refine sessionsCrash_eq_none (fun taskType _ e resolved => ?_) site
  cases serves_iff.2 resolved with
  | own found => exact own found
  | standby _ _ found => exact own found

end Implements

end Pool

/-- If every task type is resolved, none is reported as unknown. -/
theorem Graph.compile_ne_unknown {ε : Type} {resolve : String → Except Failure ε}
    (resolves : ∀ taskType, ∃ e, resolve taskType = .ok e) (w : Workflow) (taskType : String) :
    compile resolve w ≠ .error (.unknownTaskType taskType) := by
  intro failed
  rcases compile_error failed with invalid | ⟨n, _, missing⟩
  · cases invalid
  · obtain ⟨e, found⟩ := resolves n.taskType
    rw [found] at missing
    cases missing

/-! ## The first step -/

/-- What a run tells when its first step is attempted: its start, that of the step, and that
    of the start node. -/
def Run.Attempts (r : Run) (w : Workflow) : Prop :=
  [.runStarted r.runId w.startNode, .stepStarted r.runId 1 [w.startNode],
    .nodeStarted r.runId w.startNode 1] <+: r.events

section

variable {p : Pool σ} {settings : EngineSettings} {worker : Worker (Site σ) (Executor σ)}
  {cap : Nat} {inOrder : Prop} {w : Workflow} {runId prompt : String} {given : Metadata}
  {site : Site σ}

/-- A run that gets under way attempts its first step if it may take one. -/
theorem Engine.attempts_of_run (schedules : worker.Schedules cap inOrder)
    (allowed : 0 < settings.maxSteps) {start : String} {h : History}
    (ran : ((p.engineWith settings worker).run w runId prompt given site).2.course =
      .ok (start, h)) :
    ((p.engineWith settings worker).run w runId prompt given site).2.Attempts w := by
  have faithful : (p.engineWith settings worker).worker.Faithful := schedules.faithful
  obtain ⟨valid, rfl, course⟩ := Engine.course_of_run faithful (worker.shows_any p.resolve) ran
  obtain ⟨happenings, later, steps⟩ := course.exists_step (List.cons_ne_nil _ _) allowed
  have first : ⟨1, [w.startNode], startState w prompt given, happenings⟩ ∈ h.steps := by
    rw [steps]
    exact List.mem_cons_self
  obtain ⟨awake, g, jobs, t', compiled, made, told, _⟩ := Engine.jobs_of_run faithful ran first
  obtain ⟨_, again, known, ids⟩ := Graph.jobs_compile compiled runId _ awake.inside
  obtain rfl := Except.ok.inj (made.symm.trans again)
  -- The start node is the only one that is active, so its call has no company.
  obtain ⟨job, rfl, own⟩ := List.map_eq_singleton_iff.1 ids
  obtain ⟨_, n, _, called⟩ := known job (List.mem_singleton_self _)
  obtain ⟨rest, begun⟩ := schedules.begins job t'
  have happened : happenings = .started job.call :: rest := told.symm.trans begun
  have attempt : job.call.attempt = 1 := by
    rw [called]
    rfl
  rw [Run.Attempts, Run.events_of_course ran, Engine.run_runId, steps, happened]
  simp only [List.flatMap_cons, Step.events, List.map_cons, Happening.event, own, attempt,
    List.cons_append, List.prefix_cons_inj, List.nil_prefix]

end

/-- A configuration that passes the checks can be run. A pool is made of it that has just
    the configured task types. With a default task type all others are resolved as well, so
    none is ever reported as unknown; without one, no others are. A run of a workflow whose
    sessions open attempts its first step, unless the configured cap is too great: that is
    not checked, and such a run never comes to anything. A configuration that is spelled
    right is rejected, by one of its faults, just when it allows no steps, lacks a program
    or has no executor for its default task type. -/
theorem configurations_runnable (launcher : Launcher σ) (lookup : String → Option String)
    (text : String) (c : Configuration) :
    (Configuration.parse lookup text = .ok c →
      ∃ p, Pool.ofConfiguration launcher c = .ok p ∧ p.Implements launcher c ∧
        (c.engine.defaultTaskType ≠ none → ∀ taskType, (∃ e, p.resolve taskType = .ok e) ∧
          ∀ w, Graph.compile p.resolve w ≠ .error (.unknownTaskType taskType)) ∧
        (c.engine.defaultTaskType = none →
          ∀ taskType, (∃ e, p.resolve taskType = .ok e) ↔ taskType ∈ c.executors.keys) ∧
        ∀ {worker : Worker (Site σ) (Executor σ)} {cap : Nat} {inOrder : Prop},
          worker.Schedules cap inOrder →
          ∀ (w : Workflow) (runId prompt : String) (given : Metadata) (site : Site σ)
            (g : Graph (Executor σ)), Graph.compile p.resolve w = .ok g →
            (p.openSessions g.taskTypes site).2 = .ok () →
            (((p.engineWith c.engine worker).run? w runId prompt given site).2 = none ↔
              Engine.capLimit < c.engine.maxConcurrency) ∧
            ∀ r, ((p.engineWith c.engine worker).run? w runId prompt given site).2 = some r →
              r.Attempts w) ∧
    (Configuration.decode? (expandReferences lookup text) = some c →
      ((∃ fault, c.Faulty fault) →
        ∃ fault, Configuration.parse lookup text = .error fault ∧ c.Faulty fault) ∧
      ((∀ fault, ¬ c.Faulty fault) → Configuration.parse lookup text = .ok c)) := by
  refine ⟨fun accepted => ?_, fun decoded => ?_⟩
  · have sound := Configuration.not_faulty_of_parse accepted
    obtain ⟨p, made, implements⟩ := Pool.exists_ofConfiguration launcher fun _ => sound _
    refine ⟨p, made, implements, fun set => ?_, fun unset _ => implements.resolves_iff unset, ?_⟩
    · obtain ⟨default, set⟩ := Option.ne_none_iff_exists'.1 set
      have listed : default ∈ c.executors.keys :=
        Decidable.by_contra fun missing => sound _ (.defaultMissing set missing)
      have resolves := implements.resolves_with_default set listed
      exact fun taskType =>
        ⟨resolves taskType, fun w => Graph.compile_ne_unknown resolves w taskType⟩
    · intro worker cap inOrder schedules w runId prompt given site g compiled opened
      have prepared : ((p.engineWith c.engine worker).prepare w site).2 = .ok g :=
        Engine.prepare_of_opened compiled opened
      have calm : (p.engineWith c.engine worker).startCrash w site = none :=
        Engine.startCrash_eq_none fun taskTypes => implements.calm taskTypes site
      refine ⟨?_, fun r found => ?_⟩
      · rw [Engine.run?_eq_none_iff_of_calm calm]
        exact and_iff_left ⟨g, prepared⟩
      · obtain rfl := Engine.eq_run_of_run? found
        have allowed : 0 < c.engine.maxSteps :=
          Nat.pos_of_ne_zero fun none => sound _ (.zeroSteps none)
        exact Engine.attempts_of_run schedules allowed
          (Engine.run_of_ok (Prod.ext rfl prepared) runId prompt given)
  · rw [Configuration.parse_of_decode? decoded]
    cases found : c.fault? with
    | some fault =>
        have faulty := Configuration.faulty_of_fault? found
        exact ⟨fun _ => ⟨fault, rfl, faulty⟩, fun sound => absurd faulty (sound fault)⟩
    | none =>
        have sound := Configuration.not_faulty_of_fault? found
        exact ⟨fun ⟨fault, faulty⟩ => absurd faulty (sound fault), fun _ => rfl⟩

namespace Echoing

/-- A configuration with one executor, which stands in for all others. -/
def configuration (cap : Nat) : Configuration where
  engine := { maxConcurrency := cap, defaultTaskType := some "e" }
  executors := .ofList [("e", { kind := .echo })]

def text (cap : String) : String :=
  "[engine]\nmax_concurrency = " ++ cap ++
    "\ndefault_task_type = 'e'\n[executors.e]\nkind = 'echo'\n"

def pool : Pool Unit :=
  (Pool.empty.register "e" (.echo "e")).withDefault "e"

/-- The configuration runs no programs. -/
def launcher : Launcher Unit := fun _ world => (world, .ok "")

theorem ofConfiguration_eq (cap : Nat) :
    Pool.ofConfiguration launcher (configuration cap) = .ok pool :=
  rfl

theorem provider?_pool (taskType : String) : pool.provider? taskType = some ("e", .echo "e") := by
  by_cases same : taskType = "e"
  · subst same
    rfl
  · have unknown : pool.get? taskType = none :=
      (Pool.get?_register ..).trans (if_neg same)
    unfold Pool.provider?
    rw [unknown]
    rfl

/-- The diamond is compiled with the pool, and its sessions open. -/
theorem exists_opened (site : Site Unit) :
    ∃ g, Graph.compile pool.resolve Diamond.flow = .ok g ∧
      (pool.openSessions g.taskTypes site).2 = .ok () := by
  have resolved (n : Node) : ∃ e, pool.resolve n.taskType = .ok e := by
    rw [Pool.resolve, provider?_pool]
    exact ⟨_, rfl⟩
  obtain ⟨g, compiled⟩ := Graph.exists_compile Diamond.pooled_ready.valid fun n _ => resolved n
  refine ⟨g, compiled, Pool.openSessions_ok (fun taskType _ => ?_) site⟩
  exact ⟨_, _, provider?_pool taskType, fun _ => rfl⟩

end Echoing

open Echoing in
theorem configurations_runnable_echoing :
    (Configuration.parse (fun _ => none) (text "8") = .ok (configuration 8) ∧
      ∃ p r, Pool.ofConfiguration launcher (configuration 8) = .ok p ∧ p.taskTypes = ["e"] ∧
        (∃ e, p.resolve "other" = .ok e) ∧
        ((p.engineWith (configuration 8).engine (Pool.worker 8)).run? Diamond.flow "one" "go"
          .empty ⟨[], ()⟩).2 = some r ∧ r.Attempts Diamond.flow) ∧
    ∃ fault, Configuration.parse (fun _ => none) "engine.max_steps = 0" = .error fault := by
  have accepted : Configuration.parse (fun _ => none) (text "8") = .ok (configuration 8) :=
    eq_ok_of_toOption (by decide +kernel)
  refine ⟨⟨accepted, ?_⟩, ?_⟩
  · obtain ⟨p, made, implements, resolves, _, runs⟩ :=
      (configurations_runnable launcher _ _ _).1 accepted
    obtain rfl : pool = p := Except.ok.inj made
    obtain ⟨g, compiled, opened⟩ := exists_opened ⟨[], ()⟩
    obtain ⟨none_iff, attempts⟩ := runs (Pool.worker_schedules 8 True) Diamond.flow "one" "go"
      .empty ⟨[], ()⟩ g compiled opened
    cases found : ((pool.engineWith (configuration 8).engine (Pool.worker 8)).run? Diamond.flow
        "one" "go" .empty ⟨[], ()⟩).2 with
    | none => exact absurd (none_iff.1 found) (by decide)
    | some r =>
        exact ⟨pool, r, rfl, rfl, (resolves (by decide) "other").1, found, attempts r found⟩
  · have decoded : Configuration.decode?
        (expandReferences (fun _ => none) "engine.max_steps = 0") =
        some { engine := { maxSteps := 0 } } := by decide +kernel
    obtain ⟨fault, rejected, _⟩ :=
      ((configurations_runnable launcher _ _ _).2 decoded).1 ⟨_, .zeroSteps rfl⟩
    exact ⟨fault, rejected⟩

open Echoing in
/-- A configuration is accepted with a cap that is too great, and no run with it comes to
    anything. -/
theorem accepted_beyond_cap :
    ∃ c p g, Configuration.parse (fun _ => none) (text "2305843009213693952") = .ok c ∧
      Pool.ofConfiguration launcher c = .ok p ∧
      Graph.compile p.resolve Diamond.flow = .ok g ∧
      (p.openSessions g.taskTypes ⟨[], ()⟩).2 = .ok () ∧
      ((p.engine c.engine).run? Diamond.flow "one" "go" .empty ⟨[], ()⟩).2 = none := by
  have accepted : Configuration.parse (fun _ => none) (text "2305843009213693952") =
      .ok (configuration (Engine.capLimit + 1)) := eq_ok_of_toOption (by decide +kernel)
  obtain ⟨g, compiled, opened⟩ := exists_opened ⟨[], ()⟩
  refine ⟨_, pool, g, accepted, ofConfiguration_eq _, compiled, opened, ?_⟩
  have prepared : ((pool.engine (configuration (Engine.capLimit + 1)).engine).prepare
      Diamond.flow ⟨[], ()⟩).2 = .ok g := Engine.prepare_of_opened compiled opened
  exact Engine.run?_eq_none_iff.2 (.inr ⟨Nat.lt_succ_self _, g, prepared⟩)

end Superstep
