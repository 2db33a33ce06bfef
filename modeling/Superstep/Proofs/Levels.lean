import Superstep.Executor.Retrying
import Superstep.Executor.StandIn
import Superstep.Proofs.Alone
import Superstep.Proofs.Logs
import Superstep.Proofs.Retries
import Superstep.Proofs.Traces

/-! # Two levels of retries

A run retries a node, and an executor may retry its calls on its own. The second level
is not seen by the first: an attempt of a node is one call of the retrying executor,
whatever that makes of it. So for a node that always fails the calls at the bottom are
the product of what both levels allow.
-/

namespace Superstep

variable {σ : Type}

/-! ## The lower level -/

namespace Conduct

theorem finish_weaken {m n : Nat} (c : Conduct σ m) (weaker : m ≤ n) (world : σ) :
    (c.weaken weaker).finish world = c.finish world := by
  cases c <;> rfl

theorem finish_orElse {k m n : Nat} (other : Failure → Conduct σ k) (c : Conduct σ m)
    (enough : m + k ≤ n) (world : σ) :
    (c.orElse other enough).finish world =
      match c.finish world with
      | (after, some (.error cause)) => (other cause).finish after
      | ending => ending := by
  induction c generalizing n world with
  | answer result =>
      cases result with
      | ok output => rfl
      | error cause => exact finish_weaken _ _ world
  | crash => rfl
  | wait ms effect resume fewer ih => exact ih world (Nat.le_refl _) (effect world)

theorem finish_logged {n : Nat} (c : Conduct σ n) (u : Logged σ) :
    c.logged.finish u = (⟨(c.finish u.world).1, u.log⟩, (c.finish u.world).2) := by
  induction c generalizing u with
  | answer result => rfl
  | crash => rfl
  | wait ms effect resume fewer ih => exact ih u.world { u with world := effect u.world }

end Conduct

namespace Executor

/-- Call an executor, and again as long as it fails in a way that may pass, at most so
    many times. -/
def attempts (e : Executor σ) (call : Call) : Nat → σ → σ × Option Answer
  | 0, world => e.attempt call world
  | left + 1, world =>
      match e.attempt call world with
      | (after, some (.error cause)) =>
          if cause.isTransient then e.attempts call left after else (after, some (.error cause))
      | ending => ending

theorem finish_retryConduct (e : Executor σ) (policy : RetryPolicy) (call : Call)
    (left made : Nat) (world : σ) :
    (e.retryConduct policy call left made (e.execute call world).2).finish
        (e.execute call world).1 =
      e.attempts call left world := by
  induction left generalizing made world with
  | zero => exact Conduct.finish_weaken _ _ _
  | succ left ih =>
      have once : e.attempt call world =
          (e.execute call world).2.finish (e.execute call world).1 := rfl
      rw [retryConduct, Conduct.finish_orElse, attempts, once]
      rcases (e.execute call world).2.finish (e.execute call world).1 with
        ⟨after, _ | cause | output⟩
      · rfl
      · simp only
        split
        next => exact ih (made + 1) after
        next => rfl
      · rfl

/-- An attempt of a retrying executor is one attempt after another of what it retries. -/
theorem attempt_retrying (e : Executor σ) (policy : RetryPolicy) (call : Call) (world : σ) :
    (e.retrying policy).attempt call world = e.attempts call policy.maxRetries world :=
  e.finish_retryConduct policy call policy.maxRetries 0 world

theorem attempt_watched (key : String) (e : Executor σ) (call : Call) (u : Logged σ) :
    (e.watched key).attempt call u =
      (⟨(e.attempt call u.world).1, u.log ++ [.executed key call]⟩,
        (e.attempt call u.world).2) :=
  Conduct.finish_logged _ _

end Executor

/-- In these worlds every call of an executor fails in a way that may pass, and so do all
    calls after it. -/
structure Executor.Failing (e : Executor σ) (worlds : σ → Prop) : Prop where
  attempt : ∀ call world, worlds world →
    ∃ cause, (e.attempt call world).2 = some (.error cause) ∧ cause.isTransient = true
  kept : ∀ call world, worlds world → worlds (e.attempt call world).1

/-- A failing executor is called until no retries are left, with the same call each time. -/
theorem Executor.Failing.attempts {e : Executor σ} {worlds : σ → Prop} (failing : e.Failing worlds)
    (key : String) (call : Call) (left : Nat) {u : Logged σ} (inside : worlds u.world) :
    ∃ cause, ((e.watched key).attempts call left u).2 = some (.error cause) ∧
      cause.isTransient = true ∧ worlds ((e.watched key).attempts call left u).1.world ∧
      ((e.watched key).attempts call left u).1.log =
        u.log ++ (List.replicate (left + 1) call).map (.executed key) := by
  induction left generalizing u with
  | zero =>
      obtain ⟨cause, failed, may⟩ := failing.attempt call u.world inside
      simp only [Executor.attempts, attempt_watched]
      exact ⟨cause, failed, may, failing.kept call u.world inside, rfl⟩
  | succ left ih =>
      obtain ⟨cause, failed, may⟩ := failing.attempt call u.world inside
      have later : worlds
          (Logged.mk (e.attempt call u.world).1 (u.log ++ [.executed key call])).world :=
        failing.kept call u.world inside
      obtain ⟨last, failedLast, mayLast, insideLast, log⟩ := ih later
      simp only [Executor.attempts, attempt_watched, failed, may, if_true]
      refine ⟨last, failedLast, mayLast, insideLast, ?_⟩
      simp [log, List.replicate_succ]

/-! ## The upper level -/

/-- A point of a run: the number of the next step and what it starts from. -/
structure Point (τ : Type) where
  number : Nat
  active : List String
  state : State
  own : τ

namespace Graph

variable {τ ε : Type} {g : Graph ε} {worker : Worker τ ε} {runId : String}

/-- Completed steps that lead from one point of a run to another. -/
inductive Stretch (g : Graph ε) (worker : Worker τ ε) (runId : String) :
    Point τ → List Step → Point τ → Prop where
  | none {p : Point τ} : Stretch g worker runId p [] p
  | step {p q r : Point τ} {step : Step} {steps : List Step} (busy : p.active ≠ [])
      (taken : g.takeStep worker runId p.number p.active p.state p.own =
        (q.own, step, .ok (q.state, q.active)))
      (next : q.number = p.number + 1) (later : Stretch g worker runId q steps r) :
      Stretch g worker runId p (step :: steps) r

/-- A run that may take these steps takes them, and goes on from where they lead. -/
theorem Stretch.proceed {p r : Point τ} {steps : List Step}
    (stretch : g.Stretch worker runId p steps r) (limit left : Nat) :
    g.proceed worker runId limit (steps.length + left) p.number p.active p.state p.own =
      ((g.proceed worker runId limit left r.number r.active r.state r.own).1,
        ⟨steps ++ (g.proceed worker runId limit left r.number r.active r.state r.own).2.steps,
          (g.proceed worker runId limit left r.number r.active r.state r.own).2.outcome⟩) := by
  induction stretch with
  | none => simp
  | @step p q r step steps busy taken next later ih =>
      obtain ⟨id, rest, awake⟩ := List.exists_cons_of_ne_nil busy
      rw [awake] at taken
      rw [List.length_cons, Nat.add_right_comm, awake, Graph.proceed, taken]
      simp only [← next, ih]
      rfl

end Graph

namespace Node

variable {n : Node} {k i : Nat} {runId : String} {s : State}

/-- The call of an attempt at a node, after so many others and before any output. -/
def callAfter (n : Node) (runId : String) (k i : Nat) : Call :=
  ⟨runId, n.id, n.name, n.taskType, i + 1, k + 1, n.instruction⟩

/-- A state in which nothing has happened but so many failures of a node. -/
structure Failed (n : Node) (i : Nat) (s : State) : Prop where
  silent : s.outputs = .empty
  counted : ∀ id, s.attempts.get? id = if id = n.id ∧ i ≠ 0 then some i else none

theorem Failed.attemptsOf (failed : n.Failed i s) : s.attemptsOf n.id = i := by
  rw [State.attemptsOf, failed.counted]
  by_cases first : i = 0 <;> simp [first]

theorem Failed.callIn (failed : n.Failed i s) (attempts : n.maxAttempts = k + 1) :
    n.callIn runId s = n.callAfter runId k i := by
  have alone : n.instructionIn s = n.instruction := by
    rw [instructionIn, failed.silent]
    rfl
  rw [Node.callIn, failed.attemptsOf, attempts, alone]
  rfl

theorem Failed.apply (failed : n.Failed i s) {cause : Failure} (elapsed : Nat) :
    n.Failed (i + 1) (s.apply (Visit.patch ⟨n, .error cause, elapsed⟩ runId s)) where
  silent := failed.silent
  counted id := by
    rw [State.attempts_apply, KeyMap.get?_insert, Visit.patch_nodeId, Visit.patch_attempt,
      failed.counted, failed.attemptsOf]
    by_cases own : id = n.id <;> simp [own]

end Node

/-- The text of the error of an attempt at a node. -/
def Node.failureText (n : Node) (k i : Nat) (cause : Failure) : String :=
  if i < k then
    "Node " ++ n.id ++ " failed (attempt " ++ toString (i + 1) ++ " of " ++ toString (k + 1) ++
      "): " ++ cause.message
  else
    "Node " ++ n.id ++ " failed after " ++ toString (k + 1) ++ " attempts: " ++ cause.message

theorem Node.errorText_callAfter (n : Node) (runId : String) {k i : Nat} (few : i ≤ k)
    (cause : Failure) : (n.callAfter runId k i).errorText cause = n.failureText k i cause := by
  unfold Call.errorText failureText callAfter
  by_cases left : i < k
  · rw [if_pos left, if_pos (Nat.succ_lt_succ left)]
  · obtain rfl : i = k := by omega
    rw [if_neg left, if_neg (Nat.lt_irrefl _)]

/-- A step that is one failed attempt at a node. -/
def Node.failedStep (n : Node) (runId : String) (k i : Nat) (before : State) (cause : Failure)
    (elapsed : Nat) : Step :=
  ⟨i + 1, [n.id], before,
    [.started (n.callAfter runId k i), .ended (n.callAfter runId k i) (.error cause) elapsed]⟩

section

variable {p : Pool (Logged σ)} {w : Workflow} {n : Node} {g : Graph (Executor (Logged σ))}
  {inner : Executor σ} {worlds : σ → Prop} {key : String} {policy : RetryPolicy} {k i : Nat}
  {s : State} {site : Site (Logged σ)} {worker : Worker (Site (Logged σ)) (Executor (Logged σ))}
  {cap : Nat} {inOrder : Prop}

/-- The calls at the bottom for one attempt at a node. -/
def Node.callsFor (n : Node) (runId : String) (retries k i : Nat) : List Call :=
  List.replicate (retries + 1) (n.callAfter runId k i)

/-- A step of a node that always fails is a failed attempt, and leads back to the node
    alone as long as retries are left. -/
theorem takeStep_failing (compiled : Graph.compile p.resolve w = .ok g) (member : n ∈ w.nodes)
    (bound : p.resolve n.taskType = .ok ((inner.watched key).retrying policy))
    (failing : inner.Failing worlds) (inside : worlds site.world.world)
    (attempts : n.maxAttempts = k + 1) (few : i ≤ k) (failed : n.Failed i s)
    (schedules : worker.Schedules cap inOrder) (runId : String) :
    ∃ (cause : Failure) (elapsed : Nat) (q : Point (Site (Logged σ))), cause.isTransient = true ∧
      g.takeStep worker runId (i + 1) [n.id] s site =
        (q.own, n.failedStep runId k i s cause elapsed, .ok (q.state, q.active)) ∧
      q.number = i + 2 ∧ (i < k → q.active = [n.id]) ∧ n.Failed (i + 1) q.state ∧
      q.state.error = some (n.failureText k i cause) ∧ worlds q.own.world.world ∧
      q.own.world.log =
        site.world.log ++ (n.callsFor runId policy.maxRetries k i).map (.executed key) := by
  obtain ⟨executor, resolved, found⟩ := Graph.station?_compile compiled member
  obtain rfl := Except.ok.inj (bound.symm.trans resolved)
  have call : n.callIn runId s = n.callAfter runId k i := failed.callIn attempts
  have jobs : g.jobs runId s [n.id] =
      .ok [⟨(inner.watched key).retrying policy, n.callAfter runId k i⟩] := by
    rw [Graph.jobs, found, ← call]
    rfl
  obtain ⟨cause, answered, may, insideAfter, log⟩ :=
    failing.attempts key (n.callAfter runId k i) policy.maxRetries inside
  obtain ⟨elapsed, made⟩ :=
    schedules.alone ⟨(inner.watched key).retrying policy, n.callAfter runId k i⟩ site
  have told : endings (n.failedStep runId k i s cause elapsed).happenings =
      [Visit.mk n (.error cause) elapsed].map (·.ending runId s) := by
    rw [List.map_singleton, Visit.ending, call]
    rfl
  have completed := Graph.completions_compile compiled told fun v only => by
    rw [List.mem_singleton.1 only]
    exact member
  have after : n.Failed (i + 1) (s.apply (Visit.patch ⟨n, .error cause, elapsed⟩ runId s)) :=
    failed.apply elapsed
  have text : (s.apply (Visit.patch ⟨n, .error cause, elapsed⟩ runId s)).error =
      some (n.failureText k i cause) := by
    rw [State.error_apply, Visit.error_patch_error rfl, call, n.errorText_callAfter runId few]
  refine ⟨cause, elapsed, ⟨i + 2, (Visit.targets ⟨n, .error cause, elapsed⟩ w runId s).eraseDups,
    s.apply (Visit.patch ⟨n, .error cause, elapsed⟩ runId s), ⟨site.opened, _⟩⟩, may, ?_, rfl, ?_,
    after, text, insideAfter, log⟩
  · simp only [Graph.takeStep, jobs, made, Executor.attempt_retrying, answered,
      Transcript.ofAttempt, Graph.conclude, Bool.false_eq_true, if_false]
    rw [Node.failedStep] at completed
    rw [completed]
    simp [Node.failedStep, Completion.union, State.applyAll, bind, Except.bind]
  · intro left
    have back :
        (w.routeOf n).next (s.apply (Visit.patch ⟨n, .error cause, elapsed⟩ runId s)) = [n.id] := by
      apply Workflow.routeOf_next_retry
      · rw [text]
        rfl
      · rw [after.silent]
        rfl
      · rw [after.attemptsOf]
        omega
      · rw [after.attemptsOf]
        omega
    simp [Visit.targets, back, List.eraseDups_cons]

/-- From the first attempt on, a node that always fails is attempted in one step after
    another until no retries are left. -/
theorem stretch_failing (compiled : Graph.compile p.resolve w = .ok g) (member : n ∈ w.nodes)
    (bound : p.resolve n.taskType = .ok ((inner.watched key).retrying policy))
    (failing : inner.Failing worlds) (inside : worlds site.world.world)
    (attempts : n.maxAttempts = k + 1) (schedules : worker.Schedules cap inOrder)
    (runId : String) (more : Nat) (whole : i + more = k) (failed : n.Failed i s) :
    ∃ steps last,
      g.Stretch worker runId ⟨i + 1, [n.id], s, site⟩ steps last ∧
      steps.length = more + 1 ∧ last.number = k + 2 ∧ n.Failed (k + 1) last.state ∧
      last.own.world.log = site.world.log ++
        ((List.range' i (more + 1)).flatMap (n.callsFor runId policy.maxRetries k)).map
          (.executed key) ∧
      ∀ j ≤ more, ∃ before cause elapsed,
        steps[j]? = some (n.failedStep runId k (i + j) before cause elapsed) ∧
        cause.isTransient = true ∧ n.Failed (i + j) before ∧
        (j = more → last.state.error = some (n.failureText k (i + j) cause)) := by
  have busy : [n.id] ≠ [] := List.cons_ne_nil _ _
  induction more generalizing i s site with
  | zero =>
      obtain ⟨cause, elapsed, q, may, taken, next, _, after, text, _, log⟩ :=
        takeStep_failing compiled member bound failing inside attempts (by omega) failed schedules
          runId
      obtain rfl : i = k := whole
      refine ⟨_, q, .step busy taken next .none, rfl, next, after, by simpa using log, ?_⟩
      intro j first
      obtain rfl : j = 0 := by omega
      exact ⟨s, cause, elapsed, rfl, may, failed, fun _ => text⟩
  | succ more ih =>
      obtain ⟨cause, elapsed, q, may, taken, next, back, after, _, insideAfter, log⟩ :=
        takeStep_failing compiled member bound failing inside attempts (by omega) failed schedules
          runId
      obtain ⟨steps, last, stretch, length, number, failedLast, logLast, each⟩ :=
        ih insideAfter (by omega) after
      have again : q = ⟨i + 2, [n.id], q.state, q.own⟩ := by
        rw [← next, ← back (by omega)]
      rw [← again] at stretch
      refine ⟨_, last, .step busy taken next stretch, by simp [length], number, failedLast, ?_, ?_⟩
      · rw [logLast, log, List.append_assoc, ← List.map_append, ← List.flatMap_cons,
          ← List.range'_succ]
      · intro j upTo
        cases j with
        | zero => exact ⟨s, cause, elapsed, rfl, may, failed, nofun⟩
        | succ j =>
            obtain ⟨before, other, time, found, mayOther, failedOther, ends⟩ := each j (by omega)
            have shift : i + 1 + j = i + (j + 1) := by omega
            rw [shift] at found failedOther ends
            exact ⟨before, other, time, found, mayOther, failedOther,
              fun last_ => ends (by omega)⟩

end

/-- A start node with `k` retries whose executor retries `m` times itself and always
    fails below: whoever makes the calls, in the first `k + 1` steps of a run there are
    `m + 1` calls of the bottom executor for each of `k + 1` attempts, all of an attempt
    with the same instruction and number. State, events and texts count the attempts of
    the node only. -/
theorem retry_levels_multiply {p : Pool (Logged σ)} {settings : EngineSettings} {w : Workflow}
    {worker : Worker (Site (Logged σ)) (Executor (Logged σ))} {cap : Nat} {inOrder : Prop}
    (schedules : worker.Schedules cap inOrder) {site : Site (Logged σ)}
    (ready : (p.engineWith settings worker).Ready w site) {n : Node}
    (member : n ∈ w.nodes) (start : n.id = w.startNode) {k : Nat} (retries : n.maxRetries = k)
    (small : k ≤ twoTo 32 - 2) {inner : Executor σ} {key : String} {policy : RetryPolicy}
    (bound : p.resolve n.taskType = .ok ((inner.watched key).retrying policy))
    {worlds : σ → Prop} (failing : inner.Failing worlds)
    (inside : ∀ g opened, (p.engineWith settings worker).prepare w site = (opened, .ok g) →
      worlds opened.world.world)
    (enough : k + 1 ≤ settings.maxSteps) (runId prompt : String) (given : Metadata) :
    ∃ g opened steps last, ∃ later : History,
      (p.engineWith settings worker).prepare w site = (opened, .ok g) ∧
      ((p.engineWith settings worker).run w runId prompt given site).2.course =
        .ok (w.startNode, ⟨steps ++ later.steps, later.outcome⟩) ∧
      (settings.maxConcurrency ≤ Engine.capLimit →
        ((p.engineWith settings worker).run? w runId prompt given site).2 =
          some ((p.engineWith settings worker).run w runId prompt given site).2) ∧
      g.Stretch worker runId ⟨1, [n.id], Engine.startState w prompt given, opened⟩ steps last ∧
      steps.length = k + 1 ∧
      (∃ calls : List Call, last.own.world.log = opened.world.log ++ calls.map (.executed key) ∧
        calls = (List.range (k + 1)).flatMap (n.callsFor runId policy.maxRetries k) ∧
        calls.length = (k + 1) * (policy.maxRetries + 1)) ∧
      (∀ i ≤ k, ∃ before cause elapsed,
        steps[i]? = some (n.failedStep runId k i before cause elapsed) ∧
        cause.isTransient = true ∧ before.attemptsOf n.id = i ∧
        (n.failedStep runId k i before cause elapsed).events runId =
          [.stepStarted runId (i + 1) [n.id], .nodeStarted runId n.id (i + 1),
            .nodeFailed runId n.id (i + 1) elapsed (n.failureText k i cause)] ∧
        (i = k → last.state.error = some (n.failureText k k cause))) ∧
      ∀ id, last.state.attempts.get? id = if id = n.id then some (k + 1) else none := by
  obtain ⟨g, opened, compiled, prepared⟩ := ready.exists_prepare
  have most := Node.maxAttempts_of_retries retries small
  have fresh : n.Failed 0 (Engine.startState w prompt given) := ⟨rfl, fun id => by simp; rfl⟩
  obtain ⟨steps, last, stretch, length, _, failed, log, each⟩ :=
    stretch_failing compiled member bound failing (inside g opened prepared) most schedules runId k
      (Nat.zero_add k) fresh
  have all : steps.length + (settings.maxSteps - (k + 1)) = settings.maxSteps := by omega
  obtain ⟨later, whole⟩ : ∃ later : History,
      (g.proceed worker runId settings.maxSteps settings.maxSteps 1 [n.id]
        (Engine.startState w prompt given) opened).2 = ⟨steps ++ later.steps, later.outcome⟩ := by
    have whole := stretch.proceed settings.maxSteps (settings.maxSteps - (k + 1))
    rw [all] at whole
    exact ⟨_, congrArg Prod.snd whole⟩
  refine ⟨g, opened, steps, last, later, prepared, ?_, Engine.run?_eq_run ready.startCrash, stretch,
    length, ?_, ?_, ?_⟩
  · have history := Engine.run_of_ok prepared runId prompt given
    rw [Graph.history, Graph.startNode_compile compiled, ← start] at history
    rw [history, ← start]
    exact congrArg (fun h => Except.ok (n.id, h)) whole
  · refine ⟨_, log, by rw [List.range_eq_range'], ?_⟩
    simp [Node.callsFor]
  · intro i few
    obtain ⟨before, cause, elapsed, found, may, failedBefore, ends⟩ := each i few
    rw [Nat.zero_add] at found failedBefore ends
    refine ⟨before, cause, elapsed, found, may, failedBefore.attemptsOf, ?_, ?_⟩
    · rw [← n.errorText_callAfter runId few]
      rfl
    · rintro rfl
      exact ends rfl
  · simpa using failed.counted

/-! ## A connection that is always refused -/

namespace Refusal

/-- A stand-in whose ledger is the whole world. -/
def standIn : Executor StandIn.Ledger :=
  StandIn.executor ⟨"work", .empty, some "connection refused", none⟩
    ⟨id, fun ledger _ => ledger⟩

/-- There are no prepared replies. -/
def Bare (ledger : StandIn.Ledger) : Prop :=
  ledger.byNode = .empty ∧ ledger.shared = []

theorem failing : standIn.Failing Bare where
  attempt call world bare := by
    obtain ⟨sessions, calls, byNode, shared⟩ := world
    obtain ⟨rfl, rfl⟩ := bare
    exact ⟨.task "work" "connection refused", rfl, by decide⟩
  kept call world bare := by
    obtain ⟨sessions, calls, byNode, shared⟩ := world
    obtain ⟨rfl, rfl⟩ := bare
    exact ⟨rfl, rfl⟩

def flow : Workflow where
  plan := ""
  diagram := ""
  nodes := [{ Node.plain "a" "work" with instruction := "go", maxRetries := 2 }]
  edges := []
  startNode := "a"
  endNode := "a"
  initialMetadata := none

def pool : Pool (Logged StandIn.Ledger) :=
  Pool.empty.register "work" ((standIn.watched "work").retrying { maxRetries := 1 })

def engine : Engine (Site (Logged StandIn.Ledger)) (Executor (Logged StandIn.Ledger)) :=
  pool.engine {}

def site : Site (Logged StandIn.Ledger) :=
  ⟨[], ⟨⟨0, [], .empty, []⟩, []⟩⟩

theorem taskTypes_flow {g : Graph (Executor (Logged StandIn.Ledger))}
    (compiled : Graph.compile engine.resolve flow = .ok g) : g.taskTypes = ["work"] := by
  have facts : ((Graph.compile engine.resolve flow).toOption.map Graph.taskTypes) =
      some ["work"] := by
    decide +kernel
  rw [compiled] at facts
  exact Option.some.inj facts

theorem ready : engine.Ready flow site where
  valid := by decide +kernel
  resolved n member := by
    rw [List.mem_singleton.1 member]
    exact ⟨_, rfl⟩
  opened g compiled := by
    rw [taskTypes_flow compiled]
    rfl
  calm g compiled := by
    rw [taskTypes_flow compiled]
    rfl

theorem bare_of_prepare {g : Graph (Executor (Logged StandIn.Ledger))}
    {opened : Site (Logged StandIn.Ledger)}
    (prepared : engine.prepare flow site = (opened, .ok g)) :
    Bare opened.world.world := by
  have compiled := Engine.prepare_ok (congrArg Prod.snd prepared)
  unfold Engine.prepare at prepared
  rw [compiled] at prepared
  simp only [taskTypes_flow compiled] at prepared
  cases prepared
  exact ⟨rfl, rfl⟩

end Refusal

open Refusal in
theorem retry_levels_multiply_refused :
    ∃ (opened : Site (Logged StandIn.Ledger)) (last : Point (Site (Logged StandIn.Ledger)))
      (calls : List Call), last.own.world.log = opened.world.log ++ calls.map (.executed "work") ∧
        calls.length = 6 ∧ last.state.attempts.get? "a" = some 3 := by
  obtain ⟨g, opened, steps, last, later, _, _, _, _, _, ⟨calls, log, _, count⟩, _, attempts⟩ :=
    retry_levels_multiply (Pool.worker_schedules 0 True) ready List.mem_cons_self rfl rfl
      (by decide) rfl failing (fun _ _ => bare_of_prepare) (by decide) "one" "go" .empty
  exact ⟨opened, last, calls, log, count, attempts "a"⟩

end Superstep
