import Mathlib.Data.List.Sort
import Superstep.Proofs.Reentry
import Superstep.Proofs.Traces

/-! # Retries and attempts

A number of retries has 64 bits, and the number of attempts that comes of it has 32. As long
as the retries themselves fit into 32 bits, more of them never give a node fewer attempts: a
start node that always fails is executed as often as it may be attempted before any other
node is, and beyond that only where an edge leads back to it. A number of retries that does
not fit counts as none.
-/

namespace Superstep

/-- The attempts that are due to a number of retries, as far as 32 bits hold them. -/
def attemptsFor (retries : Int) : Int :=
  min (retries + 1) (twoTo 32 - 1)

/-- The node with another number of retries. -/
def Node.withRetries (n : Node) (retries : Int) : Node :=
  { n with maxRetries := retries }

/-- The workflow with another number of retries for its start node. -/
def Workflow.withRetries (w : Workflow) (retries : Int) : Workflow :=
  { w with nodes := w.nodes.map fun n =>
      if n.id = w.startNode then n.withRetries retries else n }

/-- A node always fails: when the worker makes calls of the node alone, none of them
    succeeds and none crashes. -/
def Worker.FailsAt {τ ε : Type} (worker : Worker τ ε) (resolve : String → Except Failure ε)
    (n : Node) : Prop :=
  ∀ jobs t, (∀ job ∈ jobs, resolve job.call.taskType = .ok job.executor ∧
      job.call.nodeId = n.id ∧ job.call.taskType = n.taskType) →
    (worker jobs t).2.crashed = false ∧
      ∀ x ∈ endings (worker jobs t).2.happenings, x.answer.toBool = false

/-- What a run makes of a node that always fails: all the attempts that it may have, one
    retry less, and nothing beyond them until an edge leads back to it. -/
structure Workflow.Spends (w : Workflow) (n : Node) (h : History) : Prop where
  executed : n.maxAttempts ≤ (h.executions n.id).length
  resent : ((h.executions n.id).filter (w.resends n)).length + 1 = n.maxAttempts
  apart : ∀ i, (∀ step ∈ h.steps.take i, ¬ w.LeadsOn step n.id) →
    h.executionsBefore (i + 1) n.id ≤ n.maxAttempts

theorem Node.maxAttempts_of_surplus (n : Node) (surplus : twoTo 32 ≤ n.maxRetries) :
    n.maxAttempts = 1 := by
  have excess : ¬ (0 ≤ n.maxRetries ∧ n.maxRetries < twoTo 32) := by omega
  unfold maxAttempts
  rw [if_neg excess]
  rfl

namespace Workflow

variable {w : Workflow} {retries : Int}

/-- The retries of one node of a valid workflow may be any number that is not negative. -/
theorem nodeViolations_withRetries (some_ : 0 ≤ retries) (id : String)
    {before : List String} {nodes : List Node} (none_ : nodeViolations before nodes = []) :
    nodeViolations before
      (nodes.map fun n => if n.id = id then n.withRetries retries else n) = [] := by
  induction nodes generalizing before with
  | nil => rfl
  | cons n rest ih =>
      simp only [nodeViolations, List.append_eq_nil_iff] at none_
      obtain ⟨⟨first, kept⟩, later⟩ := none_
      rw [List.map_cons]
      by_cases own : n.id = id
      · simp only [own, if_true, Node.withRetries, nodeViolations, List.append_eq_nil_iff]
          at first later ⊢
        exact ⟨⟨first, if_neg (Int.not_lt.2 some_)⟩, ih later⟩
      · simp only [own, if_false, nodeViolations, List.append_eq_nil_iff]
        exact ⟨⟨first, kept⟩, ih later⟩

theorem map_nodes_withRetries {α : Type} (f : Node → α)
    (same : ∀ n : Node, f (n.withRetries retries) = f n) :
    (w.withRetries retries).nodes.map f = w.nodes.map f := by
  rw [withRetries, List.map_map]
  apply List.map_congr_left
  intro n _
  rw [Function.comp_apply]
  split
  next => exact same n
  next => rfl

theorem ids_withRetries (w : Workflow) (retries : Int) : (w.withRetries retries).ids = w.ids :=
  map_nodes_withRetries Node.id fun _ => rfl

theorem violations_withRetries (none_ : w.violations = []) (some_ : 0 ≤ retries) :
    (w.withRetries retries).violations = [] := by
  simp only [violations, List.append_eq_nil_iff] at none_
  obtain ⟨⟨⟨nodes, edges⟩, start⟩, finish⟩ := none_
  simp only [violations, List.append_eq_nil_iff, ids_withRetries]
  exact ⟨⟨⟨nodeViolations_withRetries some_ _ nodes, edges⟩, start⟩, finish⟩

/-- The task types are those of the workflow. -/
theorem exists_taskType_withRetries (retries : Int) {taskType : String} :
    (∃ n ∈ (w.withRetries retries).nodes, n.taskType = taskType) ↔
      ∃ n ∈ w.nodes, n.taskType = taskType := by
  rw [← List.mem_map, map_nodes_withRetries Node.taskType fun _ => rfl, List.mem_map]

theorem start_withRetries {n : Node} (member : n ∈ w.nodes) (start : n.id = w.startNode) :
    n.withRetries retries ∈ (w.withRetries retries).nodes :=
  List.mem_map.2 ⟨n, member, if_pos start⟩

end Workflow

theorem Graph.taskTypes_withRetries {ε : Type} {resolve : String → Except Failure ε} {w : Workflow}
    {retries : Int} {g g' : Graph ε} (compiled : compile resolve (w.withRetries retries) = .ok g)
    (compiled' : compile resolve w = .ok g') : g.taskTypes = g'.taskTypes := by
  apply List.Pairwise.eq_of_mem_iff g.taskTypes_increasing g'.taskTypes_increasing
  intro taskType
  rw [mem_taskTypes_compile compiled, mem_taskTypes_compile compiled']
  exact Workflow.exists_taskType_withRetries retries

/-- Runs of a workflow get under way whatever retries its start node has. -/
theorem Engine.Ready.withRetries {τ ε : Type} {e : Engine τ ε} {w : Workflow} {t : τ}
    (ready : e.Ready w t) {retries : Int} (some_ : 0 ≤ retries) :
    e.Ready (w.withRetries retries) t where
  valid := Workflow.violations_withRetries ready.valid some_
  resolved n member := by
    obtain ⟨m, inside, same⟩ :=
      (Workflow.exists_taskType_withRetries retries).1 ⟨n, member, rfl⟩
    rw [← same]
    exact ready.resolved m inside
  opened g compiled := by
    obtain ⟨g', compiled'⟩ := Graph.exists_compile ready.valid ready.resolved
    rw [Graph.taskTypes_withRetries compiled compiled']
    exact ready.opened g' compiled'
  calm g compiled := by
    obtain ⟨g', compiled'⟩ := Graph.exists_compile ready.valid ready.resolved
    rw [Graph.taskTypes_withRetries compiled compiled']
    exact ready.calm g' compiled'

/-- The number of attempts in a route is that of its node, which has only one if the route
    needs no number. -/
theorem Workflow.routeOf_attempts (w : Workflow) (n : Node) :
    w.routeOf n = .dynamic ⟨n.id, n.maxAttempts, w.exits n.id⟩ ∨
      n.maxAttempts = 1 ∧ ∀ router, w.routeOf n ≠ .dynamic router := by
  have least := n.maxAttempts_pos
  rcases w.routeOf_cases n with route | ⟨once, ⟨route, _⟩ | ⟨_, route, _⟩⟩
  · exact .inl route
  · exact .inr ⟨by omega, fun router => by simp [route]⟩
  · exact .inr ⟨by omega, fun router => by simp [route]⟩

/-- If those elements are picked that stand among the first so many, these are what is
    left. -/
theorem filter_eq_take_of_index {α : Type} {p : α → Bool} {items : List α} {most : Nat}
    (picked : ∀ i a, items[i]? = some a → (p a = true ↔ i < most)) :
    items.filter p = items.take most := by
  rw [filter_take_of_index fun i a found => (picked i a found).1, List.filter_eq_self]
  intro a member
  obtain ⟨i, before, rfl⟩ := List.mem_take_iff_getElem.1 member
  exact (picked i _ (List.getElem?_eq_getElem (by omega))).2 (by omega)

theorem History.le_length_of_fails {h : History} {id : String} {most : Nat}
    (failed : ∀ i < most, h.Fails id i) : most ≤ (h.executions id).length := by
  cases most with
  | zero => exact Nat.zero_le _
  | succ last =>
      obtain ⟨x, found, _⟩ := Option.map_eq_some_iff.1 (failed last (Nat.lt_succ_self last))
      exact (List.getElem?_eq_some_iff.1 found).1

theorem History.executionsBefore_of_all (h : History) {i : Nat} (all : h.steps.length ≤ i)
    (id : String) : h.executionsBefore i id = (h.executions id).length := by
  rw [executionsBefore, List.take_of_length_le all]
  rfl

/-- If one node is active, a completed round is a single visit. -/
theorem Round.exists_single {w : Workflow} {b : Behaviour} {runId id : String} {s : State}
    {visits : List Visit} (round : Round w b runId [id] s visits []) :
    ∃ v, visits = [v] ∧ v.node.id = id := by
  have one : visits.length = 1 := by simpa using round.ids_perm.length_eq
  obtain ⟨v, rfl⟩ := List.length_eq_one_iff.1 one
  exact ⟨v, rfl, List.mem_singleton.1 (round.mem_active (List.mem_singleton_self v))⟩

section

variable {τ ε : Type} {resolve : String → Except Failure ε} {w : Workflow} {g : Graph ε}
  {worker : Worker τ ε} {n : Node}

/-- When a node that always fails is active alone, no call crashes, and none succeeds. -/
theorem Worker.FailsAt.alone (failing : worker.FailsAt resolve n)
    (compiled : Graph.compile resolve w = .ok g) (member : n ∈ w.nodes) {runId : String}
    {s : State} {jobs : List (Job ε)} (made : g.jobs runId s [n.id] = .ok jobs) (t : τ) :
    (worker jobs t).2.crashed = false ∧
      ∀ x ∈ endings (worker jobs t).2.happenings, x.answer.toBool = false := by
  have valid := Workflow.valid_of_violations (Graph.compile_ok compiled).1
  have inside : ∀ id ∈ [n.id], id ∈ w.ids := fun id only =>
    List.mem_singleton.1 only ▸ Workflow.mem_ids member
  obtain ⟨_, again, known, ids⟩ := Graph.jobs_compile compiled runId s inside
  obtain rfl := Except.ok.inj (made.symm.trans again)
  apply failing jobs t
  intro job among
  obtain ⟨resolved, m, node, called⟩ := known job among
  have listed : job.call.nodeId ∈ [n.id] := ids ▸ List.mem_map_of_mem among
  have own : job.call.nodeId = n.id := List.mem_singleton.1 listed
  have same : m.id = n.id := (congrArg Call.nodeId called).symm.trans own
  obtain rfl := valid.node_unique node member same
  exact ⟨resolved, own, congrArg Call.taskType called⟩

/-- A node that is active alone and always fails is executed in one step after another
    until its attempts are used up. -/
theorem Graph.fails_of_failing (compiled : compile resolve w = .ok g)
    (faithful : worker.Faithful) (failing : worker.FailsAt resolve n) (member : n ∈ w.nodes)
    (runId : String) (limit left number : Nat) {failures : Nat} {s : State} (t : τ)
    (state : n.Retrying failures [n.id] s) (enough : n.maxAttempts ≤ failures + left) :
    ∀ i, failures + i < n.maxAttempts →
      (g.proceed worker runId limit left number [n.id] s t).2.Fails n.id i := by
  have valid := Workflow.valid_of_violations (compile_ok compiled).1
  have inside : ∀ id ∈ [n.id], id ∈ w.ids := fun id only =>
    List.mem_singleton.1 only ▸ Workflow.mem_ids member
  induction left generalizing failures number s t with
  | zero =>
      intro i more
      omega
  | succ left ih =>
      intro i more
      obtain ⟨jobs, visits, unended, made, round, told, complete, _, taken⟩ :=
        takeStep_of_worker compiled faithful (worker.shows_any resolve) runId number s t
          (List.nodup_singleton n.id) inside
      obtain ⟨calm, fails⟩ := failing.alone compiled member made t
      rw [complete calm] at round
      obtain ⟨v, rfl, own⟩ := round.exists_single
      have visited := List.mem_singleton_self v
      obtain rfl := valid.node_unique (round.inside v visited) member own
      have once : Step.executions ⟨number, [v.node.id], s, (worker jobs t).2.happenings⟩ v.node.id =
          [v.execution runId ⟨number, [v.node.id], s, (worker jobs t).2.happenings⟩] :=
        round.executions_visited told visited
      have failed : v.answer.toBool = false :=
        fails (v.ending runId s) (told ▸ List.mem_map_of_mem visited)
      simp only [proceed, taken, calm, Bool.false_eq_true, if_false]
      cases i with
      | zero =>
          rw [History.Fails, History.success?_after_zero once]
          exact congrArg some failed
      | succ i =>
          have next := round.retrying visited state failed (by omega)
          have back : v.targets w runId s = [v.node.id] :=
            v.targets_of_failure state failed (by omega)
          have alone : w.activeAfter runId s [v] = [v.node.id] := by
            simp [Workflow.activeAfter, back, List.eraseDups_cons]
          rw [alone] at next ⊢
          exact (History.success?_after_succ once i).trans (ih _ _ next (by omega) i (by omega))

end

namespace Course

variable {w : Workflow} {b : Behaviour} {runId prompt : String} {given : Metadata}
  {limit left number : Nat} {active : List String} {h : History} {n : Node}

/-- A node whose attempts have all failed has been sent back to itself after all of them
    but the last. -/
theorem length_resends (valid : w.Valid)
    (course : Course w b runId limit left number active (Engine.startState w prompt given) h)
    (member : n ∈ w.nodes) (failed : ∀ i < n.maxAttempts, h.Fails n.id i) :
    ((h.executions n.id).filter (w.resends n)).length + 1 = n.maxAttempts := by
  have early : (h.executions n.id).filter (w.resends n) =
      (h.executions n.id).take (n.maxAttempts - 1) := by
    apply filter_eq_take_of_index
    intro k x found
    rw [course.resends_iff valid member found]
    constructor
    · rintro ⟨_, left⟩
      omega
    · intro before
      exact ⟨fun i upTo => failed i (by omega), by omega⟩
  have all := History.le_length_of_fails failed
  have some_ := n.maxAttempts_pos
  rw [early, List.length_take]
  omega

/-- Until an edge leads back to a node, it is not executed more often than it may be
    attempted. -/
theorem executionsBefore_le_of_apart (valid : w.Valid)
    (course : Course w b runId limit left number active (Engine.startState w prompt given) h)
    (records : ∀ step ∈ h.steps, step.Record w runId) (member : n ∈ w.nodes) {i : Nat}
    (apart : ∀ j step, j + 1 < i → h.steps[j]? = some step → ¬ w.LeadsOn step n.id) :
    h.executionsBefore i n.id ≤ n.maxAttempts := by
  induction i with
  | zero => exact Nat.zero_le _
  | succ i ih =>
      have earlier := ih fun j step before => apart j step (by omega)
      rcases Nat.lt_or_ge i h.steps.length with inside | beyond
      · have found : h.steps[i]? = some h.steps[i] := List.getElem?_eq_getElem inside
        have record := records _ (List.mem_of_getElem? found)
        rw [History.executionsBefore_succ found]
        cases own : h.steps[i].executions n.id with
        | nil => exact earlier
        | cons x rest =>
            have once := record.executions_le n.id
            rw [own] at once
            obtain ⟨_, ended, same⟩ := Step.mem_executions.1 (own ▸ List.mem_cons_self)
            have awake : n.id ∈ h.steps[i].active :=
              same ▸ record.mem_active (mem_endings.1 ended)
            rcases course.left_or_leadsOn valid records found member awake with
              left | ⟨j, before, rfl, last, leads⟩
            · omega
            · exact absurd leads (apart j before (Nat.lt_succ_self _) last)
      · rw [h.executionsBefore_of_all (by omega)]
        rwa [h.executionsBefore_of_all beyond] at earlier

end Course

section

variable {τ ε : Type} {e : Engine τ ε} {w : Workflow} {runId prompt : String}
  {given : Metadata} {t : τ}

/-- A run with enough steps makes all the attempts of a start node that always fails. -/
theorem Engine.spends_of_run (faithful : e.worker.Faithful) (orderly : e.worker.Orderly)
    {n : Node} (member : n ∈ w.nodes) (first : n.id = w.startNode)
    (failing : e.worker.FailsAt e.resolve n) (enough : n.maxAttempts ≤ e.settings.maxSteps)
    {start : String} {h : History}
    (ran : (e.run w runId prompt given t).2.course = .ok (start, h)) : w.Spends n h := by
  obtain ⟨valid, _, course⟩ := course_of_run faithful (e.worker.shows_any e.resolve) ran
  obtain ⟨records, _⟩ := records_of_run faithful orderly ran
  have failed : ∀ i < n.maxAttempts, h.Fails n.id i := by
    obtain ⟨g, t', compiled, _, rfl⟩ := history_of_run ran
    rw [Graph.history, Graph.startNode_compile compiled, ← first]
    have fresh : n.Retrying 0 [n.id] (startState w prompt given) :=
      ⟨List.mem_singleton_self _, rfl, rfl⟩
    intro i few
    apply Graph.fails_of_failing compiled faithful failing member runId _ _ 1 t' fresh
    · omega
    · omega
  constructor
  case executed => exact History.le_length_of_fails failed
  case resent => exact course.length_resends valid member failed
  case apart =>
    intro i apart
    apply course.executionsBefore_le_of_apart valid records member
    intro j step before found
    have listed : (h.steps.take i)[j]? = some step := by
      rw [List.getElem?_take_of_lt (by omega), found]
    exact apart step (List.mem_of_getElem? listed)

/-- A start node that always fails gets the attempts that are due to its retries, if there
    are steps enough and the retries fit into 32 bits. -/
theorem Engine.Ready.spends_withRetries (ready : e.Ready w t) (faithful : e.worker.Faithful)
    (orderly : e.worker.Orderly) {n : Node} (member : n ∈ w.nodes) (first : n.id = w.startNode)
    (failing : e.worker.FailsAt e.resolve n) (runId prompt : String) (given : Metadata)
    {retries : Int} (some_ : 0 ≤ retries) (fits : retries < twoTo 32)
    (enough : attemptsFor retries ≤ e.settings.maxSteps) :
    ∃ h, (e.run (w.withRetries retries) runId prompt given t).2.course =
        .ok (w.startNode, h) ∧
      (e.settings.maxConcurrency ≤ capLimit →
        (e.run? (w.withRetries retries) runId prompt given t).2 =
          some (e.run (w.withRetries retries) runId prompt given t).2) ∧
      (n.withRetries retries).maxAttempts = attemptsFor retries ∧
      (w.withRetries retries).Spends (n.withRetries retries) h := by
  have ready := ready.withRetries some_
  obtain ⟨h, ran⟩ := ready.exists_history runId prompt given
  have attempts : ((n.withRetries retries).maxAttempts : Int) = attemptsFor retries :=
    (n.withRetries retries).maxAttempts_of_fits some_ fits
  have steps : (n.withRetries retries).maxAttempts ≤ e.settings.maxSteps := by omega
  have failing : e.worker.FailsAt e.resolve (n.withRetries retries) := failing
  have inside : n.withRetries retries ∈ (w.withRetries retries).nodes :=
    Workflow.start_withRetries member first
  exact ⟨h, ran, run?_eq_run ready.startCrash, attempts,
    spends_of_run faithful orderly inside first failing steps ran⟩

/-- As long as retries fit into 32 bits, a node may be attempted once more than it has
    retries, if that still fits, and calls and routes have the same number. With enough
    steps a start node that always fails is executed as often, and sent back to itself once
    less. So of two runs the one with more retries executes it no less than the other has
    until an edge leads back to it. Retries that do not fit count as none. -/
theorem more_retries_no_fewer_attempts (faithful : e.worker.Faithful)
    (orderly : e.worker.Orderly) (ready : e.Ready w t) {n : Node} (member : n ∈ w.nodes)
    (first : n.id = w.startNode) (failing : e.worker.FailsAt e.resolve n)
    (runId prompt : String) (given : Metadata) :
    (∀ m : Node, 0 ≤ m.maxRetries →
      (m.maxRetries < twoTo 32 → m.maxAttempts = attemptsFor m.maxRetries) ∧
      (twoTo 32 ≤ m.maxRetries → m.maxAttempts = 1) ∧
      ∀ (v : Workflow) (runId : String) (s : State),
        (m.callIn runId s).maxAttempts = m.maxAttempts ∧
        (v.routeOf m = .dynamic ⟨m.id, m.maxAttempts, v.exits m.id⟩ ∨
          m.maxAttempts = 1 ∧ ∀ router, v.routeOf m ≠ .dynamic router)) ∧
    (∀ retries : Int, 0 ≤ retries → retries < twoTo 32 →
      attemptsFor retries ≤ e.settings.maxSteps →
      ∃ h, (e.run (w.withRetries retries) runId prompt given t).2.course =
          .ok (w.startNode, h) ∧
        (e.settings.maxConcurrency ≤ Engine.capLimit →
          (e.run? (w.withRetries retries) runId prompt given t).2 =
            some (e.run (w.withRetries retries) runId prompt given t).2) ∧
        (n.withRetries retries).maxAttempts = attemptsFor retries ∧
        (w.withRetries retries).Spends (n.withRetries retries) h) ∧
    ∀ few more : Int, 0 ≤ few → few ≤ more → more < twoTo 32 →
      attemptsFor more ≤ e.settings.maxSteps →
      ∃ h h', (e.run (w.withRetries few) runId prompt given t).2.course =
          .ok (w.startNode, h) ∧
        (e.run (w.withRetries more) runId prompt given t).2.course = .ok (w.startNode, h') ∧
        (∀ i, (∀ step ∈ h.steps.take i, ¬ (w.withRetries few).LeadsOn step n.id) →
          h.executionsBefore (i + 1) n.id ≤ (h'.executions n.id).length) ∧
        ((∀ step ∈ h.steps, ¬ (w.withRetries few).LeadsOn step n.id) →
          (h.executions n.id).length ≤ (h'.executions n.id).length) := by
  refine ⟨fun m some_ => ⟨m.maxAttempts_of_fits some_, m.maxAttempts_of_surplus, ?_⟩, ?_, ?_⟩
  · intro v runId s
    exact ⟨rfl, v.routeOf_attempts m⟩
  · intro retries some_ fits enough
    exact ready.spends_withRetries faithful orderly member first failing runId prompt given some_
      fits enough
  · intro few more some_ upTo fits enough
    have grows : attemptsFor few ≤ attemptsFor more := by
      unfold attemptsFor
      omega
    obtain ⟨h, ran, _, attempts, spends⟩ := ready.spends_withRetries faithful orderly member
      first failing runId prompt given some_ (by omega) (by omega)
    obtain ⟨h', ran', _, attempts', spends'⟩ := ready.spends_withRetries faithful orderly member
      first failing runId prompt given (by omega) fits enough
    have executed : (n.withRetries more).maxAttempts ≤ (h'.executions n.id).length :=
      spends'.executed
    have within (i : Nat)
        (apart : ∀ step ∈ h.steps.take i, ¬ (w.withRetries few).LeadsOn step n.id) :
        h.executionsBefore (i + 1) n.id ≤ (h'.executions n.id).length := by
      have most : h.executionsBefore (i + 1) n.id ≤ (n.withRetries few).maxAttempts :=
        spends.apart i apart
      omega
    refine ⟨h, h', ran, ran', within, fun apart => ?_⟩
    rw [← h.executionsBefore_of_all (Nat.le_succ h.steps.length)]
    apply within
    rwa [List.take_length]

end

/-! ## A node alone in a pool -/

/-- In a pool a node fails always if its executor does, whatever world it finds. -/
theorem Worker.Schedules.failsAt {σ : Type} {worker : Worker (Site σ) (Executor σ)} {cap : Nat}
    {inOrder : Prop} (schedules : worker.Schedules cap inOrder)
    {resolve : String → Except Failure (Executor σ)} {n : Node}
    (fails : ∀ e, resolve n.taskType = .ok e →
      e.Shows ⟨fun _ answer => answer.toBool = false, False⟩) : worker.FailsAt resolve n := by
  intro jobs site known
  -- The worker makes calls of one task type only, so it may as well know no other.
  have kept : ∀ taskType e, (if taskType = n.taskType then resolve taskType
      else .error (.unknownTaskType taskType)) = .ok e →
        e.Shows ⟨fun _ answer => answer.toBool = false, False⟩ := by
    intro taskType e resolved
    split at resolved
    next same => exact fails e (same ▸ resolved)
    next => cases resolved
  have resolved : ∀ job ∈ jobs, (if job.call.taskType = n.taskType
      then resolve job.call.taskType else .error (.unknownTaskType job.call.taskType)) =
        .ok job.executor := by
    intro job among
    obtain ⟨found, _, same⟩ := known job among
    rw [if_pos same]
    exact found
  obtain ⟨answers, may⟩ := schedules.shows kept jobs site resolved
  exact ⟨Bool.eq_false_iff.2 may, answers⟩

namespace Lonely

def node : Node :=
  .plain "x" "work"

def flow : Workflow where
  plan := ""
  diagram := ""
  nodes := [node]
  edges := []
  startNode := "x"
  endNode := "x"
  initialMetadata := none

def hand : Executor Unit where
  name := "work"
  openSession world := (world, .ok ())
  waits := 0
  execute _ world := (world, .answer (.error (.task "work" "no")))

def pool : Pool Unit :=
  Pool.empty.register "work" hand

def engine : Engine (Site Unit) (Executor Unit) :=
  pool.engine { maxConcurrency := 1 }

theorem ready : engine.Ready flow ⟨[], ()⟩ where
  valid := by decide +kernel
  resolved n member := by
    rw [List.mem_singleton.1 member]
    exact ⟨hand, rfl⟩
  opened g compiled := by
    apply Pool.openSessions_ok
    intro taskType listed
    obtain ⟨n, member, rfl⟩ := (Graph.mem_taskTypes_compile compiled).1 listed
    rw [List.mem_singleton.1 member]
    exact ⟨"work", hand, rfl, fun _ => rfl⟩
  calm g compiled := by
    refine Pool.sessionsCrash_eq_none (fun taskType listed e resolved _ => ?_) ⟨[], ()⟩
    obtain ⟨n, member, rfl⟩ := (Graph.mem_taskTypes_compile compiled).1 listed
    rw [List.mem_singleton.1 member] at resolved
    obtain rfl : hand = e := Except.ok.inj resolved
    rfl

theorem failing : engine.worker.FailsAt engine.resolve node := by
  apply Worker.Schedules.failsAt (Pool.worker_schedules 1 True)
  intro e resolved
  obtain rfl : hand = e := Except.ok.inj resolved
  exact fun _ _ => rfl

end Lonely

open Lonely in
theorem more_retries_no_fewer_attempts_lonely :
    ∃ h h', (engine.run (flow.withRetries 1) "one" "go" .empty ⟨[], ()⟩).2.course =
        .ok ("x", h) ∧
      (engine.run (flow.withRetries 2) "one" "go" .empty ⟨[], ()⟩).2.course = .ok ("x", h') ∧
      (h.executions "x").length ≤ (h'.executions "x").length := by
  obtain ⟨_, _, compared⟩ := more_retries_no_fewer_attempts (Pool.worker_faithful 1)
    (Pool.worker_orderly 1) ready List.mem_cons_self rfl failing "one" "go" .empty
  obtain ⟨h, h', ran, ran', _, total⟩ :=
    compared 1 2 (by decide) (by decide) (by decide) (by decide)
  refine ⟨h, h', ran, ran', total ?_⟩
  rintro step _ ⟨_, _, _, _, _, _, edge, listed, _⟩
  cases listed

open Lonely in
/-- With retries of more than 32 bits a node that always fails is attempted only once. -/
theorem fewer_attempts_beyond_32_bits :
    ∃ h h', (engine.run (flow.withRetries 1) "one" "go" .empty ⟨[], ()⟩).2.course =
        .ok ("x", h) ∧
      (engine.run (flow.withRetries (twoTo 32)) "one" "go" .empty ⟨[], ()⟩).2.course =
        .ok ("x", h') ∧
      (h.executions "x").length = 2 ∧ (h'.executions "x").length = 1 := by
  have small : engine.Ready (flow.withRetries 1) ⟨[], ()⟩ := ready.withRetries (by decide)
  have large : engine.Ready (flow.withRetries (twoTo 32)) ⟨[], ()⟩ :=
    ready.withRetries (by decide)
  obtain ⟨h, ran⟩ := small.exists_history "one" "go" .empty
  obtain ⟨h', ran'⟩ := large.exists_history "one" "go" .empty
  have twice : (match (engine.run (flow.withRetries 1) "one" "go" .empty ⟨[], ()⟩).2.course with
      | .ok (_, h) => decide ((h.executions "x").length = 2)
      | .error _ => false) = true := by
    decide +kernel
  have once : (match
        (engine.run (flow.withRetries (twoTo 32)) "one" "go" .empty ⟨[], ()⟩).2.course with
      | .ok (_, h) => decide ((h.executions "x").length = 1)
      | .error _ => false) = true := by
    decide +kernel
  rw [ran] at twice
  rw [ran'] at once
  exact ⟨h, h', ran, ran', of_decide_eq_true twice, of_decide_eq_true once⟩

end Superstep
