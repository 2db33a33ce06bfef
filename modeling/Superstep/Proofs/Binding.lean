import Superstep.Executor.Pool
import Superstep.Proofs.Compiled
import Superstep.Proofs.Routes

/-! # What compiling gives

A workflow that is compiled with a pool is bound as a whole, or the first thing that is
wrong is told: what makes the workflow invalid goes before what the pool lacks, and of the
task types without an executor the one of the first node is named. In a graph every node
stands under its id, and its route has the edges of the workflow that leave it, all of them
and in their order.
-/

namespace Superstep

/-- The executor for a task type is its own or, if it has none, that of the default one. -/
inductive Pool.Serves {σ : Type} (p : Pool σ) (taskType : String) (e : Executor σ) : Prop where
  | own (found : p.get? taskType = some e)
  | standby {default : String} (missing : p.get? taskType = none)
      (fallback : p.fallback = some default) (found : p.get? default = some e)

/-- What the condition of an edge makes of its guard. -/
inductive Edge.Guarded (e : Edge) : Guard → Prop where
  | absent (none : e.condition = none) : e.Guarded .always
  | blank {text : String} (given : e.condition = some text) (blank : Text.trim text = "") :
      e.Guarded .always
  | condition {text : String} {condition : Expression.Expr} (given : e.condition = some text)
      (filled : Text.trim text ≠ "") (parsed : Expression.parse (Text.trim text) = .ok condition) :
      e.Guarded (.when condition)
  | broken {text : String} {cause : Expression.ExpressionError} (given : e.condition = some text)
      (filled : Text.trim text ≠ "") (failed : Expression.parse (Text.trim text) = .error cause) :
      e.Guarded .never

/-- The exits that a route chooses from. -/
def Route.exits : Route → List Exit
  | .direct target => [⟨target, .always⟩]
  | .terminal => []
  | .dynamic router => router.exits

/-- The graph has all of the workflow, with executors from the pool. -/
structure Graph.Binds {σ : Type} (g : Graph (Executor σ)) (p : Pool σ) (w : Workflow) : Prop where
  startNode : g.startNode = w.startNode
  endNode : g.endNode = w.endNode
  defined : ∀ id, (g.station? id).isSome = true ↔ id ∈ w.ids
  /-- The node of a station is the only one with its id. -/
  node : ∀ id station, g.station? id = some station →
    w.nodes.filter (·.id == id) = [station.node]
  executor : ∀ id station, g.station? id = some station →
    p.Serves station.node.taskType station.executor
  exits : ∀ id station, g.station? id = some station →
    List.Forall₂ (fun (e : Edge) (x : Exit) => x.target = e.target ∧ e.Guarded x.guard)
      (w.edges.filter (·.source == id)) station.route.exits
  taskTypes : ∀ taskType, taskType ∈ g.taskTypes ↔ ∃ n ∈ w.nodes, n.taskType = taskType
  sorted : g.taskTypes.Pairwise (· < ·)

/-- What compiling a workflow with a pool has to give. -/
inductive Workflow.Compiles {σ : Type} (w : Workflow) (p : Pool σ) :
    Except Failure (Graph (Executor σ)) → Prop where
  | invalid (flawed : w.violations ≠ []) : w.Compiles p (.error (.invalidWorkflow w.violations))
  | unserved {before after : List Node} {n : Node} (valid : w.violations = [])
      (nodes : w.nodes = before ++ n :: after)
      (served : ∀ m ∈ before, ∃ e, p.Serves m.taskType e)
      (first : ∀ e, ¬ p.Serves n.taskType e) :
      w.Compiles p (.error (.unknownTaskType n.taskType))
  | bound {g : Graph (Executor σ)} (valid : w.violations = [])
      (served : ∀ n ∈ w.nodes, ∃ e, p.Serves n.taskType e) (binds : g.Binds p w) :
      w.Compiles p (.ok g)

namespace Pool

variable {σ : Type} {p : Pool σ} {taskType : String}

theorem serves_iff {e : Executor σ} : p.Serves taskType e ↔ p.resolve taskType = .ok e := by
  unfold resolve provider?
  constructor
  · intro serves
    cases serves with
    | own found => simp only [found]
    | standby missing fallback found => simp [missing, fallback, found]
  · intro resolved
    cases own : p.get? taskType with
    | some other =>
        simp only [own, Except.ok.injEq] at resolved
        exact .own (resolved ▸ own)
    | none =>
        cases fallback : p.fallback with
        | none => simp [own, fallback] at resolved
        | some default =>
            cases found : p.get? default with
            | none => simp [own, fallback, found] at resolved
            | some other =>
                obtain rfl : other = e := by simpa [own, fallback, found] using resolved
                exact .standby own fallback found

theorem resolve_unserved (unserved : ∀ e, ¬ p.Serves taskType e) :
    p.resolve taskType = .error (.unknownTaskType taskType) := by
  cases resolved : p.resolve taskType with
  | ok e => exact absurd (serves_iff.2 resolved) (unserved e)
  | error cause =>
      unfold resolve at resolved
      split at resolved
      · cases resolved
      · exact resolved.symm

/-- If the task types of some nodes have no executor, one of the nodes is the first. -/
theorem first_unserved {nodes : List Node}
    (unserved : ¬ ∀ n ∈ nodes, ∃ e, p.Serves n.taskType e) :
    ∃ before n after, nodes = before ++ n :: after ∧
      (∀ m ∈ before, ∃ e, p.Serves m.taskType e) ∧ ∀ e, ¬ p.Serves n.taskType e := by
  classical
  have listed : (nodes.find? fun n => decide (∀ e, ¬ p.Serves n.taskType e)).isSome = true := by
    simpa using unserved
  obtain ⟨n, found⟩ := Option.isSome_iff_exists.1 listed
  obtain ⟨lacks, before, after, whole, passed⟩ := List.find?_eq_some_iff_append.1 found
  exact ⟨before, n, after, whole, by simpa using passed, of_decide_eq_true lacks⟩

end Pool

theorem Edge.guarded (e : Edge) : e.Guarded (.ofCondition e.guard?) := by
  cases given : e.condition with
  | none =>
      have unguarded : e.guard? = none := by simp [guard?, given]
      rw [unguarded]
      exact .absent given
  | some text =>
      by_cases blank : Text.trim text = ""
      · have unguarded : e.guard? = none := by simp [guard?, given, blank]
        rw [unguarded]
        exact .blank given blank
      · have guarded : e.guard? = some (Text.trim text) := by simp [guard?, given, blank]
        rw [guarded, Guard.ofCondition]
        cases parsed : Expression.parse (Text.trim text) with
        | ok condition => exact .condition given blank parsed
        | error cause => exact .broken given blank parsed

theorem Workflow.exits_routeOf (w : Workflow) (n : Node) :
    (w.routeOf n).exits = w.exits n.id := by
  rcases w.routeOf_cases n with route | ⟨_, ⟨route, exits⟩ | ⟨target, route, exits⟩⟩
  · rw [route]
    rfl
  · rw [route, exits]
    rfl
  · rw [route, exits]
    rfl

/-- The exits of a node are its edges, one by one. -/
theorem Workflow.exits_forall₂ (w : Workflow) (id : String) :
    List.Forall₂ (fun (e : Edge) (x : Exit) => x.target = e.target ∧ e.Guarded x.guard)
      (w.edges.filter (·.source == id)) (w.exits id) := by
  rw [exits, outgoing, List.forall₂_map_right_iff, List.forall₂_same]
  intro e _
  exact ⟨rfl, e.guarded⟩

/-- Among nodes with ids of their own there is one with the id of a node. -/
theorem Workflow.Valid.filter_id {w : Workflow} (valid : w.Valid) {n : Node}
    (member : n ∈ w.nodes) : w.nodes.filter (·.id == n.id) = [n] := by
  have once : (w.nodes.filter (·.id == n.id)).length = 1 := by
    have counted := List.count_eq_one_of_mem valid.distinct (Workflow.mem_ids member)
    rwa [Workflow.ids, List.count, List.countP_map, List.countP_eq_length_filter] at counted
  obtain ⟨m, only⟩ := List.length_eq_one_iff.1 once
  have among : n ∈ w.nodes.filter (·.id == n.id) := List.mem_filter.2 ⟨member, beq_self_eq_true _⟩
  rw [only] at among ⊢
  rw [List.mem_singleton.1 among]

namespace Graph

variable {ε : Type} {resolve : String → Except Failure ε} {w : Workflow}

/-- The first node whose task type is not resolved decides about the failure. -/
theorem stationsOf_first {before after : List Node} {n : Node} {cause : Failure}
    (resolved : ∀ m ∈ before, ∃ executor, resolve m.taskType = .ok executor)
    (missing : resolve n.taskType = .error cause) :
    stationsOf resolve w (before ++ n :: after) = .error cause := by
  induction before with
  | nil =>
      simp only [List.nil_append, stationsOf, missing]
      rfl
  | cons m rest ih =>
      obtain ⟨executor, found⟩ := resolved m List.mem_cons_self
      have later := ih fun m below => resolved m (List.mem_cons_of_mem _ below)
      simp only [List.cons_append, stationsOf, found, later]
      rfl

theorem compile_of_stationsOf_error {cause : Failure} (valid : w.violations = [])
    (failed : stationsOf resolve w w.nodes = .error cause) :
    compile resolve w = .error cause := by
  simp only [compile, valid, failed]
  rfl

end Graph

theorem Graph.binds_of_compile {σ : Type} {p : Pool σ} {w : Workflow} {g : Graph (Executor σ)}
    (compiled : compile p.resolve w = .ok g) : g.Binds p w := by
  obtain ⟨none, stations, _, whole⟩ := compile_ok compiled
  have valid := Workflow.valid_of_violations none
  have known {id : String} {station : Station (Executor σ)} (found : g.station? id = some station) :
      id = station.node.id ∧ station.node ∈ w.nodes ∧
        p.resolve station.node.taskType = .ok station.executor ∧
        station.route = w.routeOf station.node :=
    station_of_compile compiled (g.stations.get?_eq_some_iff.1 found)
  constructor
  case startNode => rw [whole]
  case endNode => rw [whole]
  case defined =>
    intro id
    constructor
    · intro found
      obtain ⟨station, found⟩ := Option.isSome_iff_exists.1 found
      obtain ⟨rfl, member, _⟩ := known found
      exact Workflow.mem_ids member
    · intro member
      obtain ⟨n, inside, rfl⟩ := List.mem_map.1 member
      obtain ⟨executor, _, found⟩ := station?_compile compiled inside
      rw [found]
      rfl
  case node =>
    intro id station found
    obtain ⟨rfl, member, _⟩ := known found
    exact valid.filter_id member
  case executor =>
    intro id station found
    obtain ⟨_, _, resolved, _⟩ := known found
    exact Pool.serves_iff.2 resolved
  case exits =>
    intro id station found
    obtain ⟨rfl, _, _, route⟩ := known found
    rw [route, w.exits_routeOf]
    exact w.exits_forall₂ _
  case taskTypes => exact fun taskType => mem_taskTypes_compile compiled
  case sorted => exact g.taskTypes_increasing

/-- Compiling binds the whole workflow, unless it is invalid or a task type has no
    executor. Violations are told first, then the task type of the first such node. -/
theorem compile_binds_or_tells {σ : Type} (p : Pool σ) (w : Workflow) :
    w.Compiles p (Graph.compile p.resolve w) := by
  by_cases valid : w.violations = []
  · by_cases served : ∀ n ∈ w.nodes, ∃ e, p.Serves n.taskType e
    · have resolved : ∀ n ∈ w.nodes, ∃ e, p.resolve n.taskType = .ok e := by
        simpa only [Pool.serves_iff] using served
      obtain ⟨g, compiled⟩ := Graph.exists_compile valid resolved
      rw [compiled]
      exact .bound valid served (Graph.binds_of_compile compiled)
    · obtain ⟨before, n, after, nodes, earlier, first⟩ := Pool.first_unserved served
      have resolved : ∀ m ∈ before, ∃ e, p.resolve m.taskType = .ok e := by
        simpa only [Pool.serves_iff] using earlier
      have failed : Graph.stationsOf p.resolve w w.nodes =
          .error (.unknownTaskType n.taskType) := by
        rw [nodes]
        exact Graph.stationsOf_first resolved (Pool.resolve_unserved first)
      rw [Graph.compile_of_stationsOf_error valid failed]
      exact .unserved valid nodes earlier first
  · rw [Graph.compile_invalid valid]
    exact .invalid valid

end Superstep
