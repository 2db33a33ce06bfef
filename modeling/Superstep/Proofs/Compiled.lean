import Mathlib.Data.List.Nodup
import Superstep.Proofs.Maps
import Superstep.Proofs.Results
import Superstep.Run.Graph

/-! # Compiled workflows

What validation ensures is all that a run needs to know about its workflow: ids
name one node each, edges stay among the nodes, and the start is one of them.
A graph that was compiled has a station for every node of the workflow, and the
station depends on the executors only in what it calls.
-/

namespace Superstep

namespace Workflow

/-- What a run relies on. -/
structure Valid (w : Workflow) : Prop where
  distinct : w.ids.Nodup
  edges : ∀ e ∈ w.edges, e.source ∈ w.ids ∧ e.target ∈ w.ids
  start : w.startNode ∈ w.ids

/-- Nodes without violations have ids of their own, also among those before. -/
theorem nodup_of_nodeViolations {nodes : List Node} {before : List String}
    (distinct : before.Nodup) (none : nodeViolations before nodes = []) :
    (before ++ nodes.map Node.id).Nodup := by
  induction nodes generalizing before with
  | nil => simpa using distinct
  | cons n rest ih =>
      simp only [nodeViolations, List.append_eq_nil_iff] at none
      obtain ⟨⟨noDuplicate, _⟩, later⟩ := none
      have fresh : n.id ∉ before := by
        intro member
        have once : before.count n.id = 1 := by
          rw [distinct.count, if_pos member]
        simp [once] at noDuplicate
      have shuffled : (n.id :: before ++ rest.map Node.id).Perm
          (before ++ (n :: rest).map Node.id) := by
        simpa using List.perm_middle.symm
      exact shuffled.nodup_iff.1 (ih (List.nodup_cons.2 ⟨fresh, distinct⟩) later)

theorem mem_of_edgeViolations {ids : List String} {e : Edge}
    (none : edgeViolations ids e = []) : e.source ∈ ids ∧ e.target ∈ ids := by
  simp only [edgeViolations, List.append_eq_nil_iff] at none
  obtain ⟨noSource, noTarget⟩ := none
  constructor
  · by_cases member : e.source ∈ ids
    · exact member
    · simp [member] at noSource
  · by_cases member : e.target ∈ ids
    · exact member
    · simp [member] at noTarget

theorem mem_of_referenceViolations {ids : List String} {missing : Violation}
    {unknown : String → Violation} {id : String}
    (none : referenceViolations ids missing unknown id = []) : id ∈ ids := by
  unfold referenceViolations at none
  split at none
  · cases none
  · split at none
    · assumption
    · cases none

theorem valid_of_violations {w : Workflow} (none : w.violations = []) : w.Valid := by
  simp only [violations, List.append_eq_nil_iff, List.flatMap_eq_nil_iff] at none
  obtain ⟨⟨⟨nodes, edges⟩, start⟩, _⟩ := none
  exact {
    distinct := by simpa [ids] using nodup_of_nodeViolations .nil nodes
    edges := fun e member => mem_of_edgeViolations (edges e member)
    start := mem_of_referenceViolations start }

theorem Valid.node_unique {w : Workflow} (valid : w.Valid) {m n : Node}
    (left : m ∈ w.nodes) (right : n ∈ w.nodes) (same : m.id = n.id) : m = n :=
  List.inj_on_of_nodup_map valid.distinct left right same

theorem Valid.node?_eq_some {w : Workflow} (valid : w.Valid) {n : Node} (member : n ∈ w.nodes) :
    w.node? n.id = some n := by
  unfold node?
  cases found : w.nodes.find? (·.id == n.id) with
  | none => simpa using List.find?_eq_none.1 found n member
  | some m =>
      have named : m.id = n.id := by simpa using List.find?_some found
      rw [valid.node_unique (List.mem_of_find?_eq_some found) member named]

theorem mem_ids {w : Workflow} {n : Node} (member : n ∈ w.nodes) : n.id ∈ w.ids :=
  List.mem_map_of_mem member

theorem exit_edge {w : Workflow} {id : String} {x : Exit} (member : x ∈ w.exits id) :
    ∃ e ∈ w.edges, e.source = id ∧ e.target = x.target := by
  simp only [exits, outgoing, List.mem_map, List.mem_filter, beq_iff_eq] at member
  obtain ⟨e, ⟨edge, source⟩, rfl⟩ := member
  exact ⟨e, edge, source, rfl⟩

end Workflow

namespace Graph

variable {ε : Type} {resolve : String → Except Failure ε} {w : Workflow} {g : Graph ε}

/-- The stations of nodes stand under their ids and hold what was resolved. -/
theorem stationsOf_ok {nodes : List Node} {stations : List (String × Station ε)}
    (ok : stationsOf resolve w nodes = .ok stations) :
    stations.map Prod.fst = nodes.map Node.id ∧
      ∀ n ∈ nodes, ∃ executor, resolve n.taskType = .ok executor ∧
        (n.id, ⟨n, executor, w.routeOf n⟩) ∈ stations := by
  induction nodes generalizing stations with
  | nil =>
      cases ok
      simp
  | cons n rest ih =>
      obtain ⟨executor, resolved, ok⟩ := bind_ok ok
      obtain ⟨later, found, ok⟩ := bind_ok ok
      cases ok
      obtain ⟨ids, members⟩ := ih found
      refine ⟨by simp [ids], ?_⟩
      intro m member
      rcases List.mem_cons.1 member with rfl | below
      · exact ⟨executor, resolved, List.mem_cons_self⟩
      · obtain ⟨other, answer, inside⟩ := members m below
        exact ⟨other, answer, List.mem_cons_of_mem _ inside⟩

theorem get?_stations {nodes : List Node} {stations : List (String × Station ε)}
    (ok : stationsOf resolve w nodes = .ok stations) (distinct : (nodes.map Node.id).Nodup)
    {n : Node} (member : n ∈ nodes) :
    ∃ executor, resolve n.taskType = .ok executor ∧
      (KeyMap.ofList stations).get? n.id = some ⟨n, executor, w.routeOf n⟩ := by
  obtain ⟨ids, members⟩ := stationsOf_ok ok
  obtain ⟨executor, resolved, inside⟩ := members n member
  have distinct : (stations.map Prod.fst).Nodup := ids ▸ distinct
  refine ⟨executor, resolved, ?_⟩
  rw [KeyMap.get?_ofList distinct]
  exact (KeyMap.lookup_eq_some_iff_mem distinct).2 inside

theorem exists_stationsOf {nodes : List Node}
    (resolved : ∀ n ∈ nodes, ∃ executor, resolve n.taskType = .ok executor) :
    ∃ stations, stationsOf resolve w nodes = .ok stations := by
  induction nodes with
  | nil => exact ⟨[], rfl⟩
  | cons n rest ih =>
      obtain ⟨executor, found⟩ := resolved n List.mem_cons_self
      obtain ⟨stations, later⟩ := ih fun m member => resolved m (List.mem_cons_of_mem _ member)
      refine ⟨(n.id, ⟨n, executor, w.routeOf n⟩) :: stations, ?_⟩
      simp only [stationsOf, found, later]
      rfl

theorem compile_ok (compiled : compile resolve w = .ok g) :
    w.violations = [] ∧ ∃ stations, stationsOf resolve w w.nodes = .ok stations ∧
      g = ⟨w.startNode, w.endNode, .ofList stations⟩ := by
  unfold compile at compiled
  split at compiled
  next none =>
    obtain ⟨stations, found, compiled⟩ := bind_ok compiled
    simp only at compiled
    split at compiled
    · cases compiled
      exact ⟨none, stations, found, rfl⟩
    · cases compiled
  · cases compiled

theorem startNode_compile (compiled : compile resolve w = .ok g) : g.startNode = w.startNode := by
  obtain ⟨_, _, _, rfl⟩ := compile_ok compiled
  rfl

theorem exists_compile (none : w.violations = [])
    (resolved : ∀ n ∈ w.nodes, ∃ executor, resolve n.taskType = .ok executor) :
    ∃ g, compile resolve w = .ok g := by
  have valid := Workflow.valid_of_violations none
  obtain ⟨stations, found⟩ := exists_stationsOf (w := w) resolved
  obtain ⟨n, member, same⟩ := List.mem_map.1 valid.start
  obtain ⟨executor, _, start⟩ := get?_stations found valid.distinct member
  refine ⟨⟨w.startNode, w.endNode, .ofList stations⟩, ?_⟩
  rw [same] at start
  simp only [compile, none, found, station?, bind, Except.bind, start, Option.isSome_some, if_true]

theorem stationsOf_error {nodes : List Node} {cause : Failure}
    (failed : stationsOf resolve w nodes = .error cause) :
    ∃ n ∈ nodes, resolve n.taskType = .error cause := by
  induction nodes with
  | nil => cases failed
  | cons n rest ih =>
      simp only [stationsOf] at failed
      cases found : resolve n.taskType with
      | error other =>
          rw [found] at failed
          cases failed
          exact ⟨n, List.mem_cons_self, found⟩
      | ok executor =>
          cases later : stationsOf resolve w rest with
          | error other =>
              rw [found, later] at failed
              cases failed
              obtain ⟨m, member, missing⟩ := ih later
              exact ⟨m, List.mem_cons_of_mem _ member, missing⟩
          | ok stations =>
              rw [found, later] at failed
              cases failed

theorem compile_invalid (some_ : w.violations ≠ []) :
    compile resolve w = .error (.invalidWorkflow w.violations) := by
  unfold compile
  split
  next none => exact absurd none some_
  next => rfl

/-- A workflow is compiled unless it is invalid or some task type has no executor. -/
theorem compile_error {cause : Failure} (failed : compile resolve w = .error cause) :
    cause = .invalidWorkflow w.violations ∨ ∃ n ∈ w.nodes, resolve n.taskType = .error cause := by
  by_cases none : w.violations = []
  · right
    cases found : stationsOf resolve w w.nodes with
    | error other =>
        simp only [compile, none, found, bind, Except.bind, Except.error.injEq] at failed
        subst failed
        exact stationsOf_error found
    | ok stations =>
        have resolved : ∀ n ∈ w.nodes, ∃ executor, resolve n.taskType = .ok executor := by
          intro n member
          obtain ⟨executor, resolved, _⟩ := (stationsOf_ok found).2 n member
          exact ⟨executor, resolved⟩
        obtain ⟨g, compiled⟩ := exists_compile none resolved
        rw [compiled] at failed
        cases failed
  · rw [compile_invalid none] at failed
    exact .inl (Except.error.inj failed).symm

theorem station?_compile (compiled : compile resolve w = .ok g) {n : Node}
    (member : n ∈ w.nodes) :
    ∃ executor, resolve n.taskType = .ok executor ∧
      g.station? n.id = some ⟨n, executor, w.routeOf n⟩ := by
  obtain ⟨none, stations, found, rfl⟩ := compile_ok compiled
  exact get?_stations found (Workflow.valid_of_violations none).distinct member

/-- A station holds a node of the workflow, what was resolved for it, and its route. -/
theorem station_of_compile (compiled : compile resolve w = .ok g) {id : String}
    {station : Station ε} (found : (id, station) ∈ g.stations.entries) :
    id = station.node.id ∧ station.node ∈ w.nodes ∧
      resolve station.node.taskType = .ok station.executor ∧
      station.route = w.routeOf station.node := by
  have listed {nodes : List Node} {stations : List (String × Station ε)}
      (ok : stationsOf resolve w nodes = .ok stations) :
      ∀ e ∈ stations, e.1 = e.2.node.id ∧ e.2.node ∈ nodes ∧
        resolve e.2.node.taskType = .ok e.2.executor ∧ e.2.route = w.routeOf e.2.node := by
    induction nodes generalizing stations with
    | nil =>
        cases ok
        exact nofun
    | cons n rest ih =>
        obtain ⟨executor, resolved, ok⟩ := bind_ok ok
        obtain ⟨later, others, ok⟩ := bind_ok ok
        cases ok
        refine List.forall_mem_cons.2 ⟨⟨rfl, List.mem_cons_self, resolved, rfl⟩, ?_⟩
        intro e member
        obtain ⟨same, inside, rest⟩ := ih others e member
        exact ⟨same, List.mem_cons_of_mem _ inside, rest⟩
  obtain ⟨none, stations, ok, rfl⟩ := compile_ok compiled
  have distinct : (stations.map Prod.fst).Nodup := by
    rw [(stationsOf_ok ok).1]
    exact (Workflow.valid_of_violations none).distinct
  rw [← KeyMap.get?_eq_some_iff, KeyMap.get?_ofList distinct,
    KeyMap.lookup_eq_some_iff_mem distinct] at found
  exact listed ok _ found

/-- The task types of a graph are in order, and none is listed twice. -/
theorem taskTypes_increasing (g : Graph ε) : g.taskTypes.Pairwise (· < ·) := by
  rw [taskTypes, KeyMap.keys, List.pairwise_map]
  exact KeyMap.increasing _

/-- The task types of a compiled workflow are those of its nodes. -/
theorem mem_taskTypes_compile (compiled : compile resolve w = .ok g) {taskType : String} :
    taskType ∈ g.taskTypes ↔ ∃ n ∈ w.nodes, n.taskType = taskType := by
  rw [taskTypes, KeyMap.mem_keys_ofList, List.map_map, List.mem_map]
  constructor
  · rintro ⟨⟨id, station⟩, found, rfl⟩
    exact ⟨station.node, (station_of_compile compiled found).2.1, rfl⟩
  · rintro ⟨n, member, rfl⟩
    obtain ⟨executor, _, found⟩ := station?_compile compiled member
    exact ⟨_, g.stations.get?_eq_some_iff.1 found, rfl⟩

end Graph

end Superstep
