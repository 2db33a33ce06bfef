import Superstep.Proofs.Answers
import Superstep.Proofs.Refits
import Superstep.Proofs.Transcripts

/-! # Broken expressions

A condition that is no expression never holds, and a hook that is none adds nothing.
So a workflow can be mended without any effect on its runs: such a condition becomes
`false`, and such a hook is left out. Routes see no difference, because an edge counts
as conditional before and after.
-/

namespace Superstep

open Expression (Context)

namespace Edge

/-- The edge with a condition that never holds in place of one that is no expression. -/
def mended (e : Edge) : Edge :=
  match e.guard? with
  | none => e
  | some source =>
      if (Expression.parse source).toBool then e else { e with condition := some "false" }

end Edge

namespace Node

/-- The node without the hooks that are no expressions. -/
def mended (n : Node) : Node :=
  { n with
    onSuccess := n.onSuccess.filter fun source => (Expression.parse source).toBool
    onError := n.onError.filter fun source => (Expression.parse source).toBool }

end Node

namespace Workflow

def mended (w : Workflow) : Workflow :=
  { w with nodes := w.nodes.map Node.mended, edges := w.edges.map Edge.mended }

/-- All conditions and hooks are expressions. -/
structure Legible (w : Workflow) : Prop where
  conditions : ∀ e ∈ w.edges, ∀ source, e.guard? = some source →
    ∃ condition, Expression.parse source = .ok condition
  hooks : ∀ n ∈ w.nodes, ∀ source, n.onSuccess = some source ∨ n.onError = some source →
    ∃ hook, Expression.parse source = .ok hook

end Workflow

theorem parse_false : Expression.parse "false" = .ok (.literal (.bool false)) := by
  have lexed : Expression.tokenize "false" = .ok [⟨.keyword .no, 0⟩, ⟨.finish, 5⟩] :=
    eq_ok_of_toOption (by decide +kernel)
  rw [Expression.parse, lexed]
  rfl

namespace Edge

/-- Mending keeps an edge, or its condition was no expression and is `false` now. -/
theorem mended_cases (e : Edge) :
    e.mended = e ∧ (∀ source, e.guard? = some source →
        ∃ condition, Expression.parse source = .ok condition) ∨
      e.mended.source = e.source ∧ e.mended.target = e.target ∧
        e.mended.guard? = some "false" ∧
          ∃ source cause, e.guard? = some source ∧ Expression.parse source = .error cause := by
  unfold mended
  cases found : e.guard? with
  | none => exact .inl ⟨rfl, nofun⟩
  | some source =>
      cases parsed : Expression.parse source with
      | ok condition =>
          refine .inl ⟨by simp [parsed, Except.toBool], fun other same => ?_⟩
          obtain rfl := Option.some.inj same
          exact ⟨condition, parsed⟩
      | error cause =>
          have trimmed : Text.trim "false" = "false" := by decide +kernel
          refine .inr ⟨by simp [parsed, Except.toBool], by simp [parsed, Except.toBool], ?_,
            source, cause, rfl, parsed⟩
          simp [parsed, Except.toBool, guard?, trimmed]

theorem source_mended (e : Edge) : e.mended.source = e.source := by
  rcases e.mended_cases with ⟨same, _⟩ | ⟨source, _⟩
  · rw [same]
  · exact source

theorem target_mended (e : Edge) : e.mended.target = e.target := by
  rcases e.mended_cases with ⟨same, _⟩ | ⟨_, target, _⟩
  · rw [same]
  · exact target

end Edge

/-! ## Routes -/

def Guard.isAlways : Guard → Bool
  | .always => true
  | .when _ | .never => false

theorem Guard.passes_eq (g : Guard) (context : Context) :
    g.passes context = (g.isAlways || g.holds context) := by
  cases g <;> rfl

/-- What a route sees of an edge: where it leads, and whether it has no condition or one
    that holds. -/
structure Exit.Sight where
  target : String
  always : Bool
  holds : Bool

def Exit.sight (context : Context) (x : Exit) : Exit.Sight :=
  ⟨x.target, x.guard.isAlways, x.guard.holds context⟩

section

variable {m n : Node} {xs ys : List Exit} {s : State}

theorem Router.next_eq (r : Router) (s : State) :
    r.next s =
      if r.retries s then [r.nodeId]
      else if r.exhausted s then
        (((r.exits.map (Exit.sight s.conditionContext)).find? Exit.Sight.holds).map
          Exit.Sight.target).toList
      else
        (((r.exits.map (Exit.sight s.conditionContext)).filter fun x => x.always || x.holds).map
          Exit.Sight.target).eraseDups := by
  have passing : (fun x : Exit => x.guard.passes s.conditionContext) =
      (fun x => x.always || x.holds) ∘ Exit.sight s.conditionContext := by
    funext x
    exact x.guard.passes_eq s.conditionContext
  simp only [next, List.find?_map, List.filter_map, List.map_map, Option.map_map, passing]
  rfl

/-- Edges that need no router: none, or a single one without a condition. -/
def Exit.Plain (xs : List Exit) : Prop :=
  xs = [] ∨ ∃ target, xs = [⟨target, .always⟩]

theorem Route.ofExits_of_not_plain (n : Node) (several : ¬ Exit.Plain xs) :
    Route.ofExits n xs = .dynamic ⟨n.id, n.maxAttempts, xs⟩ := by
  unfold Route.ofExits
  split
  next => rfl
  next =>
    split
    next => exact absurd (.inl rfl) several
    next target => exact absurd (.inr ⟨target, rfl⟩) several
    next => rfl

theorem Exit.Plain.eq_of_sight {context : Context} (plain : Exit.Plain xs)
    (same : xs.map (Exit.sight context) = ys.map (Exit.sight context)) : xs = ys := by
  rcases plain with rfl | ⟨target, rfl⟩
  · exact (List.map_eq_nil_iff.1 same.symm).symm
  · obtain ⟨⟨_, guard⟩, rfl, sight⟩ := List.map_eq_singleton_iff.1 same.symm
    obtain ⟨rfl, always, _⟩ := Exit.Sight.mk.inj sight
    cases guard <;> first | rfl | cases always

/-- A route depends on the edges only in what it sees of them. -/
theorem Route.next_ofExits_congr (ids : m.id = n.id) (attempts : m.maxAttempts = n.maxAttempts)
    (same : xs.map (Exit.sight s.conditionContext) = ys.map (Exit.sight s.conditionContext)) :
    (Route.ofExits m xs).next s = (Route.ofExits n ys).next s := by
  by_cases plain : Exit.Plain xs
  · obtain rfl := plain.eq_of_sight same
    simp only [Route.ofExits, ids, attempts]
  · have other : ¬ Exit.Plain ys := fun plain' => plain (plain'.eq_of_sight same.symm ▸ plain')
    rw [Route.ofExits_of_not_plain m plain, Route.ofExits_of_not_plain n other]
    simp only [Route.next, Router.next_eq, ids, attempts, same]
    rfl

end

namespace Edge

/-- A route sees the same of an edge before and after mending. -/
theorem sight_mended (e : Edge) (context : Context) :
    Exit.sight context ⟨e.mended.target, .ofCondition e.mended.guard?⟩ =
      Exit.sight context ⟨e.target, .ofCondition e.guard?⟩ := by
  rcases e.mended_cases with ⟨same, _⟩ | ⟨_, target, no, source, cause, broken, parsed⟩
  · rw [same]
  · have always : Guard.ofCondition (some "false") = .when (.literal (.bool false)) := by
      simp only [Guard.ofCondition, parse_false]
    have never : Guard.ofCondition (some source) = .never := by
      simp only [Guard.ofCondition, parsed]
    rw [target, no, broken, always, never]
    rfl

end Edge

namespace Node

variable (n : Node)

theorem hookMetadata_mended (hook : Option String) (context : Context) :
    hookMetadata (hook.filter fun source => (Expression.parse source).toBool) context =
      hookMetadata hook context := by
  cases hook with
  | none => rfl
  | some source =>
      cases parsed : Expression.parse source with
      | ok _ => simp [Option.filter, parsed, Except.toBool]
      | error _ =>
          simp [Option.filter, parsed, Except.toBool, hookMetadata, Expression.runHook,
            Expression.evaluate, bind, Except.bind]

theorem complete_mended (s : State) (call : Call) (answer : Answer) (elapsed : Nat) :
    n.mended.complete s call answer elapsed = n.complete s call answer elapsed := by
  unfold complete mended
  cases answer <;> simp only [hookMetadata_mended]

end Node

namespace Workflow

variable (w : Workflow)

theorem outgoing_mended (id : String) :
    w.mended.outgoing id = (w.outgoing id).map Edge.mended := by
  unfold outgoing mended
  rw [List.filter_map]
  congr 2
  funext e
  simp [Edge.source_mended]

theorem next_routeOf_mended (n : Node) (s : State) :
    (w.mended.routeOf n.mended).next s = (w.routeOf n).next s := by
  refine Route.next_ofExits_congr rfl rfl ?_
  unfold exits
  rw [outgoing_mended, List.map_map, List.map_map, List.map_map]
  exact List.map_congr_left fun e _ => e.sight_mended s.conditionContext

/-- The station of a node of the mended workflow. -/
def mend {ε : Type} (station : Station ε) : Station ε :=
  ⟨station.node.mended, station.executor, w.mended.routeOf station.node.mended⟩

theorem alike_mend {ε : Type} (n : Node) (executor : ε) :
    Station.Alike ⟨n, executor, w.routeOf n⟩ (w.mend ⟨n, executor, w.routeOf n⟩) where
  executor := rfl
  call _ _ := rfl
  completion s call answer elapsed := by
    simp only [Station.completion, mend, n.complete_mended, next_routeOf_mended]

theorem node?_mended (id : String) : w.mended.node? id = (w.node? id).map Node.mended := by
  unfold node? mended
  rw [List.find?_map]
  rfl

theorem completions_mended (step : Step) : w.mended.completions step = w.completions step := by
  unfold completions
  apply List.filterMap_congr
  intro x _
  rw [node?_mended, Option.map_map]
  congr 1
  funext n
  exact (w.alike_mend n ()).completion step.before x.call x.answer x.elapsed

theorem stateAfter_mended (step : Step) : w.mended.stateAfter step = w.stateAfter step := by
  unfold stateAfter patches
  rw [completions_mended]

theorem violations_mended : w.mended.violations = w.violations := by
  have ids : w.mended.ids = w.ids := by
    unfold ids mended
    rw [List.map_map]
    rfl
  have nodes (before : List String) (ns : List Node) :
      nodeViolations before (ns.map Node.mended) = nodeViolations before ns := by
    induction ns generalizing before with
    | nil => rfl
    | cons n rest ih => simp only [List.map_cons, nodeViolations, ih]; rfl
  have edges : w.mended.edges.flatMap (edgeViolations w.ids) =
      w.edges.flatMap (edgeViolations w.ids) := by
    unfold mended
    rw [List.flatMap_map]
    congr 1
    funext e
    simp only [edgeViolations, Edge.source_mended, Edge.target_mended]
  unfold violations
  rw [ids, edges, show w.mended.nodes = w.nodes.map Node.mended from rfl, nodes]
  rfl

theorem legible_mended : w.mended.Legible where
  conditions e member source found := by
    obtain ⟨original, _, rfl⟩ := List.mem_map.1 member
    rcases original.mended_cases with ⟨same, readable⟩ | ⟨_, _, no, _⟩
    · exact readable source (same ▸ found)
    · rw [no] at found
      cases found
      exact ⟨_, parse_false⟩
  hooks n member source found := by
    obtain ⟨original, _, rfl⟩ := List.mem_map.1 member
    rcases found with found | found <;>
      exact exists_ok (Option.filter_eq_some_iff.1 found).2

end Workflow

namespace Graph

variable {ε : Type} {resolve : String → Except Failure ε} {w : Workflow} {g : Graph ε}

theorem stationsOf_mended (nodes : List Node) :
    stationsOf resolve w.mended (nodes.map Node.mended) =
      (stationsOf resolve w nodes).map (List.map fun e => (e.1, w.mend e.2)) := by
  induction nodes with
  | nil => rfl
  | cons n rest ih =>
      rw [List.map_cons, stationsOf, stationsOf, ih]
      cases found : resolve n.taskType with
      | error _ =>
          rw [show n.mended.taskType = n.taskType from rfl, found]
          rfl
      | ok executor =>
          rw [show n.mended.taskType = n.taskType from rfl, found]
          cases stationsOf resolve w rest <;> rfl

theorem compile_mended :
    compile resolve w.mended = (compile resolve w).map (·.refit w.mend) := by
  unfold compile
  rw [w.violations_mended]
  split
  next =>
    rw [show w.mended.nodes = w.nodes.map Node.mended from rfl, stationsOf_mended]
    cases stationsOf resolve w w.nodes with
    | error _ => rfl
    | ok stations =>
        have start : (⟨w.startNode, w.endNode, .ofList (stations.map fun e => (e.1, w.mend e.2))⟩ :
            Graph ε) = refit ⟨w.startNode, w.endNode, .ofList stations⟩ w.mend := by
          rw [refit, KeyMap.map_ofList]
        simp only [Except.map, bind, Except.bind]
        rw [show w.mended.startNode = w.startNode from rfl,
          show w.mended.endNode = w.endNode from rfl, start, station?_refit, Option.isSome_map]
        split <;> rfl
  next => rfl

theorem alike_of_compile (compiled : compile resolve w = .ok g) (id : String)
    (station : Station ε) (found : g.station? id = some station) :
    station.Alike (w.mend station) := by
  obtain ⟨_, _, _, route⟩ := station_of_compile compiled (g.stations.get?_eq_some_iff.1 found)
  obtain ⟨node, executor, route'⟩ := station
  obtain rfl : route' = w.routeOf node := route
  exact w.alike_mend node executor

end Graph

namespace Engine

variable {τ ε : Type} {e : Engine τ ε} {w : Workflow} {runId prompt : String}
  {given : Metadata} {t : τ}

/-- A run gets under way unless the workflow is invalid, some task type has no executor,
    or some session does not open. -/
theorem prepare_error {cause : Failure} (failed : (e.prepare w t).2 = .error cause) :
    cause = .invalidWorkflow w.violations ∨
      (∃ n ∈ w.nodes, e.resolve n.taskType = .error cause) ∨
        ∃ g, Graph.compile e.resolve w = .ok g ∧
          (e.openSessions g.taskTypes t).2 = .error cause := by
  unfold prepare at failed
  cases compiled : Graph.compile e.resolve w with
  | error other =>
      rw [compiled] at failed
      cases failed
      exact (Graph.compile_error compiled).imp_right .inl
  | ok graph =>
      rw [compiled] at failed
      refine .inr (.inr ⟨graph, rfl, ?_⟩)
      rcases opened : e.openSessions graph.taskTypes t with ⟨t', other | _⟩ <;>
        simp only [opened] at failed <;> cases failed
      rfl

theorem course_of_prepare_error {cause : Failure}
    (stopped : (e.run w runId prompt given t).2.course = .error cause) :
    (e.prepare w t).2 = .error cause := by
  unfold run at stopped
  rcases prepared : e.prepare w t with ⟨t', other | g⟩ <;>
    simp only [prepared] at stopped <;> cases stopped
  rfl

theorem prepare_mended :
    e.prepare w.mended t = ((e.prepare w t).1, (e.prepare w t).2.map (·.refit w.mend)) := by
  unfold prepare
  rw [Graph.compile_mended]
  cases compiled : Graph.compile e.resolve w with
  | error cause => rfl
  | ok g =>
      simp only [Except.map, Graph.taskTypes_refit (Graph.alike_of_compile compiled)]
      rcases e.openSessions g.taskTypes t with ⟨t', _ | _⟩ <;> rfl

theorem run_mended : e.run w.mended runId prompt given t = e.run w runId prompt given t := by
  unfold run
  rw [prepare_mended]
  rcases prepared : e.prepare w t with ⟨t', cause | g⟩
  · rfl
  · have compiled : Graph.compile e.resolve w = .ok g := prepare_ok (by rw [prepared])
    simp only [Except.map, Graph.history,
      Graph.proceed_refit (Graph.alike_of_compile compiled)]
    rfl

theorem startCrash_mended : e.startCrash w.mended t = e.startCrash w t := by
  unfold startCrash
  rw [Graph.compile_mended]
  cases compiled : Graph.compile e.resolve w with
  | error cause => rfl
  | ok g => simp only [Except.map, Graph.taskTypes_refit (Graph.alike_of_compile compiled)]

theorem run?_mended : e.run? w.mended runId prompt given t = e.run? w runId prompt given t := by
  unfold run?
  rw [startCrash_mended, prepare_mended, run_mended]
  rcases e.prepare w t with ⟨t', cause | g⟩ <;> rfl

end Engine

/-! ## What stops a run -/

/-- The successes of a step are told as such, and each of them leaves its output and no
    error. -/
def Workflow.KeepsSuccesses (w : Workflow) (runId : String) (step : Step) : Prop :=
  ∀ x ∈ endings step.happenings, ∀ output, x.answer = .ok output →
    .nodeSucceeded runId x.call.nodeId x.call.attempt x.elapsed ∈ step.events runId ∧
      (∃ n ∈ w.nodes, n.id = x.call.nodeId ∧
        (w.completion step n x).patch.output = some output ∧
        (w.completion step n x).patch.error = none) ∧
      (w.stateAfter step).outputs.get? x.call.nodeId = some output

namespace Course

variable {w : Workflow} {b : Behaviour} {runId : String} {limit left number : Nat}
  {active : List String} {s : State} {h : History}

theorem keepsSuccesses (valid : w.Valid) (course : Course w b runId limit left number active s h)
    {step : Step} (member : step ∈ h.steps) : w.KeepsSuccesses runId step := by
  intro x ended output answered
  obtain ⟨visits, unended, round, told⟩ := course.exists_round member
  obtain ⟨v, among, rfl⟩ := List.mem_map.1 (told ▸ ended)
  have answered : v.answer = .ok output := answered
  refine ⟨?_, ⟨v.node, round.inside v among, rfl, ?_, v.error_patch_ok answered⟩, ?_⟩
  · refine List.mem_cons_of_mem _ (List.mem_map.2 ⟨_, mem_endings.1 ended, ?_⟩)
    simp only [Visit.ending, answered]
    rfl
  · have patched := v.patch_output runId step.before
    rw [answered] at patched
    exact patched
  · have left := round.get?_afterVisits among
    rw [answered] at left
    rw [valid.stateAfter_eq told round.inside]
    exact left

end Course

section

variable {τ ε : Type} {e : Engine τ ε} {w : Workflow} {runId prompt : String}
  {given : Metadata} {t : τ}

/-- Broken expressions do nothing of their own. Mending them leaves runs as they are,
    step by step, and no expression, whether it is read or not, stops a run or takes a
    success back: a run is only stopped before it gets under way, for want of a valid
    workflow, an executor or a session, and later by the crash of an executor or by the
    limit of steps. -/
theorem broken_expressions_harmless :
    w.mended.Legible ∧
    e.run w.mended runId prompt given t = e.run w runId prompt given t ∧
    e.run? w.mended runId prompt given t = e.run? w runId prompt given t ∧
    (∀ step, w.mended.completions step = w.completions step ∧
      w.mended.stateAfter step = w.stateAfter step) ∧
    (∀ cause, (e.run w runId prompt given t).2.course = .error cause →
      cause = .invalidWorkflow w.violations ∨
        (∃ n ∈ w.nodes, e.resolve n.taskType = .error cause) ∨
          ∃ g, Graph.compile e.resolve w = .ok g ∧
            (e.openSessions g.taskTypes t).2 = .error cause) ∧
    ∀ b : Behaviour, e.worker.Faithful → e.worker.Shows e.resolve b →
      ∀ start h, (e.run w runId prompt given t).2.course = .ok (start, h) →
        (∀ fault, h.outcome = .error fault →
          fault = .crash ∧ b.crashes ∨
            ∃ active, fault = .stepLimit e.settings.maxSteps active) ∧
        ∀ step ∈ h.steps, w.KeepsSuccesses runId step := by
  refine ⟨w.legible_mended, Engine.run_mended, Engine.run?_mended,
    fun step => ⟨w.completions_mended step, w.stateAfter_mended step⟩, ?_, ?_⟩
  · exact fun cause stopped => Engine.prepare_error (Engine.course_of_prepare_error stopped)
  · intro b faithful shows start h ran
    obtain ⟨valid, _, course⟩ := Engine.course_of_run faithful shows ran
    refine ⟨fun fault stopped => ?_, fun step member => course.keepsSuccesses valid member⟩
    rcases course.fault stopped with rfl | limited
    · exact .inl ⟨rfl, course.may_crash stopped⟩
    · exact .inr limited

end

namespace Diamond

/-- The diamond with a hook and a condition that break off. -/
def broken : Workflow :=
  { flow with
    nodes := [.plain "a" "work",
      { Node.plain "b" "work" with maxRetries := 1, onError := some "{b: true}" },
      { Node.plain "c" "work" with onSuccess := some "{c: }" },
      .plain "d" "work"]
    edges := flow.edges ++ [.conditional "a" "d" "output =="] }

theorem broken_ready : (engine id).Ready broken () where
  valid := by decide +kernel
  resolved _ _ := ⟨_, rfl⟩
  opened _ _ := rfl
  calm _ _ := rfl

end Diamond

open Diamond in
theorem broken_expressions_harmless_diamond :
    broken.mended.edges = flow.edges ++ [.conditional "a" "d" "false"] ∧
      broken.mended.nodes.map Node.onSuccess = [none, none, none, none] ∧
      ∃ h, ((engine id).run broken.mended "one" "go" .empty ()).2.course = .ok ("a", h) ∧
        h.outcome ≠ .error .crash ∧ ∀ step ∈ h.steps, broken.KeepsSuccesses "one" step := by
  obtain ⟨_, same, _, _, _, harmless⟩ :=
    @broken_expressions_harmless _ _ (engine id) broken "one" "go" .empty ()
  obtain ⟨h, ran⟩ := broken_ready.exists_history "one" "go" .empty
  obtain ⟨stopped, kept⟩ := harmless (.ofAnswers answer)
    (Worker.oneByOne_faithful fun _ => .refl _)
    (Worker.oneByOne_shows (fun _ => .refl _) fun _ _ same => by cases same; exact fun _ => rfl)
    _ h ran
  refine ⟨by decide +kernel, by decide +kernel, h, same ▸ ran, fun crashed => ?_, kept⟩
  rcases stopped _ crashed with ⟨_, never⟩ | ⟨_, limit⟩
  · exact never
  · cases limit

end Superstep
