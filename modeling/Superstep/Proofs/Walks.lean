import Superstep.Proofs.Answers
import Superstep.Proofs.Attempts

/-! # Runs as walks

A run in which nothing fails and no edge has a condition goes along all walks from
the start at once, one edge in a step. So the active nodes of a step are where the
walks of its length end, the run is stopped if some walk is long enough, and else
every node that can be reached has an output.
-/

namespace Superstep

namespace Workflow

variable {w : Workflow}

/-- A walk of so many edges leads from the start node to a node. -/
inductive Walk (w : Workflow) : Nat → String → Prop where
  | start : Walk w 0 w.startNode
  | along {edges : Nat} {a b : String} (walk : Walk w edges a) (leads : w.Leads a b) :
      Walk w (edges + 1) b

theorem mem_start_iff_walk {id : String} : id ∈ [w.startNode] ↔ w.Walk 0 id := by
  rw [List.mem_singleton]
  constructor
  · rintro rfl
    exact .start
  · rintro ⟨⟩
    rfl

theorem reachable_iff_walk {id : String} :
    Relation.ReflTransGen w.Leads w.startNode id ↔ ∃ edges, w.Walk edges id := by
  constructor
  · intro reached
    induction reached with
    | refl => exact ⟨0, .start⟩
    | tail _ leads ih =>
        obtain ⟨edges, walk⟩ := ih
        exact ⟨edges + 1, walk.along leads⟩
  · rintro ⟨edges, walk⟩
    induction walk with
    | start => exact .refl
    | along _ leads ih => exact ih.tail leads

/-- A walk begins with walks of all smaller lengths. -/
theorem Walk.exists_of_le {few many : Nat} {id : String} (walk : w.Walk many id)
    (shorter : few ≤ many) : ∃ earlier, w.Walk few earlier := by
  induction walk with
  | start =>
      obtain rfl := Nat.le_zero.1 shorter
      exact ⟨_, .start⟩
  | along walk leads ih =>
      rcases Nat.lt_or_eq_of_le shorter with less | rfl
      · exact ih (Nat.le_of_lt_succ less)
      · exact ⟨_, walk.along leads⟩

def Unconditional (w : Workflow) : Prop :=
  ∀ e ∈ w.edges, e.guard? = none

instance (w : Workflow) : Decidable w.Unconditional :=
  inferInstanceAs (Decidable (∀ e ∈ w.edges, _))

theorem Unconditional.mem_openTargets (plain : w.Unconditional) {a id : String} {s : State} :
    id ∈ w.openTargets a s ↔ w.Leads a id := by
  rw [Workflow.mem_openTargets]
  constructor
  · rintro ⟨e, edge, source, target, _⟩
    exact ⟨e, edge, source, target⟩
  · rintro ⟨e, edge, source, target⟩
    exact ⟨e, edge, source, target, .inl (Edge.guard?_eq_none_iff.1 (plain e edge))⟩

/-- Visits that all succeed wake the nodes one edge behind the active ones. -/
theorem Unconditional.mem_activeAfter (plain : w.Unconditional) {b : Behaviour} {runId : String}
    {active : List String} {s : State} {visits : List Visit}
    (round : Round w b runId active s visits [])
    (fine : ∀ v ∈ visits, v.answer.toBool = true) {id : String} :
    id ∈ w.activeAfter runId s visits ↔ ∃ a ∈ active, w.Leads a id := by
  have along {v : Visit} (among : v ∈ visits) :
      id ∈ v.targets w runId s ↔ w.Leads v.node.id id := by
    have clear : (s.apply (v.patch runId s)).error = none := by
      cases answered : v.answer with
      | ok output => exact Visit.error_patch_ok answered
      | error cause => simpa [answered, Except.toBool] using fine v among
    rw [Visit.targets, routeOf_next_success clear, plain.mem_openTargets]
  rw [activeAfter, List.mem_eraseDups, List.mem_flatMap]
  constructor
  · rintro ⟨v, among, taken⟩
    exact ⟨v.node.id, round.mem_active among, (along among).1 taken⟩
  · rintro ⟨a, awake, leads⟩
    obtain ⟨v, among, rfl⟩ := round.exists_visit awake
    exact ⟨v, among, (along among).2 leads⟩

end Workflow

/-- Every execution succeeds: no call ends with a failure, and none crashes. -/
structure History.Flawless (h : History) : Prop where
  calm : h.outcome ≠ .error .crash
  succeeded : ∀ step ∈ h.steps, ∀ x ∈ endings step.happenings, x.answer.toBool = true

theorem History.Flawless.exists_output {h : History} (flawless : h.Flawless) {id : String}
    {x : Execution} (member : x ∈ h.executions id) : ∃ output, x.ending.answer = .ok output := by
  obtain ⟨step, among, own⟩ := List.mem_flatMap.1 member
  obtain ⟨rfl, ended, _⟩ := Step.mem_executions.1 own
  have fine := flawless.succeeded x.step among x.ending ended
  cases answered : x.ending.answer with
  | ok output => exact ⟨output, rfl⟩
  | error cause => simp [answered, Except.toBool] at fine

namespace Course

variable {w : Workflow} {b : Behaviour} {runId : String} {limit left number : Nat}
  {active : List String} {s : State} {h : History}

/-- If the active nodes are where walks of some length end, a flawless course goes on
    along these walks: it finishes when none of them goes on, and is stopped when one
    of them is as long as the limit. -/
theorem along_walks (plain : w.Unconditional)
    (course : Course w b runId limit left number active s h) (flawless : h.Flawless) {edges : Nat}
    (ends : ∀ id, id ∈ active ↔ w.Walk edges id) :
    (∀ i step, h.steps[i]? = some step → ∀ id, id ∈ step.active ↔ w.Walk (edges + i) id) ∧
      (∀ last, h.outcome = .ok last → ∀ id, ¬ w.Walk (edges + h.steps.length) id) ∧
      ∀ reached still, h.outcome = .error (.stepLimit reached still) →
        ∃ id, w.Walk (edges + left) id := by
  induction course generalizing edges with
  | finished =>
      refine ⟨nofun, fun _ _ id walk => ?_, nofun⟩
      exact List.not_mem_nil ((ends id).2 walk)
  | limited busy =>
      refine ⟨nofun, nofun, fun _ _ _ => ?_⟩
      obtain ⟨id, rest, rfl⟩ := List.exists_cons_of_ne_nil busy
      exact ⟨id, (ends id).1 List.mem_cons_self⟩
  | crashed => exact absurd rfl flawless.calm
  | @step left number active s happenings visits h busy round told later ih =>
      have fine : ∀ v ∈ visits, v.answer.toBool = true := by
        intro v among
        have ended : v.ending runId s ∈ endings happenings := told ▸ List.mem_map_of_mem among
        exact flawless.succeeded _ List.mem_cons_self _ ended
      have rest : h.Flawless := ⟨flawless.calm, fun step among =>
        flawless.succeeded step (List.mem_cons_of_mem _ among)⟩
      have next : ∀ id, id ∈ w.activeAfter runId s visits ↔ w.Walk (edges + 1) id := by
        intro id
        rw [plain.mem_activeAfter round fine]
        constructor
        · rintro ⟨a, awake, leads⟩
          exact ((ends a).1 awake).along leads
        · rintro (_ | ⟨walk, leads⟩)
          exact ⟨_, (ends _).2 walk, leads⟩
      obtain ⟨steps, finished, stopped⟩ := ih rest next
      have longer (more : Nat) : edges + 1 + more = edges + (more + 1) := by omega
      refine ⟨fun i step found => ?_, fun last ended => ?_, fun reached still outcome => ?_⟩
      · cases i with
        | zero =>
            obtain rfl := Option.some.inj found
            exact ends
        | succ i =>
            rw [← longer]
            exact steps i step found
      · have dead := finished last ended
        rwa [longer] at dead
      · have walk := stopped reached still outcome
        rwa [longer] at walk

/-- A node is executed if and only if it is active in some step, unless a call crashes. -/
theorem executed_iff (course : Course w b runId limit left number active s h)
    (calm : h.outcome ≠ .error .crash) {id : String} :
    h.executions id ≠ [] ↔ ∃ step ∈ h.steps, id ∈ step.active := by
  induction course with
  | finished | limited => simp [History.executions]
  | crashed => exact absurd rfl calm
  | @step left number active s happenings visits h busy round told later ih =>
      have here : Step.executions ⟨number, active, s, happenings⟩ id ≠ [] ↔ id ∈ active := by
        rcases round.executions_cases told number id with ⟨v, among, rfl, once⟩ | ⟨idle, none_⟩
        · simpa [once] using round.mem_active among
        · rw [none_]
          refine ⟨fun some_ => absurd rfl some_, fun awake => ?_⟩
          obtain ⟨v, among, same⟩ := round.exists_visit awake
          exact absurd same (idle v among)
      rw [History.executions_after, ne_eq, List.append_eq_nil_iff, Classical.not_and_iff_not_or_not,
        ← ne_eq, ← ne_eq, here, ih calm]
      simp [History.after]

/-- A flawless course from the start node that finishes executes the nodes that can be
    reached. -/
theorem executed_iff_reachable (plain : w.Unconditional)
    (course : Course w b runId limit left number [w.startNode] s h) (flawless : h.Flawless)
    {last : State} (ended : h.outcome = .ok last) {id : String} :
    h.executions id ≠ [] ↔ Relation.ReflTransGen w.Leads w.startNode id := by
  obtain ⟨steps, finished, _⟩ :=
    course.along_walks plain flawless fun _ => Workflow.mem_start_iff_walk
  simp only [Nat.zero_add] at steps finished
  rw [course.executed_iff flawless.calm, Workflow.reachable_iff_walk]
  constructor
  · rintro ⟨step, member, awake⟩
    obtain ⟨i, found⟩ := List.mem_iff_getElem?.1 member
    exact ⟨i, (steps i step found id).1 awake⟩
  · rintro ⟨edges, walk⟩
    have inside : edges < h.steps.length := by
      refine Nat.lt_of_not_le fun long => ?_
      obtain ⟨earlier, whole⟩ := walk.exists_of_le long
      exact finished last ended earlier whole
    have found := List.getElem?_eq_getElem inside
    exact ⟨_, List.getElem_mem inside, (steps edges _ found id).2 walk⟩

end Course

section

variable {τ ε : Type} {e : Engine τ ε} {w : Workflow} {runId prompt : String}
  {given : Metadata} {t : τ}

/-- A finished run gives every node the output of its last success. -/
theorem Engine.outputs_of_run (faithful : e.worker.Faithful) {start : String} {h : History}
    (ran : (e.run w runId prompt given t).2.course = .ok (start, h)) {last : State}
    (ended : h.outcome = .ok last) (id : String) :
    (e.run w runId prompt given t).2.result.outputs.get? id = lastOutput? (h.executions id) := by
  obtain ⟨_, _, course⟩ := Engine.course_of_run faithful (e.worker.shows_any e.resolve) ran
  have fresh : (startState w prompt given).outputs.get? id = none := rfl
  have left := course.get?_last ended id
  rw [fresh, Option.or_none] at left
  rw [← left, Run.result_of_outcome ran ended]
  rfl

/-- In a run without conditions in which every execution succeeds, the active nodes of
    a step are where the walks from the start end that have one edge for each step
    before. The limit stops the run if and only if there is a walk of as many edges, and
    if the run finishes, its outputs are those of the last executions of the nodes that
    can be reached, and of no others. -/
theorem flawless_run_walks (faithful : e.worker.Faithful) (plain : w.Unconditional) {r : Run}
    (returned : (e.run? w runId prompt given t).2 = some r) {start : String} {h : History}
    (ran : r.course = .ok (start, h)) (flawless : h.Flawless) :
    (∀ i step, h.steps[i]? = some step →
      step.number = i + 1 ∧ ∀ id, id ∈ step.active ↔ w.Walk i id) ∧
    ((∃ still, h.outcome = .error (.stepLimit e.settings.maxSteps still)) ↔
      ∃ id, w.Walk e.settings.maxSteps id) ∧
    ∀ last, h.outcome = .ok last →
      (∀ id, r.result.outputs.contains id = true ↔
        Relation.ReflTransGen w.Leads w.startNode id) ∧
      ∀ id, Relation.ReflTransGen w.Leads w.startNode id →
        ∃ x output, (h.executions id).getLast? = some x ∧ x.ending.answer = .ok output ∧
          r.result.outputs.get? id = some output := by
  obtain rfl := Engine.eq_run_of_run? returned
  obtain ⟨_, _, course⟩ := Engine.course_of_run faithful (e.worker.shows_any e.resolve) ran
  obtain ⟨steps, finished, stopped⟩ :=
    course.along_walks plain flawless fun _ => Workflow.mem_start_iff_walk
  simp only [Nat.zero_add] at steps finished stopped
  refine ⟨fun i step found => ⟨?_, steps i step found⟩, ⟨?_, ?_⟩, fun last ended => ?_⟩
  · rw [course.numbered found, Nat.add_comm]
  · rintro ⟨still, outcome⟩
    exact stopped _ still outcome
  · rintro ⟨id, walk⟩
    cases outcome : h.outcome with
    | ok last =>
        obtain ⟨earlier, short⟩ := walk.exists_of_le course.length_le
        exact absurd short (finished last outcome earlier)
    | error cause =>
        rcases course.fault outcome with rfl | ⟨still, rfl⟩
        · exact absurd outcome flawless.calm
        · exact ⟨still, rfl⟩
  · have told (id : String) := Engine.outputs_of_run faithful ran ended id
    have executed {id : String} : h.executions id ≠ [] ↔
        Relation.ReflTransGen w.Leads w.startNode id :=
      course.executed_iff_reachable plain flawless ended
    have answered {id : String} (reached : Relation.ReflTransGen w.Leads w.startNode id) :
        ∃ x output, (h.executions id).getLast? = some x ∧ x.ending.answer = .ok output ∧
          (e.run w runId prompt given t).2.result.outputs.get? id = some output := by
      obtain ⟨x, latest⟩ :=
        Option.isSome_iff_exists.1 (List.getLast?_isSome.2 (executed.2 reached))
      obtain ⟨output, answer⟩ := flawless.exists_output (List.mem_of_getLast? latest)
      exact ⟨x, output, latest, answer, (told id).trans (lastOutput?_of_success latest answer)⟩
    refine ⟨fun id => ⟨fun known => ?_, fun reached => ?_⟩, fun id reached => answered reached⟩
    · refine executed.1 fun never => ?_
      rw [Outputs.contains, told, never] at known
      cases known
    · obtain ⟨_, _, _, _, found⟩ := answered reached
      rw [Outputs.contains, found]
      rfl

end

namespace Diamond

/-- An engine for the diamond whose executors never fail. -/
def willing : Engine Unit (Call → Answer) :=
  { engine id with resolve := fun _ => .ok fun call => .ok ("done " ++ call.nodeId) }

theorem willing_ready : willing.Ready flow () where
  valid := (ready id).valid
  resolved _ _ := ⟨_, rfl⟩
  opened _ _ := rfl
  calm _ _ := rfl

end Diamond

open Diamond in
theorem flawless_run_walks_diamond :
    ∃ r h last, (willing.run? flow "one" "go" .empty ()).2 = some r ∧
      r.course = .ok ("a", h) ∧ h.Flawless ∧ h.outcome = .ok last ∧
      (∀ i step, h.steps[i]? = some step → ∀ id, id ∈ step.active ↔ flow.Walk i id) ∧
      (∀ id, ¬ flow.Walk 100 id) ∧
      ∀ id, r.result.outputs.contains id = true ↔ Relation.ReflTransGen flow.Leads "a" id := by
  have returned : (willing.run? flow "one" "go" .empty ()).2 =
      some (willing.run flow "one" "go" .empty ()).2 :=
    Engine.run?_eq_run willing_ready.startCrash (by decide)
  obtain ⟨h, ran⟩ := willing_ready.exists_history "one" "go" .empty
  have facts : (match (willing.run flow "one" "go" .empty ()).2.course with
      | .ok (_, h) => h.outcome.toBool && h.steps.all fun step =>
          (endings step.happenings).all (·.answer.toBool)
      | .error _ => false) = true := by
    decide +kernel
  rw [ran, Bool.and_eq_true] at facts
  obtain ⟨finished, succeeded⟩ := facts
  cases outcome : h.outcome with
  | error cause => simp [outcome, Except.toBool] at finished
  | ok last =>
      have flawless : h.Flawless := by
        refine ⟨by simp [outcome], fun step among x ended => ?_⟩
        exact List.all_eq_true.1 (List.all_eq_true.1 succeeded step among) x ended
      obtain ⟨steps, limited, outputs⟩ :=
        flawless_run_walks (Worker.oneByOne_faithful fun _ => .refl _) (by decide +kernel)
          returned ran flawless
      refine ⟨_, h, last, returned, ran, flawless, outcome,
        fun i step found => (steps i step found).2, fun id walk => ?_, (outputs last outcome).1⟩
      obtain ⟨still, stopped⟩ := limited.2 ⟨id, walk⟩
      rw [outcome] at stopped
      cases stopped

end Superstep
