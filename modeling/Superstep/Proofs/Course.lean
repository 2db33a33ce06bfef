import Mathlib.Data.List.Chain
import Superstep.Proofs.Routes
import Superstep.Run.Engine

/-! # Courses of runs

A course says what can happen in a run of a workflow, whoever makes the calls.
In every step each active node is visited once, the visits change the state in
the order of their ends, and each one leads on by itself. Theorems about runs
are proved of courses by induction; every run of an engine whose worker is
faithful takes a course.
-/

namespace Superstep

structure Ending where
  call : Call
  answer : Answer
  elapsed : Nat

def Happening.ending? : Happening → Option Ending
  | .started _ => none
  | .ended call answer elapsed => some ⟨call, answer, elapsed⟩

/-- The calls that have ended, in the order of their ends. -/
def endings (happenings : List Happening) : List Ending :=
  happenings.filterMap Happening.ending?

/-- What executors may do. -/
structure Behaviour where
  answers : Call → Answer → Prop
  crashes : Prop

namespace Behaviour

def any : Behaviour := ⟨fun _ _ => True, True⟩

/-- Executors that never crash and whose answers depend on nothing but node,
    attempt and instruction. -/
def ofAnswers (f : String → Nat → String → Answer) : Behaviour where
  answers call answer := answer = f call.nodeId call.attempt call.instruction
  crashes := False

end Behaviour

namespace Worker

variable {τ ε : Type}

/-- A faithful worker ends no call twice, and leaves none without an end unless
    one crashes. -/
def Faithful (worker : Worker τ ε) : Prop :=
  ∀ jobs t, ∃ unended : List Call,
    ((endings (worker jobs t).2.happenings).map Ending.call ++ unended).Perm
        (jobs.map Job.call) ∧
      ((worker jobs t).2.crashed = false → unended = [])

/-- In the hands of the worker, the executors that can be found do nothing else
    than they may. -/
def Shows (worker : Worker τ ε) (resolve : String → Except Failure ε) (b : Behaviour) : Prop :=
  ∀ jobs t, (∀ job ∈ jobs, resolve job.call.taskType = .ok job.executor) →
    (∀ x ∈ endings (worker jobs t).2.happenings, b.answers x.call x.answer) ∧
      ((worker jobs t).2.crashed = true → b.crashes)

theorem shows_any (worker : Worker τ ε) (resolve : String → Except Failure ε) :
    worker.Shows resolve .any :=
  fun _ _ _ => ⟨fun _ _ => trivial, fun _ => trivial⟩

end Worker

structure Visit where
  node : Node
  answer : Answer
  elapsed : Nat

namespace Visit

def ending (v : Visit) (runId : String) (s : State) : Ending :=
  ⟨v.node.callIn runId s, v.answer, v.elapsed⟩

def patch (v : Visit) (runId : String) (s : State) : Patch :=
  v.node.complete s (v.node.callIn runId s) v.answer v.elapsed

def targets (v : Visit) (w : Workflow) (runId : String) (s : State) : List String :=
  (w.routeOf v.node).next (s.apply (v.patch runId s))

@[simp] theorem patch_nodeId (v : Visit) (runId : String) (s : State) :
    (v.patch runId s).nodeId = v.node.id := by
  unfold patch Node.complete
  cases v.answer <;> rfl

@[simp] theorem patch_attempt (v : Visit) (runId : String) (s : State) :
    (v.patch runId s).attempt = s.attemptsOf v.node.id + 1 := by
  unfold patch Node.complete
  cases v.answer <;> rfl

theorem patch_output (v : Visit) (runId : String) (s : State) :
    (v.patch runId s).output = v.answer.toOption := by
  unfold patch Node.complete
  cases v.answer <;> rfl

theorem error_patch_ok {v : Visit} {runId : String} {s : State} {output : String}
    (answered : v.answer = .ok output) : (v.patch runId s).error = none := by
  unfold patch Node.complete
  rw [answered]

theorem error_patch_error {v : Visit} {runId : String} {s : State} {cause : Failure}
    (answered : v.answer = .error cause) :
    (v.patch runId s).error = some ((v.node.callIn runId s).errorText cause) := by
  unfold patch Node.complete
  rw [answered]

end Visit

def State.afterVisits (s : State) (runId : String) (visits : List Visit) : State :=
  s.applyAll (visits.map (·.patch runId s))

def Workflow.activeAfter (w : Workflow) (runId : String) (s : State) (visits : List Visit) :
    List String :=
  (visits.flatMap (·.targets w runId s)).eraseDups

namespace Workflow

def completion (w : Workflow) (step : Step) (n : Node) (x : Ending) : Completion :=
  Station.completion ⟨n, (), w.routeOf n⟩ step.before x.call x.answer x.elapsed

/-- The completions of a step, in the order of the ends. -/
def completions (w : Workflow) (step : Step) : List Completion :=
  (endings step.happenings).filterMap fun x =>
    (w.node? x.call.nodeId).map fun n => w.completion step n x

def patches (w : Workflow) (step : Step) : List Patch :=
  (w.completions step).map Completion.patch

def stateAfter (w : Workflow) (step : Step) : State :=
  step.before.applyAll (w.patches step)

/-- A step is what the completions of the one before it lead to. -/
structure Follows (w : Workflow) (step next : Step) : Prop where
  number : next.number = step.number + 1
  active : next.active = Completion.union (w.completions step)
  before : next.before = w.stateAfter step

end Workflow

/-- The visits of a step with given active nodes, of which some may be left
    without an end. -/
structure Round (w : Workflow) (b : Behaviour) (runId : String) (active : List String)
    (s : State) (visits : List Visit) (unended : List String) : Prop where
  distinct : active.Nodup
  inside : ∀ v ∈ visits, v.node ∈ w.nodes
  shared : (visits.map (·.node.id) ++ unended).Perm active
  allowed : ∀ v ∈ visits, b.answers (v.node.callIn runId s) v.answer

/-- What can happen from a state with active nodes on. At most `left` steps of
    the `limit` may still be taken, and `number` is the number of the next one. -/
inductive Course (w : Workflow) (b : Behaviour) (runId : String) (limit : Nat) :
    (left number : Nat) → List String → State → History → Prop where
  | finished {left number : Nat} {s : State} :
      Course w b runId limit left number [] s ⟨[], .ok s⟩
  | limited {number : Nat} {active : List String} {s : State} (busy : active ≠ []) :
      Course w b runId limit 0 number active s ⟨[], .error (.stepLimit limit active)⟩
  | crashed {left number : Nat} {active unended : List String} {s : State}
      {happenings : List Happening} {visits : List Visit} (busy : active ≠ [])
      (round : Round w b runId active s visits unended)
      (told : endings happenings = visits.map (·.ending runId s)) (may : b.crashes) :
      Course w b runId limit (left + 1) number active s
        ⟨[⟨number, active, s, happenings⟩], .error .crash⟩
  | step {left number : Nat} {active : List String} {s : State}
      {happenings : List Happening} {visits : List Visit} {h : History} (busy : active ≠ [])
      (round : Round w b runId active s visits [])
      (told : endings happenings = visits.map (·.ending runId s))
      (later : Course w b runId limit left (number + 1) (w.activeAfter runId s visits)
        (s.afterVisits runId visits) h) :
      Course w b runId limit (left + 1) number active s
        (h.after ⟨number, active, s, happenings⟩)

namespace Round

variable {w : Workflow} {b : Behaviour} {runId : String} {active : List String} {s : State}
  {visits : List Visit}

theorem ids_perm (round : Round w b runId active s visits []) :
    (visits.map (·.node.id)).Perm active := by
  simpa using round.shared

theorem ids_nodup {unended : List String} (round : Round w b runId active s visits unended) :
    (visits.map (·.node.id)).Nodup :=
  (List.nodup_append.1 (round.shared.nodup_iff.2 round.distinct)).1

theorem mem_active {unended : List String} (round : Round w b runId active s visits unended)
    {v : Visit} (member : v ∈ visits) : v.node.id ∈ active := by
  apply round.shared.subset
  apply List.mem_append_left
  exact List.mem_map.2 ⟨v, member, rfl⟩

theorem exists_visit (round : Round w b runId active s visits []) {id : String}
    (member : id ∈ active) : ∃ v ∈ visits, v.node.id = id := by
  have visited := round.ids_perm.symm.subset member
  exact List.mem_map.1 visited

theorem visit_unique {unended : List String} (round : Round w b runId active s visits unended)
    {u v : Visit} (left : u ∈ visits) (right : v ∈ visits) (same : u.node.id = v.node.id) :
    u = v :=
  List.inj_on_of_nodup_map round.ids_nodup left right same

end Round

theorem nodup_eraseDups (ids : List String) : ids.eraseDups.Nodup := by
  induction length : ids.length using Nat.strongRecOn generalizing ids with
  | ind size ih =>
      cases ids with
      | nil => simp
      | cons id rest =>
          rw [List.eraseDups_cons, List.nodup_cons]
          have shorter := List.length_filter_le (fun other => !other == id) rest
          constructor
          · rw [List.mem_eraseDups]
            simp
          · exact ih _ (by simp only [List.length_cons] at length; omega) _ rfl

namespace Workflow

variable {w : Workflow}

theorem activeAfter_nodup (w : Workflow) (runId : String) (s : State) (visits : List Visit) :
    (w.activeAfter runId s visits).Nodup :=
  nodup_eraseDups _

theorem Valid.completions_eq (valid : w.Valid) {runId : String} {number : Nat}
    {active : List String} {s : State} {happenings : List Happening} {visits : List Visit}
    (told : endings happenings = visits.map (·.ending runId s))
    (inside : ∀ v ∈ visits, v.node ∈ w.nodes) :
    w.completions ⟨number, active, s, happenings⟩ =
      visits.map fun v => ⟨v.patch runId s, v.targets w runId s⟩ := by
  rw [completions, told, List.filterMap_map, ← List.filterMap_eq_map]
  apply List.filterMap_congr
  intro v among
  have found : w.node? (v.ending runId s).call.nodeId = some v.node :=
    valid.node?_eq_some (inside v among)
  simp only [Function.comp_apply, found, Option.map_some]
  rfl

theorem Valid.patches_eq (valid : w.Valid) {runId : String} {number : Nat} {active : List String}
    {s : State} {happenings : List Happening} {visits : List Visit}
    (told : endings happenings = visits.map (·.ending runId s))
    (inside : ∀ v ∈ visits, v.node ∈ w.nodes) :
    w.patches ⟨number, active, s, happenings⟩ = visits.map (·.patch runId s) := by
  rw [patches, valid.completions_eq told inside, List.map_map]
  rfl

theorem Valid.stateAfter_eq (valid : w.Valid) {runId : String} {number : Nat}
    {active : List String} {s : State} {happenings : List Happening} {visits : List Visit}
    (told : endings happenings = visits.map (·.ending runId s))
    (inside : ∀ v ∈ visits, v.node ∈ w.nodes) :
    w.stateAfter ⟨number, active, s, happenings⟩ = s.afterVisits runId visits := by
  rw [stateAfter, valid.patches_eq told inside]
  rfl

theorem Valid.mem_activeAfter (valid : w.Valid) {b : Behaviour} {runId : String}
    {active unended : List String} {s : State} {visits : List Visit}
    (round : Round w b runId active s visits unended) {id : String}
    (member : id ∈ w.activeAfter runId s visits) : id ∈ w.ids := by
  rw [activeAfter, List.mem_eraseDups, List.mem_flatMap] at member
  obtain ⟨v, visited, taken⟩ := member
  rcases routeOf_next_mem taken with ⟨rfl, _⟩ | ⟨e, edge, _, rfl⟩
  · exact mem_ids (round.inside v visited)
  · exact (valid.edges e edge).2

end Workflow

/-- The first step of a course is the one that it starts with, and each later one
    follows from the one before it. -/
theorem Course.chained {w : Workflow} (valid : w.Valid) {b : Behaviour} {runId : String}
    {limit left number : Nat} {active : List String} {s : State} {h : History}
    (course : Course w b runId limit left number active s h) :
    h.steps.IsChain w.Follows ∧
      ∀ step ∈ h.steps.head?, step.number = number ∧ step.active = active ∧ step.before = s := by
  induction course with
  | finished => exact ⟨.nil, fun step first => by cases first⟩
  | limited => exact ⟨.nil, fun step first => by cases first⟩
  | crashed =>
      refine ⟨.singleton _, fun step first => ?_⟩
      cases first
      exact ⟨rfl, rfl, rfl⟩
  | step busy round told later ih =>
      obtain ⟨chain, first⟩ := ih
      refine ⟨List.isChain_cons.2 ⟨?_, chain⟩, fun step first => ?_⟩
      · intro next second
        obtain ⟨numbered, awake, from_⟩ := first next second
        refine ⟨numbered, ?_, ?_⟩
        · rw [awake, valid.completions_eq told round.inside, Completion.union, List.flatMap_map]
          rfl
        · rw [from_, valid.stateAfter_eq told round.inside]
      · cases first
        exact ⟨rfl, rfl, rfl⟩

namespace Graph

variable {τ ε : Type} {resolve : String → Except Failure ε} {w : Workflow} {g : Graph ε}

theorem jobs_compile (compiled : compile resolve w = .ok g) (runId : String) (s : State)
    {active : List String} (inside : ∀ id ∈ active, id ∈ w.ids) :
    ∃ jobs, g.jobs runId s active = .ok jobs ∧
      (∀ job ∈ jobs, resolve job.call.taskType = .ok job.executor ∧
        ∃ n ∈ w.nodes, job.call = n.callIn runId s) ∧
      jobs.map (·.call.nodeId) = active := by
  induction active with
  | nil => exact ⟨[], rfl, by simp, rfl⟩
  | cons id rest ih =>
      obtain ⟨n, member, rfl⟩ := List.mem_map.1 (inside id List.mem_cons_self)
      obtain ⟨executor, resolved, found⟩ := station?_compile compiled member
      obtain ⟨jobs, made, known, ids⟩ := ih fun id later => inside id (List.mem_cons_of_mem _ later)
      refine ⟨⟨executor, n.callIn runId s⟩ :: jobs, ?_, ?_, ?_⟩
      · simp only [Graph.jobs, found, made]
        rfl
      · intro job among
        rcases List.mem_cons.1 among with rfl | later
        · exact ⟨resolved, n, member, rfl⟩
        · exact known job later
      · simp only [List.map_cons, ids]
        rfl

theorem exists_visits {runId : String} {s : State} {ended : List Ending}
    (known : ∀ x ∈ ended, ∃ n ∈ w.nodes, x.call = n.callIn runId s) :
    ∃ visits : List Visit, ended = visits.map (·.ending runId s) ∧
      ∀ v ∈ visits, v.node ∈ w.nodes := by
  induction ended with
  | nil => exact ⟨[], rfl, by simp⟩
  | cons x rest ih =>
      obtain ⟨n, member, same⟩ := known x List.mem_cons_self
      obtain ⟨visits, rfl, inside⟩ := ih fun y later => known y (List.mem_cons_of_mem _ later)
      refine ⟨⟨n, x.answer, x.elapsed⟩ :: visits, ?_, ?_⟩
      · simp only [List.map_cons, Visit.ending, ← same]
      · intro v among
        rcases List.mem_cons.1 among with rfl | later
        · exact member
        · exact inside v later

theorem completions_compile (compiled : compile resolve w = .ok g) {runId : String} {s : State}
    {happenings : List Happening} {visits : List Visit}
    (told : endings happenings = visits.map (·.ending runId s))
    (inside : ∀ v ∈ visits, v.node ∈ w.nodes) :
    g.completions s happenings =
      .ok (visits.map fun v => ⟨v.patch runId s, v.targets w runId s⟩) := by
  induction happenings generalizing visits with
  | nil =>
      cases visits with
      | nil => rfl
      | cons v rest => cases told
  | cons happening rest ih =>
      cases happening with
      | started call => exact ih told inside
      | ended call answer elapsed =>
          cases visits with
          | nil => cases told
          | cons v visits =>
              have split : Ending.mk call answer elapsed :: endings rest =
                  v.ending runId s :: visits.map (·.ending runId s) := told
              obtain ⟨first, later⟩ := List.cons.inj split
              cases first
              obtain ⟨executor, _, found⟩ :=
                station?_compile compiled (inside v List.mem_cons_self)
              have tail := ih later fun u among => inside u (List.mem_cons_of_mem _ among)
              have found : g.station? (v.node.callIn runId s).nodeId =
                some ⟨v.node, executor, w.routeOf v.node⟩ := found
              simp only [completions, found, tail]
              rfl

end Graph

end Superstep
