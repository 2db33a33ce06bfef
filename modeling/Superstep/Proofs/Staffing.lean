import Superstep.Proofs.Compiled
import Superstep.Proofs.Refits
import Superstep.Proofs.Runs

/-! # Graphs with other executors

What an executor is makes no difference to compiling a workflow, so the executors of
a graph can be exchanged afterwards. Two workers tell the same of the runs of two
such graphs if they tell the same of the calls of every step.
-/

namespace Superstep

variable {κ ε : Type}

def Job.staffed (f : κ → ε) (job : Job κ) : Job ε :=
  ⟨f job.executor, job.call⟩

def Station.staffed (f : κ → ε) (station : Station κ) : Station ε :=
  ⟨station.node, f station.executor, station.route⟩

/-- The graph with other executors at its nodes. -/
def Graph.staffed (f : κ → ε) (g : Graph κ) : Graph ε :=
  ⟨g.startNode, g.endNode, g.stations.map (Station.staffed f)⟩

namespace Graph

variable {f : κ → ε} {g : Graph κ}

@[simp] theorem station?_staffed (id : String) :
    (g.staffed f).station? id = (g.station? id).map (Station.staffed f) :=
  g.stations.get?_map _ id

theorem taskTypes_staffed : (g.staffed f).taskTypes = g.taskTypes := by
  unfold taskTypes staffed KeyMap.map
  rw [List.map_map]
  rfl

section

variable {resolve : String → Except Failure κ} {resolve' : String → Except Failure ε}
  (same : ∀ taskType, resolve' taskType = (resolve taskType).map f)

include same

theorem stationsOf_staffed (w : Workflow) (nodes : List Node) :
    stationsOf resolve' w nodes =
      (stationsOf resolve w nodes).map (List.map fun e => (e.1, e.2.staffed f)) := by
  induction nodes with
  | nil => rfl
  | cons n rest ih =>
      rw [stationsOf, stationsOf, ih, same]
      cases resolve n.taskType with
      | error _ => rfl
      | ok executor => cases stationsOf resolve w rest <;> rfl

theorem compile_staffed (w : Workflow) :
    compile resolve' w = (compile resolve w).map (Graph.staffed f) := by
  unfold compile
  split
  next =>
    rw [stationsOf_staffed same]
    cases stationsOf resolve w w.nodes with
    | error _ => rfl
    | ok stations =>
        have whole : (⟨w.startNode, w.endNode,
            .ofList (stations.map fun e => (e.1, e.2.staffed f))⟩ : Graph ε) =
              staffed f ⟨w.startNode, w.endNode, .ofList stations⟩ := by
          rw [staffed, KeyMap.map_ofList]
        simp only [Except.map, bind, Except.bind]
        rw [whole, station?_staffed, Option.isSome_map]
        split <;> rfl
  next => rfl

end

theorem jobs_staffed (runId : String) (s : State) (active : List String) :
    (g.staffed f).jobs runId s active =
      (g.jobs runId s active).map (List.map (Job.staffed f)) := by
  induction active with
  | nil => rfl
  | cons id rest ih =>
      rw [jobs, jobs, station?_staffed]
      cases g.station? id with
      | none => rfl
      | some station =>
          simp only [Option.map_some, ih]
          cases g.jobs runId s rest <;> rfl

theorem completions_staffed (s : State) (happenings : List Happening) :
    (g.staffed f).completions s happenings = g.completions s happenings := by
  induction happenings with
  | nil => rfl
  | cons happening rest ih =>
      cases happening with
      | started call => exact ih
      | ended call answer elapsed =>
          rw [completions, completions, station?_staffed]
          cases g.station? call.nodeId with
          | none => rfl
          | some station =>
              simp only [Option.map_some, ih]
              rfl

theorem mem_jobs {runId : String} {s : State} {active : List String} {jobs : List (Job κ)}
    (made : g.jobs runId s active = .ok jobs) {job : Job κ} (member : job ∈ jobs) :
    ∃ e ∈ g.stations.entries, e.2.executor = job.executor := by
  induction active generalizing jobs with
  | nil =>
      cases made
      cases member
  | cons id rest ih =>
      rw [Graph.jobs] at made
      split at made
      next => cases made
      next station found =>
        obtain ⟨later, others, made⟩ := bind_ok made
        cases made
        rcases List.mem_cons.1 member with rfl | below
        · exact ⟨_, g.stations.get?_eq_some_iff.1 found, rfl⟩
        · exact ih others below

end Graph

/-- Two workers tell the same of the calls of a step, whichever of the allowed executors
    have to answer them, and keep what they change in a relation. -/
def Worker.Mirrors {τ τ' ε' : Type} (T : τ → τ' → Prop) (allowed : κ → Prop) (f : κ → ε)
    (f' : κ → ε') (worker : Worker τ ε) (worker' : Worker τ' ε') : Prop :=
  ∀ jobs : List (Job κ), (∀ job ∈ jobs, allowed job.executor) → ∀ t t', T t t' →
    (worker (jobs.map (.staffed f)) t).2 = (worker' (jobs.map (.staffed f')) t').2 ∧
      T (worker (jobs.map (.staffed f)) t).1 (worker' (jobs.map (.staffed f')) t').1

namespace Graph

variable {τ τ' ε' : Type} {T : τ → τ' → Prop} {allowed : κ → Prop} {f : κ → ε} {f' : κ → ε'}
  {worker : Worker τ ε} {worker' : Worker τ' ε'} {g : Graph κ}

theorem takeStep_mirrors (mirrors : worker.Mirrors T allowed f f' worker')
    (staff : ∀ e ∈ g.stations.entries, allowed e.2.executor) (runId : String) (number : Nat)
    (active : List String) (s : State) {t : τ} {t' : τ'} (related : T t t') :
    ((g.staffed f).takeStep worker runId number active s t).2 =
        ((g.staffed f').takeStep worker' runId number active s t').2 ∧
      T ((g.staffed f).takeStep worker runId number active s t).1
        ((g.staffed f').takeStep worker' runId number active s t').1 := by
  unfold takeStep conclude
  simp only [jobs_staffed, completions_staffed]
  cases made : g.jobs runId s active with
  | error fault => exact ⟨rfl, related⟩
  | ok jobs =>
      have known : ∀ job ∈ jobs, allowed job.executor := by
        intro job member
        obtain ⟨e, listed, same⟩ := mem_jobs made member
        exact same ▸ staff e listed
      obtain ⟨told, kept⟩ := mirrors jobs known t t' related
      simp only [Except.map, told]
      exact ⟨trivial, kept⟩

theorem proceed_mirrors (mirrors : worker.Mirrors T allowed f f' worker')
    (staff : ∀ e ∈ g.stations.entries, allowed e.2.executor) (runId : String)
    (limit left number : Nat) (active : List String) (s : State) {t : τ} {t' : τ'}
    (related : T t t') :
    ((g.staffed f).proceed worker runId limit left number active s t).2 =
        ((g.staffed f').proceed worker' runId limit left number active s t').2 ∧
      T ((g.staffed f).proceed worker runId limit left number active s t).1
        ((g.staffed f').proceed worker' runId limit left number active s t').1 := by
  induction left generalizing number active s t t' with
  | zero => cases active <;> exact ⟨rfl, related⟩
  | succ left ih =>
      cases active with
      | nil => exact ⟨rfl, related⟩
      | cons id rest =>
          obtain ⟨told, kept⟩ :=
            takeStep_mirrors mirrors staff runId number (id :: rest) s related
          simp only [proceed]
          rcases one : (g.staffed f).takeStep worker runId number (id :: rest) s t with
            ⟨u, step, outcome⟩
          rcases other : (g.staffed f').takeStep worker' runId number (id :: rest) s t' with
            ⟨u', step', outcome'⟩
          rw [one, other] at told kept
          cases told
          cases outcome with
          | error fault => exact ⟨rfl, kept⟩
          | ok next =>
              obtain ⟨same, later⟩ := ih (number + 1) next.2 next.1 kept
              exact ⟨congrArg (History.after step) same, later⟩

end Graph

/-- Preparing a run only finds out which executors stand at the nodes. -/
theorem Engine.prepare_staffed {τ : Type} {e : Engine τ ε} {find : String → Except Failure κ}
    {f : κ → ε} (resolves : ∀ taskType, e.resolve taskType = (find taskType).map f)
    (w : Workflow) (t : τ) :
    e.prepare w t =
      match Graph.compile find w with
      | .error cause => (t, .error cause)
      | .ok g =>
          ((e.openSessions g.taskTypes t).1,
            (e.openSessions g.taskTypes t).2.map fun _ => g.staffed f) := by
  unfold prepare
  rw [Graph.compile_staffed resolves]
  cases Graph.compile find w with
  | error _ => rfl
  | ok g =>
      simp only [Except.map, Graph.taskTypes_staffed]
      rcases e.openSessions g.taskTypes t with ⟨opened, _ | _⟩ <;> rfl

theorem Engine.startCrash_staffed {τ : Type} {e : Engine τ ε} {find : String → Except Failure κ}
    {f : κ → ε} (resolves : ∀ taskType, e.resolve taskType = (find taskType).map f)
    (w : Workflow) (t : τ) :
    e.startCrash w t =
      match Graph.compile find w with
      | .error _ => none
      | .ok g => e.sessionsCrash g.taskTypes t := by
  unfold startCrash
  rw [Graph.compile_staffed resolves]
  cases Graph.compile find w with
  | error _ => rfl
  | ok g => simp only [Except.map, Graph.taskTypes_staffed]

/-- Once they are prepared, two runs are the same if the workers tell the same. -/
theorem Engine.run?_mirrors {τ τ' ε' : Type} {e : Engine τ ε} {e' : Engine τ' ε'}
    {T : τ → τ' → Prop} {allowed : κ → Prop} {f : κ → ε} {f' : κ → ε'} {g : Graph κ}
    {w : Workflow} {t mid : τ} {t' mid' : τ'}
    (calm : e.startCrash w t = none) (calm' : e'.startCrash w t' = none)
    (prepared : e.prepare w t = (mid, .ok (g.staffed f)))
    (prepared' : e'.prepare w t' = (mid', .ok (g.staffed f')))
    (settings : e.settings = e'.settings) (mirrors : e.worker.Mirrors T allowed f f' e'.worker)
    (staff : ∀ x ∈ g.stations.entries, allowed x.2.executor) (related : T mid mid')
    (runId prompt : String) (given : Metadata) :
    (e.run? w runId prompt given t).2 = (e'.run? w runId prompt given t').2 ∧
      T (e.run? w runId prompt given t).1 (e'.run? w runId prompt given t').1 := by
  rw [run?_of_ok calm prepared, run?_of_ok calm' prepared', settings]
  by_cases beyond : capLimit < e'.settings.maxConcurrency
  · rw [if_pos beyond, if_pos beyond]
    exact ⟨rfl, related⟩
  · rw [if_neg beyond, if_neg beyond]
    obtain ⟨told, kept⟩ := Graph.proceed_mirrors mirrors staff runId e'.settings.maxSteps
      e'.settings.maxSteps 1 [g.startNode] (startState w prompt given) related
    exact ⟨congrArg (fun h => some (Run.mk runId _ (.ok (g.startNode, h)))) told, kept⟩

end Superstep
