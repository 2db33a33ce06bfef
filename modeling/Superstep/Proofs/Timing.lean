import Superstep.Proofs.Activity
import Superstep.Proofs.Confluence
import Superstep.Proofs.Delays
import Superstep.Proofs.InTurn
import Superstep.Proofs.Staffing
import Superstep.Proofs.Traces

/-! # Runs that do not depend on time

Executors that pause for different times, but otherwise do the same, leave the same
world behind when each call is left alone. With a cap of one every call is, in the order
of the active nodes. So two runs with such executors go the same way and tell the same,
apart from the times that calls took.
-/

namespace Superstep

variable {σ τ : Type} {R : σ → τ → Prop}

/-- Calls of nodes that are made one after another, each from its beginning to its end. -/
inductive OneByOne : List String → List Happening → Prop where
  | nil : OneByOne [] []
  | cons {ids : List String} {happenings : List Happening} (call : Call) (answer : Answer)
      (elapsed : Nat) (later : OneByOne ids happenings) :
      OneByOne (call.nodeId :: ids)
        (.started call :: .ended call answer elapsed :: happenings)

theorem OneByOne.congr {ids : List String} {told told' : List Happening}
    (same : List.Forall₂ Happening.SameButTime told' told) (order : OneByOne ids told) :
    OneByOne ids told' := by
  induction order generalizing told' with
  | nil =>
      cases same
      exact .nil
  | cons call answer elapsed later ih =>
      obtain _ | ⟨first, rest⟩ := same
      obtain _ | ⟨second, rest⟩ := rest
      cases first
      cases second
      exact .cons call answer _ (ih rest)

theorem Happening.SameButTime.join {told left right : List Happening}
    (same : List.Forall₂ Happening.SameButTime left told)
    (same' : List.Forall₂ Happening.SameButTime right told) :
    List.Forall₂ Happening.SameButTime left right := by
  induction same generalizing right with
  | nil =>
      cases same'
      exact .nil
  | cons first _ ih =>
      obtain _ | ⟨second, rest⟩ := same'
      refine .cons ?_ (ih rest)
      cases first <;> cases second <;> constructor

/-! ## Calls of one step -/

theorem inTurn_alike {jobs : List (Job (Executor σ × Executor τ))}
    (alike : ∀ job ∈ jobs, job.executor.1.Alike R job.executor.2) (told : List Happening) {u : σ}
    {v : τ} (related : R u v) : ∃ u' v' more,
      inTurn ((jobs.map (.staffed Prod.fst)).map .start) (u, told) = some (u', told ++ more) ∧
      inTurn ((jobs.map (.staffed Prod.snd)).map .start) (v, told) = some (v', told ++ more) ∧
      R u' v' ∧ OneByOne (jobs.map (·.call.nodeId)) more := by
  induction jobs generalizing told u v with
  | nil => exact ⟨u, v, [], by simp [inTurn], by simp [inTurn], related, .nil⟩
  | cons job rest ih =>
      obtain ⟨own, others⟩ := List.forall_mem_cons.1 alike
      obtain ⟨u₁, v₁, answer, left, right, related⟩ := own.attempts job.call u v related
      obtain ⟨u₂, v₂, more, first, second, related, order⟩ :=
        ih others (told ++ [.started job.call, .ended job.call answer 0]) related
      refine ⟨u₂, v₂, .started job.call :: .ended job.call answer 0 :: more, ?_, ?_, related,
        .cons job.call answer 0 order⟩
      · simpa [inTurn, Turn.finish?, Job.staffed, left] using first
      · simpa [inTurn, Turn.finish?, Job.staffed, right] using second

/-- The calls of a step come out the same, apart from the time they took, and they are
    made one after another in both transcripts, which end without a crash. -/
structure Transcript.Agree (ids : List String) (t t' : Transcript) : Prop where
  same : List.Forall₂ Happening.SameButTime t.happenings t'.happenings
  order : OneByOne ids t.happenings
  order' : OneByOne ids t'.happenings
  calm : t.crashed = false
  calm' : t'.crashed = false

/-- Two workers with a slot each make no difference between calls of alike executors. -/
theorem Worker.Schedules.agree {worker : Worker (Site σ) (Executor σ)}
    {worker' : Worker (Site τ) (Executor τ)} (schedules : worker.Schedules 1 True)
    (schedules' : worker'.Schedules 1 True) {jobs : List (Job (Executor σ × Executor τ))}
    (alike : ∀ job ∈ jobs, job.executor.1.Alike R job.executor.2) {site : Site σ}
    {site' : Site τ} (related : site.Alike R site') :
    (worker (jobs.map (.staffed Prod.fst)) site).1.Alike R
        (worker' (jobs.map (.staffed Prod.snd)) site').1 ∧
      (worker (jobs.map (.staffed Prod.fst)) site).2.Agree (jobs.map (·.call.nodeId))
        (worker' (jobs.map (.staffed Prod.snd)) site').2 := by
  obtain ⟨opened, world⟩ := related
  obtain ⟨u, v, told, first, second, related, order⟩ := inTurn_alike alike [] world
  obtain ⟨left, same, calm⟩ := schedules.inTurn first
  obtain ⟨left', same', calm'⟩ := schedules'.inTurn second
  rw [left, left']
  exact ⟨⟨opened, related⟩, Happening.SameButTime.join same same', order.congr same,
    order.congr same', calm, calm'⟩

/-! ## Steps and runs -/

namespace Graph

variable {κ : Type} {g : Graph κ}

end Graph

/-- Two steps are the same but for the times that calls took, and in both the active nodes
    are executed one after another. -/
structure Step.Agree (step step' : Step) : Prop where
  number : step.number = step'.number
  active : step.active = step'.active
  before : step.before = step'.before
  same : List.Forall₂ Happening.SameButTime step.happenings step'.happenings
  order : OneByOne step.active step.happenings
  order' : OneByOne step'.active step'.happenings

namespace Graph

variable {worker : Worker (Site σ) (Executor σ)} {worker' : Worker (Site τ) (Executor τ)}
  {find : String → Except Failure (Executor σ × Executor τ)} {w : Workflow}
  {g : Graph (Executor σ × Executor τ)}

end Graph

/-! ## What runs tell -/

/-- Two events that differ in nothing but the time that a call took. -/
inductive Event.SameButTime : Event → Event → Prop where
  | same (x : Event) : SameButTime x x
  | succeeded (runId nodeId : String) (attempt elapsed elapsed' : Nat) :
      SameButTime (.nodeSucceeded runId nodeId attempt elapsed)
        (.nodeSucceeded runId nodeId attempt elapsed')
  | failed (runId nodeId : String) (attempt elapsed elapsed' : Nat) (error : String) :
      SameButTime (.nodeFailed runId nodeId attempt elapsed error)
        (.nodeFailed runId nodeId attempt elapsed' error)

theorem Happening.SameButTime.event {x y : Happening} (same : x.SameButTime y) (runId : String) :
    (x.event runId).SameButTime (y.event runId) := by
  cases same with
  | started call => exact .same _
  | ended call answer elapsed elapsed' =>
      cases answer with
      | ok output => exact .succeeded ..
      | error cause => exact .failed ..

theorem Step.Agree.events {step step' : Step} (agree : step.Agree step') (runId : String) :
    List.Forall₂ Event.SameButTime (step.events runId) (step'.events runId) := by
  unfold Step.events
  rw [agree.number, agree.active]
  refine .cons (.same _) ?_
  rw [List.forall₂_map_left_iff, List.forall₂_map_right_iff]
  exact agree.same.imp fun _ _ same => same.event runId

/-- In every step of the run the active nodes are executed one after another, in their
    order. -/
def Run.InTurn (r : Run) : Prop :=
  ∀ start h, r.course = .ok (start, h) → ∀ step ∈ h.steps, OneByOne step.active step.happenings

/-- Two runs have the same result and tell the same, apart from the time that calls took,
    and both execute nodes one after another. -/
structure Run.Agree (r r' : Run) : Prop where
  result : r.result = r'.result
  events : List.Forall₂ Event.SameButTime r.events r'.events
  inTurn : r.InTurn
  inTurn' : r'.InTurn

namespace Run

end Run

section

variable {p : Pool σ} {q : Pool τ} {settings : EngineSettings}
  {worker : Worker (Site σ) (Executor σ)} {worker' : Worker (Site τ) (Executor τ)}
  {w : Workflow} {site : Site σ} {site' : Site τ}

end

namespace Diamond

/-- A bench with a stand-in, whose replies any node may take, and a script. -/
def bench (pause : Option Nat) : Bench where
  standIns := [⟨0, [], .empty, [.ok "one", .error "not yet", .ok "two"]⟩]
  scripts := [⟨0, [], [⟨pause, some (.ok "played")⟩]⟩]

def standIn (delays : KeyMap Nat) : Executor Bench :=
  StandIn.executor ⟨"work", delays, none, none⟩ (Bench.standIn 0)

end Diamond

end Superstep
