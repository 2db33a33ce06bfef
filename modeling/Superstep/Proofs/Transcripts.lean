import Superstep.Proofs.Boundaries
import Superstep.Proofs.Runs

/-! # What workers tell

A course only knows how the calls of a step end. An orderly worker also begins
no call twice and ends none that has not begun before, so what it tells of a
step is the calls of the active nodes, each from its beginning on.
-/

namespace Superstep

namespace Happening

def call : Happening → Call
  | .started call | .ended call _ _ => call

def beginning? : Happening → Option Call
  | .started call => some call
  | .ended .. => none

end Happening

/-- The calls that have begun, in the order of their beginnings. -/
def beginnings (happenings : List Happening) : List Call :=
  happenings.filterMap Happening.beginning?

/-- A call has ended only if it has begun before. -/
def Timely (happenings : List Happening) : Prop :=
  ∀ told, told <+: happenings → ∀ x ∈ endings told, x.call ∈ beginnings told

namespace Worker

variable {τ ε : Type}

/-- An orderly worker begins no call twice, and none that it was not asked to make,
    before it ends. -/
structure Orderly (worker : Worker τ ε) : Prop where
  begun : ∀ jobs t, ∃ unbegun : List Call,
    (beginnings (worker jobs t).2.happenings ++ unbegun).Perm (jobs.map Job.call)
  timely : ∀ jobs t, Timely (worker jobs t).2.happenings

end Worker

theorem endings_append (happenings more : List Happening) :
    endings (happenings ++ more) = endings happenings ++ endings more :=
  List.filterMap_append

theorem beginnings_append (happenings more : List Happening) :
    beginnings (happenings ++ more) = beginnings happenings ++ beginnings more :=
  List.filterMap_append

theorem mem_endings {happenings : List Happening} {x : Ending} :
    x ∈ endings happenings ↔ .ended x.call x.answer x.elapsed ∈ happenings := by
  rw [endings, List.mem_filterMap]
  constructor
  · rintro ⟨happening, member, found⟩
    cases happening with
    | started call => cases found
    | ended call answer elapsed =>
        cases found
        exact member
  · exact fun member => ⟨_, member, rfl⟩

theorem Timely.mem_beginnings {happenings : List Happening} (timely : Timely happenings)
    {x : Happening} (member : x ∈ happenings) : x.call ∈ beginnings happenings := by
  cases x with
  | started call => exact List.mem_filterMap.2 ⟨_, member, rfl⟩
  | ended call answer elapsed =>
      exact timely happenings (List.prefix_refl _) ⟨call, answer, elapsed⟩ (mem_endings.2 member)

/-- What a step of a run has on record. -/
structure Step.Record (w : Workflow) (runId : String) (step : Step) : Prop where
  distinct : step.active.Nodup
  called : ∀ x ∈ step.happenings, ∃ n ∈ w.nodes, x.call = n.callIn runId step.before
  begun : ∃ unbegun, ((beginnings step.happenings).map Call.nodeId ++ unbegun).Perm step.active
  ended : ∃ unended,
    ((endings step.happenings).map (·.call.nodeId) ++ unended).Perm step.active
  timely : Timely step.happenings

/-- All active nodes have been executed once. -/
def Step.Whole (step : Step) : Prop :=
  ((beginnings step.happenings).map Call.nodeId).Perm step.active ∧
    ((endings step.happenings).map (·.call.nodeId)).Perm step.active

namespace Step.Record

variable {w : Workflow} {runId : String} {step : Step}

theorem mem_active (record : step.Record w runId) {x : Happening} (member : x ∈ step.happenings) :
    x.call.nodeId ∈ step.active := by
  obtain ⟨unbegun, shared⟩ := record.begun
  apply shared.subset
  apply List.mem_append_left
  exact List.mem_map_of_mem (record.timely.mem_beginnings member)

/-- Once all active nodes have ended, they have all begun. -/
theorem whole (record : step.Record w runId)
    (ended : ((endings step.happenings).map (·.call.nodeId)).Perm step.active) : step.Whole := by
  obtain ⟨unbegun, shared⟩ := record.begun
  refine ⟨?_, ended⟩
  have distinct : ((beginnings step.happenings).map Call.nodeId).Nodup :=
    (List.nodup_append.1 (shared.nodup_iff.2 record.distinct)).1
  rw [List.perm_ext_iff_of_nodup distinct record.distinct]
  intro id
  constructor
  · exact fun member => shared.subset (List.mem_append_left _ member)
  · intro awake
    obtain ⟨x, member, rfl⟩ := List.mem_map.1 (ended.symm.subset awake)
    exact List.mem_map_of_mem (record.timely.mem_beginnings (mem_endings.1 member))

end Step.Record

namespace Graph

variable {τ ε : Type} {resolve : String → Except Failure ε} {w : Workflow} {g : Graph ε}
  {worker : Worker τ ε}

/-- A step on record is what the worker has told of the calls of its active nodes. -/
theorem record_of_jobs (compiled : compile resolve w = .ok g) (faithful : worker.Faithful)
    (orderly : worker.Orderly) {runId : String} {step : Step} (distinct : step.active.Nodup)
    (inside : ∀ id ∈ step.active, id ∈ w.ids) {t : τ} {jobs : List (Job ε)}
    (made : g.jobs runId step.before step.active = .ok jobs)
    (told : (worker jobs t).2.happenings = step.happenings) :
    step.Record w runId ∧ ((worker jobs t).2.crashed = false → step.Whole) := by
  obtain ⟨same, made', known, ids⟩ := jobs_compile compiled runId step.before inside
  obtain rfl : jobs = same := Except.ok.inj (made.symm.trans made')
  have nodes : (jobs.map Job.call).map Call.nodeId = step.active := by
    rw [List.map_map]
    exact ids
  obtain ⟨unended, shared, complete⟩ := faithful jobs t
  obtain ⟨unbegun, begun⟩ := orderly.begun jobs t
  have timely := orderly.timely jobs t
  rw [told] at shared begun timely
  have ended := shared.map Call.nodeId
  rw [List.map_append, List.map_map, nodes] at ended
  have record : step.Record w runId := by
    refine ⟨distinct, ?_, ⟨unbegun.map Call.nodeId, ?_⟩, ⟨unended.map Call.nodeId, ended⟩, timely⟩
    · intro x member
      have listed := begun.subset (List.mem_append_left _ (timely.mem_beginnings member))
      obtain ⟨job, among, same⟩ := List.mem_map.1 listed
      rw [← same]
      exact (known job among).2
    · have begun := begun.map Call.nodeId
      rwa [List.map_append, nodes] at begun
  refine ⟨record, fun calm => record.whole ?_⟩
  rwa [complete calm, List.map_nil, List.append_nil] at ended

/-- Every step of a run is what the worker has told of the calls of its active nodes,
    and in a step that was completed no call has crashed. -/
theorem proceed_told (g : Graph ε) (worker : Worker τ ε) (runId : String)
    (limit left number : Nat) (active : List String) (s : State) (t : τ) {step : Step}
    (member : step ∈ (g.proceed worker runId limit left number active s t).2.steps)
    {jobs : List (Job ε)} (made : g.jobs runId step.before step.active = .ok jobs) :
    ∃ t', (worker jobs t').2.happenings = step.happenings ∧
      (step ∈ (g.proceed worker runId limit left number active s t).2.completed →
        (worker jobs t').2.crashed = false) := by
  induction left generalizing number active s t with
  | zero => cases active <;> simp [proceed] at member
  | succ left ih =>
      cases active with
      | nil => simp [proceed] at member
      | cons id rest =>
          simp only [proceed, takeStep] at member ⊢
          cases first : g.jobs runId s (id :: rest) with
          | error fault =>
              simp only [first, List.mem_singleton] at member
              subst member
              rw [first] at made
              cases made
          | ok firstJobs =>
              simp only [first] at member ⊢
              cases concluded : g.conclude s (worker firstJobs t).2 with
              | error fault =>
                  simp only [concluded, List.mem_singleton] at member
                  subst member
                  obtain rfl := Except.ok.inj (first.symm.trans made)
                  refine ⟨t, rfl, fun completed => ?_⟩
                  cases crashed : (worker firstJobs t).2.crashed with
                  | false => rfl
                  | true =>
                      simp only [conclude, crashed, if_true, Except.error.injEq] at concluded
                      subst concluded
                      simp [History.completed] at completed
              | ok next =>
                  obtain ⟨after, nextActive⟩ := next
                  have calm : (worker firstJobs t).2.crashed = false := by
                    cases crashed : (worker firstJobs t).2.crashed with
                    | false => rfl
                    | true => simp [conclude, crashed] at concluded
                  simp only [concluded] at member ⊢
                  by_cases here : step = ⟨number, id :: rest, s, (worker firstJobs t).2.happenings⟩
                  · subst here
                    obtain rfl := Except.ok.inj (first.symm.trans made)
                    exact ⟨t, rfl, fun _ => calm⟩
                  · have later := (List.mem_cons.1 member).resolve_left here
                    obtain ⟨t', told, fine⟩ :=
                      ih (number + 1) nextActive after (worker firstJobs t).1 later
                    refine ⟨t', told, fun completed => fine ?_⟩
                    exact (History.mem_completed_after completed).resolve_left here

end Graph

end Superstep
