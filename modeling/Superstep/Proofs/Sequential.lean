import Superstep.Proofs.Runs

/-! # Workers that make calls one by one

The simplest worker makes one call after another, in an order of its own. It is
faithful whatever that order is, and executors that are functions answer as they
do.
-/

namespace Superstep

namespace Worker

variable {order : List (Job (Call → Answer)) → List (Job (Call → Answer))}

def oneByOne (order : List (Job (Call → Answer)) → List (Job (Call → Answer))) :
    Worker Unit (Call → Answer) := fun jobs t =>
  (t, ⟨(order jobs).flatMap fun job =>
    [.started job.call, .ended job.call (job.executor job.call) 0], false⟩)

theorem endings_oneByOne (jobs : List (Job (Call → Answer))) (t : Unit) :
    endings (oneByOne order jobs t).2.happenings =
      (order jobs).map fun job => ⟨job.call, job.executor job.call, 0⟩ := by
  unfold oneByOne endings
  induction order jobs with
  | nil => rfl
  | cons job rest ih =>
      simp only [List.flatMap_cons, List.filterMap_append, ih]
      rfl

theorem oneByOne_faithful (shuffles : ∀ jobs, (order jobs).Perm jobs) :
    (oneByOne order).Faithful := by
  intro jobs t
  refine ⟨[], ?_, fun _ => rfl⟩
  rw [endings_oneByOne, List.append_nil, List.map_map]
  exact (shuffles jobs).map _

theorem oneByOne_shows (shuffles : ∀ jobs, (order jobs).Perm jobs)
    {resolve : String → Except Failure (Call → Answer)} {f : String → Nat → String → Answer}
    (resolved : ∀ taskType executor, resolve taskType = .ok executor →
      ∀ call, executor call = f call.nodeId call.attempt call.instruction) :
    (oneByOne order).Shows resolve (.ofAnswers f) := by
  intro jobs t known
  constructor
  · intro x ended
    rw [endings_oneByOne] at ended
    obtain ⟨job, among, rfl⟩ := List.mem_map.1 ended
    have listed := (shuffles jobs).subset among
    exact resolved _ _ (known job listed) job.call
  · intro crashed
    cases crashed

end Worker

/-! ## A diamond -/

namespace Diamond

/-- From a start over two nodes to an end. One of the two fails at first, and
    both have hooks. -/
def flow : Workflow where
  plan := ""
  diagram := ""
  nodes := [.plain "a" "work",
    { Node.plain "b" "work" with maxRetries := 1, onError := some "{b: true}" },
    { Node.plain "c" "work" with onSuccess := some "{c: true}" },
    .plain "d" "work"]
  edges := [.always "a" "b", .always "a" "c", .always "b" "d", .always "c" "d"]
  startNode := "a"
  endNode := "d"
  initialMetadata := none

def answer (id : String) (attempt : Nat) (_instruction : String) : Answer :=
  if id = "b" ∧ attempt = 1 then .error (.task "work" "not yet") else .ok ("done " ++ id)

def engine (order : List (Job (Call → Answer)) → List (Job (Call → Answer))) :
    Engine Unit (Call → Answer) where
  settings := {}
  resolve _ := .ok fun call => answer call.nodeId call.attempt call.instruction
  openSessions _ t := (t, .ok ())
  worker := .oneByOne order

theorem ready (order : List (Job (Call → Answer)) → List (Job (Call → Answer))) :
    (engine order).Ready flow () where
  valid := by decide +kernel
  resolved _ _ := ⟨_, rfl⟩
  opened _ _ := rfl
  calm _ _ := rfl

end Diamond

end Superstep
