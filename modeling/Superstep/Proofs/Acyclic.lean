import Mathlib.Data.List.Perm.Subperm
import Mathlib.Logic.Relation
import Superstep.Proofs.Merge
import Superstep.Proofs.Sequential

/-! # Acyclic workflows

Without a cycle of edges a run comes to its end. Every activation has a chain of
causes: retries of the node, the edge along which it was first reached, retries
of the node before, and so on back to the start. As the attempts of a node never
start anew, the chain is no longer than what the nodes along it may be
attempted.
-/

namespace Superstep

theorem Node.maxAttempts_pos (n : Node) : 0 < n.maxAttempts := by
  unfold maxAttempts
  exact Nat.lt_min.2 ⟨Nat.succ_pos _, by decide⟩

/-- How often nodes may be attempted altogether. -/
def budget : List Node → Nat
  | [] => 0
  | n :: rest => n.maxAttempts + budget rest

@[simp] theorem budget_cons (n : Node) (nodes : List Node) :
    budget (n :: nodes) = n.maxAttempts + budget nodes :=
  rfl

theorem budget_perm {a b : List Node} (shuffled : a.Perm b) : budget a = budget b := by
  induction shuffled with
  | nil => rfl
  | cons n _ ih => simp only [budget_cons, ih]
  | swap m n rest => simp only [budget_cons, Nat.add_left_comm]
  | trans _ _ first second => exact first.trans second

theorem budget_sublist {part whole : List Node} (sublist : part.Sublist whole) :
    budget part ≤ budget whole := by
  induction sublist with
  | slnil => exact Nat.le_refl _
  | cons n _ ih => exact Nat.le_add_left_of_le ih
  | cons_cons n _ ih => exact Nat.add_le_add_left ih _

theorem budget_le_of_subset {nodes whole : List Node} (distinct : nodes.Nodup)
    (inside : nodes ⊆ whole) : budget nodes ≤ budget whole := by
  obtain ⟨part, shuffled, sublist⟩ := distinct.subperm inside
  rw [← budget_perm shuffled]
  exact budget_sublist sublist

namespace Workflow

variable {w : Workflow}

def Leads (w : Workflow) (a b : String) : Prop :=
  ∃ e ∈ w.edges, e.source = a ∧ e.target = b

def Acyclic (w : Workflow) : Prop :=
  ∀ id, ¬ Relation.TransGen w.Leads id id

/-- A path along edges from the start node, the last node first. -/
inductive Trail (w : Workflow) : List Node → Prop where
  | start {n : Node} (member : n ∈ w.nodes) (first : n.id = w.startNode) : Trail w [n]
  | along {n m : Node} {before : List Node} (trail : Trail w (n :: before))
      (member : m ∈ w.nodes) (leads : w.Leads n.id m.id) : Trail w (m :: n :: before)

theorem Trail.subset {path : List Node} (trail : w.Trail path) : path ⊆ w.nodes := by
  induction trail with
  | start member _ => simpa using member
  | along _ member _ ih => exact List.cons_subset.2 ⟨member, ih⟩

theorem Trail.leads_of_mem {path : List Node} (trail : w.Trail path) :
    ∀ last before, path = last :: before →
      ∀ n ∈ before, Relation.TransGen w.Leads n.id last.id := by
  induction trail with
  | start _ _ =>
      intro last before same n among
      cases same
      cases among
  | along _ _ leads ih =>
      intro last before same n among
      cases same
      rcases List.mem_cons.1 among with rfl | earlier
      · exact .single leads
      · exact .tail (ih _ _ rfl n earlier) leads

theorem Trail.nodup (acyclic : w.Acyclic) {path : List Node} (trail : w.Trail path) :
    path.Nodup := by
  induction trail with
  | start _ _ => exact List.nodup_singleton _
  | along trail member leads ih =>
      refine List.nodup_cons.2 ⟨?_, ih⟩
      intro again
      exact acyclic _ ((trail.along member leads).leads_of_mem _ _ rfl _ again)

/-- A node at the start of a step, with its chain of causes: a path before it and
    the retries that it has made since it was reached from there. -/
def Caused (w : Workflow) (number : Nat) (s : State) (id : String) : Prop :=
  ∃ n before retries, n.id = id ∧ w.Trail (n :: before) ∧ retries ≤ s.attemptsOf id ∧
    retries < n.maxAttempts ∧ number ≤ budget before + retries + 1

theorem Caused.trail {number : Nat} {s : State} {id : String} (caused : w.Caused number s id) :
    ∃ path, w.Trail path ∧ number ≤ budget path := by
  obtain ⟨n, before, retries, _, trail, _, left, early⟩ := caused
  refine ⟨n :: before, trail, ?_⟩
  rw [budget_cons]
  omega

theorem Valid.caused_start (valid : w.Valid) (s : State) : w.Caused 1 s w.startNode := by
  obtain ⟨n, member, first⟩ := List.mem_map.1 valid.start
  exact ⟨n, [], 0, first, .start member first, Nat.zero_le _, n.maxAttempts_pos, Nat.le_add_left ..⟩

theorem Valid.caused_activeAfter (valid : w.Valid) {b : Behaviour} {runId : String}
    {active unended : List String} {s : State} {visits : List Visit} {number : Nat}
    (round : Round w b runId active s visits unended)
    (causes : ∀ id ∈ active, w.Caused number s id) :
    ∀ id ∈ w.activeAfter runId s visits,
      w.Caused (number + 1) (s.afterVisits runId visits) id := by
  intro id member
  rw [activeAfter, List.mem_eraseDups, List.mem_flatMap] at member
  obtain ⟨v, among, taken⟩ := member
  obtain ⟨n, before, retries, named, trail, counted, left, early⟩ :=
    causes v.node.id (round.mem_active among)
  obtain rfl : n = v.node :=
    valid.node_unique (trail.subset List.mem_cons_self) (round.inside v among) named
  rcases routeOf_next_mem taken with ⟨rfl, again⟩ | ⟨e, edge, source, target⟩
  -- The node again, because attempts are left: one more retry behind the same path.
  · rw [State.attemptsOf_apply, if_pos (Visit.patch_nodeId ..).symm, Visit.patch_attempt] at again
    refine ⟨v.node, before, retries + 1, rfl, trail, ?_, ?_, ?_⟩
    · rw [round.attemptsOf_afterVisits among]
      exact Nat.succ_le_succ counted
    · omega
    · omega
  -- Along an edge the path grows, and the retries of the new node start from nothing.
  -- Attempts that it has made before only make its own block shorter.
  · obtain ⟨m, member, goal⟩ := List.mem_map.1 (valid.edges e edge).2
    have leads : w.Leads v.node.id m.id := ⟨e, edge, source, goal.symm⟩
    refine ⟨m, v.node :: before, 0, goal.trans target, .along trail member leads, Nat.zero_le _,
      m.maxAttempts_pos, ?_⟩
    rw [budget_cons]
    omega

/-- Every step of a course is backed by a path, and so is the step that the limit
    leaves out. -/
theorem Valid.course_backed (valid : w.Valid) {b : Behaviour} {runId : String}
    {limit left number : Nat} {active : List String} {s : State} {h : History}
    (course : Course w b runId limit left number active s h)
    (causes : ∀ id ∈ active, w.Caused number s id) :
    (∀ step ∈ h.steps, ∃ path, w.Trail path ∧ step.number ≤ budget path) ∧
      ∀ reached still, h.outcome = .error (.stepLimit reached still) →
        ∃ path, w.Trail path ∧ number + left ≤ budget path := by
  have backed {number : Nat} {active : List String} {s : State} (busy : active ≠ [])
      (causes : ∀ id ∈ active, w.Caused number s id) :
      ∃ path, w.Trail path ∧ number ≤ budget path := by
    obtain ⟨id, rest, rfl⟩ := List.exists_cons_of_ne_nil busy
    exact (causes id List.mem_cons_self).trail
  induction course with
  | finished =>
      refine ⟨fun step member => (List.not_mem_nil member).elim, ?_⟩
      intro reached still stopped
      cases stopped
  | limited busy =>
      refine ⟨fun step member => (List.not_mem_nil member).elim, ?_⟩
      intro reached still _
      exact backed busy causes
  | crashed busy =>
      constructor
      · intro step member
        rw [List.mem_singleton.1 member]
        exact backed busy causes
      · intro reached still stopped
        cases stopped
  | step busy round told later ih =>
      obtain ⟨steps, stopped⟩ := ih (valid.caused_activeAfter round causes)
      constructor
      · intro step member
        rcases List.mem_cons.1 member with rfl | among
        · exact backed busy causes
        · exact steps step among
      · intro reached still outcome
        obtain ⟨path, trail, enough⟩ := stopped reached still outcome
        exact ⟨path, trail, by omega⟩

theorem acyclic_of_rank (rank : String → Nat)
    (rises : ∀ e ∈ w.edges, rank e.source < rank e.target) : w.Acyclic := by
  have climbs {a b : String} (leads : Relation.TransGen w.Leads a b) : rank a < rank b := by
    induction leads with
    | single leads =>
        obtain ⟨e, edge, rfl, rfl⟩ := leads
        exact rises e edge
    | tail _ leads ih =>
        obtain ⟨e, edge, rfl, rfl⟩ := leads
        exact Nat.lt_trans ih (rises e edge)
  intro id cycle
  exact Nat.lt_irrefl _ (climbs cycle)

end Workflow

section

variable {τ ε : Type} {e : Engine τ ε} {w : Workflow} {runId prompt : String}
  {given : Metadata} {t : τ}

/-- In a workflow without cycles the number of every step is at most what the nodes
    of some path from the start may be attempted, so a run may take enough steps
    for all attempts of all nodes and never be stopped by the limit. -/
theorem acyclic_run_bounded (acyclic : w.Acyclic) (faithful : e.worker.Faithful)
    {start : String} {h : History}
    (ran : (e.run w runId prompt given t).2.course = .ok (start, h)) :
    (∀ step ∈ h.steps, ∃ path, w.Trail path ∧ path.Nodup ∧ step.number ≤ budget path) ∧
      (budget w.nodes ≤ e.settings.maxSteps →
        ∀ limit active, h.outcome ≠ .error (.stepLimit limit active)) := by
  obtain ⟨valid, _, course⟩ := Engine.course_of_run faithful (e.worker.shows_any e.resolve) ran
  have causes : ∀ id ∈ [w.startNode], w.Caused 1 (Engine.startState w prompt given) id := by
    intro id member
    rw [List.mem_singleton.1 member]
    exact valid.caused_start _
  obtain ⟨steps, stopped⟩ := valid.course_backed course causes
  constructor
  · intro step member
    obtain ⟨path, trail, early⟩ := steps step member
    exact ⟨path, trail, trail.nodup acyclic, early⟩
  · intro enough limit active outcome
    obtain ⟨path, trail, long⟩ := stopped limit active outcome
    have bounded := budget_le_of_subset (trail.nodup acyclic) trail.subset
    omega

end

open Diamond in
theorem acyclic_run_bounded_diamond :
    ∃ h, ((engine id).run flow "one" "go" .empty ()).2.course = .ok ("a", h) ∧
      (∀ step ∈ h.steps, ∃ path, flow.Trail path ∧ path.Nodup ∧ step.number ≤ budget path) ∧
      ∀ limit active, h.outcome ≠ .error (.stepLimit limit active) := by
  have acyclic : flow.Acyclic := Workflow.acyclic_of_rank flow.ids.idxOf (by decide +kernel)
  obtain ⟨h, ran⟩ := (ready id).exists_history "one" "go" .empty
  obtain ⟨steps, unlimited⟩ :=
    acyclic_run_bounded acyclic (Worker.oneByOne_faithful fun _ => .refl _) ran
  exact ⟨h, ran, steps, unlimited (by decide +kernel)⟩

end Superstep
