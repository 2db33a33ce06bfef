import Superstep.Proofs.Compiled

/-! # Where routes lead

A route has three rules: a failure is retried while attempts are left, the last
failure takes the first edge whose condition holds, and a success takes every
edge that is open. The routes without a router follow the same rules as far as
their nodes can get to them. Which edges are open is said by the values of their
conditions, without guards and exits.
-/

namespace Superstep

namespace Edge

variable {e : Edge} {s : State}

/-- The edge has no condition, or a blank one. -/
def Plain (e : Edge) : Prop :=
  ∀ text, e.condition = some text → Text.trim text = ""

/-- The edge has a condition, and the value of that counts as true in a state. -/
def Holds (e : Edge) (s : State) : Prop :=
  ∃ text condition value, e.condition = some text ∧ Text.trim text ≠ "" ∧
    Expression.parse (Text.trim text) = .ok condition ∧
    condition.eval s.conditionContext = .ok value ∧ Expression.truthy value = true

def Open (e : Edge) (s : State) : Prop :=
  e.Plain ∨ e.Holds s

theorem guard?_eq_none_iff : e.guard? = none ↔ e.Plain := by
  cases given : e.condition with
  | none => simp [guard?, Plain, given]
  | some text => simp [guard?, Plain, given]

theorem guard?_eq_some_iff {source : String} : e.guard? = some source ↔
    ∃ text, e.condition = some text ∧ Text.trim text ≠ "" ∧ Text.trim text = source := by
  cases given : e.condition with
  | none => simp [guard?, given]
  | some text => simp [guard?, given]

theorem holds_iff : (Guard.ofCondition e.guard?).holds s.conditionContext = true ↔ e.Holds s := by
  cases guarded : e.guard? with
  | none =>
      have plain := guard?_eq_none_iff.1 guarded
      refine ⟨nofun, ?_⟩
      rintro ⟨text, _, _, given, filled, _⟩
      exact absurd (plain text given) filled
  | some source =>
      obtain ⟨text, given, filled, rfl⟩ := guard?_eq_some_iff.1 guarded
      cases parsed : Expression.parse (Text.trim text) with
      | error cause => simp [Guard.ofCondition, Guard.holds, Holds, given, parsed]
      | ok condition =>
          cases valued : condition.eval s.conditionContext with
          | error cause =>
              simp [Guard.ofCondition, Guard.holds, Expression.Expr.holds, Holds, given, parsed,
                valued]
          | ok value =>
              simp [Guard.ofCondition, Guard.holds, Expression.Expr.holds, Holds, given, filled,
                parsed, valued]

theorem passes_iff : (Guard.ofCondition e.guard?).passes s.conditionContext = true ↔ e.Open s := by
  rw [Open, ← guard?_eq_none_iff, ← holds_iff]
  cases e.guard? with
  | none => simp [Guard.ofCondition, Guard.passes]
  | some source =>
      cases parsed : Expression.parse source <;>
        simp [Guard.ofCondition, Guard.passes, parsed]

instance (e : Edge) (s : State) : Decidable (e.Holds s) :=
  decidable_of_iff _ holds_iff

instance (e : Edge) (s : State) : Decidable (e.Open s) :=
  decidable_of_iff _ passes_iff

end Edge

namespace Router

variable {r : Router} {s : State}

theorem retries_iff :
    r.retries s = true ↔ s.error.isSome = true ∧ s.outputs.contains r.nodeId = false ∧
      s.attemptsOf r.nodeId < r.maxAttempts := by
  simp [retries, and_assoc]

theorem exhausted_iff :
    r.exhausted s = true ↔ r.maxAttempts ≤ s.attemptsOf r.nodeId ∧ s.error.isSome = true := by
  simp [exhausted]

/-- After a success all open exits are taken. -/
theorem next_of_clear (clear : s.error = none) : r.next s =
    ((r.exits.filter (·.guard.passes s.conditionContext)).map Exit.target).eraseDups := by
  have noRetry : r.retries s = false := by simp [retries, clear]
  have notUp : r.exhausted s = false := by simp [exhausted, clear]
  simp only [next, noRetry, notUp, Bool.false_eq_true, if_false]

/-- After the last failure the first exit is taken whose condition holds. -/
theorem next_of_exhausted (failed : s.error.isSome = true)
    (used : r.maxAttempts ≤ s.attemptsOf r.nodeId) : r.next s =
    ((r.exits.find? (·.guard.holds s.conditionContext)).map Exit.target).toList := by
  have noRetry : r.retries s = false := by simp [retries, used]
  have up : r.exhausted s = true := exhausted_iff.2 ⟨used, failed⟩
  simp only [next, noRetry, up, Bool.false_eq_true, if_false, if_true]

theorem next_mem {target : String} (member : target ∈ r.next s) :
    (r.retries s = true ∧ target = r.nodeId) ∨ ∃ x ∈ r.exits, x.target = target := by
  simp only [next] at member
  split at member
  next again => exact .inl ⟨again, List.mem_singleton.1 member⟩
  next =>
    right
    split at member
    · rw [Option.mem_toList, Option.map_eq_some_iff] at member
      obtain ⟨x, found, same⟩ := member
      exact ⟨x, List.mem_of_find?_eq_some found, same⟩
    · rw [List.mem_eraseDups, List.mem_map] at member
      obtain ⟨x, passing, same⟩ := member
      exact ⟨x, List.mem_of_mem_filter passing, same⟩

end Router

namespace Workflow

variable {w : Workflow} {n : Node} {s : State}

/-- A node has a router, or it is attempted only once and has no edge or a single
    one without a condition. -/
theorem routeOf_cases (w : Workflow) (n : Node) :
    w.routeOf n = .dynamic ⟨n.id, n.maxAttempts, w.exits n.id⟩ ∨
      n.maxAttempts ≤ 1 ∧
        (w.routeOf n = .terminal ∧ w.exits n.id = [] ∨
          ∃ target, w.routeOf n = .direct target ∧ w.exits n.id = [⟨target, .always⟩]) := by
  unfold routeOf Route.ofExits
  by_cases several : 1 < n.maxAttempts
  · simp [several]
  · simp only [several, if_false]
    have once : n.maxAttempts ≤ 1 := Nat.le_of_not_lt several
    split
    next none => exact .inr ⟨once, .inl ⟨rfl, none⟩⟩
    next target only => exact .inr ⟨once, .inr ⟨target, rfl, only⟩⟩
    next => exact .inl rfl

theorem routeOf_next_mem {target : String} (member : target ∈ (w.routeOf n).next s) :
    (target = n.id ∧ s.attemptsOf n.id < n.maxAttempts) ∨
      ∃ e ∈ w.edges, e.source = n.id ∧ e.target = target := by
  have along {x : Exit} (exit : x ∈ w.exits n.id) (same : x.target = target) :
      ∃ e ∈ w.edges, e.source = n.id ∧ e.target = target := by
    obtain ⟨e, edge, source, goal⟩ := exit_edge exit
    exact ⟨e, edge, source, goal.trans same⟩
  rcases w.routeOf_cases n with route | ⟨_, ⟨route, _⟩ | ⟨only, route, exits⟩⟩ <;>
    rw [route] at member
  · rcases Router.next_mem member with ⟨again, self⟩ | ⟨x, exit, same⟩
    · exact .inl ⟨self, (Router.retries_iff.1 again).2.2⟩
    · exact .inr (along exit same)
  · cases member
  · have exit : (⟨only, .always⟩ : Exit) ∈ w.exits n.id := exits ▸ List.mem_singleton_self _
    exact .inr (along exit (List.mem_singleton.1 member).symm)

/-- Where the edges of a node lead that have no condition or one that holds, in the
    order of their declaration and every node once. -/
def openTargets (w : Workflow) (id : String) (s : State) : List String :=
  ((w.edges.filter fun e => e.source = id ∧ e.Open s).map Edge.target).eraseDups

/-- Where the first edge of a node leads whose condition holds, if there is one. -/
def fallbackTarget (w : Workflow) (id : String) (s : State) : List String :=
  ((w.edges.find? fun e => e.source = id ∧ e.Holds s).map Edge.target).toList

theorem openTargets_eq (w : Workflow) (id : String) (s : State) : w.openTargets id s =
    (((w.exits id).filter (·.guard.passes s.conditionContext)).map Exit.target).eraseDups := by
  rw [openTargets, exits, outgoing, List.filter_map, List.map_map, List.filter_filter]
  congr 2
  apply List.filter_congr
  intro e _
  rw [← Bool.coe_iff_coe]
  simp [← Edge.passes_iff, and_comm]

theorem fallbackTarget_eq (w : Workflow) (id : String) (s : State) : w.fallbackTarget id s =
    (((w.exits id).find? (·.guard.holds s.conditionContext)).map Exit.target).toList := by
  rw [fallbackTarget, exits, outgoing, List.find?_map, List.find?_filter, Option.map_map]
  congr 3
  funext e
  rw [← Bool.coe_iff_coe]
  simp [← Edge.holds_iff]

theorem mem_openTargets {id target : String} : target ∈ w.openTargets id s ↔
    ∃ e ∈ w.edges, e.source = id ∧ e.target = target ∧ e.Open s := by
  simp [openTargets, and_left_comm, and_comm]

theorem routeOf_next_success (clear : s.error = none) :
    (w.routeOf n).next s = w.openTargets n.id s := by
  rw [openTargets_eq]
  rcases w.routeOf_cases n with route | ⟨_, ⟨route, exits⟩ | ⟨only, route, exits⟩⟩ <;> rw [route]
  · exact Router.next_of_clear clear
  · rw [exits]
    rfl
  · rw [exits]
    rfl

theorem routeOf_next_retry (failed : s.error.isSome = true)
    (silent : s.outputs.contains n.id = false) (begun : 1 ≤ s.attemptsOf n.id)
    (left : s.attemptsOf n.id < n.maxAttempts) : (w.routeOf n).next s = [n.id] := by
  rcases w.routeOf_cases n with route | ⟨once, _⟩
  · have again : Router.retries ⟨n.id, n.maxAttempts, w.exits n.id⟩ s = true :=
      Router.retries_iff.2 ⟨failed, silent, left⟩
    simp only [route, Route.next, Router.next, again, if_true]
  · omega

theorem routeOf_next_exhausted {router : Router} (route : w.routeOf n = .dynamic router)
    (failed : s.error.isSome = true) (used : n.maxAttempts ≤ s.attemptsOf n.id) :
    (w.routeOf n).next s = w.fallbackTarget n.id s := by
  rw [fallbackTarget_eq]
  rcases w.routeOf_cases n with same | ⟨_, ⟨other, _⟩ | ⟨_, other, _⟩⟩
  · rw [same]
    exact Router.next_of_exhausted failed used
  · rw [route] at other
    cases other
  · rw [route] at other
    cases other

end Workflow

end Superstep
