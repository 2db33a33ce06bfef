import Superstep.Proofs.Patches
import Superstep.Proofs.Sequential

/-! # How a step is closed

A step is closed by the patches of its completions, one after another. In which order
they come decides about the error and the current node, about the places of new outputs,
and about metadata that more than one of them writes. Everything else is the same in any
order: the next active nodes, the attempts, and the outputs as a map.
-/

namespace Superstep

namespace Graph

variable {ε : Type}

/-- The completions with given patches. Each is routed from the state at the start of
    the step with its own patch alone. -/
def routed (g : Graph ε) (s : State) : List Patch → Except EngineFault (List Completion)
  | [] => .ok []
  | p :: rest =>
      match g.station? p.nodeId with
      | none => .error (.unroutedNode p.nodeId)
      | some station => do
          let later ← g.routed s rest
          .ok (⟨p, station.route.next (s.apply p)⟩ :: later)

/-- What becomes of a step by the patches of its completions, in their order: the next
    state and the next active nodes. -/
def close (g : Graph ε) (s : State) (patches : List Patch) :
    Except EngineFault (State × List String) := do
  let completions ← g.routed s patches
  .ok (s.applyAll patches, Completion.union completions)

variable {g : Graph ε} {s : State}

theorem routed_of_completions {happenings : List Happening} {completions : List Completion}
    (found : g.completions s happenings = .ok completions) :
    g.routed s (completions.map Completion.patch) = .ok completions := by
  induction happenings generalizing completions with
  | nil =>
      cases found
      rfl
  | cons happening rest ih =>
      cases happening with
      | started call => exact ih found
      | ended call answer elapsed =>
          cases known : g.station? call.nodeId with
          | none => simp [Graph.completions, known] at found
          | some station =>
              simp only [Graph.completions, known] at found
              obtain ⟨later, others, made⟩ := bind_ok found
              cases made
              have own : (station.completion s call answer elapsed).patch.nodeId = call.nodeId := by
                unfold Station.completion Node.complete
                cases answer <;> rfl
              simp only [List.map_cons, routed, own, known, ih others]
              rfl

/-- A step in which no call has crashed is closed by the patches of its completions. -/
theorem conclude_eq_close {transcript : Transcript} {completions : List Completion}
    (calm : transcript.crashed = false)
    (found : g.completions s transcript.happenings = .ok completions) :
    g.conclude s transcript = g.close s (completions.map Completion.patch) := by
  simp only [conclude, close, calm, found, routed_of_completions found]
  rfl

/-- Patches of nodes of the graph close the step, and wake what the routes of their
    nodes lead to. -/
theorem exists_close {patches : List Patch}
    (known : ∀ p ∈ patches, ∃ station, g.station? p.nodeId = some station) :
    ∃ next, g.close s patches = .ok (s.applyAll patches, next) ∧ next.Nodup ∧
      ∀ id, id ∈ next ↔ ∃ p ∈ patches, ∃ station, g.station? p.nodeId = some station ∧
        id ∈ station.route.next (s.apply p) := by
  have each : ∃ completions, g.routed s patches = .ok completions ∧
      ∀ id, id ∈ completions.flatMap Completion.targets ↔ ∃ p ∈ patches, ∃ station,
        g.station? p.nodeId = some station ∧ id ∈ station.route.next (s.apply p) := by
    induction patches with
    | nil => exact ⟨[], rfl, by simp⟩
    | cons p rest ih =>
        obtain ⟨station, found⟩ := known p List.mem_cons_self
        obtain ⟨later, routed_, leads⟩ := ih fun q among => known q (List.mem_cons_of_mem _ among)
        refine ⟨⟨p, station.route.next (s.apply p)⟩ :: later, ?_, fun id => ?_⟩
        · simp only [routed, found, routed_]
          rfl
        · simp [leads, found]
  obtain ⟨completions, routed_, leads⟩ := each
  refine ⟨Completion.union completions, ?_, nodup_eraseDups _, fun id => ?_⟩
  · simp only [close, routed_]
    rfl
  · rw [Completion.union, List.mem_eraseDups, leads]

end Graph

/-! ## Orders -/

section

variable {s : State} {patch : String → Patch} {active order other : List String}

/-- If at most one node writes into a cell, the order of the nodes makes no difference to
    it. -/
theorem Cell.read_of_orders {α : Type} (c : Cell α) (distinct : order.Nodup)
    (shuffled : order.Perm other)
    (once : ∀ a ∈ order, ∀ b ∈ order, (c.write (patch a)).isSome → (c.write (patch b)).isSome →
      a = b) :
    c.read (s.applyAll (order.map patch)) = c.read (s.applyAll (other.map patch)) := by
  apply c.read_applyAll_perm s _ (shuffled.map patch)
  rw [List.pairwise_map]
  refine distinct.imp_of_mem fun {a b} left right differ => ?_
  cases silent : c.write (patch a) with
  | none => exact .inl rfl
  | some written =>
      right
      rw [← Option.not_isSome_iff_eq_none]
      exact fun also => differ (once a left b right (by rw [silent]; rfl) also)

theorem ids_of_patches {ids : List String} (named : ∀ id ∈ ids, (patch id).nodeId = id) :
    (ids.map patch).map Patch.nodeId = ids := by
  rw [List.map_map]
  exact (List.map_congr_left named).trans (List.map_id' ids)

/-- In one order: what a step comes to by the patches of its active nodes. -/
theorem Graph.close_in_order {ε : Type} {g : Graph ε}
    (known : ∀ id ∈ active, ∃ station, g.station? id = some station) (s : State)
    (own : ∀ id ∈ active, (patch id).nodeId = id) (distinct : active.Nodup)
    (shuffled : order.Perm active) :
    ∃ next, g.close s (order.map patch) = .ok (s.applyAll (order.map patch), next) ∧
      next.Nodup ∧
      (∀ id, id ∈ next ↔ ∃ a ∈ active, ∃ station, g.station? a = some station ∧
        id ∈ station.route.next (s.apply (patch a))) ∧
      (∀ last, order.getLast? = some last →
        (s.applyAll (order.map patch)).error = (patch last).error ∧
          (s.applyAll (order.map patch)).currentNode = some last) ∧
      (s.applyAll (order.map patch)).outputs.ids = s.outputs.ids ++
        order.filter fun id => (patch id).succeeded && !s.outputs.contains id := by
  have named {id : String} (member : id ∈ order) : (patch id).nodeId = id :=
    own id (shuffled.subset member)
  have nodup : ((order.map patch).map Patch.nodeId).Nodup := by
    rw [ids_of_patches fun id => named]
    exact shuffled.nodup_iff.2 distinct
  have each : ∀ p ∈ order.map patch, ∃ station, g.station? p.nodeId = some station := by
    intro p member
    obtain ⟨id, among, rfl⟩ := List.mem_map.1 member
    rw [named among]
    exact known id (shuffled.subset among)
  obtain ⟨next, closed, once, leads⟩ := g.exists_close (s := s) each
  refine ⟨next, closed, once, fun id => ?_, fun last found => ?_, ?_⟩
  · rw [leads]
    constructor
    · rintro ⟨_, member, station, found, target⟩
      obtain ⟨a, among, rfl⟩ := List.mem_map.1 member
      rw [named among] at found
      exact ⟨a, shuffled.subset among, station, found, target⟩
    · rintro ⟨a, among, station, found, target⟩
      refine ⟨patch a, List.mem_map_of_mem (shuffled.mem_iff.2 among), station, ?_, target⟩
      rwa [own a among]
  · have latest : (order.map patch).getLast? = some (patch last) := by
      rw [List.getLast?_map, found, Option.map_some]
    have decided := s.last_applyAll latest
    rwa [named (List.mem_of_getLast? found)] at decided
  · rw [State.ids_applyAll nodup, List.filter_map,
      ids_of_patches fun id member => named (List.mem_of_mem_filter member)]
    congr 1
    apply List.filter_congr
    intro id member
    rw [Function.comp_apply, named member]

/-- In two orders: the attempts and the outputs are the same, and so are metadata that at
    most one node writes. -/
theorem State.applyAll_in_orders (own : ∀ id ∈ order, (patch id).nodeId = id)
    (distinct : order.Nodup) (orders : order.Perm other) :
    (s.applyAll (order.map patch)).attempts = (s.applyAll (other.map patch)).attempts ∧
    (∀ id, (s.applyAll (order.map patch)).outputs.get? id =
      (s.applyAll (other.map patch)).outputs.get? id) ∧
    ∀ key, (∀ a ∈ order, ∀ b ∈ order, (patch a).metadata.contains key = true →
        (patch b).metadata.contains key = true → a = b) →
      (s.applyAll (order.map patch)).metadata.get? key =
        (s.applyAll (other.map patch)).metadata.get? key := by
  refine ⟨?_, fun id => ?_, fun key => (Cell.metadata key).read_of_orders distinct orders⟩
  · apply KeyMap.ext_get?
    intro id
    refine (Cell.attempts id).read_of_orders distinct orders fun a left b right first second => ?_
    rw [← own a left, ← own b right, Cell.nodeId_of_attempts first, Cell.nodeId_of_attempts second]
  · refine (Cell.output id).read_of_orders distinct orders fun a left b right first second => ?_
    rw [← own a left, ← own b right, Cell.nodeId_of_output first, Cell.nodeId_of_output second]

/-- What a step comes to does not depend on the order of its completions, but for the
    error and the current node, which are those of the last one, the places of new
    outputs, which stand behind all others as they came, and metadata that several nodes
    write. -/
theorem order_shows_where_documented {ε : Type} {resolve : String → Except Failure ε}
    {w : Workflow} {g : Graph ε} (compiled : Graph.compile resolve w = .ok g) (s : State)
    (distinct : active.Nodup) (inside : ∀ id ∈ active, id ∈ w.ids)
    (own : ∀ id ∈ active, (patch id).nodeId = id) :
    (∀ transcript completions, transcript.crashed = false →
      g.completions s transcript.happenings = .ok completions →
        g.conclude s transcript = g.close s (completions.map Completion.patch)) ∧
    ∀ order : List String, order.Perm active → ∃ after next,
      g.close s (order.map patch) = .ok (after, next) ∧
      next.Nodup ∧
      (∀ id, id ∈ next ↔ ∃ a ∈ active, ∃ station, g.station? a = some station ∧
        id ∈ station.route.next (s.apply (patch a))) ∧
      (∀ last, order.getLast? = some last →
        after.error = (patch last).error ∧ after.currentNode = some last) ∧
      after.outputs.ids = s.outputs.ids ++
        order.filter (fun id => (patch id).succeeded && !s.outputs.contains id) ∧
      ∀ other : List String, other.Perm active → ∃ after' next',
        g.close s (other.map patch) = .ok (after', next') ∧
        next'.Perm next ∧
        after'.attempts = after.attempts ∧
        (∀ id, after'.outputs.get? id = after.outputs.get? id) ∧
        ∀ key, (∀ a ∈ active, ∀ b ∈ active, (patch a).metadata.contains key = true →
            (patch b).metadata.contains key = true → a = b) →
          after'.metadata.get? key = after.metadata.get? key := by
  have known (id : String) (member : id ∈ active) : ∃ station, g.station? id = some station := by
    obtain ⟨n, node, rfl⟩ := List.mem_map.1 (inside id member)
    obtain ⟨executor, _, found⟩ := Graph.station?_compile compiled node
    exact ⟨_, found⟩
  refine ⟨fun _ _ calm found => Graph.conclude_eq_close calm found, fun order shuffled => ?_⟩
  obtain ⟨next, closed, nodup, leads, last, ids⟩ :=
    Graph.close_in_order known s own distinct shuffled
  refine ⟨_, next, closed, nodup, leads, last, ids, fun other shuffled' => ?_⟩
  obtain ⟨next', closed', nodup', leads', _⟩ :=
    Graph.close_in_order known s own distinct shuffled'
  have sameNodes : next'.Perm next :=
    (List.perm_ext_iff_of_nodup nodup' nodup).2 fun id => (leads' id).trans (leads id).symm
  obtain ⟨attempts, outputs, metadata⟩ :=
    State.applyAll_in_orders (s := s) (fun id member => own id (shuffled'.subset member))
      (shuffled'.nodup_iff.2 distinct) (shuffled'.trans shuffled.symm)
  refine ⟨_, next', closed', sameNodes, attempts, outputs, fun key once => metadata key ?_⟩
  exact fun a left b right => once a (shuffled'.subset left) b (shuffled'.subset right)

end

namespace Diamond

def started : State :=
  { State.initial "go" .empty with outputs := Outputs.empty.insert "a" "done a" }

/-- One branch fails and the other one succeeds, and both write a key of metadata. -/
def branch (id : String) : Patch :=
  if id = "b" then ⟨id, none, some "not yet", .ofList [("left", .bool true)], 1⟩
  else ⟨id, some "done", none, .ofList [("left", .bool false), ("right", .bool true)], 1⟩

end Diamond

open Diamond in
theorem order_shows_where_documented_diamond :
    ∃ g after next after' next', Graph.compile (engine id).resolve flow = .ok g ∧
      g.close started (["b", "c"].map branch) = .ok (after, next) ∧
      g.close started (["c", "b"].map branch) = .ok (after', next') ∧ next'.Perm next ∧
      after.error = none ∧ after'.error = some "not yet" ∧ after.outputs.ids = ["a", "c"] ∧
      after'.metadata.get? "right" = after.metadata.get? "right" := by
  obtain ⟨g, compiled⟩ := Graph.exists_compile (ready id).valid (ready id).resolved
  have named : ∀ id ∈ ["b", "c"], (branch id).nodeId = id := by decide
  have inside : ∀ id ∈ ["b", "c"], id ∈ flow.ids := by decide
  obtain ⟨_, closes⟩ :=
    order_shows_where_documented compiled started (by decide) inside named
  obtain ⟨after, next, closed, _, _, last, ids, orders⟩ := closes ["b", "c"] (.refl _)
  obtain ⟨after', next', closed', same, _, _, metadata⟩ := orders ["c", "b"] (by decide)
  obtain ⟨_, _, again, _, _, late, _⟩ := closes ["c", "b"] (by decide)
  obtain ⟨rfl, rfl⟩ := Prod.mk.inj (Except.ok.inj (closed'.symm.trans again))
  refine ⟨g, after, next, after', next', compiled, closed, closed', same, (last "c" rfl).1,
    (late "b" rfl).1, ids, metadata "right" ?_⟩
  decide +kernel

end Superstep
