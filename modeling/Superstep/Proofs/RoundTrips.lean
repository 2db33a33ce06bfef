import Superstep.Proofs.Records
import Superstep.Proofs.Sequential
import Superstep.Run.Event
import Superstep.Workflow.Wire

/-! # Workflows and events as JSON

Everything that is read can be written, and what is written is read back, whether the
fields of its objects stand as they are declared or in the order of their keys. Only
numbers beyond their bits, and metadata with objects out of order, cannot be written.
-/

namespace Superstep

open Json (Value Draft DecodeError RecordField Reads ReadsAs decodeValue seen)

/-! ## Nodes -/

namespace Node

variable {n : Node}

/-- The retry count is one that can be written. -/
def Fits (n : Node) : Prop :=
  retryBounds.1 ≤ n.maxRetries ∧ n.maxRetries ≤ retryBounds.2

instance (n : Node) : Decidable n.Fits :=
  inferInstanceAs (Decidable (_ ∧ _))

/-- What is known of a node once some names have come up. -/
def partsOf (n : Node) (known : List String) : Parts where
  id := seen known "id" n.id
  name := seen known "name" n.name
  description := seen known "description" n.description
  taskType := seen known "taskType" n.taskType
  instruction := seen known "instruction" n.instruction
  maxRetries := seen known "maxRetries" n.maxRetries
  onSuccess := seen known "onSuccess" n.onSuccess
  onError := seen known "onError" n.onError

theorem reads (fits : n.Fits) : Reads wireFields n.partsOf n.toJson.fields := by
  intro e member known fresh rest
  simp only [toJson, Value.fields, List.mem_cons, List.not_mem_nil, or_false] at member
  -- One case for each field: it is found by its name, not set yet, and reads what is written.
  rcases member with rfl | rfl | rfl | rfl | rfl | rfl | rfl | rfl <;>
    refine Json.Members.record_member rfl ?_ ?_ <;>
    simp [RecordField.of, partsOf, seen, fresh, Except.map, Json.asInteger_ofInt fits]

theorem readsAs_toJson (fits : n.Fits) : ReadsAs (decodeValue decoder) n.toJson n := by
  refine (reads fits).readsAs ?_ ?_ fun known all => ?_
  · simp [toJson, Value.fields]
  · simp [toJson, Value.fields, Value.ordered, Value.ofInt]
  · simp only [toJson, Value.fields, List.forall_mem_cons] at all
    simp [ofParts, partsOf, seen, all, Json.required, bind, Except.bind]

theorem fits_of_decoder {d : Draft} (read : decoder d = .ok n) : n.Fits := by
  have keeps : ∀ field ∈ wireFields, RecordField.Keeps
      (fun p => ∀ i ∈ p.maxRetries, retryBounds.1 ≤ i ∧ i ≤ retryBounds.2) field := by
    simp only [wireFields, List.forall_mem_cons]
    refine ⟨.of fun kept _ => kept, .of fun kept _ => kept, .of fun kept _ => kept,
      .of fun kept _ => kept, .of fun kept _ => kept, .of fun _ found => ?_,
      .of fun kept _ => kept, .of fun kept _ => kept, List.forall_mem_nil _⟩
    rintro _ ⟨⟩
    exact Json.asInteger_ok found
  obtain ⟨whole, kept, finished⟩ := Json.asRecord_keeps keeps (by simp) read
  obtain ⟨id, _, finished⟩ := bind_ok finished
  cases finished
  have zero : retryBounds.1 ≤ 0 ∧ 0 ≤ retryBounds.2 := by decide
  cases count : whole.maxRetries with
  | none => exact zero
  | some i => exact kept i count

end Node

/-! ## Edges -/

namespace Edge

def partsOf (e : Edge) (known : List String) : Parts where
  source := seen known "from" e.source
  target := seen known "to" e.target
  condition := seen known "condition" e.condition

theorem reads (e : Edge) : Reads wireFields e.partsOf e.toJson.fields := by
  intro field member known fresh rest
  simp only [toJson, Value.fields, List.mem_cons, List.not_mem_nil, or_false] at member
  rcases member with rfl | rfl | rfl <;>
    refine Json.Members.record_member rfl ?_ ?_ <;>
    simp [RecordField.of, partsOf, seen, fresh, Except.map]

theorem readsAs_toJson (e : Edge) : ReadsAs (decodeValue decoder) e.toJson e := by
  refine e.reads.readsAs ?_ ?_ fun known all => ?_
  · simp [toJson, Value.fields]
  · simp [toJson, Value.fields, Value.ordered]
  · simp only [toJson, Value.fields, List.forall_mem_cons] at all
    simp [ofParts, partsOf, seen, all, Json.required, bind, Except.bind]

end Edge

/-! ## Workflows -/

namespace Workflow

variable {w : Workflow}

/-- The retry counts are ones that can be written, and the metadata are values in key
    order at every depth. -/
structure Fits (w : Workflow) : Prop where
  nodes : ∀ n ∈ w.nodes, n.Fits
  metadata : ∀ m, w.initialMetadata = some m → ∀ e ∈ m.entries, e.2.ordered = e.2

def partsOf (w : Workflow) (known : List String) : Parts where
  plan := seen known "plan" w.plan
  diagram := seen known "diagram" w.diagram
  nodes := seen known "nodes" w.nodes
  edges := seen known "edges" w.edges
  startNode := seen known "startNodeId" w.startNode
  endNode := seen known "endNodeId" w.endNode
  initialMetadata := seen known "initialMetadata" w.initialMetadata

/-- The fields of a workflow with certain spellings of its nodes, edges and metadata. -/
def spelled (w : Workflow) (nodes edges metadata : Value) : List (String × Value) := [
  ("plan", .string w.plan),
  ("diagram", .string w.diagram),
  ("nodes", nodes),
  ("edges", edges),
  ("startNodeId", .string w.startNode),
  ("endNodeId", .string w.endNode),
  ("initialMetadata", metadata)]

theorem reads {nodes edges metadata : Value}
    (readNodes : Draft.asList Node.decoder (.ofValue nodes) = .ok w.nodes)
    (readEdges : Draft.asList Edge.decoder (.ofValue edges) = .ok w.edges)
    (readMetadata :
      Draft.asOptional Draft.asFields (.ofValue metadata) = .ok w.initialMetadata) :
    Reads wireFields w.partsOf (w.spelled nodes edges metadata) := by
  intro e member known fresh rest
  simp only [spelled, List.mem_cons, List.not_mem_nil, or_false] at member
  rcases member with rfl | rfl | rfl | rfl | rfl | rfl | rfl <;>
    refine Json.Members.record_member rfl ?_ ?_ <;>
    simp [RecordField.of, partsOf, seen, fresh, Except.map, readNodes, readEdges, readMetadata]

theorem decoder_of_perm {nodes edges metadata : Value}
    (readNodes : Draft.asList Node.decoder (.ofValue nodes) = .ok w.nodes)
    (readEdges : Draft.asList Edge.decoder (.ofValue edges) = .ok w.edges)
    (readMetadata :
      Draft.asOptional Draft.asFields (.ofValue metadata) = .ok w.initialMetadata)
    {fields : List (String × Value)} (shuffled : fields.Perm (w.spelled nodes edges metadata)) :
    decoder (.ofValue (.object fields)) = .ok w := by
  refine (reads readNodes readEdges readMetadata).asRecord shuffled ?_ fun known all => ?_
  · simp [spelled]
  · simp only [spelled, List.forall_mem_cons] at all
    simp [ofParts, partsOf, seen, all]

/-- The metadata as they are written, null if there are none. -/
def metadataValue (w : Workflow) : Value :=
  match w.initialMetadata with
  | some m => .ofMap m
  | none => .null

theorem Fits.readMetadata (fits : w.Fits) :
    Draft.asOptional Draft.asFields (.ofValue w.metadataValue) = .ok w.initialMetadata := by
  unfold metadataValue
  cases found : w.initialMetadata with
  | none => rfl
  | some m =>
      have read := Json.asFields_ofMap (fits.metadata m found)
      exact congrArg (Except.map some) read

theorem Fits.ordered_metadata (fits : w.Fits) : w.metadataValue.ordered = w.metadataValue := by
  unfold metadataValue
  cases found : w.initialMetadata with
  | none => rfl
  | some m => exact Value.ordered_ofMap (fits.metadata m found)

/-- Putting a workflow in order puts its nodes and edges in order. -/
theorem readsAs_toJson (fits : w.Fits) : ReadsAs (decodeValue decoder) w.toJson w := by
  have nodes (n : Node) (member : n ∈ w.nodes) := Node.readsAs_toJson (fits.nodes n member)
  have edges (e : Edge) (_ : e ∈ w.edges) := e.readsAs_toJson
  constructor
  · refine Json.decodeValue_ok.2 (decoder_of_perm ?_ ?_ fits.readMetadata (.refl _))
    · exact Json.asList_ofValues fun n member => Json.decodeValue_ok.1 (nodes n member).1
    · exact Json.asList_ofValues fun e member => Json.decodeValue_ok.1 (edges e member).1
  · have readNodes : Draft.asList Node.decoder
        (.ofValue (.array (w.nodes.map fun n => n.toJson.ordered))) = .ok w.nodes :=
      Json.asList_ofValues fun n member => Json.decodeValue_ok.1 (nodes n member).2
    have readEdges : Draft.asList Edge.decoder
        (.ofValue (.array (w.edges.map fun e => e.toJson.ordered))) = .ok w.edges :=
      Json.asList_ofValues fun e member => Json.decodeValue_ok.1 (edges e member).2
    obtain ⟨fields, same, shuffled⟩ :=
      Value.perm_ordered w.toJson.fields (by simp [toJson, Value.fields])
    rw [show w.toJson.ordered = .object fields from same]
    refine Json.decodeValue_ok.2
      (decoder_of_perm readNodes readEdges fits.readMetadata (shuffled.trans (.of_eq ?_)))
    rw [show w.toJson.fields = w.spelled (.array (w.nodes.map Node.toJson))
      (.array (w.edges.map Edge.toJson)) w.metadataValue from rfl]
    simp [spelled, Value.ordered, Value.orderedItems_eq_map, fits.ordered_metadata]

theorem fits_of_decoder {d : Draft} (read : decoder d = .ok w) : w.Fits := by
  have keeps : ∀ field ∈ wireFields, RecordField.Keeps
      (fun p => (∀ nodes ∈ p.nodes, ∀ n ∈ nodes, n.Fits) ∧
        ∀ m, p.initialMetadata = some (some m) → ∀ e ∈ m.entries, e.2.ordered = e.2) field := by
    simp only [wireFields, List.forall_mem_cons]
    refine ⟨.of fun kept _ => kept, .of fun kept _ => kept, .of fun kept found => ⟨?_, kept.2⟩,
      .of fun kept _ => kept, .of fun kept _ => kept, .of fun kept _ => kept,
      .of fun kept found => ⟨kept.1, ?_⟩, List.forall_mem_nil _⟩
    · rintro _ ⟨⟩ n member
      obtain ⟨d, read⟩ := Json.asList_ok found member
      exact Node.fits_of_decoder read
    · rintro m ⟨⟩
      exact Json.asFields_ok (Json.asOptional_ok found)
  obtain ⟨whole, ⟨nodes, metadata⟩, finished⟩ := Json.asRecord_keeps keeps (by simp) read
  cases finished
  constructor
  case nodes =>
    cases listed : whole.nodes with
    | none => exact List.forall_mem_nil _
    | some ns => exact nodes ns listed
  case metadata =>
    intro m found
    cases given : whole.initialMetadata with
    | none => simp [given] at found
    | some inner => exact metadata m (given.trans (congrArg some (by simpa [given] using found)))

end Workflow

/-! ## Events -/

namespace Event

variable {e : Event} {tag name text : String} {bits n : Nat} {field : String → Option Value}

/-- Attempts have 32 bits, and other numbers 64. -/
def Fits : Event → Prop
  | .runStarted .. => True
  | .stepStarted _ step _ => step < twoTo 64
  | .nodeStarted _ _ attempt => attempt < twoTo 32
  | .nodeSucceeded _ _ attempt elapsed | .nodeFailed _ _ attempt elapsed _ =>
      attempt < twoTo 32 ∧ elapsed < twoTo 64
  | .runComplete _ steps _ => steps < twoTo 64

theorem textField_of (found : field name = some (.string text)) :
    textField field name = .ok text := by
  rw [textField, found]
  rfl

theorem naturalField_of (found : field name = some (.ofNat n)) (few : n < twoTo bits) :
    naturalField bits field name = .ok n := by
  rw [naturalField, found]
  exact Json.decodeValue_ok.2 (Json.asNatural_ofNat few)

theorem naturalField_ok (read : naturalField bits field name = .ok n) : n < twoTo bits := by
  obtain ⟨v, _, read⟩ := bind_ok read
  exact Json.asNatural_ok (Json.decodeValue_ok.1 read)

/-- An event is made of its fields, whatever else there is. -/
theorem ofFields_fields (fits : e.Fits) (found : ∀ f ∈ e.fields, field f.1 = some f.2) :
    ofFields e.tag field = .ok e := by
  cases e with
  | runStarted runId startNode =>
      simp only [fields, List.forall_mem_cons] at found
      obtain ⟨run, start, _⟩ := found
      simp [ofFields, Event.tag, textField_of run, textField_of start, bind, Except.bind]
  | stepStarted runId step nodes =>
      simp only [fields, List.forall_mem_cons] at found
      obtain ⟨run, number, active, _⟩ := found
      have list : decodeValue (Draft.asList Draft.asString) (.array (nodes.map .string)) =
          .ok nodes :=
        Json.decodeValue_ok.2 (Json.asList_ofValues fun _ _ => rfl)
      simp [ofFields, Event.tag, textField_of run, naturalField_of number fits, active,
        Json.required, list, bind, Except.bind]
  | nodeStarted runId nodeId attempt =>
      simp only [fields, List.forall_mem_cons] at found
      obtain ⟨run, node, count, _⟩ := found
      simp [ofFields, Event.tag, textField_of run, textField_of node, naturalField_of count fits,
        bind, Except.bind]
  | nodeSucceeded runId nodeId attempt elapsed =>
      simp only [fields, List.forall_mem_cons] at found
      obtain ⟨run, node, count, time, _⟩ := found
      simp [ofFields, Event.tag, textField_of run, textField_of node, naturalField_of count fits.1,
        naturalField_of time fits.2, bind, Except.bind]
  | nodeFailed runId nodeId attempt elapsed error =>
      simp only [fields, List.forall_mem_cons] at found
      obtain ⟨run, node, count, time, cause, _⟩ := found
      simp [ofFields, Event.tag, textField_of run, textField_of node, naturalField_of count fits.1,
        naturalField_of time fits.2, textField_of cause, bind, Except.bind]
  | runComplete runId steps error =>
      simp only [fields, List.forall_mem_cons] at found
      obtain ⟨run, count, cause, _⟩ := found
      have optional : decodeValue (Draft.asOptional Draft.asString) (.ofOption error) = .ok error :=
        Json.decodeValue_ok.2 (Json.asOptional_ofOption error)
      simp [ofFields, Event.tag, textField_of run, naturalField_of count fits, cause, optional,
        bind, Except.bind]

theorem fits_of_ofFields (read : ofFields tag field = .ok e) : e.Fits := by
  unfold ofFields at read
  split at read
  case h_1 =>
    obtain ⟨_, _, read⟩ := bind_ok read
    obtain ⟨_, _, read⟩ := bind_ok read
    cases read
    trivial
  case h_2 =>
    obtain ⟨_, _, read⟩ := bind_ok read
    obtain ⟨_, step, read⟩ := bind_ok read
    obtain ⟨_, _, read⟩ := bind_ok read
    obtain ⟨_, _, read⟩ := bind_ok read
    cases read
    exact naturalField_ok step
  case h_3 =>
    obtain ⟨_, _, read⟩ := bind_ok read
    obtain ⟨_, _, read⟩ := bind_ok read
    obtain ⟨_, attempt, read⟩ := bind_ok read
    cases read
    exact naturalField_ok attempt
  case h_4 =>
    obtain ⟨_, _, read⟩ := bind_ok read
    obtain ⟨_, _, read⟩ := bind_ok read
    obtain ⟨_, attempt, read⟩ := bind_ok read
    obtain ⟨_, elapsed, read⟩ := bind_ok read
    cases read
    exact ⟨naturalField_ok attempt, naturalField_ok elapsed⟩
  case h_5 =>
    obtain ⟨_, _, read⟩ := bind_ok read
    obtain ⟨_, _, read⟩ := bind_ok read
    obtain ⟨_, attempt, read⟩ := bind_ok read
    obtain ⟨_, elapsed, read⟩ := bind_ok read
    obtain ⟨_, _, read⟩ := bind_ok read
    cases read
    exact ⟨naturalField_ok attempt, naturalField_ok elapsed⟩
  case h_6 =>
    obtain ⟨_, _, read⟩ := bind_ok read
    obtain ⟨_, steps, read⟩ := bind_ok read
    obtain ⟨_, _, read⟩ := bind_ok read
    cases read
    exact naturalField_ok steps
  case h_7 => cases read

theorem fits_of_ofJson {v : Value} (read : ofJson v = .ok e) : e.Fits := by
  unfold ofJson at read
  split at read
  · split at read
    · exact fits_of_ofFields read
    · cases read
  · dsimp only at read
    split at read
    · exact fits_of_ofFields read
    · cases read
  · cases read

theorem keys_nodup (e : Event) : (e.toJson.fields.map Prod.fst).Nodup := by
  cases e <;> simp [toJson, Value.fields, fields]

theorem ofJson_of_perm (fits : e.Fits) {fields : List (String × Value)}
    (shuffled : fields.Perm e.toJson.fields) : ofJson (.object fields) = .ok e := by
  have distinct := (shuffled.map Prod.fst).nodup_iff.2 e.keys_nodup
  have found : ∀ f ∈ e.toJson.fields, fields.lookup f.1 = some f.2 := fun f member =>
    (KeyMap.lookup_eq_some_iff_mem distinct).2 (shuffled.mem_iff.2 member)
  obtain ⟨type, others⟩ := List.forall_mem_cons.1 found
  simp only [ofJson, type]
  exact ofFields_fields fits others

theorem readsAs_toJson (fits : e.Fits) : ReadsAs ofJson e.toJson e := by
  have inOrder : ∀ f ∈ e.toJson.fields, f.2.ordered = f.2 := by
    cases e <;> simp [toJson, Value.fields, fields, Value.ordered, Value.ofNat, Value.ofInt,
      Value.orderedItems_eq_map]
  obtain ⟨fields, same, shuffled⟩ := Value.perm_ordered_of_inOrder e.keys_nodup inOrder
  refine ⟨ofJson_of_perm fits (.refl _), ?_⟩
  rw [show e.toJson.ordered = .object fields from same]
  exact ofJson_of_perm fits shuffled

end Event

/-- Every workflow and every event is read back as it was written, and whatever is read,
    in whichever form and with whatever else in it, can be written and read back. -/
theorem wire_formats_round_trip :
    (∀ w : Workflow, w.Fits → ReadsAs (decodeValue Workflow.decoder) w.toJson w) ∧
    (∀ e : Event, e.Fits → ReadsAs Event.ofJson e.toJson e) ∧
    (∀ v w, decodeValue Workflow.decoder v = .ok w →
      w.Fits ∧ ReadsAs (decodeValue Workflow.decoder) w.toJson w) ∧
    ∀ v e, Event.ofJson v = .ok e → e.Fits ∧ ReadsAs Event.ofJson e.toJson e := by
  refine ⟨fun w => w.readsAs_toJson, fun e => e.readsAs_toJson, fun v w read => ?_,
    fun v e read => ?_⟩
  · have fits := Workflow.fits_of_decoder (Json.decodeValue_ok.1 read)
    exact ⟨fits, w.readsAs_toJson fits⟩
  · have fits := Event.fits_of_ofJson read
    exact ⟨fits, e.readsAs_toJson fits⟩

namespace Diamond

/-- A workflow with a node that has its prompt, no hook, and a colour. -/
def sketch : Value :=
  .object [("nodes", .array [.object [("prompt", .string "hi"), ("color", .string "red"),
    ("id", .string "a"), ("onError", .null)]])]

def sketched : Workflow where
  plan := ""
  diagram := ""
  nodes := [⟨"a", "", "", "", "hi", 0, none, none⟩]
  edges := []
  startNode := ""
  endNode := ""
  initialMetadata := none

end Diamond

open Diamond in
theorem wire_formats_round_trip_diamond :
    ReadsAs (decodeValue Workflow.decoder) flow.toJson flow ∧
    ReadsAs Event.ofJson (Event.nodeStarted "one" "a" 1).toJson (.nodeStarted "one" "a" 1) ∧
    decodeValue Workflow.decoder sketch = .ok sketched ∧
    decodeValue Workflow.decoder sketched.toJson = .ok sketched ∧
    ∃ e, Event.ofJson (.array [.string "run_started", .string "one", .string "a"]) = .ok e ∧
      Event.ofJson e.toJson = .ok e := by
  obtain ⟨workflows, events, readable, told⟩ := wire_formats_round_trip
  have fits : flow.Fits := ⟨by decide +kernel, nofun⟩
  have read : decodeValue Workflow.decoder sketch = .ok sketched := rfl
  have heard : Event.ofJson (.array [.string "run_started", .string "one", .string "a"]) =
      .ok (.runStarted "one" "a") := rfl
  refine ⟨workflows flow fits, events (.nodeStarted "one" "a" 1) ?_, read,
    (readable sketch sketched read).2.1, _, heard, (told _ _ heard).2.1⟩
  show 1 < twoTo 32
  decide

end Superstep
