import Mathlib.Data.List.Dedup
import Superstep.Json.Text
import Superstep.Proofs.Boundaries
import Superstep.Proofs.Patches
import Superstep.Proofs.Turns
import Superstep.Proofs.Values

/-! # Outputs and what was inserted

Outputs are made by insertions one after another, and everything there is to know of
them can be read off the sequence of insertions: an id has its place from the first
insertion under it and its value from the last one. Sorted by id, the places are
forgotten, and so is how insertions under different ids took turns. The states of a run
have the outputs that the successes before them have inserted.
-/

namespace Superstep

namespace Json.Value

/-- How a field is written. -/
def writtenField (field : String × Value) : List Char :=
  writeString field.1 ++ ':' :: field.2.write

/-- Fields are written one after another with commas between them. -/
theorem writeFields_eq (fields : List (String × Value)) :
    writeFields true fields = [','].intercalate (fields.map writtenField) := by
  have behind (fields : List (String × Value)) :
      writeFields false fields = fields.flatMap fun field => ',' :: writtenField field := by
    induction fields with
    | nil => rfl
    | cons field rest ih => simp [writeFields, writtenField, ih]
  induction fields with
  | nil => rfl
  | cons field rest ih =>
      cases rest with
      | nil => simp [writeFields, writtenField]
      | cons second rest =>
          rw [List.map_cons, List.map_cons, List.intercalate_cons_cons, ← List.map_cons, ← ih]
          simp [writeFields, writtenField]

end Json.Value

namespace Outputs

/-- The ids of insertions, with repetitions. -/
def idsOf (inserts : List (String × String)) : List String :=
  inserts.map Prod.fst

/-- How many insertions come before the first one under an id. -/
def firstPlace (inserts : List (String × String)) (id : String) : Nat :=
  (idsOf inserts).idxOf id

/-- The insertions under an id, in order. -/
def under (inserts : List (String × String)) (id : String) : List (String × String) :=
  inserts.filter (·.1 == id)

/-- The value of the last insertion under an id. -/
def latest? (inserts : List (String × String)) (id : String) : Option String :=
  (under inserts id).getLast?.map Prod.snd

/-- How an entry is written. -/
def writtenEntry (entry : String × String) : List Char :=
  Json.writeString entry.1 ++ ':' :: Json.writeString entry.2

/-- What is to be found in outputs that were made by insertions. -/
structure Records (o : Outputs) (inserts : List (String × String)) : Prop where
  distinct : o.ids.Nodup
  inserted : ∀ id, id ∈ o.ids ↔ id ∈ idsOf inserts
  inOrder : o.ids.Pairwise fun a b => firstPlace inserts a < firstPlace inserts b
  get? : ∀ id, o.get? id = latest? inserts id
  contains : ∀ id, o.contains id = true ↔ id ∈ idsOf inserts
  size : o.size = (idsOf inserts).dedup.length
  isEmpty : o.isEmpty = true ↔ inserts = []
  /-- The last output is the current one of the id that came up last. -/
  last? : ∀ output, o.last? = some output ↔
    ∃ id ∈ idsOf inserts, latest? inserts id = some output ∧
      ∀ other ∈ idsOf inserts, firstPlace inserts other ≤ firstPlace inserts id
  /-- Every id is written once, with its value, in the order of the entries. -/
  written : o.inOrder.compact =
    String.ofList ('\x7b' :: [','].intercalate (o.entries.map writtenEntry) ++ ['\x7d'])
  /-- As JSON the same pairs are in the order of their ids. -/
  sorted : ∃ fields, o.toJson = .object fields ∧ fields.Pairwise (fun a b => a.1 < b.1) ∧
    fields.Perm (o.entries.map fun entry => (entry.1, .string entry.2))
  /-- It makes no difference to JSON how insertions under different ids take turns. -/
  reordered : ∀ others, (∀ id, under others id = under inserts id) →
    (empty.insertAll others).toJson = o.toJson

/-! ## Insertions -/

theorem insertAll_concat (o : Outputs) (inserts : List (String × String)) (id output : String) :
    o.insertAll (inserts ++ [(id, output)]) = (o.insertAll inserts).insert id output :=
  List.foldl_append

theorem idsOf_concat (inserts : List (String × String)) (id output : String) :
    idsOf (inserts ++ [(id, output)]) = idsOf inserts ++ [id] :=
  List.map_append

/-- An insertion gives its id a new value, and none to others. -/
theorem latest?_concat (inserts : List (String × String)) (id output k : String) :
    latest? (inserts ++ [(id, output)]) k =
      if k = id then some output else latest? inserts k := by
  unfold latest? under
  rw [List.filter_append, List.getLast?_append]
  by_cases same : k = id
  · subst same
    simp
  · have other : (id == k) = false := by simpa using Ne.symm same
    simp [same, other]

theorem get?_insertAll (inserts : List (String × String)) (id : String) :
    (empty.insertAll inserts).get? id = latest? inserts id := by
  induction inserts using List.reverseRecOn with
  | nil => rfl
  | append_singleton inserts last ih =>
      rw [insertAll_concat, get?_insert, latest?_concat, ih]

theorem mem_ids_insertAll (inserts : List (String × String)) (id : String) :
    id ∈ (empty.insertAll inserts).ids ↔ id ∈ idsOf inserts := by
  induction inserts using List.reverseRecOn with
  | nil => rfl
  | append_singleton inserts last ih =>
      rw [insertAll_concat, mem_ids_iff, contains_insert, idsOf_concat, List.mem_append,
        List.mem_singleton, ← ih, mem_ids_iff, Bool.or_eq_true, decide_eq_true_eq, or_comm]

/-- A new id comes behind all that there are, whose first places stay. -/
theorem ids_insertAll_inOrder (inserts : List (String × String)) :
    (empty.insertAll inserts).ids.Pairwise fun a b =>
      firstPlace inserts a < firstPlace inserts b := by
  induction inserts using List.reverseRecOn with
  | nil => exact .nil
  | append_singleton inserts last ih =>
      obtain ⟨id, output⟩ := last
      have known : ∀ a ∈ (empty.insertAll inserts).ids,
          firstPlace (inserts ++ [(id, output)]) a = firstPlace inserts a := by
        intro a member
        rw [firstPlace, idsOf_concat]
        exact List.idxOf_append_of_mem ((mem_ids_insertAll inserts a).1 member)
      have kept : (empty.insertAll inserts).ids.Pairwise fun a b =>
          firstPlace (inserts ++ [(id, output)]) a < firstPlace (inserts ++ [(id, output)]) b := by
        refine ih.imp_of_mem fun left right before => ?_
        rwa [known _ left, known _ right]
      rw [insertAll_concat, ids_insert]
      split
      next => rwa [List.append_nil]
      next fresh =>
        rw [← mem_ids_iff, mem_ids_insertAll] at fresh
        refine List.pairwise_append.2 ⟨kept, List.pairwise_singleton _ _, ?_⟩
        intro a member b new
        rw [List.mem_singleton.1 new, known a member, firstPlace, firstPlace, idsOf_concat,
          List.idxOf_append_of_notMem fresh]
        have inside := List.idxOf_lt_length_of_mem ((mem_ids_insertAll inserts a).1 member)
        omega

/-! ## What can be read off -/

/-- The last of items that increase is the greatest of them. -/
theorem getLast?_eq_some_iff_of_increasing {α : Type} {f : α → Nat} {items : List α}
    (increasing : items.Pairwise fun a b => f a < f b) {a : α} :
    items.getLast? = some a ↔ a ∈ items ∧ ∀ b ∈ items, f b ≤ f a := by
  constructor
  · intro last
    obtain ⟨earlier, rfl⟩ := List.getLast?_eq_some_iff.1 last
    refine ⟨List.mem_append_right _ List.mem_cons_self, fun b member => ?_⟩
    rcases List.mem_append.1 member with before | same
    · exact Nat.le_of_lt ((List.pairwise_append.1 increasing).2.2 b before a List.mem_cons_self)
    · rw [List.mem_singleton.1 same]
  · rintro ⟨member, greatest⟩
    cases last : items.getLast? with
    | none =>
        obtain rfl := List.getLast?_eq_none_iff.1 last
        cases member
    | some z =>
        obtain ⟨earlier, rfl⟩ := List.getLast?_eq_some_iff.1 last
        rcases List.mem_append.1 member with before | same
        · have below := (List.pairwise_append.1 increasing).2.2 a before z List.mem_cons_self
          exact absurd (greatest z (List.mem_of_getLast? last)) (Nat.not_le.2 below)
        · rw [List.mem_singleton.1 same]

theorem last?_eq (o : Outputs) : o.last? = o.ids.getLast?.bind o.get? := by
  rw [last?, ids, List.getLast?_map]
  cases latest : o.entries.getLast? with
  | none => rfl
  | some e =>
      have found : o.get? e.1 = some e.2 :=
        (KeyMap.lookup_eq_some_iff_mem o.distinct).2 (List.mem_of_getLast? latest)
      exact found.symm

theorem last?_insertAll (inserts : List (String × String)) (output : String) :
    (empty.insertAll inserts).last? = some output ↔
      ∃ id ∈ idsOf inserts, latest? inserts id = some output ∧
        ∀ other ∈ idsOf inserts, firstPlace inserts other ≤ firstPlace inserts id := by
  have newest (id : String) := getLast?_eq_some_iff_of_increasing (a := id)
    (ids_insertAll_inOrder inserts)
  simp only [last?_eq, Option.bind_eq_some_iff, newest, get?_insertAll, mem_ids_insertAll]
  constructor
  · rintro ⟨id, ⟨member, greatest⟩, found⟩
    exact ⟨id, member, found, greatest⟩
  · rintro ⟨id, member, found, greatest⟩
    exact ⟨id, ⟨member, greatest⟩, found⟩

theorem size_eq (o : Outputs) {ids : List String} (same : ∀ id, id ∈ o.ids ↔ id ∈ ids) :
    o.size = ids.dedup.length := by
  have shuffled : o.ids.Perm ids.dedup :=
    (List.perm_ext_iff_of_nodup o.distinct ids.nodup_dedup).2 fun id =>
      (same id).trans List.mem_dedup.symm
  rw [← shuffled.length_eq, Outputs.ids, List.length_map, size]

theorem isEmpty_insertAll (inserts : List (String × String)) :
    (empty.insertAll inserts).isEmpty = true ↔ inserts = [] := by
  cases inserts with
  | nil => exact iff_of_true rfl rfl
  | cons first rest =>
      refine iff_of_false (fun none_ => ?_) (List.cons_ne_nil _ _)
      have listed : first.1 ∈ (empty.insertAll (first :: rest)).ids :=
        (mem_ids_insertAll _ _).2 List.mem_cons_self
      rw [ids, List.isEmpty_iff.1 none_] at listed
      cases listed

theorem compact_inOrder (o : Outputs) : o.inOrder.compact =
    String.ofList ('\x7b' :: [','].intercalate (o.entries.map writtenEntry) ++ ['\x7d']) := by
  rw [inOrder, Json.Value.compact, Json.Value.write, Json.Value.writeFields_eq, List.map_map]
  rfl

theorem toJson_sorted (o : Outputs) :
    ∃ fields, o.toJson = .object fields ∧ fields.Pairwise (fun a b => a.1 < b.1) ∧
      fields.Perm (o.entries.map fun entry => (entry.1, .string entry.2)) :=
  ⟨_, rfl, (o.sorted.map Json.Value.string).increasing, (KeyMap.perm_ofList o.distinct).map _⟩

/-- JSON tells outputs apart by their look-ups only. -/
theorem toJson_congr {o₁ o₂ : Outputs} (same : ∀ id, o₁.get? id = o₂.get? id) :
    o₁.toJson = o₂.toJson := by
  rw [toJson, toJson, sorted_eq_iff.2 same]

theorem records_insertAll (inserts : List (String × String)) :
    (empty.insertAll inserts).Records inserts where
  distinct := (empty.insertAll inserts).distinct
  inserted := mem_ids_insertAll inserts
  inOrder := ids_insertAll_inOrder inserts
  get? := get?_insertAll inserts
  contains id := by rw [← mem_ids_iff, mem_ids_insertAll]
  size := size_eq _ (mem_ids_insertAll inserts)
  isEmpty := isEmpty_insertAll inserts
  last? := last?_insertAll inserts
  written := compact_inOrder _
  sorted := toJson_sorted _
  reordered others same := toJson_congr fun id => by
    rw [get?_insertAll, get?_insertAll, latest?, latest?, same]

end Outputs

/-! ## The outputs of a run -/

/-- What a patch inserts into the outputs. -/
def Patch.insertion? (p : Patch) : Option (String × String) :=
  p.output.map (p.nodeId, ·)

/-- What patches insert into the outputs, one after another. -/
def insertionsOf (ps : List Patch) : List (String × String) :=
  ps.filterMap Patch.insertion?

theorem State.outputs_applyAll (s : State) (ps : List Patch) :
    (s.applyAll ps).outputs = s.outputs.insertAll (insertionsOf ps) := by
  unfold applyAll
  induction ps generalizing s with
  | nil => rfl
  | cons p rest ih =>
      rw [List.foldl_cons, ih, outputs_apply, patchOutputs, insertionsOf, insertionsOf,
        List.filterMap_cons, Patch.insertion?]
      cases p.output <;> rfl

/-- A state of a course is what the patches of the steps before it have made of the first
    one. -/
theorem Course.states_eq {w : Workflow} (valid : w.Valid) {b : Behaviour} {runId : String}
    {limit left number : Nat} {active : List String} {s : State} {h : History}
    (course : Course w b runId limit left number active s h) :
    (∀ i step, h.steps[i]? = some step →
      step.before = s.applyAll ((h.steps.take i).flatMap w.patches)) ∧
    ∀ last, h.outcome = .ok last → last = s.applyAll (h.steps.flatMap w.patches) := by
  induction course with
  | finished =>
      refine ⟨fun i step found => by simp at found, fun last ended => ?_⟩
      cases ended
      rfl
  | limited => exact ⟨fun i step found => by simp at found, fun last ended => nomatch ended⟩
  | crashed =>
      refine ⟨fun i step found => ?_, fun last ended => nomatch ended⟩
      cases i with
      | zero =>
          obtain rfl := Option.some.inj found
          rfl
      | succ i => simp at found
  | step busy round told later ih =>
      obtain ⟨steps, outcome⟩ := ih
      refine ⟨fun i step found => ?_, fun last ended => ?_⟩
      · cases i with
        | zero =>
            obtain rfl := Option.some.inj found
            rfl
        | succ i =>
            rw [steps i step found, History.after, List.take_succ_cons, List.flatMap_cons,
              valid.patches_eq told round.inside, State.applyAll_append]
            rfl
      · rw [outcome last ended, History.after, List.flatMap_cons,
          valid.patches_eq told round.inside, State.applyAll_append]
        rfl

/-- Outputs hold what was inserted: the ids in the order of their first insertions, each
    with the value of its last one. The outputs of a run record the successes of its steps
    in the order of the ends, those of a step as far as its patches have been applied. -/
theorem outputs_record_insertions :
    (∀ inserts, (Outputs.empty.insertAll inserts).Records inserts) ∧
    ∀ {τ ε : Type} (e : Engine τ ε) (w : Workflow) (runId prompt : String) (given : Metadata)
      (t : τ), e.worker.Faithful →
      ∀ (start : String) (h : History), (e.run w runId prompt given t).2.course = .ok (start, h) →
        (∀ (i : Nat) (step : Step), h.steps[i]? = some step → ∀ applied,
          (step.before.applyAll applied).outputs.Records
            (insertionsOf ((h.steps.take i).flatMap w.patches ++ applied))) ∧
        ∀ last, h.outcome = .ok last →
          last.outputs.Records (insertionsOf (h.steps.flatMap w.patches)) := by
  refine ⟨Outputs.records_insertAll, ?_⟩
  intro τ ε e w runId prompt given t faithful start h ran
  obtain ⟨valid, _, course⟩ := Engine.course_of_run faithful (e.worker.shows_any e.resolve) ran
  obtain ⟨steps, outcome⟩ := course.states_eq valid
  have records (ps : List Patch) :
      ((Engine.startState w prompt given).applyAll ps).outputs.Records (insertionsOf ps) := by
    rw [State.outputs_applyAll]
    exact Outputs.records_insertAll _
  refine ⟨fun i step found applied => ?_, fun last ended => ?_⟩
  · rw [steps i step found, ← State.applyAll_append]
    exact records _
  · rw [outcome last ended]
    exact records _

open Diamond in
theorem outputs_record_insertions_diamond :
    (Outputs.empty.insertAll [("b", "2"), ("a", "1"), ("a", "3")]).toJson =
        (Outputs.empty.insertAll [("a", "1"), ("b", "2"), ("a", "3")]).toJson ∧
      ∃ h last, ((engine id).run flow "one" "go" .empty ()).2.course = .ok ("a", h) ∧
        h.outcome = .ok last ∧
        last.outputs.Records [("a", "done a"), ("c", "done c"), ("b", "done b"),
          ("d", "done d"), ("d", "done d")] := by
  obtain ⟨inserted, recorded⟩ := outputs_record_insertions
  constructor
  · apply (inserted [("a", "1"), ("b", "2"), ("a", "3")]).reordered
    intro id
    by_cases first : id = "a"
    · subst first
      decide
    · have other : ("a" == id) = false := by simpa using Ne.symm first
      simp [Outputs.under, List.filter_cons, other]
  · obtain ⟨h, ran⟩ := (ready id).exists_history "one" "go" .empty
    have facts : (match ((engine id).run flow "one" "go" .empty ()).2.course with
        | .ok (_, h) => h.outcome.toBool && decide (insertionsOf (h.steps.flatMap flow.patches) =
            [("a", "done a"), ("c", "done c"), ("b", "done b"), ("d", "done d"), ("d", "done d")])
        | .error _ => false) = true := by
      decide +kernel
    rw [ran, Bool.and_eq_true, decide_eq_true_eq] at facts
    obtain ⟨finished, told⟩ := facts
    cases outcome : h.outcome with
    | error cause => simp [outcome, Except.toBool] at finished
    | ok last =>
        refine ⟨h, last, ran, outcome, ?_⟩
        rw [← told]
        have faithful : (engine id).worker.Faithful := Worker.oneByOne_faithful fun _ => .refl _
        exact (recorded (engine id) flow "one" "go" .empty () faithful "a" h ran).2 last outcome

end Superstep
