import Superstep.Proofs.Values

/-! # Reading records

A record is read field by field. What holds at the start and is kept by every field
holds of the whole record, whether it is written as an object or as an array. An object
with all of its fields is read in whatever order they stand.
-/

namespace Superstep.Json

variable {σ α : Type} {fields : List (RecordField σ)}

/-! ## What decoders read -/

section

variable {d : Draft} {low high : Int} {bits : Nat}

@[simp] theorem asString_ofValue (s : String) :
    Draft.asString (.ofValue (.string s)) = .ok s := rfl

theorem asOptional_of_ne_null (decoder : Decoder α) (some_ : d ≠ .null) :
    Draft.asOptional decoder d = (decoder d).map some := by
  cases d <;> first | rfl | exact absurd rfl some_

@[simp] theorem asOptional_ofOption (text : Option String) :
    Draft.asOptional Draft.asString (.ofValue (.ofOption text)) = .ok text := by
  cases text <;> rfl

theorem asOptional_ok {decoder : Decoder α} {a : α}
    (read : Draft.asOptional decoder d = .ok (some a)) : decoder d = .ok a := by
  by_cases none_ : d = .null
  · subst none_
    cases read
  · rw [asOptional_of_ne_null decoder none_] at read
    obtain ⟨_, found, same⟩ := map_ok read
    rwa [Option.some.inj same] at found

theorem asInteger_ofInt {i : Int} (inside : low ≤ i ∧ i ≤ high) :
    Draft.asInteger low high (.ofValue (.ofInt i)) = .ok i :=
  if_pos inside

theorem asInteger_ok {i : Int} (read : Draft.asInteger low high d = .ok i) :
    low ≤ i ∧ i ≤ high := by
  unfold Draft.asInteger at read
  split at read
  · split at read
    next inside =>
      cases read
      exact inside
    next => cases read
  · cases read

theorem asNatural_ofNat {n : Nat} (few : n < twoTo bits) :
    Draft.asNatural bits (.ofValue (.ofNat n)) = .ok n := by
  have inside : (0 : Int) ≤ n ∧ (n : Int) ≤ (twoTo bits : Int) - 1 := by omega
  rw [Draft.asNatural, Value.ofNat, asInteger_ofInt inside]
  rfl

theorem asNatural_ok {n : Nat} (read : Draft.asNatural bits d = .ok n) : n < twoTo bits := by
  obtain ⟨i, found, rfl⟩ := map_ok read
  have inside := asInteger_ok found
  omega

/-- A list is read back if each of its items is. -/
theorem asList_ofValues {decoder : Decoder α} {write : α → Value} {items : List α}
    (each : ∀ a ∈ items, decoder (.ofValue (write a)) = .ok a) :
    Draft.asList decoder (.ofValue (.array (items.map write))) = .ok items := by
  rw [Draft.ofValue, Draft.asList]
  induction items with
  | nil => rfl
  | cons a rest ih =>
      obtain ⟨first, later⟩ := List.forall_mem_cons.1 each
      rw [List.map_cons, Items.ofValues, Items.each, first, ih later]
      rfl

theorem Items.each_ok {decoder : Decoder α} : ∀ {items : Items} {values : List α},
    items.each decoder = .ok values → ∀ a ∈ values, ∃ d, decoder d = .ok a
  | .close, _, read => by
      cases read
      exact nofun
  | .item d rest, _, read => by
      obtain ⟨a, first, read⟩ := bind_ok read
      obtain ⟨values, later, read⟩ := bind_ok read
      cases read
      exact List.forall_mem_cons.2 ⟨⟨d, first⟩, Items.each_ok later⟩
  | .stop _, _, read => nomatch read
  | .dangling _, _, read => nomatch read

theorem asList_ok {decoder : Decoder α} {values : List α}
    (read : Draft.asList decoder d = .ok values) {a : α} (member : a ∈ values) :
    ∃ item, decoder item = .ok a := by
  unfold Draft.asList at read
  split at read
  · exact Items.each_ok read a member
  · cases read
  · cases read

theorem asFields_ofMap {m : KeyMap Value} (inOrder : ∀ e ∈ m.entries, e.2.ordered = e.2) :
    Draft.asFields (.ofValue (.ofMap m)) = .ok m := by
  have read := Members.fields_ofFields m.entries .empty
  rw [Value.orderedFields_eq_self inOrder] at read
  exact read.trans (congrArg Except.ok m.ofList_entries)

theorem asFields_ok {m : KeyMap Value} (read : Draft.asFields d = .ok m) :
    ∀ e ∈ m.entries, e.2.ordered = e.2 := by
  unfold Draft.asFields at read
  split at read
  · exact Members.ordered_fields _ (List.forall_mem_nil _) read
  · cases read
  · cases read

theorem decodeValue_ok {decoder : Decoder α} {v : Value} {a : α} :
    decodeValue decoder v = .ok a ↔ decoder (.ofValue v) = .ok a := by
  unfold decodeValue
  cases decoder (.ofValue v) <;> simp

end

/-! ## What fields keep -/

section

variable {P : σ → Prop}

/-- Whatever the field reads, the property is kept. -/
def RecordField.Keeps (P : σ → Prop) (field : RecordField σ) : Prop :=
  ∀ partly d reached, P partly → field.set partly d = .ok reached → P reached

theorem RecordField.Keeps.of {names : List String} {get : σ → Option α} {put : σ → α → σ}
    {decoder : Decoder α}
    (kept : ∀ {partly a d}, P partly → decoder d = .ok a → P (put partly a)) :
    (RecordField.of names get put decoder).Keeps P := by
  intro partly d reached before read
  obtain ⟨a, found, rfl⟩ := map_ok read
  exact kept before found

theorem Members.record_keeps (keeps : ∀ field ∈ fields, field.Keeps P) :
    ∀ (members : Members) {partly reached : σ}, P partly →
      members.record fields partly = .ok reached → P reached
  | .close, _, _, before, read => by
      cases read
      exact before
  | .member key d rest, _, _, before, read => by
      obtain ⟨key, _, read⟩ := bind_ok read
      split at read
      next field found =>
        split at read
        · cases read
        · obtain ⟨mid, taken, later⟩ := bind_ok read
          have kept := keeps field (List.mem_of_find?_eq_some found) _ _ _ before taken
          exact Members.record_keeps keeps rest kept later
      next =>
        obtain ⟨_, _, later⟩ := bind_ok read
        exact Members.record_keeps keeps rest before later
  | .stop _, _, _, _, read => nomatch read

theorem Items.record_keeps {surplus : Bool} :
    ∀ {fields : List (RecordField σ)}, (∀ field ∈ fields, field.Keeps P) →
      ∀ (items : Items) {partly reached : σ}, P partly →
        Items.record surplus fields partly items = .ok reached → P reached
  | fields, _, .close, _, _, before, read => by
      cases fields <;> cases read <;> exact before
  | fields, _, .stop _, _, _, _, read => by
      cases fields <;> cases read
  | [], _, .item _ _, _, _, before, read => by
      rw [Items.record] at read
      split at read
      · cases read
        exact before
      · cases read
  | [], _, .dangling _, _, _, _, read => nomatch read
  | field :: fields, keeps, .item d rest, _, _, before, read => by
      obtain ⟨first, others⟩ := List.forall_mem_cons.1 keeps
      obtain ⟨mid, taken, later⟩ := bind_ok read
      exact Items.record_keeps others rest (first _ _ _ before taken) later
  | _ :: _, _, .dangling _, _, _, _, read => nomatch read

/-- What is kept by the fields holds of a record when it is complete. -/
theorem asRecord_keeps (keeps : ∀ field ∈ fields, field.Keeps P) {start : σ} (before : P start)
    {finish : σ → Except DecodeError α} {d : Draft} {a : α}
    (read : Draft.asRecord fields start finish d = .ok a) :
    ∃ whole, P whole ∧ finish whole = .ok a := by
  unfold Draft.asRecord Draft.asRecordWith at read
  split at read
  · obtain ⟨whole, found, read⟩ := bind_ok read
    exact ⟨whole, Members.record_keeps keeps _ before found, read⟩
  · obtain ⟨whole, found, read⟩ := bind_ok read
    exact ⟨whole, Items.record_keeps keeps _ before found, read⟩
  · cases read
  · cases read

end

/-! ## Objects with all of their fields -/

/-- The value of a field, once its name has come up. -/
def seen (known : List String) (name : String) (a : α) : Option α :=
  if name ∈ known then some a else none

theorem Members.record_member {key : String} {d : Draft} {rest : Members}
    {field : RecordField σ} {partly reached : σ}
    (found : fields.find? (·.names.contains key) = some field)
    (unset : field.isSet partly = false) (read : field.set partly d = .ok reached) :
    (Members.member (some key) d rest).record fields partly = rest.record fields reached := by
  simp only [Members.record, readable, bind, Except.bind, found, unset, read, Bool.false_eq_true,
    if_false]

/-- What is written under each name is read into the record when the name comes up: after
    the names `known` the record is `partly known`. -/
def Reads (fields : List (RecordField σ)) (partly : List String → σ)
    (written : List (String × Value)) : Prop :=
  ∀ e ∈ written, ∀ known, e.1 ∉ known → ∀ rest,
    (Members.member (some e.1) (.ofValue e.2) rest).record fields (partly known) =
      rest.record fields (partly (e.1 :: known))

variable {partly : List String → σ} {written : List (String × Value)}

theorem Reads.record (reads : Reads fields partly written) {rest : List (String × Value)}
    (inside : rest ⊆ written) (distinct : (rest.map Prod.fst).Nodup) {known : List String}
    (fresh : ∀ e ∈ rest, e.1 ∉ known) :
    (Members.ofFields rest).record fields (partly known) =
      .ok (partly ((rest.map Prod.fst).reverse ++ known)) := by
  induction rest generalizing known with
  | nil => rfl
  | cons e rest ih =>
      obtain ⟨first, later⟩ := List.forall_mem_cons.1 fresh
      obtain ⟨apart, distinct⟩ := List.nodup_cons.1 distinct
      have fresh' : ∀ e' ∈ rest, e'.1 ∉ e.1 :: known := by
        intro e' member known'
        rcases List.mem_cons.1 known' with same | old
        · exact apart (same ▸ List.mem_map_of_mem member)
        · exact later e' member old
      rw [Members.ofFields, reads e (inside List.mem_cons_self) known first,
        ih (fun _ member => inside (List.mem_cons_of_mem _ member)) distinct fresh']
      simp

/-- The order in which the fields of an object stand makes no difference. -/
theorem Reads.asRecord (reads : Reads fields partly written) {rest : List (String × Value)}
    (shuffled : rest.Perm written) (distinct : (written.map Prod.fst).Nodup)
    {finish : σ → Except DecodeError α} {a : α}
    (complete : ∀ known, (∀ e ∈ written, e.1 ∈ known) → finish (partly known) = .ok a) :
    Draft.asRecord fields (partly []) finish (.ofValue (.object rest)) = .ok a := by
  have own : (rest.map Prod.fst).Nodup := (shuffled.map Prod.fst).nodup_iff.2 distinct
  have fresh : ∀ e ∈ rest, e.1 ∉ ([] : List String) := fun _ _ => List.not_mem_nil
  rw [Draft.ofValue, Draft.asRecord, Draft.asRecordWith,
    reads.record shuffled.subset own fresh]
  refine complete _ fun e member => ?_
  simpa using ⟨e.2, shuffled.mem_iff.2 member⟩

/-- Whether its fields stand as they are written or in key order, a value is read as the
    same thing. -/
def ReadsAs (decode : Value → Except DecodeError α) (v : Value) (a : α) : Prop :=
  decode v = .ok a ∧ decode v.ordered = .ok a

theorem Reads.readsAs (reads : Reads fields partly written)
    (distinct : (written.map Prod.fst).Nodup) (inOrder : ∀ e ∈ written, e.2.ordered = e.2)
    {finish : σ → Except DecodeError α} {a : α}
    (complete : ∀ known, (∀ e ∈ written, e.1 ∈ known) → finish (partly known) = .ok a) :
    ReadsAs (decodeValue (Draft.asRecord fields (partly []) finish)) (.object written) a := by
  obtain ⟨shuffled, same, perm⟩ := Value.perm_ordered_of_inOrder distinct inOrder
  refine ⟨decodeValue_ok.2 (reads.asRecord (.refl _) distinct complete), ?_⟩
  rw [same]
  exact decodeValue_ok.2 (reads.asRecord perm distinct complete)

end Superstep.Json
