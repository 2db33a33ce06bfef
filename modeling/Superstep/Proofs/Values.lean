import Mathlib.Data.List.Nodup
import Superstep.Json.Decode
import Superstep.Proofs.Maps
import Superstep.Proofs.Results

/-! # Values in key order

Reading a value puts the fields of its objects in the order of their keys, at every
depth. What has been read is in order, and reading it once more changes nothing.
-/

namespace Superstep

namespace KeyMap

variable {α : Type u}

theorem ofList_entries (m : KeyMap α) : ofList m.entries = m :=
  ext_get? fun k => get?_ofList m.keys_nodup k

theorem perm_ofList {pairs : List (String × α)} (distinct : (pairs.map Prod.fst).Nodup) :
    (ofList pairs).entries.Perm pairs := by
  refine (List.perm_ext_iff_of_nodup ?_ ?_).2 fun ⟨k, v⟩ => ?_
  · exact List.Nodup.of_map _ (ofList pairs).keys_nodup
  · exact List.Nodup.of_map _ distinct
  · rw [← get?_eq_some_iff, get?_ofList distinct, lookup_eq_some_iff_mem distinct]

end KeyMap

namespace Json

mutual
/-- The value with the fields of all its objects in key order. Of equal keys the last
    one wins. -/
def Value.ordered : Value → Value
  | .null => .null
  | .bool b => .bool b
  | .number n => .number n
  | .string s => .string s
  | .array items => .array (Value.orderedItems items)
  | .object fields => .ofMap (.ofList (Value.orderedFields fields))

def Value.orderedItems : List Value → List Value
  | [] => []
  | v :: rest => v.ordered :: Value.orderedItems rest

def Value.orderedFields : List (String × Value) → List (String × Value)
  | [] => []
  | (key, v) :: rest => (key, v.ordered) :: Value.orderedFields rest
end

namespace Value

theorem orderedItems_eq_map (items : List Value) : orderedItems items = items.map ordered := by
  induction items with
  | nil => rfl
  | cons v rest ih => rw [orderedItems, ih, List.map_cons]

theorem orderedFields_eq_map (fields : List (String × Value)) :
    orderedFields fields = fields.map fun e => (e.1, e.2.ordered) := by
  induction fields with
  | nil => rfl
  | cons e rest ih => rw [orderedFields, ih, List.map_cons]

theorem orderedFields_eq_self {fields : List (String × Value)}
    (inOrder : ∀ e ∈ fields, e.2.ordered = e.2) : orderedFields fields = fields := by
  rw [orderedFields_eq_map]
  refine (List.map_congr_left fun e member => ?_).trans (List.map_id fields)
  rw [inOrder e member]
  rfl

theorem ordered_ofMap {m : KeyMap Value} (inOrder : ∀ e ∈ m.entries, e.2.ordered = e.2) :
    (ofMap m).ordered = ofMap m := by
  rw [ofMap, ordered, orderedFields_eq_self inOrder, m.ofList_entries]
  rfl

/-- The fields of an object, and none of any other value. -/
def fields : Value → List (String × Value)
  | .object fields => fields
  | _ => []

/-- Putting an object in order puts its values in order and shuffles its fields. -/
theorem perm_ordered (fields : List (String × Value)) (distinct : (fields.map Prod.fst).Nodup) :
    ∃ shuffled, (object fields).ordered = object shuffled ∧
      shuffled.Perm (fields.map fun e => (e.1, e.2.ordered)) := by
  refine ⟨_, rfl, ?_⟩
  rw [orderedFields_eq_map]
  apply KeyMap.perm_ofList
  rw [List.map_map]
  exact distinct

/-- If its values are in order, putting an object in order only shuffles its fields. -/
theorem perm_ordered_of_inOrder {fields : List (String × Value)}
    (distinct : (fields.map Prod.fst).Nodup) (inOrder : ∀ e ∈ fields, e.2.ordered = e.2) :
    ∃ shuffled, (object fields).ordered = object shuffled ∧ shuffled.Perm fields := by
  obtain ⟨shuffled, same, perm⟩ := perm_ordered fields distinct
  rw [← orderedFields_eq_map, orderedFields_eq_self inOrder] at perm
  exact ⟨shuffled, same, perm⟩

@[simp] theorem ordered_ofOption (text : Option String) :
    (ofOption text).ordered = ofOption text := by
  cases text <;> rfl

end Value

/-! ## Reading -/

mutual
theorem Draft.asValue_ofValue : ∀ v : Value, (Draft.ofValue v).asValue = .ok v.ordered
  | .null | .bool _ | .number _ | .string _ => rfl
  | .array items => by
      rw [Draft.ofValue, Draft.asValue, Items.values_ofValues items]
      rfl
  | .object fields => by
      rw [Draft.ofValue, Draft.asValue, Members.fields_ofFields fields .empty]
      rfl

theorem Items.values_ofValues : ∀ items : List Value,
    (Items.ofValues items).values = .ok (Value.orderedItems items)
  | [] => rfl
  | v :: rest => by
      rw [Items.ofValues, Items.values, Draft.asValue_ofValue v, Items.values_ofValues rest]
      rfl

theorem Members.fields_ofFields : ∀ (fields : List (String × Value)) (before : KeyMap Value),
    (Members.ofFields fields).fields before = .ok (before.insertAll (Value.orderedFields fields))
  | [], _ => rfl
  | (key, v) :: rest, before => by
      rw [Members.ofFields, Members.fields, Draft.asValue_ofValue v]
      exact Members.fields_ofFields rest (before.insert key v.ordered)
end

mutual
theorem Draft.ordered_asValue : ∀ (d : Draft) {v : Value}, d.asValue = .ok v → v.ordered = v
  | .null, _, read => by cases read; rfl
  | .bool _, _, read => by cases read; rfl
  | .number n, _, read => by
      obtain ⟨_, _, rfl⟩ := map_ok read
      rfl
  | .string s, _, read => by
      obtain ⟨_, _, rfl⟩ := map_ok read
      rfl
  | .array items, _, read => by
      obtain ⟨values, found, rfl⟩ := map_ok read
      rw [Value.ordered, Items.ordered_values items found]
  | .object members, _, read => by
      obtain ⟨m, found, rfl⟩ := map_ok read
      have fresh : ∀ e ∈ (KeyMap.empty : KeyMap Value).entries, e.2.ordered = e.2 :=
        List.forall_mem_nil _
      exact Value.ordered_ofMap (Members.ordered_fields members fresh found)
  | .deep _, _, read => nomatch read
  | .broken _, _, read => nomatch read

theorem Items.ordered_values : ∀ (items : Items) {values : List Value},
    items.values = .ok values → Value.orderedItems values = values
  | .close, _, read => by cases read; rfl
  | .item d rest, _, read => by
      obtain ⟨v, first, read⟩ := bind_ok read
      obtain ⟨values, later, read⟩ := bind_ok read
      cases read
      rw [Value.orderedItems, Draft.ordered_asValue d first, Items.ordered_values rest later]
  | .stop _, _, read => nomatch read
  | .dangling _, _, read => nomatch read

theorem Members.ordered_fields : ∀ (members : Members) {before m : KeyMap Value},
    (∀ e ∈ before.entries, e.2.ordered = e.2) → members.fields before = .ok m →
      ∀ e ∈ m.entries, e.2.ordered = e.2
  | .close, _, _, inOrder, read => by cases read; exact inOrder
  | .member key d rest, before, _, inOrder, read => by
      obtain ⟨key, _, read⟩ := bind_ok read
      obtain ⟨v, first, later⟩ := bind_ok read
      refine Members.ordered_fields rest (fun e member => ?_) later
      rcases KeyMap.mem_place member with rfl | old
      · exact Draft.ordered_asValue d first
      · exact inOrder e old
  | .stop _, _, _, _, read => nomatch read
end

end Json

end Superstep
