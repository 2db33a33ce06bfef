import Superstep.Run.Outputs

/-! # Maps by their look-ups

A map is determined by what look-up finds in it, so insertions under different
keys can change places. Outputs are such a map once their order is forgotten:
the sorted outputs find what the outputs find.
-/

namespace Superstep

namespace KeyMap

variable {α : Type u}

/-- The keys of a map are distinct because they increase. -/
theorem keys_nodup (m : KeyMap α) : (m.entries.map Prod.fst).Nodup := by
  rw [List.Nodup, List.pairwise_map]
  refine m.increasing.imp ?_
  intro a b below same
  exact String.lt_irrefl _ (same ▸ below)

theorem lookup_eq_some_iff_mem {entries : List (String × α)}
    (distinct : (entries.map Prod.fst).Nodup) {k : String} {v : α} :
    entries.lookup k = some v ↔ (k, v) ∈ entries := by
  induction entries with
  | nil => simp
  | cons head rest ih =>
      obtain ⟨k₀, v₀⟩ := head
      rw [List.map_cons, List.nodup_cons] at distinct
      rw [List.lookup_cons, List.mem_cons]
      by_cases same : k = k₀
      · subst same
        have absent : (k, v) ∉ rest := fun member =>
          distinct.1 (List.mem_map.2 ⟨(k, v), member, rfl⟩)
        simp [absent, eq_comm]
      · have other : (k == k₀) = false := by simpa using same
        simp [other, same, ih distinct.2]

theorem get?_eq_some_iff (m : KeyMap α) {k : String} {v : α} :
    m.get? k = some v ↔ (k, v) ∈ m.entries :=
  lookup_eq_some_iff_mem m.keys_nodup

theorem mem_keys_iff (m : KeyMap α) {k : String} : k ∈ m.keys ↔ (m.get? k).isSome = true := by
  rw [keys, List.mem_map, Option.isSome_iff_exists]
  constructor
  · rintro ⟨⟨_, v⟩, member, rfl⟩
    exact ⟨v, m.get?_eq_some_iff.2 member⟩
  · rintro ⟨v, found⟩
    exact ⟨(k, v), m.get?_eq_some_iff.1 found, rfl⟩

theorem ext_get? {m₁ m₂ : KeyMap α} (same : ∀ k, m₁.get? k = m₂.get? k) : m₁ = m₂ := by
  have distinct (m : KeyMap α) : m.entries.Nodup := by
    refine m.increasing.imp ?_
    intro a b below same
    exact String.lt_irrefl _ (same ▸ below)
  have members : ∀ e, e ∈ m₁.entries ↔ e ∈ m₂.entries := by
    rintro ⟨k, v⟩
    rw [← get?_eq_some_iff, ← get?_eq_some_iff, same]
  have shuffled : m₁.entries.Perm m₂.entries :=
    (List.perm_ext_iff_of_nodup (distinct m₁) (distinct m₂)).2 members
  apply ext
  refine shuffled.eq_of_pairwise ?_ m₁.increasing m₂.increasing
  intro a b _ _ below above
  exact absurd (String.lt_trans below above) (String.lt_irrefl _)

/-- The keys of two maps are equal if the same are bound, because they are in order. -/
theorem keys_eq_of_mem {β : Type v} {m : KeyMap α} {other : KeyMap β}
    (same : ∀ k, k ∈ m.keys ↔ k ∈ other.keys) : m.keys = other.keys := by
  have shuffled : m.keys.Perm other.keys :=
    (List.perm_ext_iff_of_nodup m.keys_nodup other.keys_nodup).2 same
  refine shuffled.eq_of_pairwise ?_ (List.pairwise_map.2 m.increasing)
    (List.pairwise_map.2 other.increasing)
  intro a b _ _ below above
  exact absurd (String.lt_trans below above) (String.lt_irrefl _)

theorem insert_comm (m : KeyMap α) {k l : String} (differ : k ≠ l) (a b : α) :
    (m.insert k a).insert l b = (m.insert l b).insert k a := by
  apply ext_get?
  intro x
  simp only [get?_insert]
  by_cases atL : x = l
  · have notK : x ≠ k := fun same => differ (same.symm.trans atL)
    simp only [if_pos atL, if_neg notK]
  · simp only [if_neg atL]

/-- After binding pairs with distinct keys, look-up sees the pairs first. -/
theorem get?_insertAll {pairs : List (String × α)} (distinct : (pairs.map Prod.fst).Nodup)
    (m : KeyMap α) (k : String) :
    (m.insertAll pairs).get? k = (pairs.lookup k).or (m.get? k) := by
  induction pairs generalizing m with
  | nil => rfl
  | cons head rest ih =>
      obtain ⟨k₀, v₀⟩ := head
      rw [List.map_cons, List.nodup_cons] at distinct
      have step : m.insertAll ((k₀, v₀) :: rest) = (m.insert k₀ v₀).insertAll rest := rfl
      rw [step, ih distinct.2, get?_insert, List.lookup_cons]
      by_cases same : k = k₀
      · subst same
        have absent : rest.lookup k = none := by
          rw [List.lookup_eq_none_iff]
          intro e member
          simp only [bne_iff_ne, ne_eq]
          exact fun same => distinct.1 (List.mem_map.2 ⟨e, member, same.symm⟩)
        simp [absent]
      · have other : (k == k₀) = false := by simpa using same
        simp [other, same]

theorem get?_merge (m other : KeyMap α) (k : String) :
    (m.insertAll other.entries).get? k = (other.get? k).or (m.get? k) :=
  get?_insertAll other.keys_nodup m k

theorem get?_ofList {pairs : List (String × α)} (distinct : (pairs.map Prod.fst).Nodup)
    (k : String) : (ofList pairs).get? k = pairs.lookup k := by
  rw [ofList, get?_insertAll distinct, get?_empty, Option.or_none]

theorem mem_keys_ofList {pairs : List (String × α)} {key : String} :
    key ∈ (ofList pairs).keys ↔ key ∈ pairs.map Prod.fst := by
  have all (m : KeyMap α) :
      key ∈ (m.insertAll pairs).keys ↔ key ∈ m.keys ∨ key ∈ pairs.map Prod.fst := by
    induction pairs generalizing m with
    | nil => simp [insertAll]
    | cons pair rest ih =>
        have step : m.insertAll (pair :: rest) = (m.insert pair.1 pair.2).insertAll rest := rfl
        rw [step, ih, mem_keys_iff, mem_keys_iff, get?_insert, List.map_cons, List.mem_cons,
          ← or_assoc]
        by_cases same : key = pair.1 <;> simp [same]
  rw [ofList, all]
  simp [keys, empty]

/-- Maps without a common key can be merged in any order. -/
theorem merge_comm (m a b : KeyMap α)
    (apart : ∀ k ∈ a.keys, b.contains k = false) :
    (m.insertAll a.entries).insertAll b.entries =
      (m.insertAll b.entries).insertAll a.entries := by
  apply ext_get?
  intro k
  simp only [get?_merge]
  cases inA : a.get? k with
  | none => simp
  | some v =>
      have key : k ∈ a.keys := List.mem_map.2 ⟨(k, v), a.get?_eq_some_iff.1 inA, rfl⟩
      have notB : b.get? k = none := by simpa [contains] using apart k key
      simp [notB]

/-! ### Changing the values -/

variable {β : Type u}

theorem lookup_map_snd (f : α → β) (entries : List (String × α)) (k : String) :
    (entries.map fun e => (e.1, f e.2)).lookup k = (entries.lookup k).map f := by
  induction entries with
  | nil => rfl
  | cons head rest ih =>
      rw [List.map_cons, List.lookup_cons, List.lookup_cons, ih]
      cases k == head.1 <;> rfl

@[simp] theorem get?_map (f : α → β) (m : KeyMap α) (k : String) :
    (m.map f).get? k = (m.get? k).map f :=
  lookup_map_snd f m.entries k

theorem map_ofList (f : α → β) (pairs : List (String × α)) :
    (ofList pairs).map f = ofList (pairs.map fun e => (e.1, f e.2)) := by
  have inserted (m : KeyMap α) (key : String) (value : α) :
      (m.insert key value).map f = (m.map f).insert key (f value) := by
    apply ext_get?
    intro k
    simp only [get?_map, get?_insert]
    split <;> rfl
  have all (m : KeyMap α) :
      (m.insertAll pairs).map f = (m.map f).insertAll (pairs.map fun e => (e.1, f e.2)) := by
    unfold insertAll
    induction pairs generalizing m with
    | nil => rfl
    | cons pair rest ih => rw [List.foldl_cons, ih, inserted, List.map_cons, List.foldl_cons]
  exact all empty

end KeyMap

namespace Outputs

@[simp] theorem get?_sorted (o : Outputs) (k : String) : o.sorted.get? k = o.get? k :=
  KeyMap.get?_ofList o.distinct k

theorem sorted_insert (o : Outputs) (id output : String) :
    (o.insert id output).sorted = o.sorted.insert id output := by
  apply KeyMap.ext_get?
  intro k
  simp

theorem sorted_eq_iff {o₁ o₂ : Outputs} :
    o₁.sorted = o₂.sorted ↔ ∀ k, o₁.get? k = o₂.get? k := by
  constructor
  · intro same k
    rw [← get?_sorted, ← get?_sorted, same]
  · intro same
    apply KeyMap.ext_get?
    intro k
    rw [get?_sorted, get?_sorted, same]

theorem isEmpty_iff (o : Outputs) : o.isEmpty = true ↔ ∀ k, o.get? k = none := by
  unfold isEmpty get?
  cases o.entries with
  | nil => simp
  | cons head rest =>
      simp only [List.isEmpty_cons, Bool.false_eq_true, false_iff]
      exact fun none => by simpa using none head.1

theorem mem_ids_iff (o : Outputs) {id : String} : id ∈ o.ids ↔ o.contains id = true := by
  rw [ids, contains, Option.isSome_iff_exists, List.mem_map]
  constructor
  · rintro ⟨⟨_, output⟩, member, rfl⟩
    exact ⟨output, (KeyMap.lookup_eq_some_iff_mem o.distinct).2 member⟩
  · rintro ⟨output, found⟩
    exact ⟨(id, output), (KeyMap.lookup_eq_some_iff_mem o.distinct).1 found, rfl⟩

/-- A new id is put at the end, and all others keep their places. -/
theorem ids_insert (o : Outputs) (id output : String) :
    (o.insert id output).ids = o.ids ++ if o.contains id then [] else [id] := by
  have placed : (o.insert id output).ids = if id ∈ o.ids then o.ids else o.ids ++ [id] :=
    ids_put id output o.entries
  rw [placed]
  simp only [o.mem_ids_iff]
  split <;> simp

theorem contains_insert (o : Outputs) (id output k : String) :
    (o.insert id output).contains k = (decide (k = id) || o.contains k) := by
  simp only [contains, get?_insert]
  by_cases same : k = id <;> simp [same]

/-- The entries are the ids with what is found under them. -/
theorem entries_eq (o : Outputs) :
    o.entries = o.ids.map fun id => (id, (o.get? id).getD "") := by
  rw [ids, List.map_map]
  refine ((List.map_congr_left fun e member => ?_).trans (List.map_id _)).symm
  have found : o.get? e.1 = some e.2 := (KeyMap.lookup_eq_some_iff_mem o.distinct).2 member
  rw [Function.comp_apply, found]
  rfl

/-- Outputs are determined by their look-ups and the order of their ids. -/
theorem ext_ids {o₁ o₂ : Outputs} (order : o₁.ids = o₂.ids)
    (same : ∀ id, o₁.get? id = o₂.get? id) : o₁ = o₂ := by
  apply ext
  rw [entries_eq o₁, entries_eq o₂, order]
  simp only [same]

end Outputs

end Superstep
