/-! # Maps with text keys, in key order

JSON objects, metadata, environment tables and attempt counters are all maps
from text to values that are written in the order of their keys. The entries
are a list that is strictly increasing in its keys, so two maps with the same
look-ups are equal. Keys compare by code point, which for well-formed text is
also the order of their UTF-8 bytes.
-/

namespace Superstep

/-- A finite map from text, as its entries in strictly increasing key order. -/
structure KeyMap (α : Type u) where
  entries : List (String × α)
  /-- Keys increase, so none occurs twice. -/
  increasing : entries.Pairwise (fun a b => a.1 < b.1)

namespace KeyMap

variable {α : Type u}

/-- Put a pair in its place among increasing entries, replacing the value of
    an equal key. -/
def place (key : String) (value : α) : List (String × α) → List (String × α)
  | [] => [(key, value)]
  | (k, v) :: rest =>
      if key < k then (key, value) :: (k, v) :: rest
      else if key = k then (key, value) :: rest
      else (k, v) :: place key value rest

/-- A key of the placed entries is the new one or was there before. -/
theorem mem_place {key : String} {value : α} {entries : List (String × α)} {e : String × α}
    (member : e ∈ place key value entries) : e = (key, value) ∨ e ∈ entries := by
  induction entries with
  | nil => simpa [place] using member
  | cons head rest ih =>
      obtain ⟨k, v⟩ := head
      simp only [place] at member
      split at member
      · simpa using member
      · split at member
        · rcases List.mem_cons.1 member with same | old
          · exact .inl same
          · exact .inr (List.mem_cons_of_mem _ old)
        · rcases List.mem_cons.1 member with same | later
          · exact .inr (same ▸ List.mem_cons_self)
          · rcases ih later with new | old
            · exact .inl new
            · exact .inr (List.mem_cons_of_mem _ old)

/-- Text that is neither below nor equal to another is above it. -/
theorem lt_of_not_lt_of_ne {a b : String} (above : ¬ a < b) (differ : a ≠ b) : b < a := by
  apply Classical.byContradiction
  intro below
  exact differ (String.le_antisymm (String.not_lt.1 below) (String.not_lt.1 above))

theorem place_increasing (key : String) (value : α) {entries : List (String × α)}
    (increasing : entries.Pairwise (fun a b => a.1 < b.1)) :
    (place key value entries).Pairwise (fun a b => a.1 < b.1) := by
  induction entries with
  | nil => simp [place]
  | cons head rest ih =>
      obtain ⟨k, v⟩ := head
      obtain ⟨above, tail⟩ := List.pairwise_cons.1 increasing
      simp only [place]
      split
      next below =>
        refine List.pairwise_cons.2 ⟨?_, increasing⟩
        intro e member
        rcases List.mem_cons.1 member with same | later
        · exact same ▸ below
        · exact String.lt_trans below (above e later)
      next notBelow =>
        split
        next same => exact List.pairwise_cons.2 ⟨fun e member => same ▸ above e member, tail⟩
        next differ =>
          refine List.pairwise_cons.2 ⟨?_, ih tail⟩
          intro e member
          rcases mem_place member with new | old
          · exact new ▸ lt_of_not_lt_of_ne notBelow differ
          · exact above e old

/-- The map without entries. -/
def empty : KeyMap α := ⟨[], .nil⟩

instance : EmptyCollection (KeyMap α) := ⟨empty⟩
instance : Inhabited (KeyMap α) := ⟨empty⟩

/-- The map with `key` bound to `value`, whatever it was bound to before. -/
def insert (m : KeyMap α) (key : String) (value : α) : KeyMap α :=
  ⟨place key value m.entries, place_increasing key value m.increasing⟩

def get? (m : KeyMap α) (key : String) : Option α :=
  m.entries.lookup key

def contains (m : KeyMap α) (key : String) : Bool :=
  (m.get? key).isSome

/-- Bind pairs one after another; of equal keys the last one wins. -/
def insertAll (m : KeyMap α) (pairs : List (String × α)) : KeyMap α :=
  pairs.foldl (fun acc pair => acc.insert pair.1 pair.2) m

/-- The map of a list of pairs; of equal keys the last one wins. -/
def ofList (pairs : List (String × α)) : KeyMap α :=
  (empty : KeyMap α).insertAll pairs

/-- The bound keys, in order. -/
def keys (m : KeyMap α) : List String :=
  m.entries.map Prod.fst

/-- Change every value and no key. -/
def map {β : Type v} (f : α → β) (m : KeyMap α) : KeyMap β :=
  ⟨m.entries.map (fun e => (e.1, f e.2)), by
    rw [List.pairwise_map]
    exact m.increasing⟩

def isEmpty (m : KeyMap α) : Bool :=
  m.entries.isEmpty

def size (m : KeyMap α) : Nat :=
  m.entries.length

@[ext] theorem ext {m₁ m₂ : KeyMap α} (same : m₁.entries = m₂.entries) : m₁ = m₂ := by
  cases m₁
  cases m₂
  subst same
  rfl

instance [DecidableEq α] : DecidableEq (KeyMap α) := fun m₁ m₂ =>
  decidable_of_iff (m₁.entries = m₂.entries) ⟨ext, fun same => same ▸ rfl⟩

/-- Look-up after placing sees the new value under its key and the old ones
    under all others. -/
theorem lookup_place (key : String) (value : α) (entries : List (String × α)) (k : String) :
    (place key value entries).lookup k = if k = key then some value else entries.lookup k := by
  induction entries with
  | nil =>
      by_cases same : k = key
      · simp [place, same]
      · have differ : (k == key) = false := by simpa using same
        simp [place, List.lookup_cons, same, differ]
  | cons head rest ih =>
      obtain ⟨k₀, v₀⟩ := head
      simp only [place]
      split
      next =>
        by_cases same : k = key
        · simp [same]
        · have differ : (k == key) = false := by simpa using same
          simp [List.lookup_cons, same, differ]
      next =>
        split
        next equal =>
          subst equal
          by_cases same : k = key
          · simp [same]
          · have differ : (k == key) = false := by simpa using same
            simp [List.lookup_cons, same, differ]
        next differ =>
          rw [List.lookup_cons, ih]
          by_cases at₀ : k = k₀
          · subst at₀
            simp [Ne.symm differ]
          · have other : (k == k₀) = false := by simpa using at₀
            simp [List.lookup_cons, other]

@[simp] theorem get?_insert (m : KeyMap α) (key : String) (value : α) (k : String) :
    (m.insert key value).get? k = if k = key then some value else m.get? k :=
  lookup_place key value m.entries k

@[simp] theorem get?_empty (k : String) : (empty : KeyMap α).get? k = none := rfl

end KeyMap

end Superstep
