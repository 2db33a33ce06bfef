import Superstep.Json.Value

/-! # Outputs of nodes

The outputs of a run, in the order in which nodes first gave one. A later output
of the same node replaces the earlier one and keeps its place, so the last entry
belongs to the node that was the last to answer for the first time.
-/

namespace Superstep

/-- Outputs by node, in the order of the first output. -/
structure Outputs where
  entries : List (String × String)
  distinct : (entries.map Prod.fst).Nodup
  deriving DecidableEq

namespace Outputs

/-- Replace the output of an id in its place, or add it at the end. -/
def put (id output : String) : List (String × String) → List (String × String)
  | [] => [(id, output)]
  | (k, v) :: rest => if k = id then (k, output) :: rest else (k, v) :: put id output rest

/-- Putting an output changes no id and adds a new one at the end. -/
theorem ids_put (id output : String) (entries : List (String × String)) :
    (put id output entries).map Prod.fst =
      if id ∈ entries.map Prod.fst then entries.map Prod.fst
      else entries.map Prod.fst ++ [id] := by
  induction entries with
  | nil => simp [put]
  | cons head rest ih =>
      obtain ⟨k, v⟩ := head
      by_cases same : k = id
      · simp [put, same]
      · have differ : ¬ id = k := fun h => same h.symm
        by_cases member : id ∈ rest.map Prod.fst
        · simp only [put, same, if_false, List.map_cons, ih, member, if_true, List.mem_cons,
            or_true]
        · simp only [put, same, if_false, List.map_cons, ih, member, List.mem_cons, differ,
            or_self, List.cons_append]

theorem put_distinct (id output : String) {entries : List (String × String)}
    (distinct : (entries.map Prod.fst).Nodup) :
    ((put id output entries).map Prod.fst).Nodup := by
  rw [ids_put]
  split
  next => exact distinct
  next fresh =>
    refine List.nodup_append.2 ⟨distinct, by simp, ?_⟩
    intro a old b new
    rw [List.mem_singleton.1 new]
    exact fun same => fresh (same ▸ old)

def empty : Outputs := ⟨[], .nil⟩

instance : EmptyCollection Outputs := ⟨empty⟩
instance : Inhabited Outputs := ⟨empty⟩

/-- The outputs with one more, in place of an earlier one of the same node. -/
def insert (o : Outputs) (id output : String) : Outputs :=
  ⟨put id output o.entries, put_distinct id output o.distinct⟩

def insertAll (o : Outputs) (pairs : List (String × String)) : Outputs :=
  pairs.foldl (fun acc pair => acc.insert pair.1 pair.2) o

def get? (o : Outputs) (id : String) : Option String :=
  o.entries.lookup id

def contains (o : Outputs) (id : String) : Bool :=
  (o.get? id).isSome

/-- The output of the node that was the last to answer for the first time. -/
def last? (o : Outputs) : Option String :=
  o.entries.getLast?.map Prod.snd

def size (o : Outputs) : Nat :=
  o.entries.length

def isEmpty (o : Outputs) : Bool :=
  o.entries.isEmpty

/-- The ids that have an output, in order. -/
def ids (o : Outputs) : List String :=
  o.entries.map Prod.fst

def sorted (o : Outputs) : KeyMap String :=
  .ofList o.entries

def toJson (o : Outputs) : Json.Value :=
  .ofMap (o.sorted.map .string)

/-- The outputs as an object in their own order. -/
def inOrder (o : Outputs) : Json.Value :=
  .object (o.entries.map fun e => (e.1, .string e.2))

@[ext] theorem ext {o₁ o₂ : Outputs} (same : o₁.entries = o₂.entries) : o₁ = o₂ := by
  cases o₁
  cases o₂
  subst same
  rfl

/-- Look-up after putting sees the new output under its id and the old ones
    under all others. -/
theorem lookup_put (id output : String) (entries : List (String × String)) (k : String) :
    (put id output entries).lookup k = if k = id then some output else entries.lookup k := by
  induction entries with
  | nil =>
      by_cases same : k = id
      · simp [put, same]
      · have differ : (k == id) = false := by simpa using same
        simp [put, List.lookup_cons, same, differ]
  | cons head rest ih =>
      obtain ⟨k₀, v₀⟩ := head
      simp only [put]
      split
      next equal =>
        subst equal
        by_cases same : k = k₀
        · simp [same]
        · have differ : (k == k₀) = false := by simpa using same
          simp [List.lookup_cons, same, differ]
      next differ =>
        rw [List.lookup_cons, ih]
        by_cases at₀ : k = k₀
        · subst at₀
          simp [differ]
        · have other : (k == k₀) = false := by simpa using at₀
          simp [List.lookup_cons, other]

@[simp] theorem get?_insert (o : Outputs) (id output k : String) :
    (o.insert id output).get? k = if k = id then some output else o.get? k :=
  lookup_put id output o.entries k

@[simp] theorem get?_empty (k : String) : empty.get? k = none := rfl

end Outputs

end Superstep
