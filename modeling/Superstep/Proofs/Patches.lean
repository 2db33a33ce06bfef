import Mathlib.Data.List.Nodup
import Superstep.Proofs.Maps
import Superstep.Run.State

/-! # What patches change

Every field of a state has its own rule, so it is read off a patch by itself. The
outputs, the metadata and the attempts are maps, and what they hold under a key is
what the last patch wrote there. Patches of which at most one writes under a key can
therefore be applied in any order, as far as that key is concerned.
-/

namespace Superstep

/-- Among items of which at most one gives something, it makes no difference in which
    order they are looked through. -/
theorem findSome?_perm {α β : Type} {f : α → Option β} {xs ys : List α}
    (once : xs.Pairwise fun a b => f a = none ∨ f b = none) (shuffled : xs.Perm ys) :
    xs.findSome? f = ys.findSome? f := by
  induction shuffled with
  | nil => rfl
  | cons a _ ih => rw [List.findSome?_cons, List.findSome?_cons, ih once.of_cons]
  | swap a b rest =>
      have apart := List.rel_of_pairwise_cons once List.mem_cons_self
      rcases apart with silent | silent <;>
        simp only [List.findSome?_cons, silent]
  | trans first _ ih₁ ih₂ =>
      have symmetric {a b : α} (apart : f a = none ∨ f b = none) : f b = none ∨ f a = none :=
        apart.symm
      rw [ih₁ once, ih₂ ((first.pairwise_iff symmetric).1 once)]

namespace State

variable (s : State) (p : Patch) (id : String)

theorem outputs_apply : (s.apply p).outputs = (s.patchOutputs p).outputs := rfl

@[simp] theorem error_apply : (s.apply p).error = p.error := rfl

@[simp] theorem currentNode_apply : (s.apply p).currentNode = some p.nodeId := rfl

@[simp] theorem prompt_apply : (s.apply p).prompt = s.prompt := by
  unfold apply patchOutputs
  cases p.output <;> rfl

@[simp] theorem metadata_apply :
    (s.apply p).metadata = s.metadata.insertAll p.metadata.entries := by
  unfold apply patchOutputs
  cases p.output <;> rfl

@[simp] theorem attempts_apply :
    (s.apply p).attempts = s.attempts.insert p.nodeId p.attempt := by
  unfold apply patchOutputs
  cases p.output <;> rfl

@[simp] theorem attemptsOf_apply :
    (s.apply p).attemptsOf id = if id = p.nodeId then p.attempt else s.attemptsOf id := by
  unfold attemptsOf
  rw [attempts_apply, KeyMap.get?_insert]
  split <;> rfl

@[simp] theorem get?_apply :
    (s.apply p).outputs.get? id =
      if p.nodeId = id then p.output.or (s.outputs.get? id) else s.outputs.get? id := by
  rw [outputs_apply, patchOutputs]
  cases p.output with
  | none => simp
  | some output => simp [eq_comm]

@[simp] theorem contains_apply :
    (s.apply p).outputs.contains id =
      (decide (p.nodeId = id) && p.succeeded || s.outputs.contains id) := by
  rw [outputs_apply, patchOutputs, Patch.succeeded]
  cases p.output with
  | none => simp
  | some output => simp [Outputs.contains_insert, eq_comm]

theorem ids_apply : (s.apply p).outputs.ids =
    s.outputs.ids ++ if p.succeeded && !s.outputs.contains p.nodeId then [p.nodeId] else [] := by
  rw [outputs_apply, patchOutputs, Patch.succeeded]
  cases p.output with
  | none => simp
  | some output =>
      rw [Outputs.ids_insert]
      cases s.outputs.contains p.nodeId <;> rfl

/-! ## Many patches -/

theorem applyAll_append (s : State) (ps qs : List Patch) :
    s.applyAll (ps ++ qs) = (s.applyAll ps).applyAll qs :=
  List.foldl_append

/-- The last of many patches decides about the error and the current node. -/
theorem last_applyAll (s : State) {ps : List Patch} {p : Patch} (last : ps.getLast? = some p) :
    (s.applyAll ps).error = p.error ∧ (s.applyAll ps).currentNode = some p.nodeId := by
  obtain ⟨earlier, rfl⟩ := List.getLast?_eq_some_iff.1 last
  rw [applyAll_append]
  exact ⟨rfl, rfl⟩

end State

/-! ## One value of a state -/

/-- One value of a state, which a patch either writes or leaves as it is. -/
structure Cell (α : Type) where
  read : State → Option α
  write : Patch → Option α
  read_apply : ∀ s p, read (s.apply p) = (write p).or (read s)

namespace Cell

/-- The output of a node. -/
def output (id : String) : Cell String where
  read s := s.outputs.get? id
  write p := if p.nodeId = id then p.output else none
  read_apply s p := by
    rw [State.get?_apply]
    split <;> rfl

/-- The metadata under a key. -/
def metadata (key : String) : Cell Json.Value where
  read s := s.metadata.get? key
  write p := p.metadata.get? key
  read_apply s p := by rw [State.metadata_apply, KeyMap.get?_merge]

/-- The attempts of a node. -/
def attempts (id : String) : Cell Nat where
  read s := s.attempts.get? id
  write p := if p.nodeId = id then some p.attempt else none
  read_apply s p := by
    rw [State.attempts_apply, KeyMap.get?_insert]
    by_cases own : p.nodeId = id
    · simp [own]
    · simp [own, Ne.symm own]

theorem nodeId_of_output {id : String} {p : Patch} (written : ((output id).write p).isSome) :
    p.nodeId = id := by
  by_contra other
  simp [output, other] at written

theorem nodeId_of_attempts {id : String} {p : Patch} (written : ((attempts id).write p).isSome) :
    p.nodeId = id := by
  by_contra other
  simp [attempts, other] at written

variable {α : Type} (c : Cell α) {s : State} {ps : List Patch}

/-- A cell holds what the last patch wrote that wrote into it. -/
theorem read_applyAll (s : State) (ps : List Patch) :
    c.read (s.applyAll ps) = (ps.reverse.findSome? c.write).or (c.read s) := by
  unfold State.applyAll
  induction ps generalizing s with
  | nil => rfl
  | cons p rest ih =>
      have alone : [p].findSome? c.write = c.write p := List.findSome?_singleton
      rw [List.foldl_cons, ih, c.read_apply, List.reverse_cons, List.findSome?_append, alone,
        Option.or_assoc]

/-- Patches of which at most one writes into a cell leave the same in it in any order. -/
theorem read_applyAll_perm (s : State) {qs : List Patch}
    (once : ps.Pairwise fun p q => c.write p = none ∨ c.write q = none) (shuffled : ps.Perm qs) :
    c.read (s.applyAll ps) = c.read (s.applyAll qs) := by
  rw [read_applyAll, read_applyAll]
  congr 1
  have backwards := ps.reverse_perm.trans (shuffled.trans qs.reverse_perm.symm)
  apply findSome?_perm _ backwards
  exact List.pairwise_reverse.2 (once.imp Or.symm)

theorem read_applyAll_of_silent (silent : ∀ p ∈ ps, c.write p = none) :
    c.read (s.applyAll ps) = c.read s := by
  have nothing : ps.reverse.findSome? c.write = none :=
    List.findSome?_eq_none_iff.2 fun p member => silent p (List.mem_reverse.1 member)
  rw [read_applyAll, nothing, Option.none_or]

theorem read_applyAll_of_only {p : Patch} (member : p ∈ ps)
    (only : ∀ q ∈ ps, q ≠ p → c.write q = none) :
    c.read (s.applyAll ps) = (c.write p).or (c.read s) := by
  rw [read_applyAll]
  congr 1
  cases found : ps.reverse.findSome? c.write with
  | none => exact (List.findSome?_eq_none_iff.1 found p (List.mem_reverse.2 member)).symm
  | some a =>
      obtain ⟨q, among, written⟩ := List.exists_of_findSome?_eq_some found
      by_cases same : q = p
      · rw [← same, written]
      · rw [only q (List.mem_reverse.1 among) same] at written
        cases written

end Cell

namespace State

variable {s : State} {ps : List Patch} {id : String}

/-- Of patches of different nodes only one is about a node. -/
theorem other_of_nodup (distinct : (ps.map Patch.nodeId).Nodup) {p q : Patch} (left : p ∈ ps)
    (right : q ∈ ps) (differ : q ≠ p) : q.nodeId ≠ p.nodeId :=
  fun same => differ (List.inj_on_of_nodup_map distinct right left same)

theorem get?_applyAll_other (others : ∀ p ∈ ps, p.nodeId ≠ id) :
    (s.applyAll ps).outputs.get? id = s.outputs.get? id :=
  (Cell.output id).read_applyAll_of_silent fun p member => if_neg (others p member)

/-- Among patches of different nodes each one decides about the output of its node. -/
theorem get?_applyAll (distinct : (ps.map Patch.nodeId).Nodup) {p : Patch} (member : p ∈ ps) :
    (s.applyAll ps).outputs.get? p.nodeId = p.output.or (s.outputs.get? p.nodeId) := by
  have own : (Cell.output p.nodeId).write p = p.output := if_pos rfl
  rw [← own]
  exact (Cell.output p.nodeId).read_applyAll_of_only member fun q among differ =>
    if_neg (other_of_nodup distinct member among differ)

theorem attemptsOf_applyAll_other (others : ∀ p ∈ ps, p.nodeId ≠ id) :
    (s.applyAll ps).attemptsOf id = s.attemptsOf id :=
  congrArg (·.getD 0) ((Cell.attempts id).read_applyAll_of_silent fun p member =>
    if_neg (others p member))

/-- Among patches of different nodes each one tells the attempts of its node. -/
theorem attemptsOf_applyAll (distinct : (ps.map Patch.nodeId).Nodup) {p : Patch}
    (member : p ∈ ps) : (s.applyAll ps).attemptsOf p.nodeId = p.attempt := by
  have own : (Cell.attempts p.nodeId).write p = some p.attempt := if_pos rfl
  have counted := (Cell.attempts p.nodeId).read_applyAll_of_only (s := s) member fun q among
    differ => if_neg (other_of_nodup distinct member among differ)
  rw [own] at counted
  exact congrArg (·.getD 0) counted

/-- A node has an output if it had one or one of the patches is its success. -/
theorem contains_applyAll (s : State) (ps : List Patch) (id : String) :
    (s.applyAll ps).outputs.contains id =
      (ps.any (fun p => decide (p.nodeId = id) && p.succeeded) || s.outputs.contains id) := by
  unfold applyAll
  induction ps generalizing s with
  | nil => rfl
  | cons p rest ih =>
      rw [List.foldl_cons, ih, contains_apply, List.any_cons, Bool.or_assoc, Bool.or_left_comm]

/-- Patches of different nodes add the nodes that have not had an output to those that
    have, in the order of their first successes. -/
theorem ids_applyAll (distinct : (ps.map Patch.nodeId).Nodup) :
    (s.applyAll ps).outputs.ids = s.outputs.ids ++
      (ps.filter fun p => p.succeeded && !s.outputs.contains p.nodeId).map Patch.nodeId := by
  induction ps generalizing s with
  | nil => simp [applyAll]
  | cons p rest ih =>
      rw [List.map_cons, List.nodup_cons] at distinct
      -- The other patches find of the outputs what they would have found without this one.
      have unseen : rest.filter (fun q => q.succeeded && !(s.apply p).outputs.contains q.nodeId) =
          rest.filter fun q => q.succeeded && !s.outputs.contains q.nodeId := by
        apply List.filter_congr
        intro q among
        have other : ¬ p.nodeId = q.nodeId := fun same =>
          distinct.1 (List.mem_map.2 ⟨q, among, same.symm⟩)
        simp [other]
      have step : s.applyAll (p :: rest) = (s.apply p).applyAll rest := rfl
      rw [step, ih distinct.2, unseen, ids_apply, List.append_assoc, List.filter_cons]
      split <;> simp

end State

end Superstep
