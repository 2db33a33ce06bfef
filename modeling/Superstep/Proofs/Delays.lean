import Mathlib.Data.List.Forall2
import Superstep.Executor.Bench
import Superstep.Executor.Pool

/-! # Executors with other delays

Executors may do the same and differ in nothing but how long they pause. Stand-ins and
scripts do so whose replies are the same, whatever their delays are. Two pools of such
executors find the same for every task type, and open sessions with the same results.
-/

namespace Superstep

variable {σ τ : Type} {R : σ → τ → Prop}

/-- Two executors that do the same in related worlds and never crash, however long they
    take. -/
structure Executor.Alike (R : σ → τ → Prop) (e : Executor σ) (d : Executor τ) : Prop where
  sessions : ∀ u v, R u v →
    R (e.openSession u).1 (d.openSession v).1 ∧ (e.openSession u).2 = (d.openSession v).2
  calm : (∀ u, e.sessionCrash u = none) ∧ ∀ v, d.sessionCrash v = none
  attempts : ∀ call u v, R u v → ∃ u' v' answer, e.attempt call u = (u', some answer) ∧
    d.attempt call v = (v', some answer) ∧ R u' v'

/-! ## Ledgers -/

/-- Two slots of related worlds whose contents are related. -/
structure Slot.Alike {α β : Type} (R : σ → τ → Prop) (S : α → β → Prop) (slot : Slot σ α)
    (slot' : Slot τ β) : Prop where
  reads : ∀ u v, R u v → S (slot.read u) (slot'.read v)
  writes : ∀ a b u v, S a b → R u v → R (slot.write a u) (slot'.write b v)

theorem Slot.Alike.update {α β : Type} {S : α → β → Prop} {slot : Slot σ α} {slot' : Slot τ β}
    (slots : slot.Alike R S slot') {f : α → α} {g : β → β}
    (kept : ∀ a b, S a b → S (f a) (g b)) {u : σ} {v : τ} (related : R u v) :
    R (slot.update f u) (slot'.update g v) :=
  slots.writes _ _ u v (kept _ _ (slots.reads u v related)) related

namespace StandIn

def note (call : Call) (ledger : Ledger) : Ledger :=
  { ledger with calls := ledger.calls ++ [call] }

end StandIn

namespace Script

/-- Two items that answer alike after some delays. -/
inductive Item.SameButDelay : Item → Item → Prop where
  | intro (delay delay' : Option Nat) (answer : Answer) :
      SameButDelay ⟨delay, some answer⟩ ⟨delay', some answer⟩

/-- Two ledgers that differ in nothing but the delays of items. -/
structure Ledger.SameButDelays (ledger ledger' : Ledger) : Prop where
  sessions : ledger.sessions = ledger'.sessions
  calls : ledger.calls = ledger'.calls
  items : List.Forall₂ Item.SameButDelay ledger.items ledger'.items

def note (call : Call) (ledger : Ledger) : Ledger :=
  { ledger with calls := ledger.calls ++ [call], items := ledger.items.tail }

namespace Ledger.SameButDelays

variable {ledger ledger' : Ledger}

theorem nextItem (same : ledger.SameButDelays ledger') :
    (Script.nextItem ledger).SameButDelay (Script.nextItem ledger') := by
  have items := same.items
  unfold Script.nextItem
  generalize ledger.items = list at items
  generalize ledger'.items = list' at items
  cases items with
  | nil => exact .intro ..
  | cons first _ => exact first

theorem note (same : ledger.SameButDelays ledger') (call : Call) :
    (Script.note call ledger).SameButDelays (Script.note call ledger') where
  sessions := same.sessions
  calls := congrArg (· ++ [call]) same.calls
  items := by
    have items := same.items
    simp only [Script.note]
    generalize ledger.items = list at items
    generalize ledger'.items = list' at items
    cases items with
    | nil => exact .nil
    | cons _ rest => exact rest

end Ledger.SameButDelays

end Script

namespace Bench

/-- Two benches that differ in nothing but the delays of scripts, which never crash. -/
structure SameButDelays (bench bench' : Bench) : Prop where
  standIns : bench.standIns = bench'.standIns
  scripts : List.Forall₂ Script.Ledger.SameButDelays bench.scripts bench'.scripts

end Bench

/-! ## Pools -/

/-- Two pools with alike executors for the same task types. -/
structure Pool.Alike (R : σ → τ → Prop) (p : Pool σ) (q : Pool τ) : Prop where
  executors : ∀ taskType, Option.Rel (Executor.Alike R) (p.get? taskType) (q.get? taskType)
  fallback : p.fallback = q.fallback

/-- Two sites with the same open sessions and related worlds. -/
structure Site.Alike (R : σ → τ → Prop) (site : Site σ) (site' : Site τ) : Prop where
  opened : site.opened = site'.opened
  world : R site.world site'.world

namespace Pool

variable {p : Pool σ} {q : Pool τ}

theorem Alike.register (alike : p.Alike R q) (taskType : String) {e : Executor σ}
    {d : Executor τ} (same : e.Alike R d) :
    (p.register taskType e).Alike R (q.register taskType d) where
  executors other := by
    simp only [get?_register]
    split
    next => exact .some same
    next => exact alike.executors other
  fallback := alike.fallback

/-- The executors that alike pools use for a task type are alike, and have the same key. -/
theorem Alike.provider? (alike : p.Alike R q) (taskType : String) :
    Option.Rel (fun found found' => found.1 = found'.1 ∧ found.2.Alike R found'.2)
      (p.provider? taskType) (q.provider? taskType) := by
  have own := alike.executors taskType
  unfold Pool.provider?
  rw [← alike.fallback]
  generalize p.get? taskType = mine at own
  generalize q.get? taskType = theirs at own
  cases own with
  | some same => exact .some ⟨rfl, same⟩
  | none =>
      cases p.fallback with
      | none => exact .none
      | some standby =>
          have stands := alike.executors standby
          simp only [Option.bind_eq_bind, Option.bind_some]
          generalize p.get? standby = mine at stands
          generalize q.get? standby = theirs at stands
          cases stands with
          | some same => exact .some ⟨rfl, same⟩
          | none => exact .none

/-- What two pools find for a task type. -/
def both (p : Pool σ) (q : Pool τ) (taskType : String) :
    Except Failure (Executor σ × Executor τ) := do
  let e ← p.resolve taskType
  let d ← q.resolve taskType
  .ok (e, d)

theorem Alike.resolve (alike : p.Alike R q) (taskType : String) :
    p.resolve taskType = (p.both q taskType).map Prod.fst ∧
      q.resolve taskType = (p.both q taskType).map Prod.snd := by
  have found := alike.provider? taskType
  unfold both Pool.resolve
  generalize p.provider? taskType = mine at found
  generalize q.provider? taskType = theirs at found
  cases found with
  | some same => exact ⟨rfl, rfl⟩
  | none => exact ⟨rfl, rfl⟩

theorem Alike.both (alike : p.Alike R q) {taskType : String}
    {found : Executor σ × Executor τ} (resolved : p.both q taskType = .ok found) :
    found.1.Alike R found.2 := by
  have provided := alike.provider? taskType
  unfold Pool.both Pool.resolve at resolved
  generalize p.provider? taskType = mine at provided resolved
  generalize q.provider? taskType = theirs at provided resolved
  cases provided with
  | some same =>
      cases resolved
      exact same.2
  | none => cases resolved

variable {site : Site σ} {site' : Site τ}

theorem Alike.openSession (alike : p.Alike R q) (taskType : String) (related : site.Alike R site') :
    (p.openSession taskType site).1.Alike R (q.openSession taskType site').1 ∧
      (p.openSession taskType site).2 = (q.openSession taskType site').2 := by
  obtain ⟨opened, world⟩ := related
  have found := alike.provider? taskType
  unfold Pool.openSession
  generalize p.provider? taskType = mine at found
  generalize q.provider? taskType = theirs at found
  cases found with
  | none => exact ⟨⟨opened, world⟩, rfl⟩
  | @some mine theirs same =>
      obtain ⟨key, e⟩ := mine
      obtain ⟨key', d⟩ := theirs
      obtain ⟨rfl, executors⟩ := same
      obtain ⟨worlds, results⟩ := executors.sessions _ _ world
      simp only [← opened]
      split
      next => exact ⟨⟨opened, world⟩, rfl⟩
      next =>
        rcases one : e.openSession site.world with ⟨u, result⟩
        rcases other : d.openSession site'.world with ⟨v, result'⟩
        rw [one, other] at worlds results
        obtain rfl : result = result' := results
        cases result <;> exact ⟨⟨rfl, worlds⟩, rfl⟩

/-- Alike pools open sessions with the same results. -/
theorem Alike.openSessions (alike : p.Alike R q) (taskTypes : List String)
    (related : site.Alike R site') :
    (p.openSessions taskTypes site).1.Alike R (q.openSessions taskTypes site').1 ∧
      (p.openSessions taskTypes site).2 = (q.openSessions taskTypes site').2 := by
  induction taskTypes generalizing site site' with
  | nil => exact ⟨related, rfl⟩
  | cons taskType rest ih =>
      obtain ⟨sites, results⟩ := alike.openSession taskType related
      rw [Pool.openSessions, Pool.openSessions]
      rcases one : p.openSession taskType site with ⟨after, result⟩
      rcases other : q.openSession taskType site' with ⟨after', result'⟩
      rw [one, other] at sites results
      obtain rfl : result = result' := results
      cases result with
      | ok _ => exact ih sites
      | error cause => exact ⟨sites, rfl⟩

/-- No session of alike pools crashes. -/
theorem Alike.calm (alike : p.Alike R q) (taskTypes : List String) (site : Site σ)
    (site' : Site τ) :
    p.sessionsCrash taskTypes site = none ∧ q.sessionsCrash taskTypes site' = none := by
  constructor
  · refine sessionsCrash_eq_none (fun taskType _ e resolved => ?_) site
    have found := alike.provider? taskType
    unfold Pool.resolve at resolved
    generalize p.provider? taskType = mine at found resolved
    generalize q.provider? taskType = theirs at found
    cases found with
    | some same =>
        cases resolved
        exact same.2.calm.1
    | none => cases resolved
  · refine sessionsCrash_eq_none (fun taskType _ d resolved => ?_) site'
    have found := alike.provider? taskType
    unfold Pool.resolve at resolved
    generalize p.provider? taskType = mine at found
    generalize q.provider? taskType = theirs at found resolved
    cases found with
    | some same =>
        cases resolved
        exact same.2.calm.2
    | none => cases resolved

end Pool

end Superstep
