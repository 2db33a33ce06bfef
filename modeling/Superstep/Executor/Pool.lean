import Superstep.Executor.Conduct

/-! # Pools of executors

A pool finds the executor of a task type. Task types without an executor of
their own use that of a default type, if there is one. Before executors are used
their sessions are opened, each once.
-/

namespace Superstep

/-- The executors by task type, and the task type of the default one. -/
structure Pool (σ : Type) where
  executors : KeyMap (Executor σ)
  fallback : Option String

/-- A world, and the task types whose sessions have been opened in it. -/
structure Site (σ : Type) where
  opened : List String
  world : σ

namespace Pool

variable {σ : Type}

def empty : Pool σ := ⟨.empty, none⟩

/-- Add an executor, in place of an earlier one for the same task type. -/
def register (p : Pool σ) (taskType : String) (e : Executor σ) : Pool σ :=
  { p with executors := p.executors.insert taskType e }

/-- Let a task type stand in for those without an executor. -/
def withDefault (p : Pool σ) (taskType : String) : Pool σ :=
  { p with fallback := some taskType }

def get? (p : Pool σ) (taskType : String) : Option (Executor σ) :=
  p.executors.get? taskType

theorem get?_register (p : Pool σ) (taskType other : String) (e : Executor σ) :
    (p.register taskType e).get? other = if other = taskType then some e else p.get? other :=
  KeyMap.get?_insert ..

/-- The task types with an executor of their own, in order. -/
def taskTypes (p : Pool σ) : List String :=
  p.executors.keys

/-- The task type whose executor is used for a task type, and that executor. -/
def provider? (p : Pool σ) (taskType : String) : Option (String × Executor σ) :=
  match p.get? taskType with
  | some e => some (taskType, e)
  | none => do
      let standby ← p.fallback
      let e ← p.get? standby
      some (standby, e)

def resolve (p : Pool σ) (taskType : String) : Except Failure (Executor σ) :=
  match p.provider? taskType with
  | some (_, e) => .ok e
  | none => .error (.unknownTaskType taskType)

/-- Open the session for a task type unless that has been done. -/
def openSession (p : Pool σ) (taskType : String) (site : Site σ) :
    Site σ × Except Failure Unit :=
  match p.provider? taskType with
  | none => (site, .error (.unknownTaskType taskType))
  | some (key, e) =>
      if key ∈ site.opened then (site, .ok ())
      else
        match e.openSession site.world with
        | (world, .ok ()) => (⟨site.opened ++ [key], world⟩, .ok ())
        | (world, .error cause) => (⟨site.opened, world⟩, .error cause)

/-- Open the sessions for task types, one after another, until one fails. This
    is what comes of it unless one of them crashes. -/
def openSessions (p : Pool σ) : List String → Site σ → Site σ × Except Failure Unit
  | [], site => (site, .ok ())
  | taskType :: rest, site =>
      match p.openSession taskType site with
      | (site, .ok ()) => p.openSessions rest site
      | (site, .error cause) => (site, .error cause)

/-- The site that is left if the session for a task type crashes. It is not taken
    down as open. -/
def sessionCrash (p : Pool σ) (taskType : String) (site : Site σ) : Option (Site σ) :=
  match p.provider? taskType with
  | none => none
  | some (key, e) =>
      if key ∈ site.opened then none
      else (e.sessionCrash site.world).map fun world => ⟨site.opened, world⟩

/-- The site that is left if one of the sessions for task types crashes while they
    are opened. -/
def sessionsCrash (p : Pool σ) : List String → Site σ → Option (Site σ)
  | [], _ => none
  | taskType :: rest, site =>
      match p.sessionCrash taskType site with
      | some left => some left
      | none =>
          match p.openSession taskType site with
          | (site, .ok ()) => p.sessionsCrash rest site
          | (_, .error _) => none

/-- All that can come of opening the sessions for task types. A crash leaves no
    result. -/
def openAll (p : Pool σ) (taskTypes : List String) (site : Site σ) :
    Site σ × Option (Except Failure Unit) :=
  match p.sessionsCrash taskTypes site with
  | some left => (left, none)
  | none =>
      let (site, result) := p.openSessions taskTypes site
      (site, some result)

/-- If the executors of task types cannot crash, opening their sessions does not. -/
theorem sessionsCrash_eq_none {p : Pool σ} {taskTypes : List String}
    (calm : ∀ taskType ∈ taskTypes, ∀ e, p.resolve taskType = .ok e →
      ∀ world, e.sessionCrash world = none) (site : Site σ) :
    p.sessionsCrash taskTypes site = none := by
  induction taskTypes generalizing site with
  | nil => rfl
  | cons taskType rest ih =>
      have one : p.sessionCrash taskType site = none := by
        unfold sessionCrash
        cases found : p.provider? taskType with
        | none => rfl
        | some provider =>
            have resolved : p.resolve taskType = .ok provider.2 := by
              simp only [resolve, found]
            simp [calm taskType List.mem_cons_self provider.2 resolved]
      rw [sessionsCrash, one]
      rcases p.openSession taskType site with ⟨reached, _ | _⟩
      · rfl
      · exact ih (fun other later => calm other (List.mem_cons_of_mem _ later)) reached

end Pool

end Superstep
