import Superstep.Proofs.Mirrors
import Superstep.Proofs.Promises
import Superstep.Proofs.Runs
import Superstep.Proofs.Staffing

/-! # Logs of executors

To speak about what executors are asked to do, a pool is watched: whenever one of its
executors has to open its session or to answer a call, this is written into a log
beside the world. Watching changes nothing else: whatever is done with a pool, the
watched pool does the same, with the same results. Runs log nothing but sessions and
calls of their own, whoever makes the calls.
-/

namespace Superstep

variable {σ : Type}

/-- Something that the executor of a key was asked to do. -/
inductive Deed where
  | opened (key : String) (result : Except Failure Unit)
  /-- Opening the session ended in a crash. -/
  | crashed (key : String)
  | executed (key : String) (call : Call)

namespace Deed

def key : Deed → String
  | .opened key _ | .crashed key | .executed key _ => key

/-- What is logged when an executor is asked to open its session. -/
def ofSession (key : String) : Option (Except Failure Unit) → Deed
  | some result => .opened key result
  | none => .crashed key

@[simp] theorem key_ofSession (key : String) (result : Option (Except Failure Unit)) :
    (ofSession key result).key = key := by
  cases result <;> rfl

@[simp] theorem ofSession_eq_opened_iff {key other : String} {result : Option (Except Failure Unit)}
    {r : Except Failure Unit} :
    ofSession key result = .opened other r ↔ key = other ∧ result = some r := by
  cases result <;> simp [ofSession]

end Deed

/-- A world, and what executors have done in it, in order. -/
structure Logged (σ : Type) where
  world : σ
  log : List Deed

/-- The same conduct in a world with a log, which it leaves alone. -/
def Conduct.logged {n : Nat} : Conduct σ n → Conduct (Logged σ) n
  | .answer result => .answer result
  | .crash => .crash
  | .wait ms effect resume fewer =>
      .wait ms (fun u => { u with world := effect u.world }) (fun u => (resume u.world).logged)
        fewer

/-- The executor whose deeds are logged under a key. -/
def Executor.watched (key : String) (e : Executor σ) : Executor (Logged σ) where
  name := e.name
  openSession u :=
    let (world, result) := e.openSession u.world
    (⟨world, u.log ++ [.opened key result]⟩, result)
  sessionCrash u := (e.sessionCrash u.world).map fun world => ⟨world, u.log ++ [.crashed key]⟩
  waits := e.waits
  execute call u :=
    let (world, conduct) := e.execute call u.world
    (⟨world, u.log ++ [.executed key call]⟩, conduct.logged)

theorem Executor.openSession_watched (key : String) (e : Executor σ) (u : Logged σ) :
    (e.watched key).openSession u =
      (⟨(e.openSession u.world).1, u.log ++ [.opened key (e.openSession u.world).2]⟩,
        (e.openSession u.world).2) :=
  rfl

theorem Executor.sessionCrash_watched (key : String) (e : Executor σ) (u : Logged σ) :
    (e.watched key).sessionCrash u =
      (e.sessionCrash u.world).map fun world => ⟨world, u.log ++ [.crashed key]⟩ :=
  rfl

namespace KeyMap

variable {α β : Type}

/-- Change every value as its key tells. -/
def mapKeyed (f : String → α → β) (m : KeyMap α) : KeyMap β :=
  ⟨m.entries.map fun e => (e.1, f e.1 e.2), by
    rw [List.pairwise_map]
    exact m.increasing⟩

theorem get?_mapKeyed (f : String → α → β) (m : KeyMap α) (key : String) :
    (m.mapKeyed f).get? key = (m.get? key).map (f key) := by
  have found (entries : List (String × α)) :
      (entries.map fun e => (e.1, f e.1 e.2)).lookup key = (entries.lookup key).map (f key) := by
    induction entries with
    | nil => rfl
    | cons first rest ih =>
        rw [List.map_cons, List.lookup_cons, List.lookup_cons, ih]
        cases same : key == first.1 with
        | true =>
            rw [eq_of_beq same]
            rfl
        | false => rfl
  exact found m.entries

end KeyMap

namespace Site

def plain (site : Site (Logged σ)) : Site σ :=
  ⟨site.opened, site.world.world⟩

/-- Let the executor of a key open its session. A crash leaves no result. -/
def ask (key : String) (e : Executor σ) (site : Site σ) :
    Site σ × Option (Except Failure Unit) :=
  match e.sessionCrash site.world with
  | some world => (⟨site.opened, world⟩, none)
  | none =>
      match e.openSession site.world with
      | (world, .ok ()) => (⟨site.opened ++ [key], world⟩, some (.ok ()))
      | (world, .error cause) => (⟨site.opened, world⟩, some (.error cause))

theorem ask_opened (key : String) (e : Executor σ) (site : Site σ) :
    (site.ask key e).1.opened =
      if (site.ask key e).2 = some (.ok ()) then site.opened ++ [key] else site.opened := by
  unfold ask
  cases e.sessionCrash site.world with
  | some world => rfl
  | none => rcases e.openSession site.world with ⟨world, _ | _⟩ <;> simp

theorem ask_watched (key label : String) (e : Executor σ) (site : Site (Logged σ)) :
    (site.ask key (e.watched label)).1.plain = (site.plain.ask key e).1 ∧
      (site.ask key (e.watched label)).2 = (site.plain.ask key e).2 := by
  simp only [ask, plain, Executor.openSession_watched, Executor.sessionCrash_watched]
  cases e.sessionCrash site.world.world with
  | some world => exact ⟨rfl, rfl⟩
  | none => rcases e.openSession site.world.world with ⟨world, _ | _⟩ <;> exact ⟨rfl, rfl⟩

theorem log_ask (key label : String) (e : Executor σ) (site : Site (Logged σ)) :
    (site.ask key (e.watched label)).1.world.log =
      site.world.log ++ [.ofSession label (site.ask key (e.watched label)).2] := by
  simp only [ask, Executor.openSession_watched, Executor.sessionCrash_watched]
  cases e.sessionCrash site.world.world with
  | some world => rfl
  | none => rcases e.openSession site.world.world with ⟨world, _ | _⟩ <;> rfl

end Site

namespace Pool

/-- The pool in which every executor is watched. -/
def watched (p : Pool σ) : Pool (Logged σ) :=
  ⟨p.executors.mapKeyed Executor.watched, p.fallback⟩

/-- The executor that is used for a task type, together with its key. -/
def find (p : Pool σ) (taskType : String) : Except Failure (String × Executor σ) :=
  match p.provider? taskType with
  | some found => .ok found
  | none => .error (.unknownTaskType taskType)

variable {p : Pool σ}

theorem resolve_eq (taskType : String) : p.resolve taskType = (p.find taskType).map Prod.snd := by
  unfold resolve find
  cases p.provider? taskType <;> rfl

/-- A task type has its own key, or that of the default one. -/
theorem find_ok {taskType key : String} {e : Executor σ} (found : p.find taskType = .ok (key, e)) :
    p.get? key = some e ∧
      (key = taskType ∨ p.get? taskType = none ∧ p.fallback = some key) := by
  unfold find provider? at found
  cases own : p.get? taskType with
  | some other =>
      simp only [own, Except.ok.injEq, Prod.mk.injEq] at found
      obtain ⟨rfl, rfl⟩ := found
      exact ⟨own, .inl rfl⟩
  | none =>
      cases standby : p.fallback with
      | none => simp [own, standby] at found
      | some other =>
          cases stands : p.get? other with
          | none => simp [own, standby, stands] at found
          | some e' =>
              simp only [own, standby, stands, Option.bind_eq_bind, Option.bind_some,
                Except.ok.injEq, Prod.mk.injEq] at found
              obtain ⟨rfl, rfl⟩ := found
              exact ⟨stands, .inr ⟨rfl, rfl⟩⟩

theorem find_error {taskType : String} {cause : Failure}
    (missing : p.find taskType = .error cause) : cause = .unknownTaskType taskType := by
  unfold find at missing
  split at missing
  · cases missing
  · exact (Except.error.inj missing).symm

theorem provider?_watched (taskType : String) :
    p.watched.provider? taskType =
      (p.provider? taskType).map fun found => (found.1, found.2.watched found.1) := by
  have get? (key : String) : p.watched.get? key = (p.get? key).map (Executor.watched key) :=
    KeyMap.get?_mapKeyed _ _ _
  unfold provider?
  rw [get? taskType]
  cases p.get? taskType with
  | some e => rfl
  | none =>
      rw [show p.watched.fallback = p.fallback from rfl]
      cases p.fallback with
      | none => rfl
      | some standby =>
          simp only [Option.map_none, Option.bind_eq_bind, Option.bind_some, get?]
          cases p.get? standby <;> rfl

theorem find_watched (taskType : String) :
    p.watched.find taskType =
      (p.find taskType).map fun found => (found.1, found.2.watched found.1) := by
  unfold find
  rw [provider?_watched]
  cases p.provider? taskType <;> rfl

theorem resolve_watched (taskType : String) :
    p.watched.resolve taskType =
      (p.find taskType).map fun found => found.2.watched found.1 := by
  rw [resolve_eq, find_watched]
  cases p.find taskType <;> rfl

/-! ## Sessions -/

/-- All that can come of opening the session for a task type. -/
def openOne (p : Pool σ) (taskType : String) (site : Site σ) :
    Site σ × Option (Except Failure Unit) :=
  match p.find taskType with
  | .error cause => (site, some (.error cause))
  | .ok (key, e) => if key ∈ site.opened then (site, some (.ok ())) else site.ask key e

theorem openAll_cons (taskType : String) (rest : List String) (site : Site σ) :
    p.openAll (taskType :: rest) site =
      match p.openOne taskType site with
      | (reached, some (.ok ())) => p.openAll rest reached
      | (reached, some (.error cause)) => (reached, some (.error cause))
      | (reached, none) => (reached, none) := by
  unfold openAll openOne find
  rw [sessionsCrash, openSessions, sessionCrash, openSession]
  cases p.provider? taskType with
  | none => rfl
  | some provider =>
      obtain ⟨key, e⟩ := provider
      by_cases opened : key ∈ site.opened
      · simp only [if_pos opened]
      · simp only [if_neg opened, Site.ask]
        cases e.sessionCrash site.world with
        | some world => rfl
        | none => rcases e.openSession site.world with ⟨world, _ | _⟩ <;> rfl

theorem openAll_singleton (taskType : String) (site : Site σ) :
    p.openAll [taskType] site = p.openOne taskType site := by
  rw [openAll_cons]
  rcases p.openOne taskType site with ⟨reached, _ | _ | _⟩ <;> rfl

/-- A pool finds the executors of another one, watched under labels of their keys. -/
def Watches (label : String → String) (u : Pool (Logged σ)) (p : Pool σ) : Prop :=
  ∀ taskType, u.find taskType =
    (p.find taskType).map fun found => (found.1, found.2.watched (label found.1))

section

variable {label : String → String} {u : Pool (Logged σ)}

theorem plain_openOne (watches : u.Watches label p) (taskType : String)
    (site : Site (Logged σ)) :
    (u.openOne taskType site).1.plain = (p.openOne taskType site.plain).1 ∧
      (u.openOne taskType site).2 = (p.openOne taskType site.plain).2 := by
  rw [openOne, openOne, watches]
  cases p.find taskType with
  | error cause => exact ⟨rfl, rfl⟩
  | ok found =>
      simp only [Except.map]
      by_cases opened : found.1 ∈ site.opened
      · have plain : found.1 ∈ site.plain.opened := opened
        rw [if_pos opened, if_pos plain]
        exact ⟨rfl, rfl⟩
      · have plain : found.1 ∉ site.plain.opened := opened
        rw [if_neg opened, if_neg plain]
        exact Site.ask_watched found.1 _ found.2 site

theorem plain_openAll (watches : u.Watches label p) (taskTypes : List String)
    (site : Site (Logged σ)) :
    (u.openAll taskTypes site).1.plain = (p.openAll taskTypes site.plain).1 ∧
      (u.openAll taskTypes site).2 = (p.openAll taskTypes site.plain).2 := by
  induction taskTypes generalizing site with
  | nil => exact ⟨rfl, rfl⟩
  | cons taskType rest ih =>
      obtain ⟨sites, results⟩ := plain_openOne watches taskType site
      rw [openAll_cons, openAll_cons]
      rcases one : u.openOne taskType site with ⟨after, result⟩
      rcases other : p.openOne taskType site.plain with ⟨after', result'⟩
      rw [one, other] at sites results
      obtain rfl : after.plain = after' := sites
      obtain rfl : result = result' := results
      rcases result with _ | cause | _
      · exact ⟨rfl, rfl⟩
      · exact ⟨rfl, rfl⟩
      · exact ih after

end

theorem watches_watched (p : Pool σ) : p.watched.Watches id p :=
  fun _ => find_watched _

end Pool

/-! ## Calls -/

theorem Conduct.mirrors_logged {n : Nat} (c : Conduct σ n) :
    c.logged.Mirrors (fun u v => u.world = v) c := by
  induction c with
  | answer result => exact .answer result
  | crash => exact .crash
  | wait ms effect resume fewer ih =>
      rw [logged]
      refine .wait ?_ ?_
      · rintro u _ rfl
        rfl
      · rintro u _ rfl
        exact ih u.world

/-- A watched executor does what it does anyway. -/
theorem Executor.mirrors_watched (key : String) (e : Executor σ) :
    (e.watched key).Mirrors (fun u v => u.world = v) e := by
  rintro call u _ rfl
  exact ⟨rfl, Conduct.mirrors_logged _⟩

theorem Pool.worker_watched (cap : Nat) :
    (Pool.worker cap).Mirrors (fun (t : Site (Logged σ)) t' => t.plain = t') (fun _ => True)
      (fun found : String × Executor σ => found.2.watched found.1) Prod.snd (Pool.worker cap) := by
  rintro jobs _ t _ rfl
  have alike : List.Forall₂ (Job.Mirrors fun u v => u.world = v)
      (jobs.map (.staffed fun found => found.2.watched found.1))
      (jobs.map (.staffed Prod.snd)) := by
    rw [List.forall₂_map_left_iff, List.forall₂_map_right_iff, List.forall₂_same]
    exact fun job _ => ⟨rfl, Executor.mirrors_watched _ _⟩
  have start : t.world.world = t.plain.world := rfl
  obtain ⟨told, kept⟩ := Pool.worker_mirrors cap alike start
  exact ⟨told, congrArg (Site.mk t.opened) kept⟩

/-- Nothing has been logged behind a base but calls of executors with some of the keys. -/
def Logged.Calls (keys : List String) (base : List Deed) (u : Logged σ) : Prop :=
  ∃ calls : List (String × Call),
    u.log = base ++ calls.map (fun c => .executed c.1 c.2) ∧ ∀ c ∈ calls, c.1 ∈ keys

/-- From a site on, nothing has been done but calls of executors with some of the keys. -/
structure Site.Calls (keys : List String) (site t : Site (Logged σ)) : Prop where
  opened : t.opened = site.opened
  log : Logged.Calls keys site.world.log t.world

theorem Site.Calls.refl (keys : List String) (site : Site (Logged σ)) :
    Site.Calls keys site site :=
  ⟨rfl, [], by simp, nofun⟩

section

variable {keys : List String} {base : List Deed}

theorem Conduct.keepsIn_logged {n : Nat} (c : Conduct σ n) :
    c.logged.KeepsIn (Logged.Calls keys base) (fun _ => True) True := by
  induction c with
  | answer | crash => trivial
  | wait ms effect resume fewer ih => exact fun u calls => ⟨calls, ih u.world⟩

/-- All that a watched executor logs when it answers a call is this call. -/
theorem Executor.showsIn_watched {key : String} (known : key ∈ keys) (e : Executor σ) :
    (e.watched key).ShowsIn (Logged.Calls keys base) .any := by
  rintro call u ⟨calls, log, among⟩
  refine ⟨⟨calls ++ [(key, call)], by simp [watched, log], ?_⟩, Conduct.keepsIn_logged _⟩
  intro c member
  rcases List.mem_append.1 member with old | new
  · exact among c old
  · rw [List.mem_singleton.1 new]
    exact known

/-- Whoever makes the calls of watched executors, they are all that is logged. -/
theorem Worker.Schedules.calls {worker : Worker (Site (Logged σ)) (Executor (Logged σ))}
    {cap : Nat} {inOrder : Prop} (schedules : worker.Schedules cap inOrder)
    (site : Site (Logged σ)) :
    worker.Mirrors (fun t t' => t = t' ∧ Site.Calls keys site t)
      (fun found : String × Executor σ => found.1 ∈ keys) (fun found => found.2.watched found.1)
      (fun found => found.2.watched found.1) worker := by
  rintro jobs known t _ ⟨rfl, opened, log⟩
  refine ⟨rfl, rfl, ?_⟩
  have watched : ∀ job ∈ jobs.map (Job.staffed fun found => found.2.watched found.1),
      job.executor.ShowsIn (Logged.Calls keys site.world.log) .any := by
    intro job member
    obtain ⟨own, among, rfl⟩ := List.mem_map.1 member
    exact Executor.showsIn_watched (known own among) own.executor.2
  obtain ⟨calls, same, _⟩ := schedules.showsIn watched log
  exact ⟨same.trans opened, calls⟩

end

namespace Pool

variable {p : Pool σ} {settings : EngineSettings} {w : Workflow}

section

variable {κ : Type} {worker : Worker (Site σ) (Executor σ)} {find : String → Except Failure κ}
  {f : κ → Executor σ} {g : Graph κ} {site mid : Site σ}

theorem prepare_of_uncompiled (resolves : ∀ taskType, p.resolve taskType = (find taskType).map f)
    {cause : Failure} (failed : Graph.compile find w = .error cause) :
    (p.engineWith settings worker).startCrash w site = none ∧
      (p.engineWith settings worker).prepare w site = (site, .error cause) := by
  rw [Engine.startCrash_staffed resolves, Engine.prepare_staffed resolves, failed]
  exact ⟨rfl, rfl⟩

theorem startCrash_of_openAll (resolves : ∀ taskType, p.resolve taskType = (find taskType).map f)
    (compiled : Graph.compile find w = .ok g)
    (opened : p.openAll g.taskTypes site = (mid, none)) :
    (p.engineWith settings worker).startCrash w site = some mid := by
  rw [Engine.startCrash_staffed resolves, compiled]
  unfold openAll at opened
  cases crashed : p.sessionsCrash g.taskTypes site with
  | some left =>
      rw [crashed] at opened
      cases opened
      exact crashed
  | none =>
      rw [crashed] at opened
      cases opened

theorem prepare_of_openAll (resolves : ∀ taskType, p.resolve taskType = (find taskType).map f)
    (compiled : Graph.compile find w = .ok g) {result : Except Failure Unit}
    (opened : p.openAll g.taskTypes site = (mid, some result)) :
    (p.engineWith settings worker).startCrash w site = none ∧
      (p.engineWith settings worker).prepare w site = (mid, result.map fun _ => g.staffed f) := by
  rw [Engine.startCrash_staffed resolves, Engine.prepare_staffed resolves, compiled]
  unfold openAll at opened
  cases crashed : p.sessionsCrash g.taskTypes site with
  | some left =>
      rw [crashed] at opened
      cases opened
  | none =>
      rw [crashed] at opened
      cases opened
      exact ⟨crashed, rfl⟩

end

/-- A run of a watched pool opens the sessions for task types of the workflow, and if it
    calls executors, these sessions are open. It does nothing else, whoever makes the
    calls. -/
theorem run?_calls (p : Pool σ) (settings : EngineSettings) (w : Workflow)
    {worker : Worker (Site (Logged σ)) (Executor (Logged σ))} {cap : Nat} {inOrder : Prop}
    (schedules : worker.Schedules cap inOrder) (runId prompt : String) (given : Metadata)
    (site : Site (Logged σ)) :
    ∃ taskTypes, (∀ taskType ∈ taskTypes, ∃ n ∈ w.nodes, n.taskType = taskType) ∧
      ∃ keys, (∀ key ∈ keys, (p.watched.openAll taskTypes site).2 = some (.ok ()) ∧
          ∃ taskType ∈ taskTypes, ∃ e, p.find taskType = .ok (key, e)) ∧
        Site.Calls keys (p.watched.openAll taskTypes site).1
          ((p.watched.engineWith settings worker).run? w runId prompt given site).1 := by
  cases compiled : Graph.compile p.find w with
  | error cause =>
      obtain ⟨calm, failed⟩ := prepare_of_uncompiled resolve_watched compiled
      refine ⟨[], nofun, [], nofun, ?_⟩
      rw [Engine.run?_of_error calm failed]
      exact .refl [] site
  | ok g =>
      refine ⟨g.taskTypes, fun _ => (Graph.mem_taskTypes_compile compiled).1, ?_⟩
      rcases opened : p.watched.openAll g.taskTypes site with ⟨mid, _ | cause | _⟩
      · rw [Engine.run?_of_crash (startCrash_of_openAll resolve_watched compiled opened)]
        exact ⟨[], nofun, .refl [] mid⟩
      · obtain ⟨calm, failed⟩ := prepare_of_openAll resolve_watched compiled opened
        rw [Engine.run?_of_error calm failed]
        exact ⟨[], nofun, .refl [] mid⟩
      · obtain ⟨calm, prepared⟩ := prepare_of_openAll resolve_watched compiled opened
        refine ⟨g.stations.entries.map fun e => e.2.executor.1, ?_, ?_⟩
        · intro key member
          obtain ⟨e, listed, rfl⟩ := List.mem_map.1 member
          obtain ⟨_, node, found, _⟩ := Graph.station_of_compile compiled listed
          exact ⟨rfl, _, (Graph.mem_taskTypes_compile compiled).2 ⟨_, node, rfl⟩, _, found⟩
        · have staff : ∀ e ∈ g.stations.entries,
              e.2.executor.1 ∈ g.stations.entries.map fun e => e.2.executor.1 :=
            fun e listed => List.mem_map.2 ⟨e, listed, rfl⟩
          exact (Engine.run?_mirrors calm calm prepared prepared rfl (schedules.calls mid) staff
            ⟨rfl, .refl _ mid⟩ runId prompt given).2.2

/-- A run of a watched pool is the run of the pool. -/
theorem run?_watched (settings : EngineSettings) (w : Workflow) (runId prompt : String)
    (given : Metadata) (site : Site (Logged σ)) :
    ((p.watched.engine settings).run? w runId prompt given site).1.plain =
        ((p.engine settings).run? w runId prompt given site.plain).1 ∧
      ((p.watched.engine settings).run? w runId prompt given site).2 =
        ((p.engine settings).run? w runId prompt given site.plain).2 := by
  have own : p.engine settings = p.engineWith settings (worker settings.maxConcurrency) := rfl
  have watched : p.watched.engine settings =
      p.watched.engineWith settings (worker settings.maxConcurrency) := rfl
  rw [own, watched]
  cases compiled : Graph.compile p.find w with
  | error cause =>
      obtain ⟨calm, failed⟩ := prepare_of_uncompiled resolve_watched compiled
      obtain ⟨calm', failed'⟩ := prepare_of_uncompiled resolve_eq compiled
      rw [Engine.run?_of_error calm failed, Engine.run?_of_error calm' failed']
      exact ⟨rfl, rfl⟩
  | ok g =>
      obtain ⟨sites, results⟩ := plain_openAll p.watches_watched g.taskTypes site
      rcases opened : p.watched.openAll g.taskTypes site with ⟨mid, result⟩
      rcases opened' : p.openAll g.taskTypes site.plain with ⟨mid', result'⟩
      rw [opened, opened'] at sites results
      obtain rfl : mid.plain = mid' := sites
      obtain rfl : result = result' := results
      rcases result with _ | cause | _
      · rw [Engine.run?_of_crash (startCrash_of_openAll resolve_watched compiled opened),
          Engine.run?_of_crash (startCrash_of_openAll resolve_eq compiled opened')]
        exact ⟨rfl, rfl⟩
      · obtain ⟨calm, failed⟩ := prepare_of_openAll resolve_watched compiled opened
        obtain ⟨calm', failed'⟩ := prepare_of_openAll resolve_eq compiled opened'
        rw [Engine.run?_of_error calm failed, Engine.run?_of_error calm' failed']
        exact ⟨rfl, rfl⟩
      · obtain ⟨calm, prepared⟩ := prepare_of_openAll resolve_watched compiled opened
        obtain ⟨calm', prepared'⟩ := prepare_of_openAll resolve_eq compiled opened'
        exact (Engine.run?_mirrors calm calm' prepared prepared' rfl
          (Pool.worker_watched settings.maxConcurrency) (fun _ _ => trivial) rfl runId prompt
          given).symm

end Pool

end Superstep
