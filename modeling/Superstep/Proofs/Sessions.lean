import Superstep.Proofs.Logs
import Superstep.Proofs.Turns

/-! # Sessions

The sessions of a pool are opened for task types, on their own or at the beginning of
runs. In the log of any such uses, an executor is asked to open its session until it
succeeds and never again, and answers calls only after that. A crash is one more way of
not succeeding.
-/

namespace Superstep

variable {σ : Type}

/-- One use of a pool. The calls of a run may be made by any worker. -/
inductive Use (σ : Type) where
  | sessions (taskTypes : List String)
  | run (settings : EngineSettings) (worker : Worker (Site σ) (Executor σ)) (w : Workflow)
      (runId prompt : String) (given : Metadata)

/-- If calls are made, they are made side by side in some order. -/
def Use.Scheduled : Use σ → Prop
  | .sessions _ => True
  | .run _ worker _ _ _ _ => ∃ cap inOrder, worker.Schedules cap inOrder

namespace Pool

def use (p : Pool σ) (site : Site σ) : Use σ → Site σ
  | .sessions taskTypes => (p.openAll taskTypes site).1
  | .run settings worker w runId prompt given =>
      ((p.engineWith settings worker).run? w runId prompt given site).1

/-- Use a pool again and again, which nobody has used before. -/
def useAll (p : Pool σ) (world : σ) (uses : List (Use σ)) : Site σ :=
  uses.foldl p.use ⟨[], world⟩

end Pool

/-- A deed that is due when those before it have been done. A session is opened unless
    that has succeeded, and a call is answered only if it has. -/
def Deed.Due (before : List Deed) : Deed → Prop
  | .opened key _ | .crashed key => .opened key (.ok ()) ∉ before
  | .executed key _ => .opened key (.ok ()) ∈ before

def InOrder (log : List Deed) : Prop :=
  ∀ before d, before ++ [d] <+: log → d.Due before

theorem InOrder.append {log : List Deed} (inOrder : InOrder log) {d : Deed} (due : d.Due log) :
    InOrder (log ++ [d]) := by
  intro before d' part
  rcases List.prefix_concat_iff.1 part with same | earlier
  · obtain ⟨rfl, last⟩ := List.append_inj' same rfl
    obtain rfl := List.singleton_inj.1 last
    exact due
  · exact inOrder before d' earlier

theorem InOrder.append_calls {log : List Deed} (inOrder : InOrder log)
    {calls : List (String × Call)} (due : ∀ c ∈ calls, .opened c.1 (.ok ()) ∈ log) :
    InOrder (log ++ calls.map fun c => .executed c.1 c.2) := by
  induction calls generalizing log with
  | nil => simpa using inOrder
  | cons c rest ih =>
      have first := inOrder.append (d := .executed c.1 c.2) (due c List.mem_cons_self)
      have later : ∀ c' ∈ rest, .opened c'.1 (.ok ()) ∈ log ++ [.executed c.1 c.2] :=
        fun c' member => List.mem_append_left _ (due c' (List.mem_cons_of_mem _ member))
      simpa using ih first later

/-- What a site has taken down as open is what has been opened, and all was in order. -/
structure Site.Kept (site : Site (Logged σ)) : Prop where
  opened : ∀ key, key ∈ site.opened ↔ .opened key (.ok ()) ∈ site.world.log
  inOrder : InOrder site.world.log

/-- Nothing was done since but by executors with certain keys. -/
def Site.Extends (keys : String → Prop) (site later : Site (Logged σ)) : Prop :=
  ∃ more, later.world.log = site.world.log ++ more ∧ ∀ d ∈ more, keys d.key

namespace Site

variable {keys : String → Prop} {site mid later : Site (Logged σ)}

theorem Extends.refl (site : Site (Logged σ)) : Site.Extends keys site site :=
  ⟨[], by simp, nofun⟩

theorem Extends.trans (first : Site.Extends keys site mid) (second : Site.Extends keys mid later) :
    Site.Extends keys site later := by
  obtain ⟨more, log, known⟩ := first
  obtain ⟨others, log', known'⟩ := second
  refine ⟨more ++ others, by rw [log', log, List.append_assoc], ?_⟩
  intro d member
  rcases List.mem_append.1 member with old | new
  · exact known d old
  · exact known' d new

theorem Extends.imp (extends_ : Site.Extends keys site later) {keys' : String → Prop}
    (weaker : ∀ key, keys key → keys' key) : Site.Extends keys' site later := by
  obtain ⟨more, log, known⟩ := extends_
  exact ⟨more, log, fun d member => weaker _ (known d member)⟩

theorem Kept.ask (kept : site.Kept) {key : String} (e : Executor σ) (fresh : key ∉ site.opened) :
    (site.ask key (e.watched key)).1.Kept ∧
      Site.Extends (· = key) site (site.ask key (e.watched key)).1 := by
  have log := site.log_ask key key e
  have opened := site.ask_opened key (e.watched key)
  have unopened : .opened key (.ok ()) ∉ site.world.log :=
    fun done => fresh ((kept.opened key).2 done)
  generalize (site.ask key (e.watched key)).2 = result at log opened
  refine ⟨⟨?_, ?_⟩, _, log, ?_⟩
  · intro other
    rw [log, opened, List.mem_append, List.mem_singleton, ← kept.opened,
      eq_comm (a := Deed.opened other _), Deed.ofSession_eq_opened_iff]
    split
    next succeeded => simp [succeeded, eq_comm]
    next failed => simp [failed]
  · rw [log]
    apply kept.inOrder.append
    cases result <;> exact unopened
  · intro d member
    rw [List.mem_singleton.1 member, Deed.key_ofSession]

end Site

namespace Pool

variable {p : Pool σ} {site ended : Site (Logged σ)} {cause : Failure}

theorem openAll_append (before after : List String) (site : Site σ) :
    p.openAll (before ++ after) site =
      match p.openAll before site with
      | (reached, some (.ok ())) => p.openAll after reached
      | (reached, some (.error cause)) => (reached, some (.error cause))
      | (reached, none) => (reached, none) := by
  induction before generalizing site with
  | nil => rfl
  | cons taskType rest ih =>
      rw [List.cons_append, openAll_cons, openAll_cons]
      rcases p.openOne taskType site with ⟨reached, _ | _ | _⟩
      · rfl
      · rfl
      · exact ih reached

/-- Opening the sessions for task types stops where the first of them does not open. -/
theorem openAll_stops_iff {taskTypes : List String} {site ended : Site σ}
    {result : Option (Except Failure Unit)} (stops : result ≠ some (.ok ())) :
    p.openAll taskTypes site = (ended, result) ↔
      ∃ before taskType after reached, taskTypes = before ++ taskType :: after ∧
        p.openAll before site = (reached, some (.ok ())) ∧
        p.openOne taskType reached = (ended, result) := by
  constructor
  · intro failed
    induction taskTypes generalizing site with
    | nil =>
        cases failed
        exact absurd rfl stops
    | cons taskType rest ih =>
        rw [openAll_cons] at failed
        rcases first : p.openOne taskType site with ⟨reached, _ | cause | _⟩
        · rw [first] at failed
          cases failed
          exact ⟨[], taskType, rest, site, rfl, rfl, first⟩
        · rw [first] at failed
          cases failed
          exact ⟨[], taskType, rest, site, rfl, rfl, first⟩
        · rw [first] at failed
          obtain ⟨before, t, after, later, rfl, opened, stopped⟩ := ih failed
          refine ⟨taskType :: before, t, after, later, rfl, ?_, stopped⟩
          rw [openAll_cons, first]
          exact opened
  · rintro ⟨before, taskType, after, reached, rfl, opened, stopped⟩
    rw [openAll_append, opened]
    simp only [openAll_cons, stopped]
    rcases result with _ | _ | _
    · rfl
    · rfl
    · exact absurd rfl stops

theorem openOne_kept (kept : site.Kept) (taskType : String) :
    (p.watched.openOne taskType site).1.Kept ∧
      Site.Extends (fun key => ∃ e, p.find taskType = .ok (key, e)) site
        (p.watched.openOne taskType site).1 := by
  rw [openOne, find_watched]
  cases found : p.find taskType with
  | error cause => exact ⟨kept, .refl site⟩
  | ok provider =>
      obtain ⟨key, e⟩ := provider
      simp only [Except.map]
      by_cases opened : key ∈ site.opened
      · rw [if_pos opened]
        exact ⟨kept, .refl site⟩
      · rw [if_neg opened]
        obtain ⟨kept', more⟩ := kept.ask e opened
        exact ⟨kept', more.imp fun other same => ⟨e, by rw [same]⟩⟩

theorem openAll_kept (kept : site.Kept) (taskTypes : List String) :
    (p.watched.openAll taskTypes site).1.Kept ∧
      Site.Extends (fun key => ∃ taskType ∈ taskTypes, ∃ e, p.find taskType = .ok (key, e)) site
        (p.watched.openAll taskTypes site).1 := by
  induction taskTypes generalizing site with
  | nil => exact ⟨kept, .refl site⟩
  | cons taskType rest ih =>
      obtain ⟨kept', more⟩ := openOne_kept (p := p) kept taskType
      have first : Site.Extends
          (fun key => ∃ t ∈ taskType :: rest, ∃ e, p.find t = .ok (key, e)) site
          (p.watched.openOne taskType site).1 :=
        more.imp fun key found => ⟨taskType, List.mem_cons_self, found⟩
      rw [openAll_cons]
      generalize p.watched.openOne taskType site = one at kept' first
      rcases one with ⟨reached, _ | _ | _⟩
      · exact ⟨kept', first⟩
      · exact ⟨kept', first⟩
      · obtain ⟨kept'', later⟩ := ih kept'
        refine ⟨kept'', first.trans (later.imp ?_)⟩
        rintro key ⟨t, member, found⟩
        exact ⟨t, List.mem_cons_of_mem _ member, found⟩

/-- Sessions that have been opened stay open. -/
theorem subset_openAll (taskTypes : List String) (site : Site σ) :
    site.opened ⊆ (p.openAll taskTypes site).1.opened := by
  have one (taskType : String) (site : Site σ) :
      site.opened ⊆ (p.openOne taskType site).1.opened := by
    unfold openOne
    split
    next => exact List.Subset.refl _
    next key e _ =>
      split
      next => exact List.Subset.refl _
      next =>
        rw [Site.ask_opened]
        split
        · exact List.subset_append_left _ _
        · exact List.Subset.refl _
  induction taskTypes generalizing site with
  | nil => exact List.Subset.refl _
  | cons taskType rest ih =>
      have first := one taskType site
      rw [openAll_cons]
      generalize p.openOne taskType site = reached at first
      rcases reached with ⟨reached, _ | _ | _⟩
      · exact first
      · exact first
      · exact List.Subset.trans first (ih reached)

theorem opened_of_openOne {taskType : String} {site ended : Site σ}
    (opened : p.openOne taskType site = (ended, some (.ok ()))) :
    ∃ key e, p.find taskType = .ok (key, e) ∧ key ∈ ended.opened := by
  unfold openOne at opened
  split at opened
  next => cases opened
  next key e found =>
    refine ⟨key, e, found, ?_⟩
    split at opened
    next already =>
      cases opened
      exact already
    next =>
      have reached : ended.opened = site.opened ++ [key] := by
        have sites := Site.ask_opened key e site
        rwa [opened, if_pos rfl] at sites
      simp [reached]

/-- If the sessions for task types open, each of these has an executor with an open
    session. -/
theorem opened_of_openAll {taskTypes : List String} {site ended : Site σ}
    (opened : p.openAll taskTypes site = (ended, some (.ok ()))) {taskType : String}
    (member : taskType ∈ taskTypes) :
    ∃ key e, p.find taskType = .ok (key, e) ∧ key ∈ ended.opened := by
  induction taskTypes generalizing site with
  | nil => cases member
  | cons first rest ih =>
      rw [openAll_cons] at opened
      rcases one : p.openOne first site with ⟨reached, _ | _ | _⟩
      · rw [one] at opened
        cases opened
      · rw [one] at opened
        cases opened
      · rw [one] at opened
        have rested : p.openAll rest reached = (ended, some (.ok ())) := opened
        rcases List.mem_cons.1 member with rfl | later
        · obtain ⟨key, e, found, known⟩ := opened_of_openOne one
          have kept := subset_openAll (p := p) rest reached known
          rw [rested] at kept
          exact ⟨key, e, found, kept⟩
        · exact ih rested later

/-- How the opening of the session for a task type fails: there is no executor, or it
    is asked, not having succeeded before, and fails. -/
inductive Fails (p : Pool σ) (taskType : String) (site : Site (Logged σ)) :
    Site (Logged σ) → Failure → Prop where
  | unknown (missing : p.provider? taskType = none) :
      Fails p taskType site site (.unknownTaskType taskType)
  | session {key : String} {e : Executor σ} {world : σ} {cause : Failure}
      (found : p.provider? taskType = some (key, e))
      (fresh : .opened key (.ok ()) ∉ site.world.log)
      (calm : e.sessionCrash site.world.world = none)
      (failed : e.openSession site.world.world = (world, .error cause)) :
      Fails p taskType site
        ⟨site.opened, ⟨world, site.world.log ++ [.opened key (.error cause)]⟩⟩ cause

/-- How it crashes: an executor is asked, not having succeeded before, and crashes. -/
inductive Crashes (p : Pool σ) (taskType : String) (site : Site (Logged σ)) :
    Site (Logged σ) → Prop where
  | session {key : String} {e : Executor σ} {world : σ}
      (found : p.provider? taskType = some (key, e))
      (fresh : .opened key (.ok ()) ∉ site.world.log)
      (crashed : e.sessionCrash site.world.world = some world) :
      Crashes p taskType site ⟨site.opened, ⟨world, site.world.log ++ [.crashed key]⟩⟩

theorem find_eq_ok_iff {taskType key : String} {e : Executor σ} :
    p.find taskType = .ok (key, e) ↔ p.provider? taskType = some (key, e) := by
  unfold find
  cases p.provider? taskType <;> simp

theorem openOne_watched (taskType : String) (site : Site (Logged σ)) :
    p.watched.openOne taskType site =
      match p.provider? taskType with
      | none => (site, some (.error (.unknownTaskType taskType)))
      | some (key, e) =>
          if key ∈ site.opened then (site, some (.ok ())) else site.ask key (e.watched key) := by
  rw [openOne, find_watched, find]
  cases p.provider? taskType <;> rfl

theorem fails_iff (kept : site.Kept) {taskType : String} :
    p.watched.openOne taskType site = (ended, some (.error cause)) ↔
      p.Fails taskType site ended cause := by
  rw [openOne_watched]
  constructor
  · intro failed
    split at failed
    next missing =>
      cases failed
      exact .unknown missing
    next key e found =>
      split at failed
      next => cases failed
      next closed =>
        have fresh : .opened key (.ok ()) ∉ site.world.log :=
          fun done => closed ((kept.opened key).2 done)
        simp only [Site.ask, Executor.openSession_watched, Executor.sessionCrash_watched] at failed
        cases calm : e.sessionCrash site.world.world with
        | some world => simp [calm] at failed
        | none =>
            rcases asked : e.openSession site.world.world with ⟨world, other | _⟩
            · simp only [calm, asked, Option.map_none, Prod.mk.injEq, Option.some.injEq,
                Except.error.injEq] at failed
              obtain ⟨rfl, rfl⟩ := failed
              exact .session found fresh calm asked
            · simp [calm, asked] at failed
  · intro fails
    cases fails with
    | unknown missing => rw [missing]
    | session found fresh calm failed =>
        simp only [found, Site.ask, Executor.openSession_watched, Executor.sessionCrash_watched,
          calm, failed, Option.map_none]
        rw [if_neg fun done => fresh ((kept.opened _).1 done)]

theorem crashes_iff (kept : site.Kept) {taskType : String} :
    p.watched.openOne taskType site = (ended, none) ↔ p.Crashes taskType site ended := by
  rw [openOne_watched]
  constructor
  · intro crashed
    split at crashed
    next => cases crashed
    next key e found =>
      split at crashed
      next => cases crashed
      next closed =>
        have fresh : .opened key (.ok ()) ∉ site.world.log :=
          fun done => closed ((kept.opened key).2 done)
        simp only [Site.ask, Executor.openSession_watched, Executor.sessionCrash_watched]
          at crashed
        cases broken : e.sessionCrash site.world.world with
        | some world =>
            simp only [broken, Option.map_some, Prod.mk.injEq, and_true] at crashed
            obtain rfl := crashed
            exact .session found fresh broken
        | none =>
            rcases asked : e.openSession site.world.world with ⟨world, other | _⟩ <;>
              simp [broken, asked] at crashed
  · intro crashes
    cases crashes with
    | session found fresh crashed =>
        simp only [found, Site.ask, Executor.sessionCrash_watched, crashed, Option.map_some]
        rw [if_neg fun done => fresh ((kept.opened _).1 done)]

/-- A task type is found unknown, without anybody being asked, just when it does not
    resolve. -/
theorem openOne_unknown_iff (taskType : String) (site : Site (Logged σ)) :
    p.watched.openOne taskType site = (site, some (.error (.unknownTaskType taskType))) ↔
      p.resolve taskType = .error (.unknownTaskType taskType) := by
  rw [openOne, find_watched, resolve_eq]
  cases found : p.find taskType with
  | error cause =>
      obtain rfl := find_error found
      simp [Except.map]
  | ok provider =>
      obtain ⟨key, e⟩ := provider
      constructor
      · intro unknown
        by_cases opened : key ∈ site.opened
        · simp [Except.map, opened] at unknown
        · simp only [Except.map, opened, if_false] at unknown
          -- The executor has been asked, which is in the log.
          have log := site.log_ask key key e
          rw [unknown] at log
          simp at log
      · intro unknown
        cases unknown

/-- The session for a task type is that of the executor that it resolves to. -/
theorem openOne_resolved (kept : site.Kept) {taskType : String} {e : Executor σ}
    (resolved : p.resolve taskType = .ok e) :
    ∃ key, p.get? key = some e ∧
      (key = taskType ∨ p.get? taskType = none ∧ p.fallback = some key) ∧
      (.opened key (.ok ()) ∈ site.world.log →
        p.watched.openOne taskType site = (site, some (.ok ()))) ∧
      (.opened key (.ok ()) ∉ site.world.log →
        p.watched.openOne taskType site = site.ask key (e.watched key)) := by
  rw [resolve_eq] at resolved
  obtain ⟨⟨key, e'⟩, found, rfl⟩ := map_ok resolved
  obtain ⟨listed, own⟩ := find_ok found
  rw [openOne, find_watched, found]
  refine ⟨key, listed, own, fun done => ?_, fun fresh => ?_⟩
  · exact if_pos ((kept.opened key).2 done)
  · exact if_neg fun opened => fresh ((kept.opened key).1 opened)

/-- If the sessions for task types open, they are in the log. -/
theorem mem_log_of_openAll (kept : site.Kept) {taskTypes : List String}
    (opened : p.watched.openAll taskTypes site = (ended, some (.ok ()))) {taskType : String}
    (member : taskType ∈ taskTypes) :
    ∃ key e, p.provider? taskType = some (key, e) ∧
      .opened key (.ok ()) ∈ ended.world.log := by
  obtain ⟨key, e, found, known⟩ := opened_of_openAll opened member
  rw [find_watched] at found
  obtain ⟨⟨key', e'⟩, provided, same⟩ := map_ok found
  obtain ⟨rfl, rfl⟩ := Prod.mk.inj same
  have kept' := (openAll_kept (p := p) kept taskTypes).1
  rw [opened] at kept'
  exact ⟨_, e', find_eq_ok_iff.1 provided, (kept'.opened _).1 known⟩

/-- What stops the opening of sessions stops that of the first session that does not open,
    from the site that those before it have reached. -/
theorem openAll_watched_iff (kept : site.Kept) {taskTypes : List String}
    {result : Option (Except Failure Unit)} (stops : result ≠ some (.ok ()))
    {stopped : String → Site (Logged σ) → Prop}
    (one : ∀ {reached : Site (Logged σ)}, reached.Kept → ∀ {taskType : String},
      p.watched.openOne taskType reached = (ended, result) ↔ stopped taskType reached) :
    p.watched.openAll taskTypes site = (ended, result) ↔
      ∃ before taskType after reached, taskTypes = before ++ taskType :: after ∧
        p.watched.openAll before site = (reached, some (.ok ())) ∧ stopped taskType reached := by
  have reach {before : List String} {reached : Site (Logged σ)}
      (opened : p.watched.openAll before site = (reached, some (.ok ()))) : reached.Kept := by
    have kept' := (openAll_kept (p := p) kept before).1
    rwa [opened] at kept'
  rw [openAll_stops_iff stops]
  constructor
  · rintro ⟨before, taskType, after, reached, whole, opened, ends⟩
    exact ⟨before, taskType, after, reached, whole, opened, (one (reach opened)).1 ends⟩
  · rintro ⟨before, taskType, after, reached, whole, opened, ends⟩
    exact ⟨before, taskType, after, reached, whole, opened, (one (reach opened)).2 ends⟩

/-! ## Uses -/

theorem run?_kept (kept : site.Kept) {worker : Worker (Site (Logged σ)) (Executor (Logged σ))}
    {cap : Nat} {inOrder : Prop} (schedules : worker.Schedules cap inOrder)
    (settings : EngineSettings) (w : Workflow) (runId prompt : String) (given : Metadata) :
    ((p.watched.engineWith settings worker).run? w runId prompt given site).1.Kept ∧
      Site.Extends (fun key => ∃ n ∈ w.nodes, ∃ e, p.find n.taskType = .ok (key, e)) site
        ((p.watched.engineWith settings worker).run? w runId prompt given site).1 := by
  obtain ⟨taskTypes, known, keys, ready, opened, calls, log, among⟩ :=
    run?_calls p settings w schedules runId prompt given site
  obtain ⟨kept', more⟩ := openAll_kept (p := p) kept taskTypes
  have own : ∀ key, (∃ taskType ∈ taskTypes, ∃ e, p.find taskType = .ok (key, e)) →
      ∃ n ∈ w.nodes, ∃ e, p.find n.taskType = .ok (key, e) := by
    rintro key ⟨taskType, listed, found⟩
    obtain ⟨n, member, rfl⟩ := known taskType listed
    exact ⟨n, member, found⟩
  have open_ : ∀ c ∈ calls,
      .opened c.1 (.ok ()) ∈ (p.watched.openAll taskTypes site).1.world.log := by
    intro c member
    obtain ⟨fine, taskType, listed, e, found⟩ := ready c.1 (among c member)
    have whole : p.watched.openAll taskTypes site =
        ((p.watched.openAll taskTypes site).1, some (.ok ())) := Prod.ext rfl fine
    obtain ⟨key, e', found', done⟩ := opened_of_openAll whole listed
    rw [find_watched, found] at found'
    cases found'
    exact (kept'.opened _).1 done
  refine ⟨⟨?_, ?_⟩, (more.imp own).trans ⟨_, log, ?_⟩⟩
  · intro key
    rw [opened, log, kept'.opened]
    simp
  · rw [log]
    exact kept'.inOrder.append_calls open_
  · intro d member
    obtain ⟨c, called, rfl⟩ := List.mem_map.1 member
    exact own _ (ready c.1 (among c called)).2

theorem use_kept (kept : site.Kept) {u : Use (Logged σ)} (scheduled : u.Scheduled) :
    (p.watched.use site u).Kept := by
  cases u with
  | sessions taskTypes => exact (openAll_kept kept taskTypes).1
  | run settings worker w runId prompt given =>
      obtain ⟨cap, inOrder, schedules⟩ := scheduled
      exact (run?_kept kept schedules settings w runId prompt given).1

theorem useAll_kept (p : Pool σ) (world : σ) {uses : List (Use (Logged σ))}
    (scheduled : ∀ u ∈ uses, u.Scheduled) : (p.watched.useAll ⟨world, []⟩ uses).Kept := by
  have all {site : Site (Logged σ)} (kept : site.Kept) : (uses.foldl p.watched.use site).Kept := by
    induction uses generalizing site with
    | nil => exact kept
    | cons u rest ih =>
        obtain ⟨first, later⟩ := List.forall_mem_cons.1 scheduled
        exact ih later (use_kept kept first)
  exact all ⟨by simp, fun before d part => by simp at part⟩

end Pool

/-- Whatever a pool has been used for, and whoever made the calls of its runs, a session is
    opened until that has succeeded and then never again, and no executor answers a call
    before its session is open. The session for a task type is that of the executor that
    the task type resolves to; it is found unknown, without anybody being asked, just when
    it does not resolve. Opening the sessions for several task types fails, or crashes,
    where the first of them does, and those before it stay open. A run asks and calls no
    executors but those of its own nodes. Watching changes neither sites nor results. -/
theorem sessions_opened_once (p : Pool σ) (world : σ) (uses : List (Use (Logged σ)))
    (scheduled : ∀ u ∈ uses, u.Scheduled) (site : Site (Logged σ))
    (used : site = p.watched.useAll ⟨world, []⟩ uses) :
    InOrder site.world.log ∧
    (∀ taskType,
      (p.watched.openAll [taskType] site = (site, some (.error (.unknownTaskType taskType))) ↔
        p.resolve taskType = .error (.unknownTaskType taskType)) ∧
      ∀ e, p.resolve taskType = .ok e →
        ∃ key, p.get? key = some e ∧
          (key = taskType ∨ p.get? taskType = none ∧ p.fallback = some key) ∧
          (.opened key (.ok ()) ∈ site.world.log →
            p.watched.openAll [taskType] site = (site, some (.ok ()))) ∧
          (.opened key (.ok ()) ∉ site.world.log →
            p.watched.openAll [taskType] site = site.ask key (e.watched key))) ∧
    (∀ taskTypes ended,
      (p.watched.openAll taskTypes site = (ended, some (.ok ())) →
        ∀ taskType ∈ taskTypes, ∃ key e, p.provider? taskType = some (key, e) ∧
          .opened key (.ok ()) ∈ ended.world.log) ∧
      (∀ cause, p.watched.openAll taskTypes site = (ended, some (.error cause)) ↔
        ∃ before taskType after reached, taskTypes = before ++ taskType :: after ∧
          p.watched.openAll before site = (reached, some (.ok ())) ∧
          p.Fails taskType reached ended cause) ∧
      (p.watched.openAll taskTypes site = (ended, none) ↔
        ∃ before taskType after reached, taskTypes = before ++ taskType :: after ∧
          p.watched.openAll before site = (reached, some (.ok ())) ∧
          p.Crashes taskType reached ended)) ∧
    (∀ {worker : Worker (Site (Logged σ)) (Executor (Logged σ))} {cap : Nat} {inOrder : Prop},
      worker.Schedules cap inOrder → ∀ settings w runId prompt given, ∃ more,
        ((p.watched.engineWith settings worker).run? w runId prompt given site).1.world.log =
            site.world.log ++ more ∧
          InOrder (site.world.log ++ more) ∧
          ∀ d ∈ more, ∃ n ∈ w.nodes, ∃ e, p.provider? n.taskType = some (d.key, e)) ∧
    (∀ taskTypes,
      (p.watched.openAll taskTypes site).1.plain = (p.openAll taskTypes site.plain).1 ∧
        (p.watched.openAll taskTypes site).2 = (p.openAll taskTypes site.plain).2) ∧
    ∀ settings w runId prompt given,
      ((p.watched.engine settings).run? w runId prompt given site).1.plain =
          ((p.engine settings).run? w runId prompt given site.plain).1 ∧
        ((p.watched.engine settings).run? w runId prompt given site).2 =
          ((p.engine settings).run? w runId prompt given site.plain).2 := by
  have kept : site.Kept := used ▸ p.useAll_kept world scheduled
  refine ⟨kept.inOrder, ?_, ?_, ?_, fun taskTypes => Pool.plain_openAll p.watches_watched taskTypes
    site, fun settings w runId prompt given => Pool.run?_watched settings w runId prompt given site⟩
  · intro taskType
    simp only [Pool.openAll_singleton]
    exact ⟨Pool.openOne_unknown_iff taskType site, fun e => Pool.openOne_resolved kept⟩
  · intro taskTypes ended
    refine ⟨fun opened taskType => Pool.mem_log_of_openAll kept opened, fun cause => ?_, ?_⟩
    · exact Pool.openAll_watched_iff kept (by simp) fun reached => Pool.fails_iff reached
    · exact Pool.openAll_watched_iff kept (by simp) fun reached => Pool.crashes_iff reached
  · intro worker cap inOrder schedules settings w runId prompt given
    obtain ⟨kept', more, log, own⟩ :=
      Pool.run?_kept (p := p) kept schedules settings w runId prompt given
    refine ⟨more, log, log ▸ kept'.inOrder, fun d member => ?_⟩
    obtain ⟨n, among, e, found⟩ := own d member
    exact ⟨n, among, e, Pool.find_eq_ok_iff.1 found⟩

open Diamond in
theorem sessions_opened_once_diamond :
    ∃ site, site = pool.watched.useAll ⟨(), []⟩ [.sessions ["other", "work"]] ∧
      site.world.log = [.opened "work" (.ok ())] ∧ InOrder site.world.log ∧
      pool.watched.openAll ["third"] site = (site, some (.ok ())) := by
  have scheduled : ∀ u ∈ [Use.sessions (σ := Logged Unit) ["other", "work"]], u.Scheduled := by
    intro u member
    rw [List.mem_singleton.1 member]
    trivial
  obtain ⟨inOrder, each, _⟩ :=
    sessions_opened_once pool () [.sessions ["other", "work"]] scheduled _ rfl
  obtain ⟨key, _, own, opened, _⟩ := (each "third").2 hand rfl
  obtain rfl : key = "work" := by
    rcases own with rfl | ⟨_, standby⟩
    · contradiction
    · exact (Option.some.inj standby).symm
  exact ⟨_, rfl, rfl, inOrder, opened (List.mem_singleton_self _)⟩

end Superstep
