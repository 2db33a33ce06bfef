import Superstep.Proofs.Boards

/-! # What executors promise

Calls side by side share a world, and whichever finds what in it is up to the
schedule. If an executor keeps to a behaviour in whatever world its calls wake
up, it does so in the hands of the scheduler. It may also promise no more than what
it does in worlds of some kind, if its calls never leave these worlds.
-/

namespace Superstep

variable {σ : Type}

/-- Whatever worlds it finds, the conduct ends with such an answer, or it crashes
    if it may. -/
def Conduct.Keeps (answers : Answer → Prop) (crashes : Prop) {n : Nat} : Conduct σ n → Prop
  | .answer result => answers result
  | .crash => crashes
  | .wait _ _ resume _ => ∀ world, (resume world).Keeps answers crashes

def Executor.Shows (e : Executor σ) (b : Behaviour) : Prop :=
  ∀ call world, (e.execute call world).2.Keeps (b.answers call) b.crashes

/-- The conduct keeps to such answers, and to crashes if it may, as long as it finds
    worlds of a kind, and leaves no others. -/
def Conduct.KeepsIn (inside : σ → Prop) (answers : Answer → Prop) (crashes : Prop) {n : Nat} :
    Conduct σ n → Prop
  | .answer result => answers result
  | .crash => crashes
  | .wait _ effect resume _ => ∀ world, inside world →
      inside (effect world) ∧ (resume world).KeepsIn inside answers crashes

def Executor.ShowsIn (e : Executor σ) (inside : σ → Prop) (b : Behaviour) : Prop :=
  ∀ call world, inside world → inside (e.execute call world).1 ∧
    (e.execute call world).2.KeepsIn inside (b.answers call) b.crashes

theorem Conduct.Keeps.inAll {answers : Answer → Prop} {crashes : Prop} {n : Nat}
    {c : Conduct σ n} (keeps : c.Keeps answers crashes) :
    c.KeepsIn (fun _ => True) answers crashes := by
  induction c with
  | answer | crash => exact keeps
  | wait ms effect resume fewer ih => exact fun world _ => ⟨trivial, ih world (keeps world)⟩

theorem Executor.Shows.inAll {e : Executor σ} {b : Behaviour} (shows_ : e.Shows b) :
    e.ShowsIn (fun _ => True) b :=
  fun call world _ => ⟨trivial, (shows_ call world).inAll⟩

def Pause.ShowsIn (p : Pause σ) (inside : σ → Prop) (b : Behaviour) : Prop :=
  ∀ world, inside world →
    inside (p.effect world) ∧ (p.resume world).KeepsIn inside (b.answers p.call) b.crashes

def Turn.ShowsIn (inside : σ → Prop) (b : Behaviour) : Turn σ → Prop
  | .ask job | .start job => job.executor.ShowsIn inside b
  | .pause p | .wake p => p.ShowsIn inside b

namespace Board

/-- What is on the board keeps to a behaviour in worlds of a kind, the world is of this
    kind, and what has happened keeps to the behaviour. -/
structure ShowsIn (inside : σ → Prop) (b : Behaviour) (d : Board σ) : Prop where
  world : inside d.world
  queue : ∀ turn ∈ d.queue, turn.ShowsIn inside b
  waiting : ∀ job ∈ d.waiting, job.executor.ShowsIn inside b
  cut : ∀ p ∈ d.cut, p.ShowsIn inside b
  sleeping : ∀ s ∈ d.sleeping, s.2.ShowsIn inside b
  ended : ∀ x ∈ endings d.happenings, b.answers x.call x.answer
  crashed : d.crashed = true → b.crashes

variable {inside : σ → Prop} {b : Behaviour} {d : Board σ} {call : Call}

theorem ShowsIn.leave (shows_ : d.ShowsIn inside b) : d.leave.ShowsIn inside b := by
  obtain ⟨world, queue, waiting, cut, sleeping, ended, crashed⟩ := shows_
  unfold Board.leave
  split
  next => exact ⟨world, queue, waiting, cut, sleeping, ended, crashed⟩
  next job rest found =>
    rw [found] at waiting
    refine ⟨world, ?_, fun other later => waiting other (List.mem_cons_of_mem _ later), cut,
      sleeping, ended, crashed⟩
    intro turn member
    rcases List.mem_append.1 member with old | new
    · exact queue turn old
    · rw [List.mem_singleton.1 new]
      exact waiting job List.mem_cons_self

theorem ShowsIn.note {h : Happening} (shows_ : d.ShowsIn inside b)
    (answered : ∀ x ∈ h.ending?, b.answers x.call x.answer) : (d.note h).ShowsIn inside b := by
  refine { shows_ with ended := fun x member => ?_ }
  rw [Board.note, endings, List.filterMap_append, List.mem_append] at member
  rcases member with old | new
  · exact shows_.ended x old
  · obtain ⟨_, only, found⟩ := List.mem_filterMap.1 new
    rw [List.mem_singleton.1 only] at found
    exact answered x found

theorem ShowsIn.sleep {p : Pause σ} (shows_ : d.ShowsIn inside b) (kept : p.ShowsIn inside b) :
    (d.sleep p).ShowsIn inside b := by
  refine { shows_ with sleeping := fun s member => ?_ }
  rcases List.mem_append.1 member with old | new
  · exact shows_.sleeping s old
  · rw [List.mem_singleton.1 new]
    exact kept

theorem ShowsIn.goOn {n : Nat} (left : Nat) {conduct : Conduct σ n}
    (kept : conduct.KeepsIn inside (b.answers call) b.crashes) (shows_ : d.ShowsIn inside b) :
    (goOn call left conduct d).ShowsIn inside b := by
  induction conduct generalizing left d with
  | answer result =>
      rw [Board.goOn]
      refine (shows_.note ?_).leave
      intro x found
      cases found
      exact kept
  | crash =>
      rw [Board.goOn]
      exact ShowsIn.leave { shows_ with crashed := fun _ => kept }
  | wait ms effect resume fewer ih =>
      rw [Board.goOn]
      split
      next => exact { shows_ with cut := List.forall_mem_cons.2 ⟨kept, shows_.cut⟩ }
      next =>
        split
        next =>
          obtain ⟨after, later⟩ := kept d.world shows_.world
          exact ih d.world _ later { shows_ with world := after }
        next => exact shows_.sleep kept

theorem ShowsIn.start {job : Job (Executor σ)} (left : Nat)
    (kept : job.executor.ShowsIn inside b) (shows_ : d.ShowsIn inside b) :
    (d.start left job).ShowsIn inside b := by
  obtain ⟨after, later⟩ := kept job.call d.world shows_.world
  have here : ShowsIn inside b { d with world := (job.executor.execute job.call d.world).1 } :=
    { shows_ with world := after }
  unfold Board.start
  exact (here.note fun x found => by cases found).goOn _ later

theorem ShowsIn.wake {p : Pause σ} (kept : p.ShowsIn inside b) (shows_ : d.ShowsIn inside b) :
    (d.wake p).ShowsIn inside b := by
  obtain ⟨after, later⟩ := kept d.world shows_.world
  exact ShowsIn.goOn _ later { shows_ with world := after }

theorem ShowsIn.take {turn : Turn σ} (cap : Nat) (kept : turn.ShowsIn inside b)
    (shows_ : d.ShowsIn inside b) : (d.take cap turn).ShowsIn inside b := by
  cases turn with
  | ask job =>
      simp only [Board.take]
      split
      next => exact shows_.start _ kept
      next =>
        split
        next => exact ShowsIn.start _ kept { shows_ with }
        next =>
          refine { shows_ with waiting := fun other member => ?_ }
          rcases List.mem_append.1 member with old | new
          · exact shows_.waiting other old
          · rw [List.mem_singleton.1 new]
            exact kept
  | start job => exact shows_.start _ kept
  | pause p =>
      simp only [Board.take]
      split
      · exact shows_.wake kept
      · exact shows_.sleep kept
  | wake p => exact shows_.wake kept

theorem ShowsIn.move {cap : Nat} {inOrder : Prop} {d' : Board σ} (move : Move cap inOrder d d')
    (shows_ : d.ShowsIn inside b) : d'.ShowsIn inside b := by
  cases move with
  | turn queued _ =>
      have queue := shows_.queue
      rw [queued] at queue
      obtain ⟨early, rest⟩ := List.forall_mem_append.1 queue
      obtain ⟨kept, late⟩ := List.forall_mem_cons.1 rest
      exact ShowsIn.take cap kept { shows_ with queue := List.forall_mem_append.2 ⟨early, late⟩ }
  | resume =>
      refine { shows_ with queue := fun turn member => ?_, cut := nofun }
      rcases List.mem_append.1 member with old | new
      · exact shows_.queue turn old
      · obtain ⟨p, among, rfl⟩ := List.mem_map.1 new
        exact shows_.cut p among
  | wake now due =>
      refine { shows_ with
        queue := fun turn member => ?_
        sleeping := fun s member => shows_.sleeping s (List.mem_of_mem_filter member) }
      rcases List.mem_append.1 member with old | new
      · exact shows_.queue turn old
      · obtain ⟨s, awake, rfl⟩ := List.mem_map.1 new
        exact shows_.sleeping s (List.mem_of_mem_filter awake)

end Board

theorem Happening.SameButTime.answers {told told' : List Happening}
    (same : List.Forall₂ Happening.SameButTime told told') {x : Ending} (ended : x ∈ endings told) :
    ∃ y ∈ endings told', y.call = x.call ∧ y.answer = x.answer := by
  induction same with
  | nil => cases ended
  | cons head _ ih =>
      cases head with
      | started => exact ih ended
      | ended call answer elapsed elapsed' =>
          rcases List.mem_cons.1 ended with rfl | later
          · exact ⟨⟨call, answer, elapsed'⟩, List.mem_cons_self, rfl, rfl⟩
          · obtain ⟨y, among, same⟩ := ih later
            exact ⟨y, List.mem_cons_of_mem _ among, same⟩

section

variable {worker : Worker (Site σ) (Executor σ)} {cap : Nat} {inOrder : Prop} {b : Behaviour}

/-- A worker that works by moves never leaves the worlds in which the executors of calls
    keep to a behaviour, and they keep to it. -/
theorem Worker.Schedules.showsIn (schedules : worker.Schedules cap inOrder) {inside : σ → Prop}
    {jobs : List (Job (Executor σ))} (kept : ∀ job ∈ jobs, job.executor.ShowsIn inside b)
    {site : Site σ} (start : inside site.world) :
    inside (worker jobs site).1.world ∧ (worker jobs site).1.opened = site.opened ∧
      (∀ x ∈ endings (worker jobs site).2.happenings, b.answers x.call x.answer) ∧
      ((worker jobs site).2.crashed = true → b.crashes) := by
  obtain ⟨d, moves, _, same, told, crashed⟩ := schedules jobs site
  have fresh : (Board.fresh jobs site.world).ShowsIn inside b := by
    refine ⟨start, ?_, nofun, nofun, nofun, nofun, nofun⟩
    intro turn member
    obtain ⟨job, among, rfl⟩ := List.mem_map.1 member
    exact kept job among
  have whole := Board.moves_keep Board.ShowsIn.move moves fresh
  rw [same, crashed]
  refine ⟨whole.world, rfl, fun x ended => ?_, whole.crashed⟩
  obtain ⟨y, among, call, answer⟩ := Happening.SameButTime.answers told ended
  rw [← call, ← answer]
  exact whole.ended y among

/-- In the hands of a worker that works by moves executors keep to their behaviour. -/
theorem Worker.Schedules.shows (schedules : worker.Schedules cap inOrder)
    {resolve : String → Except Failure (Executor σ)}
    (kept : ∀ taskType e, resolve taskType = .ok e → e.Shows b) : worker.Shows resolve b := by
  intro jobs site known
  have all : ∀ job ∈ jobs, job.executor.ShowsIn (fun _ => True) b :=
    fun job among => (kept _ _ (known job among)).inAll
  obtain ⟨_, _, answers, crashed⟩ := schedules.showsIn all trivial
  exact ⟨answers, crashed⟩

end

theorem Pool.worker_shows (cap : Nat) {resolve : String → Except Failure (Executor σ)}
    {b : Behaviour} (kept : ∀ taskType e, resolve taskType = .ok e → e.Shows b) :
    (Pool.worker cap).Shows resolve b :=
  (Pool.worker_schedules cap True).shows kept

/-! ## Sessions -/

/-- The session opens in whatever world. -/
def Executor.Opens (e : Executor σ) : Prop :=
  ∀ world, (e.openSession world).2 = .ok ()

theorem Pool.openSessions_ok {p : Pool σ} {taskTypes : List String}
    (provided : ∀ taskType ∈ taskTypes,
      ∃ key e, p.provider? taskType = some (key, e) ∧ e.Opens) (site : Site σ) :
    (p.openSessions taskTypes site).2 = .ok () := by
  induction taskTypes generalizing site with
  | nil => rfl
  | cons taskType rest ih =>
      obtain ⟨key, e, found, opens⟩ := provided taskType List.mem_cons_self
      have first : (p.openSession taskType site).2 = .ok () := by
        simp only [openSession, found]
        split
        next => rfl
        next =>
          have fine := opens site.world
          generalize e.openSession site.world = opened at fine
          obtain ⟨world, _ | _⟩ := opened
          · cases fine
          · rfl
      rw [openSessions]
      generalize p.openSession taskType site = reached at first
      obtain ⟨reached, _ | _⟩ := reached
      · cases first
      · exact ih (fun later member => provided later (List.mem_cons_of_mem _ member)) reached

end Superstep
