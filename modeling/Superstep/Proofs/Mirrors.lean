import Mathlib.Data.List.Forall2
import Superstep.Proofs.Boards

/-! # Worlds that mirror each other

Executors in one world may do what other executors do in a second world. If they
answer alike and keep the two worlds in a relation, the scheduler cannot tell them
apart: what happens to the calls of a step is the same, and the worlds are still
related at its end.
-/

namespace Superstep

variable {τ σ : Type} {R : τ → σ → Prop}

/-- Two conducts do the same as long as the worlds are related, and keep them so. -/
inductive Conduct.Mirrors (R : τ → σ → Prop) :
    {m n : Nat} → Conduct τ m → Conduct σ n → Prop where
  | answer {m n : Nat} (result : Answer) :
      Mirrors R (.answer result : Conduct τ m) (.answer result : Conduct σ n)
  | crash {m n : Nat} : Mirrors R (.crash : Conduct τ m) (.crash : Conduct σ n)
  | wait {k l m n ms : Nat} {effect : τ → τ} {effect' : σ → σ} {resume : τ → Conduct τ k}
      {resume' : σ → Conduct σ l} {fewer : k < m} {fewer' : l < n}
      (effects : ∀ u v, R u v → R (effect u) (effect' v))
      (resumed : ∀ u v, R u v → Mirrors R (resume u) (resume' v)) :
      Mirrors R (.wait ms effect resume fewer) (.wait ms effect' resume' fewer')

/-- Two executors answer calls alike. -/
def Executor.Mirrors (R : τ → σ → Prop) (e : Executor τ) (e' : Executor σ) : Prop :=
  ∀ call u v, R u v → R (e.execute call u).1 (e'.execute call v).1 ∧
    (e.execute call u).2.Mirrors R (e'.execute call v).2

structure Job.Mirrors (R : τ → σ → Prop) (job : Job (Executor τ)) (job' : Job (Executor σ)) :
    Prop where
  call : job.call = job'.call
  executor : job.executor.Mirrors R job'.executor

structure Pause.Mirrors (R : τ → σ → Prop) (p : Pause τ) (p' : Pause σ) : Prop where
  call : p.call = p'.call
  milliseconds : p.milliseconds = p'.milliseconds
  effects : ∀ u v, R u v → R (p.effect u) (p'.effect v)
  resumed : ∀ u v, R u v → (p.resume u).Mirrors R (p'.resume v)

inductive Turn.Mirrors (R : τ → σ → Prop) : Turn τ → Turn σ → Prop where
  | ask {job : Job (Executor τ)} {job' : Job (Executor σ)} (same : job.Mirrors R job') :
      Mirrors R (.ask job) (.ask job')
  | start {job : Job (Executor τ)} {job' : Job (Executor σ)} (same : job.Mirrors R job') :
      Mirrors R (.start job) (.start job')
  | pause {p : Pause τ} {p' : Pause σ} (same : p.Mirrors R p') : Mirrors R (.pause p) (.pause p')
  | wake {p : Pause τ} {p' : Pause σ} (same : p.Mirrors R p') : Mirrors R (.wake p) (.wake p')

/-- Two pauses that end at the same time. -/
def Pause.MirrorsUntil (R : τ → σ → Prop) (s : Nat × Pause τ) (s' : Nat × Pause σ) : Prop :=
  s.1 = s'.1 ∧ s.2.Mirrors R s'.2

namespace Board

/-- The same calls stand in the same places of two boards. -/
structure Mirrors (R : τ → σ → Prop) (b : Board τ) (d : Board σ) : Prop where
  now : b.now = d.now
  world : R b.world d.world
  queue : List.Forall₂ (Turn.Mirrors R) b.queue d.queue
  waiting : List.Forall₂ (Job.Mirrors R) b.waiting d.waiting
  cut : List.Forall₂ (Pause.Mirrors R) b.cut d.cut
  sleeping : List.Forall₂ (Pause.MirrorsUntil R) b.sleeping d.sleeping
  taken : b.taken = d.taken
  happenings : b.happenings = d.happenings
  crashed : b.crashed = d.crashed

variable {b : Board τ} {d : Board σ}

theorem Mirrors.in_worlds (same : b.Mirrors R d) {u : τ} {v : σ} (related : R u v) :
    Mirrors R { b with world := u } { d with world := v } :=
  ⟨same.now, related, same.queue, same.waiting, same.cut, same.sleeping, same.taken,
    same.happenings, same.crashed⟩

theorem Mirrors.note (same : b.Mirrors R d) (h : Happening) : (b.note h).Mirrors R (d.note h) :=
  { same with happenings := congrArg (· ++ [h]) same.happenings }

theorem Mirrors.leave (same : b.Mirrors R d) : b.leave.Mirrors R d.leave := by
  obtain ⟨now, world, queue, waiting, cut, sleeping, taken, happenings, crashed⟩ := same
  cases b
  cases d
  simp only at waiting
  cases waiting with
  | nil =>
      exact ⟨now, world, queue, .nil, cut, sleeping, congrArg (· - 1) taken, happenings, crashed⟩
  | cons first rest =>
      exact ⟨now, world, List.rel_append queue (.cons (.start first) .nil), rest, cut, sleeping,
        taken, happenings, crashed⟩

theorem Mirrors.sleep (same : b.Mirrors R d) {p : Pause τ} {p' : Pause σ} (alike : p.Mirrors R p') :
    (b.sleep p).Mirrors R (d.sleep p') := by
  refine { same with sleeping := List.rel_append same.sleeping (.cons ⟨?_, alike⟩ .nil) }
  rw [same.now, alike.milliseconds]

theorem Mirrors.goOn (call : Call) {m n : Nat} (left : Nat) {conduct : Conduct τ m}
    {conduct' : Conduct σ n} (alike : conduct.Mirrors R conduct') (same : b.Mirrors R d) :
    (goOn call left conduct b).Mirrors R (goOn call left conduct' d) := by
  induction alike generalizing left b d with
  | answer result =>
      rw [Board.goOn, Board.goOn]
      exact (same.note _).leave
  | crash =>
      rw [Board.goOn, Board.goOn]
      exact Mirrors.leave { same with crashed := rfl }
  | @wait _ _ _ _ ms effect effect' resume resume' _ _ effects resumed ih =>
      rw [Board.goOn, Board.goOn]
      have pauses : Pause.Mirrors R ⟨call, ms, _, effect, resume⟩ ⟨call, ms, _, effect', resume'⟩ :=
        ⟨rfl, rfl, effects, resumed⟩
      split
      next => exact { same with cut := .cons pauses same.cut }
      next =>
        split
        next => exact ih _ _ same.world _ (same.in_worlds (effects _ _ same.world))
        next => exact same.sleep pauses

theorem Mirrors.start (left : Nat) {job : Job (Executor τ)} {job' : Job (Executor σ)}
    (alike : job.Mirrors R job') (same : b.Mirrors R d) :
    (b.start left job).Mirrors R (d.start left job') := by
  obtain ⟨worlds, conducts⟩ := alike.executor job'.call _ _ same.world
  unfold Board.start
  rw [alike.call]
  exact ((same.in_worlds worlds).note _).goOn _ left conducts

theorem Mirrors.wake {p : Pause τ} {p' : Pause σ} (alike : p.Mirrors R p')
    (same : b.Mirrors R d) : (b.wake p).Mirrors R (d.wake p') := by
  unfold Board.wake
  rw [alike.call]
  exact (same.in_worlds (alike.effects _ _ same.world)).goOn _ _ (alike.resumed _ _ same.world)

theorem Mirrors.take (cap : Nat) {turn : Turn τ} {turn' : Turn σ} (alike : turn.Mirrors R turn')
    (same : b.Mirrors R d) : (b.take cap turn).Mirrors R (d.take cap turn') := by
  cases alike with
  | ask jobs =>
      have one_more : b.taken + 1 = d.taken + 1 := congrArg (· + 1) same.taken
      have asked := List.rel_append same.waiting (.cons jobs .nil)
      have room : b.taken < cap ↔ d.taken < cap := by rw [same.taken]
      simp only [Board.take, room]
      split
      next => exact same.start _ jobs
      next =>
        split
        next => exact Mirrors.start _ jobs { same with taken := one_more }
        next => exact { same with waiting := asked }
  | start jobs => exact same.start _ jobs
  | pause pauses =>
      simp only [Board.take, pauses.milliseconds]
      split
      next => exact same.wake pauses
      next => exact same.sleep pauses
  | wake pauses => exact same.wake pauses

theorem Mirrors.makeTurns (cap count : Nat) (same : b.Mirrors R d) :
    (makeTurns cap count b).Mirrors R (makeTurns cap count d) := by
  induction count generalizing b d with
  | zero => exact same
  | succ count ih =>
      have queues := same.queue
      rw [Board.makeTurns, Board.makeTurns]
      cases turns : b.queue with
      | nil =>
          rw [turns] at queues
          rw [List.forall₂_nil_left_iff.1 queues]
          exact same
      | cons turn rest =>
          rw [turns] at queues
          obtain ⟨turn', rest', alike, later, turns'⟩ := List.forall₂_cons_left_iff.1 queues
          rw [turns']
          exact ih (Mirrors.take cap alike { same with queue := later })

theorem nextDue_mirrors {asleep : List (Nat × Pause τ)} {asleep' : List (Nat × Pause σ)}
    (same : List.Forall₂ (Pause.MirrorsUntil R) asleep asleep') :
    nextDue asleep = nextDue asleep' := by
  induction same with
  | nil => rfl
  | cons first _ ih => rw [nextDue, nextDue, ih, first.1]

theorem Mirrors.renew (same : b.Mirrors R d) : b.renew.Mirrors R d.renew := by
  have queue_empty : b.queue = [] ↔ d.queue = [] := by
    rw [← List.length_eq_zero_iff, same.queue.length_eq, List.length_eq_zero_iff]
  have cut_empty : b.cut = [] ↔ d.cut = [] := by
    rw [← List.length_eq_zero_iff, same.cut.length_eq, List.length_eq_zero_iff]
  have idle : (b.queue.isEmpty && b.cut.isEmpty) = (d.queue.isEmpty && d.cut.isEmpty) := by
    rw [Bool.eq_iff_iff]
    simp only [Bool.and_eq_true, List.isEmpty_iff, queue_empty, cut_empty]
  unfold Board.renew
  rw [idle, nextDue_mirrors same.sleeping]
  split
  next =>
    split
    next => exact same
    next due _ =>
      refine { same with
        now := rfl
        queue := List.rel_map (fun _ _ until_ => .wake until_.2) (List.rel_filter ?_ same.sleeping)
        sleeping := List.rel_filter ?_ same.sleeping }
      · intro s s' until_
        simp only [until_.1]
      · intro s s' until_
        simp only [until_.1]
  next =>
    exact { same with
      queue := List.rel_append same.queue (List.rel_map (fun _ _ => .pause) same.cut)
      cut := .nil }

theorem Mirrors.runAll (cap : Nat) (same : b.Mirrors R d) :
    (runAll cap b).Mirrors R (runAll cap d) := by
  induction b using Board.runAll.induct cap generalizing d with
  | case1 b crashed =>
      rw [runAll_of_crashed crashed, runAll_of_crashed (same.crashed ▸ crashed)]
      exact same
  | case2 b calm none =>
      have queues := same.renew.queue
      rw [none] at queues
      rw [same.crashed] at calm
      rw [runAll_of_idle (same.crashed ▸ calm) none,
        runAll_of_idle calm (List.forall₂_nil_left_iff.1 queues)]
      exact same.renew
  | case3 b calm turn rest found ih =>
      have queues := same.renew.queue
      rw [found] at queues
      obtain ⟨turn', rest', _, _, found'⟩ := List.forall₂_cons_left_iff.1 queues
      rw [same.crashed] at calm
      rw [runAll_of_busy (same.crashed ▸ calm) found, runAll_of_busy calm found']
      exact ih (same.renew.makeTurns cap _)

theorem mirrors_fresh {jobs : List (Job (Executor τ))} {jobs' : List (Job (Executor σ))}
    (alike : List.Forall₂ (Job.Mirrors R) jobs jobs') {u : τ} {v : σ} (related : R u v) :
    (fresh jobs u).Mirrors R (fresh jobs' v) := by
  refine ⟨rfl, related, ?_, .nil, .nil, .nil, rfl, rfl, rfl⟩
  exact List.rel_map (fun _ _ => .ask) alike

end Board

/-- The scheduler cannot tell mirrored executors apart. -/
theorem Pool.worker_mirrors (cap : Nat) {jobs : List (Job (Executor τ))}
    {jobs' : List (Job (Executor σ))} (alike : List.Forall₂ (Job.Mirrors R) jobs jobs')
    {site : Site τ} {site' : Site σ} (related : R site.world site'.world) :
    (Pool.worker cap jobs site).2 = (Pool.worker cap jobs' site').2 ∧
      R (Pool.worker cap jobs site).1.world (Pool.worker cap jobs' site').1.world := by
  have whole := (Board.mirrors_fresh alike related).runAll cap
  exact ⟨congrArg₂ Transcript.mk whole.happenings whole.crashed, whole.world⟩

end Superstep
