import Mathlib.Data.List.Perm.Basic
import Superstep.Proofs.Course
import Superstep.Proofs.Moves

/-! # No call is lost

The board of a step keeps account of its calls: each is either still to be made,
or has ended, or was lost in a crash. A call waits for a slot only while all of
them are taken by others that are still to go on, so when nothing is left to be
done nothing waits either, and the scheduler is a faithful worker.
-/

namespace Superstep

variable {σ : Type}

namespace Turn

def call : Turn σ → Call
  | .ask job | .start job => job.call
  | .pause p | .wake p => p.call

def hasSlot : Turn σ → Bool
  | .ask _ => false
  | .start _ | .pause _ | .wake _ => true

theorem slots_map {α : Type} {make : α → Turn σ} {slot : Bool}
    (same : ∀ a, (make a).hasSlot = slot) (items : List α) :
    ((items.map make).filter hasSlot).length = if slot then items.length else 0 := by
  induction items with
  | nil => simp
  | cons a rest ih =>
      cases slot <;> simpa [List.filter_cons, same a] using ih

end Turn

namespace Board

/-- The calls that have not come to an end, as far as the board knows. -/
def pending (b : Board σ) : List Call :=
  b.queue.map Turn.call ++ b.waiting.map Job.call ++ b.cut.map Pause.call ++
    b.sleeping.map fun s => s.2.call

def ended (b : Board σ) : List Call :=
  (endings b.happenings).map Ending.call

def holders (b : Board σ) : Nat :=
  (b.queue.filter Turn.hasSlot).length + b.cut.length + b.sleeping.length

/-- The books of a board. Some calls are in the middle of a turn, and `busy` slots
    are not on the board. All calls are accounted for, those that are lost only
    after a crash, and a call waits only if every slot is taken. -/
structure Books (cap : Nat) (calls running : List Call) (busy : Nat) (b : Board σ) : Prop where
  calls : ∃ lost, (b.ended ++ lost ++ (running ++ b.pending)).Perm calls ∧
    (b.crashed = false → lost = [])
  free : cap = 0 → b.waiting = []
  taken : cap ≠ 0 → b.taken = busy + b.holders
  full : b.waiting ≠ [] → cap ≤ b.taken

variable {cap busy : Nat} {calls running : List Call} {call : Call} {b : Board σ}

theorem Books.leave (books : Books cap calls running (busy + 1) b) :
    Books cap calls running busy b.leave := by
  obtain ⟨⟨lost, shared, calm⟩, free, taken, full⟩ := books
  unfold Board.leave
  split
  next none =>
    refine ⟨⟨lost, shared, calm⟩, free, ?_, fun some_ => absurd none some_⟩
    intro capped
    have := taken capped
    simp only [holders] at this ⊢
    omega
  next job rest found =>
    constructor
    case calls =>
      refine ⟨lost, .trans ?_ shared, calm⟩
      rw [List.perm_iff_count]
      intro c
      simp only [ended, pending, found, List.map_append, List.map_cons, List.map_nil,
        List.count_append, List.count_cons, List.count_nil, Turn.call]
      omega
    case free =>
      intro uncapped
      rw [free uncapped] at found
      cases found
    case taken =>
      intro capped
      have := taken capped
      simp only [holders, List.filter_append, List.length_append] at this ⊢
      have one : ([Turn.start job].filter Turn.hasSlot).length = 1 := rfl
      omega
    case full =>
      intro _
      exact full (by simp [found])

theorem Books.ended (books : Books cap calls (call :: running) busy b) (answer : Answer)
    (elapsed : Nat) : Books cap calls running busy (b.note (.ended call answer elapsed)) := by
  obtain ⟨⟨lost, shared, calm⟩, free, taken, full⟩ := books
  refine ⟨⟨lost, .trans ?_ shared, calm⟩, free, taken, full⟩
  rw [List.perm_iff_count]
  intro c
  simp only [Board.ended, note, pending, endings, List.filterMap_append, List.filterMap_cons,
    Happening.ending?, List.filterMap_nil, List.map_append, List.map_cons, List.map_nil,
    List.count_append, List.count_cons, List.count_nil]
  omega

theorem Books.crashed (books : Books cap calls (call :: running) busy b) :
    Books cap calls running busy { b with crashed := true } := by
  obtain ⟨⟨lost, shared, _⟩, free, taken, full⟩ := books
  refine ⟨⟨call :: lost, .trans ?_ shared, nofun⟩, free, taken, full⟩
  rw [List.perm_iff_count]
  intro c
  simp only [Board.ended, pending, List.count_append, List.count_cons]
  omega

theorem Books.started (books : Books cap calls running busy b) (call : Call) :
    Books cap calls running busy (b.note (.started call)) := by
  obtain ⟨⟨lost, shared, calm⟩, free, taken, full⟩ := books
  refine ⟨⟨lost, ?_, calm⟩, free, taken, full⟩
  have same : (b.note (.started call)).ended = b.ended := by
    simp [Board.ended, note, endings, Happening.ending?]
  rw [same]
  exact shared

theorem Books.sleep {p : Pause σ} (books : Books cap calls (p.call :: running) (busy + 1) b) :
    Books cap calls running busy (b.sleep p) := by
  obtain ⟨⟨lost, shared, calm⟩, free, taken, full⟩ := books
  refine ⟨⟨lost, .trans ?_ shared, calm⟩, free, ?_, full⟩
  · rw [List.perm_iff_count]
    intro c
    simp only [Board.ended, Board.sleep, pending, List.map_append, List.map_cons, List.map_nil,
      List.count_append, List.count_cons, List.count_nil]
    omega
  · intro capped
    have := taken capped
    simp only [holders, Board.sleep, List.length_append, List.length_singleton] at this ⊢
    omega

theorem Books.cutShort {p : Pause σ} (books : Books cap calls (p.call :: running) (busy + 1) b) :
    Books cap calls running busy { b with cut := p :: b.cut } := by
  obtain ⟨⟨lost, shared, calm⟩, free, taken, full⟩ := books
  refine ⟨⟨lost, .trans ?_ shared, calm⟩, free, ?_, full⟩
  · rw [List.perm_iff_count]
    intro c
    simp only [Board.ended, pending, List.map_cons, List.count_append, List.count_cons]
    omega
  · intro capped
    have := taken capped
    simp only [holders, List.length_cons] at this ⊢
    omega

theorem Books.goes {d : Board σ} {r : σ × Option Answer} (goes : Goes call r b d)
    (books : Books cap calls (call :: running) (busy + 1) b) : Books cap calls running busy d := by
  cases goes with
  | answered => exact (books.ended _ 0).leave
  | crashed => exact books.crashed.leave
  | cut own =>
      subst own
      exact books.cutShort
  | asleep own =>
      subst own
      exact books.sleep

theorem Books.goOn {n : Nat} (left : Nat) (conduct : Conduct σ n)
    (books : Books cap calls (call :: running) (busy + 1) b) :
    Books cap calls running busy (goOn call left conduct b) := by
  obtain ⟨_, goes⟩ := goes_goOn call left conduct b
  exact Books.goes goes ⟨books.calls, books.free, books.taken, books.full⟩

theorem Books.start {job : Job (Executor σ)} (left : Nat)
    (books : Books cap calls (job.call :: running) (busy + 1) b) :
    Books cap calls running busy (b.start left job) := by
  unfold Board.start
  apply Books.goOn
  apply Books.started
  exact ⟨books.calls, books.free, books.taken, books.full⟩

theorem Books.wake {p : Pause σ} (books : Books cap calls (p.call :: running) (busy + 1) b) :
    Books cap calls running busy (b.wake p) := by
  unfold Board.wake
  apply Books.goOn
  exact ⟨books.calls, books.free, books.taken, books.full⟩

/-- A free slot is given to a call. -/
theorem Books.grant (books : Books cap calls running busy b) (room : b.taken < cap) :
    Books cap calls running (busy + 1) { b with taken := b.taken + 1 } := by
  refine ⟨books.calls, books.free, ?_, ?_⟩
  · intro capped
    have := books.taken capped
    simp only [holders] at this ⊢
    omega
  · intro waits
    have := books.full waits
    omega

theorem Books.take {turn : Turn σ}
    (books : Books cap calls [turn.call] (if turn.hasSlot then 1 else 0) b) :
    Books cap calls [] 0 (b.take cap turn) := by
  cases turn with
  | ask job =>
      simp only [Board.take]
      split
      next uncapped =>
        apply Books.start
        exact ⟨books.calls, books.free, fun capped => absurd uncapped capped, books.full⟩
      next capped =>
        split
        next room => exact Books.start _ (books.grant room)
        -- The only case in which a call has to wait, and all slots are taken in it.
        next noRoom =>
          obtain ⟨⟨lost, shared, calm⟩, free, taken, full⟩ := books
          refine ⟨⟨lost, .trans ?_ shared, calm⟩, fun uncapped => absurd uncapped capped, taken,
            fun _ => Nat.le_of_not_lt noRoom⟩
          rw [List.perm_iff_count]
          intro c
          simp only [Board.ended, pending, Turn.call, List.map_append, List.map_cons, List.map_nil,
            List.count_append, List.count_cons, List.count_nil]
          omega
  | start job => exact Books.start _ books
  | pause p =>
      simp only [Board.take]
      split
      · exact Books.wake books
      · exact Books.sleep books
  | wake p => exact Books.wake books

/-- The books while a turn is made that was taken from the queue. -/
theorem Books.enter {turn : Turn σ} {before after : List (Turn σ)}
    (queued : b.queue = before ++ turn :: after) (books : Books cap calls [] 0 b) :
    Books cap calls [turn.call] (if turn.hasSlot then 1 else 0)
      { b with queue := before ++ after } := by
  obtain ⟨⟨lost, shared, calm⟩, free, taken, full⟩ := books
  refine ⟨⟨lost, .trans ?_ shared, calm⟩, free, ?_, full⟩
  · rw [List.perm_iff_count]
    intro c
    simp only [Board.ended, pending, queued, List.map_append, List.map_cons, List.count_append,
      List.count_cons, List.count_nil]
    omega
  · intro capped
    have := taken capped
    cases slot : turn.hasSlot <;>
      simp only [holders, queued, List.filter_append, List.filter_cons, slot, if_true,
        Bool.false_eq_true, if_false, List.length_append, List.length_cons] at this ⊢ <;> omega

theorem Books.move {d : Board σ} {inOrder : Prop} (move : Move cap inOrder b d)
    (books : Books cap calls [] 0 b) : Books cap calls [] 0 d := by
  cases move with
  | turn queued _ => exact (books.enter queued).take
  | resume =>
      obtain ⟨⟨lost, shared, calm⟩, free, taken, full⟩ := books
      refine ⟨⟨lost, .trans ?_ shared, calm⟩, free, ?_, full⟩
      · have resumed : (b.cut.map Turn.pause).map Turn.call = b.cut.map Pause.call := by
          rw [List.map_map]
          rfl
        rw [List.perm_iff_count]
        intro c
        simp only [Board.ended, pending, List.map_append, resumed, List.map_nil,
          List.count_append, List.count_nil]
        omega
      · intro capped
        have := taken capped
        have resumed (p : Pause σ) : (Turn.pause p).hasSlot = true := rfl
        simp only [holders, List.filter_append, List.length_append, Turn.slots_map resumed,
          if_true, List.length_nil] at this ⊢
        omega
  | wake now due =>
      obtain ⟨⟨lost, shared, calm⟩, free, taken, full⟩ := books
      have parts := List.filter_append_perm due b.sleeping
      refine ⟨⟨lost, .trans ?_ shared, calm⟩, free, ?_, full⟩
      · have both := parts.map fun s => s.2.call
        rw [List.perm_iff_count] at both ⊢
        intro c
        have := both c
        simp only [Board.ended, pending, List.map_map, List.map_append, List.count_append,
          Function.comp_def, Turn.call] at this ⊢
        omega
      · intro capped
        have := taken capped
        have both := parts.length_eq
        have woken (s : Nat × Pause σ) : (Turn.wake s.2).hasSlot = true := rfl
        simp only [holders, List.filter_append, List.length_append, Turn.slots_map woken,
          if_true] at this both ⊢
        omega

/-- On an idle board nobody waits either, because all slots are free. -/
theorem Books.pending_eq_nil (books : Books cap calls [] 0 b) (idle : b.Idle) :
    b.pending = [] := by
  obtain ⟨noTurns, noneCut, awake⟩ := idle
  have noneWaiting : b.waiting = [] := by
    by_cases waits : b.waiting = []
    · exact waits
    · have full := books.full waits
      by_cases capped : cap = 0
      · exact books.free capped
      · have taken := books.taken capped
        simp only [holders, noTurns, noneCut, awake, List.filter_nil, List.length_nil] at taken
        omega
  simp [pending, noTurns, noneCut, awake, noneWaiting]

theorem books_fresh (cap : Nat) (jobs : List (Job (Executor σ))) (world : σ) :
    Books cap (jobs.map Job.call) [] 0 (fresh jobs world) := by
  refine ⟨⟨[], ?_, fun _ => rfl⟩, fun _ => rfl, fun _ => ?_, fun waits => absurd rfl waits⟩
  · simp [ended, pending, fresh, endings, Function.comp_def, Turn.call]
  · have asked (job : Job (Executor σ)) : (Turn.ask job).hasSlot = false := rfl
    simp [holders, fresh, Turn.slots_map asked]

end Board

theorem Happening.SameButTime.calls {told told' : List Happening}
    (same : List.Forall₂ Happening.SameButTime told told') :
    (endings told).map Ending.call = (endings told').map Ending.call := by
  induction same with
  | nil => rfl
  | cons head _ ih =>
      cases head with
      | started => exact ih
      | ended => exact congrArg (_ :: ·) ih

/-- A worker that works by moves leaves no call without an end unless one crashes. -/
theorem Worker.Schedules.faithful {worker : Worker (Site σ) (Executor σ)} {cap : Nat}
    {inOrder : Prop} (schedules : worker.Schedules cap inOrder) : worker.Faithful := by
  intro jobs site
  obtain ⟨b, moves, idle, _, told, crashed⟩ := schedules jobs site
  have books := Board.moves_keep Board.Books.move moves (Board.books_fresh cap jobs site.world)
  obtain ⟨lost, shared, calm⟩ := books.calls
  refine ⟨lost ++ b.pending, ?_, ?_⟩
  · rw [Happening.SameButTime.calls told, ← List.append_assoc]
    exact shared
  · intro fine
    rw [crashed] at fine
    rw [calm fine, books.pending_eq_nil (idle fine)]
    rfl

theorem Pool.worker_faithful (cap : Nat) : (Pool.worker (σ := σ) cap).Faithful :=
  (Pool.worker_schedules cap True).faithful

end Superstep
