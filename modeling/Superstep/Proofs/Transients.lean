import Superstep.Proofs.Levels

/-! # Failures that may pass

An executor that retries calls another one until it has an answer that is final, or until
its retries are used up. What the other one answers, call after call, is a sequence; a call
of the retrying executor takes the next stretch of it, up to the first final answer if that
comes soon enough, and gives back the last answer of the stretch.
-/

namespace Superstep

variable {σ : Type}

/-- A failure that may pass: too little time, trouble with input or output, or a task
    whose message has one of the signs. -/
inductive Failure.MayPass : Failure → Prop where
  | timeout {taskType : String} {seconds : Nat} : MayPass (.timeout taskType seconds)
  | io {message : String} : MayPass (.io message)
  | task {taskType before sign after : String}
      (listed : sign ∈ ["429", "502", "503", "timeout", "connection"]) :
      MayPass (.task taskType (before ++ sign ++ after))

theorem Failure.isTransient_iff {cause : Failure} : cause.isTransient = true ↔ cause.MayPass := by
  constructor
  · intro transient
    unfold isTransient at transient
    split at transient
    next taskType message =>
      obtain ⟨sign, listed, occurs⟩ := List.any_eq_true.1 transient
      obtain ⟨before, after, rfl⟩ := Text.occurs_iff.1 occurs
      exact .task listed
    next => exact .timeout
    next => exact .io
    next => cases transient
  · intro may
    cases may with
    | timeout => rfl
    | io => rfl
    | task listed => exact List.any_eq_true.2 ⟨_, listed, Text.occurs_iff.2 ⟨_, _, rfl⟩⟩

/-- An answer that is not tried again: a success, or a failure that does not pass. -/
inductive Final : Answer → Prop where
  | success {output : String} : Final (.ok output)
  | failure {cause : Failure} (lasting : ¬ cause.MayPass) : Final (.error cause)

/-- The executor answers from a sequence. The world tells the place of the next answer. -/
structure Executor.Plays (e : Executor σ) (r : Nat → Answer) (place : σ → Nat) : Prop where
  answer : ∀ call world, (e.attempt call world).2 = some (r (place world))
  next : ∀ call world, place (e.attempt call world).1 = place world + 1

/-- The retries of a call whose first answer has a place in a sequence: as many as there
    are answers before the first final one, but not more than are allowed. -/
structure RetriesMade (most : Nat) (r : Nat → Answer) (first retries : Nat) : Prop where
  final : ∀ j, Final (r (first + j)) → (∀ i < j, ¬ Final (r (first + i))) → retries = min j most
  never : (∀ i, ¬ Final (r (first + i))) → retries = most

/-- What calls of a retrying executor, one after another, make of a sequence between two
    places: the calls that are made for them, and their answers. Each call takes the stretch
    of the sequence that follows on that of the call before. -/
inductive Consumes (most : Nat) (r : Nat → Answer) :
    (first : Nat) → List Call → (made : List Call) → (answers : List Answer) → (last : Nat) →
      Prop where
  | none {first : Nat} : Consumes most r first [] [] [] first
  | call {first retries last : Nat} {call : Call} {calls made : List Call} {answers : List Answer}
      (retried : RetriesMade most r first retries)
      (later : Consumes most r (first + (retries + 1)) calls made answers last) :
      Consumes most r first (call :: calls) (List.replicate (retries + 1) call ++ made)
        (r (first + retries) :: answers) last

namespace RetriesMade

variable {most first retries : Nat} {r : Nat → Answer}

theorem of_none (r : Nat → Answer) (first : Nat) : RetriesMade 0 r first 0 where
  final j _ _ := (Nat.min_zero j).symm
  never _ := rfl

theorem of_final (final : Final (r first)) : RetriesMade most r first 0 where
  final j _ earlier := by
    cases j with
    | zero => exact (Nat.zero_min most).symm
    | succ j => exact absurd final (earlier 0 (Nat.succ_pos j))
  never none := absurd final (none 0)

theorem again (passes : ¬ Final (r first)) (later : RetriesMade most r (first + 1) retries) :
    RetriesMade (most + 1) r first (retries + 1) where
  final j final earlier := by
    cases j with
    | zero => exact absurd final passes
    | succ j =>
        have shift (i : Nat) : first + 1 + i = first + (i + 1) := by omega
        have := later.final j (shift j ▸ final) fun i before =>
          shift i ▸ earlier (i + 1) (Nat.succ_lt_succ before)
        omega
  never none := by
    have shift (i : Nat) : first + 1 + i = first + (i + 1) := by omega
    rw [later.never fun i => shift i ▸ none (i + 1)]

end RetriesMade

/-- Make calls of an executor, one after another. -/
def Executor.attemptAll (e : Executor σ) : List Call → σ → σ × List (Option Answer)
  | [], world => (world, [])
  | call :: rest, world =>
      let (world, answer) := e.attempt call world
      let (world, answers) := e.attemptAll rest world
      (world, answer :: answers)

namespace Executor.Plays

variable {e : Executor σ} {r : Nat → Answer} {place : σ → Nat}

/-- The attempts for one call, with so many retries left. -/
theorem attempts (plays : e.Plays r place) (key : String) (call : Call) (left : Nat)
    (u : Logged σ) :
    ∃ retries, RetriesMade left r (place u.world) retries ∧
      ((e.watched key).attempts call left u).2 = some (r (place u.world + retries)) ∧
      place ((e.watched key).attempts call left u).1.world = place u.world + (retries + 1) ∧
      ((e.watched key).attempts call left u).1.log =
        u.log ++ (List.replicate (retries + 1) call).map (.executed key) := by
  induction left generalizing u with
  | zero =>
      simp only [Executor.attempts, attempt_watched]
      exact ⟨0, .of_none r _, plays.answer call u.world, plays.next call u.world, rfl⟩
  | succ left ih =>
      have answered := plays.answer call u.world
      have next := plays.next call u.world
      simp only [Executor.attempts, attempt_watched, answered]
      cases reply : r (place u.world) with
      | ok output =>
          exact ⟨0, .of_final (reply ▸ .success), congrArg some reply.symm, next, rfl⟩
      | error cause =>
          by_cases may : cause.MayPass
          · have passes : ¬ Final (r (place u.world)) := by
              intro final
              rw [reply] at final
              cases final with
              | failure lasting => exact lasting may
            obtain ⟨retries, retried, last, ends, log⟩ :=
              ih ⟨(e.attempt call u.world).1, u.log ++ [.executed key call]⟩
            simp only [next] at retried last ends
            simp only [Failure.isTransient_iff.2 may, if_true]
            refine ⟨retries + 1, .again passes retried, ?_, ?_, ?_⟩
            · rw [last, Nat.add_assoc, Nat.add_comm 1]
            · rw [ends]
              omega
            · simp [log, List.replicate_succ]
          · have stays : cause.isTransient = false := by
              rw [Bool.eq_false_iff, ne_eq, Failure.isTransient_iff]
              exact may
            simp only [stays, Bool.false_eq_true, if_false]
            exact ⟨0, .of_final (reply ▸ .failure may), congrArg some reply.symm, next, rfl⟩

end Executor.Plays

/-- Whatever an executor answers, call after call, the one that retries it makes one call
    more than there are answers before the first final one, and at most one call more than
    it may retry, each time the same call, and gives back the answer to the last of them. Its
    next call goes on in the sequence where this one ends. -/
theorem transient_failures_retried {e : Executor σ} {r : Nat → Answer} {place : σ → Nat}
    (plays : e.Plays r place) (policy : RetryPolicy) (key : String) (calls : List Call)
    (u : Logged σ) :
    (∀ cause : Failure, cause.isTransient = true ↔ cause.MayPass) ∧
    ∃ made answers,
      Consumes policy.maxRetries r (place u.world) calls made answers
        (place (((e.watched key).retrying policy).attemptAll calls u).1.world) ∧
      (((e.watched key).retrying policy).attemptAll calls u).2 = answers.map some ∧
      (((e.watched key).retrying policy).attemptAll calls u).1.log =
        u.log ++ made.map (.executed key) := by
  refine ⟨fun cause => Failure.isTransient_iff, ?_⟩
  induction calls generalizing u with
  | nil => exact ⟨[], [], .none, rfl, (List.append_nil _).symm⟩
  | cons call rest ih =>
      obtain ⟨retries, retried, last, next, log⟩ := plays.attempts key call policy.maxRetries u
      rw [← Executor.attempt_retrying] at last next log
      obtain ⟨made, answers, later, replies, logLater⟩ :=
        ih (((e.watched key).retrying policy).attempt call u).1
      rw [next] at later
      refine ⟨_, _, .call retried later, ?_, ?_⟩
      · simp only [Executor.attemptAll, replies, last, List.map_cons]
      · simp only [Executor.attemptAll, logLater, log, List.map_append, List.append_assoc]

/-! ## Prepared answers -/

/-- An executor that answers from a sequence and keeps the place it has come to. -/
def Executor.sequence (r : Nat → Answer) : Executor Nat where
  name := "sequence"
  openSession place := (place, .ok ())
  waits := 0
  execute _ place := (place + 1, .answer (r place))

theorem Executor.plays_sequence (r : Nat → Answer) : (Executor.sequence r).Plays r id where
  answer _ _ := rfl
  next _ _ := rfl

namespace Wobbly

/-- A busy service that answers once, and then is not to be reached any more. -/
def answer : Nat → Answer
  | 0 => .error (.task "work" "503 busy")
  | 1 => .ok "done"
  | _ => .error (.timeout "work" 5)

def call (attempt : Nat) : Call :=
  ⟨"one", "a", "a", "work", attempt, 2, "go"⟩

theorem passing (i : Nat) (other : i ≠ 1) : ¬ Final (answer i) := by
  intro final
  match i with
  | 0 =>
      have may : Failure.MayPass (.task "work" ("" ++ "503" ++ " busy")) := .task (by decide)
      cases final with
      | failure lasting => exact lasting may
  | 1 => exact other rfl
  | _ + 2 =>
      cases final with
      | failure lasting => exact lasting .timeout

end Wobbly

open Wobbly in
theorem transient_failures_retried_wobbly :
    ((((Executor.sequence answer).watched "work").retrying { maxRetries := 3 }).attemptAll
        [call 1, call 2] ⟨0, []⟩).2 = [some (.ok "done"), some (.error (.timeout "work" 5))] ∧
      ((((Executor.sequence answer).watched "work").retrying { maxRetries := 3 }).attemptAll
        [call 1, call 2] ⟨0, []⟩).1.log =
          (List.replicate 2 (call 1) ++ List.replicate 4 (call 2)).map (.executed "work") := by
  obtain ⟨_, made, answers, consumed, replies, log⟩ :=
    transient_failures_retried (Executor.plays_sequence answer) { maxRetries := 3 } "work"
      [call 1, call 2] ⟨0, []⟩
  rw [replies, log]
  cases consumed with
  | call first later =>
      obtain rfl := first.final 1 .success fun i before => passing (0 + i) (by omega)
      cases later with
      | call second last =>
          obtain rfl := second.never fun i => passing (2 + i) (by omega)
          cases last
          exact ⟨rfl, rfl⟩

end Superstep
