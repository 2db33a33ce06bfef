import Superstep.Run.Step

/-! # Histories

A run is a sequence of steps that ends when no node is active any more, when it
fails, or when it has taken as many steps as it may.
-/

namespace Superstep

/-- The steps of a run and how it ended. -/
structure History where
  steps : List Step
  /-- The last state, or what stopped the run. -/
  outcome : Except EngineFault State

namespace History

/-- A history with one more step at its front. -/
def after (step : Step) (h : History) : History :=
  ⟨step :: h.steps, h.outcome⟩

end History

namespace Graph

variable {τ ε : Type}

/-- Run on from a state with active nodes. At most `left` steps of the `limit`
    may still be taken, and `number` is the number of the next one. -/
def proceed (g : Graph ε) (worker : Worker τ ε) (runId : String) (limit : Nat) :
    (left number : Nat) → (active : List String) → State → τ → τ × History
  | _, _, [], s, t => (t, ⟨[], .ok s⟩)
  | 0, _, id :: rest, _, t => (t, ⟨[], .error (.stepLimit limit (id :: rest))⟩)
  | left + 1, number, id :: rest, s, t =>
      match g.takeStep worker runId number (id :: rest) s t with
      | (t, step, .error fault) => (t, ⟨[step], .error fault⟩)
      | (t, step, .ok (s, active)) =>
          let (t, h) := g.proceed worker runId limit left (number + 1) active s t
          (t, h.after step)

/-- Run a graph from its start node, with at most `limit` steps. -/
def history (g : Graph ε) (worker : Worker τ ε) (runId : String) (limit : Nat) (s : State)
    (t : τ) : τ × History :=
  g.proceed worker runId limit limit 1 [g.startNode] s t

end Graph

end Superstep
