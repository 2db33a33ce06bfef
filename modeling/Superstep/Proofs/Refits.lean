import Superstep.Proofs.Maps
import Superstep.Run.Engine

/-! # Graphs with other stations

A run asks a station for its executor, its calls and its completions, and for nothing
else. Stations that agree in these can stand in for each other in a graph: whatever
the worker does, the run is the same.
-/

namespace Superstep

/-- A station calls the same executor with the same calls as another one, and completes
    in the same way. -/
structure Station.Alike {ε : Type} (a b : Station ε) : Prop where
  executor : b.executor = a.executor
  call : ∀ runId s, b.node.callIn runId s = a.node.callIn runId s
  completion : ∀ s call answer elapsed,
    b.completion s call answer elapsed = a.completion s call answer elapsed

namespace Graph

variable {τ ε : Type}

/-- The graph with other stations at its nodes. -/
def refit (g : Graph ε) (f : Station ε → Station ε) : Graph ε :=
  { g with stations := g.stations.map f }

section

variable {g : Graph ε} {f : Station ε → Station ε}

@[simp] theorem station?_refit (id : String) :
    (g.refit f).station? id = (g.station? id).map f :=
  g.stations.get?_map f id

variable (alike : ∀ id station, g.station? id = some station → station.Alike (f station))

include alike

theorem taskTypes_refit : (g.refit f).taskTypes = g.taskTypes := by
  unfold taskTypes refit KeyMap.map
  rw [List.map_map]
  congr 2
  apply List.map_congr_left
  rintro ⟨id, station⟩ member
  have same := alike id station (g.stations.get?_eq_some_iff.2 member)
  have taskType : (f station).node.taskType = station.node.taskType :=
    congrArg Call.taskType (same.call "" (.initial "" .empty))
  simp only [Function.comp_apply, taskType]

theorem jobs_refit (runId : String) (s : State) (active : List String) :
    (g.refit f).jobs runId s active = g.jobs runId s active := by
  induction active with
  | nil => rfl
  | cons id rest ih =>
      cases found : g.station? id with
      | none => simp only [jobs, station?_refit, found, Option.map_none]
      | some station =>
          have same := alike id station found
          simp only [jobs, station?_refit, found, Option.map_some, ih, same.executor, same.call]

theorem completions_refit (s : State) (happenings : List Happening) :
    (g.refit f).completions s happenings = g.completions s happenings := by
  induction happenings with
  | nil => rfl
  | cons happening rest ih =>
      cases happening with
      | started call => exact ih
      | ended call answer elapsed =>
          cases found : g.station? call.nodeId with
          | none => simp only [completions, station?_refit, found, Option.map_none]
          | some station =>
              have same := alike call.nodeId station found
              simp only [completions, station?_refit, found, Option.map_some, ih,
                same.completion]

theorem takeStep_refit (worker : Worker τ ε) (runId : String) (number : Nat)
    (active : List String) (s : State) (t : τ) :
    (g.refit f).takeStep worker runId number active s t =
      g.takeStep worker runId number active s t := by
  unfold takeStep conclude
  simp only [jobs_refit alike, completions_refit alike]

theorem proceed_refit (worker : Worker τ ε) (runId : String) (limit left number : Nat)
    (active : List String) (s : State) (t : τ) :
    (g.refit f).proceed worker runId limit left number active s t =
      g.proceed worker runId limit left number active s t := by
  induction left generalizing number active s t with
  | zero => cases active <;> rfl
  | succ left ih =>
      cases active with
      | nil => rfl
      | cons id rest => simp only [proceed, takeStep_refit alike, ih]

end

end Graph

end Superstep
