/-! # Results of steps that may fail

A sequence of two steps succeeds only if both do, and a result that is no success
is a failure.
-/

namespace Superstep

variable {ε α β : Type}

theorem bind_ok {x : Except ε α} {f : α → Except ε β} {b : β} (ok : (x >>= f) = .ok b) :
    ∃ a, x = .ok a ∧ f a = .ok b := by
  cases x with
  | error _ => cases ok
  | ok a => exact ⟨a, rfl, ok⟩

theorem eq_ok_of_toOption {x : Except ε α} {a : α} (found : x.toOption = some a) : x = .ok a := by
  cases x with
  | error _ => cases found
  | ok _ => cases found; rfl

theorem map_ok {x : Except ε α} {f : α → β} {b : β} (ok : x.map f = .ok b) :
    ∃ a, x = .ok a ∧ f a = b := by
  cases x with
  | error _ => cases ok
  | ok a => exact ⟨a, rfl, Except.ok.inj ok⟩

theorem exists_ok {x : Except ε α} (succeeded : x.toBool = true) : ∃ a, x = .ok a := by
  cases x with
  | error _ => cases succeeded
  | ok a => exact ⟨a, rfl⟩

theorem exists_error {x : Except ε α} (failed : x.toBool = false) : ∃ cause, x = .error cause := by
  cases x with
  | error cause => exact ⟨cause, rfl⟩
  | ok _ => cases failed

end Superstep
