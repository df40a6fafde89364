import Mathlib

/-!
# Results that may be errors

What it takes for a computation in `Except` to succeed.
-/

namespace Except

variable {ε α β : Type}

/-- A sequence succeeds when both of its parts do. -/
theorem bind_eq_ok_iff {x : Except ε α} {f : α → Except ε β} {b : β} :
    (x >>= f) = .ok b ↔ ∃ a, x = .ok a ∧ f a = .ok b := by
  cases x with
  | error | ok => simp [bind, Except.bind]

theorem map_eq_ok_iff {x : Except ε α} {f : α → β} {b : β} :
    x.map f = .ok b ↔ ∃ a, x = .ok a ∧ f a = b := by
  cases x with
  | error | ok => simp [Except.map]

end Except
