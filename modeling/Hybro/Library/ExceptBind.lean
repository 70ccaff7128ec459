import Mathlib.Data.List.Basic

/-! # Steps that may fail

A sequence of fallible steps succeeds exactly when every step does.
-/

namespace Hybro

theorem bind_eq_ok {ε α β : Type} {x : Except ε α} {f : α → Except ε β} {b : β} :
    (x >>= f) = .ok b ↔ ∃ a, x = .ok a ∧ f a = .ok b := by
  cases x with
  | error message => simp [bind, Except.bind]
  | ok a => simp [bind, Except.bind]

end Hybro
