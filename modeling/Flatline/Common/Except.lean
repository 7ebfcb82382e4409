import Mathlib

/-!
# Chains of fallible steps

What it means for a chain of `Except` steps to succeed or to fail.
-/

namespace Except

variable {ε : Type*} {α β : Type u}

/-- A chain succeeds exactly when the first step and the rest do. -/
theorem bind_eq_ok_iff {x : Except ε α} {f : α → Except ε β} {b : β} :
    (x >>= f) = .ok b ↔ ∃ a, x = .ok a ∧ f a = .ok b := by
  cases x <;> simp [bind, Except.bind]

/-- A guard succeeds exactly when its condition holds. -/
theorem ite_error_eq_ok_iff {p : Prop} [Decidable p] {e : ε} {x : Except ε α} {a : α} :
    (if p then .error e else x) = .ok a ↔ ¬ p ∧ x = .ok a := by
  by_cases h : p <;> simp [h]

end Except
