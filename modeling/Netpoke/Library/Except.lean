import Mathlib.Logic.Basic

/-!
# Fallible steps in `Except`

A handler written with `?` is a chain of binds in `Except`: it returns `.ok` only when every step
did, and a `throw` never does. These are the facts a proof uses to walk such a chain, one bind at
a time, without unfolding `bind`.
-/

namespace Except

theorem bind_eq_ok {ε α β : Type} {x : Except ε α} {f : α → Except ε β} {b : β}
    (h : (x >>= f) = .ok b) : ∃ a, x = .ok a ∧ f a = .ok b := by
  cases x with
  | error e => cases h
  | ok a => exact ⟨a, rfl, h⟩

theorem throw_ne_ok {ε α : Type} {e : ε} {a : α} : (throw e : Except ε α) ≠ .ok a := by
  intro h
  cases h

theorem throw_bind_ne_ok {ε α β : Type} {e : ε} {f : α → Except ε β} {b : β} :
    (throw e >>= f) ≠ .ok b := by
  intro h
  cases h

end Except
