import Mathlib.Control.Monad.Basic

/-!
# Chains of fallible steps

A chain of steps that can fail succeeds exactly when each of its steps does; the lemmas here
take a chain apart one step at a time.
-/

universe u

namespace Except

variable {ε ε' α β : Type u}

/-- A chain succeeds exactly when its first step and the rest do. -/
lemma bind_eq_ok {x : Except ε α} {f : α → Except ε β} {b : β} :
    x >>= f = .ok b ↔ ∃ a, x = .ok a ∧ f a = .ok b := by
  cases x with
  | error e =>
    constructor
    · intro h
      nomatch h
    · rintro ⟨a, h, -⟩
      nomatch h
  | ok a =>
    constructor
    · intro h
      exact ⟨a, rfl, h⟩
    · rintro ⟨a', ha, h⟩
      obtain rfl := Except.ok.inj ha
      exact h

/-- A property of every error of a chain's first step and of every error of the rest is a
property of every error of the chain. -/
lemma error_of_bind {P : ε → Prop} {x : Except ε α} {f : α → Except ε β} {e : ε}
    (h : x >>= f = .error e) (hx : ∀ e, x = .error e → P e)
    (hf : ∀ a, f a = .error e → P e) : P e := by
  cases x with
  | error e' =>
    obtain rfl : e' = e := Except.error.inj h
    exact hx e' rfl
  | ok a => exact hf a h

lemma mapError_eq_error {x : Except ε α} {f : ε → ε'} {e : ε'}
    (h : x.mapError f = .error e) : ∃ e₀, e = f e₀ := by
  cases x with
  | error e₀ => exact ⟨e₀, (Except.error.inj h).symm⟩
  | ok a => nomatch h

/-- A step succeeds whatever its errors are named. -/
lemma mapError_eq_ok {x : Except ε α} {f : ε → ε'} {a : α} :
    x.mapError f = .ok a ↔ x = .ok a := by
  cases x with
  | error e =>
    constructor
    all_goals
      intro h
      nomatch h
  | ok a' => exact ⟨fun h => congrArg Except.ok (Except.ok.inj h), fun h => h ▸ rfl⟩

end Except
