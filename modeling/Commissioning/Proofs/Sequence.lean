import Mathlib.Tactic.Common

set_option autoImplicit false

/-! # Computations of several steps

A computation whose steps may fail succeeds exactly when each of them does, and two of them may
succeed together; one whose steps change a state is run step by step. -/

namespace Commissioning

variable {ε α β : Type}

theorem bind_eq_ok_iff {x : Except ε α} {f : α → Except ε β} {b : β} :
    x >>= f = .ok b ↔ ∃ a, x = .ok a ∧ f a = .ok b := by
  cases x with
  | error e => simp [bind, Except.bind]
  | ok a => simp [bind, Except.bind]

theorem mapError_eq_ok_iff {ε' : Type} {f : ε → ε'} {x : Except ε α} {a : α} :
    x.mapError f = .ok a ↔ x = .ok a := by
  cases x <;> simp [Except.mapError]

theorem exists_of_isOk {x : Except ε α} (h : x.isOk = true) : ∃ a, x = .ok a := by
  cases x with
  | error e => cases h
  | ok a => exact ⟨a, rfl⟩

@[simp] theorem ok_bind (a : α) (f : α → Except ε β) : Except.ok a >>= f = f a := rfl

/-! ## Steps that succeed together -/

/-- Whether two computations fail for the same reason, or succeed with results that are related. -/
inductive Matched {γ : Type} (related : α → γ → Prop) : Except ε α → Except ε γ → Prop
  | ok {a : α} {c : γ} (h : related a c) : Matched related (.ok a) (.ok c)
  | error (e : ε) : Matched related (.error e) (.error e)

namespace Matched

variable {γ : Type} {related : α → γ → Prop}

theorem refl {related : α → α → Prop} (h : ∀ a, related a a) (x : Except ε α) :
    Matched related x x := by
  cases x with
  | error e => exact .error e
  | ok a => exact .ok (h a)

theorem bind {δ ζ : Type} {related' : δ → ζ → Prop} {x : Except ε α} {y : Except ε γ}
    {f : α → Except ε δ} {g : γ → Except ε ζ} (hx : Matched related x y)
    (hf : ∀ a c, related a c → Matched related' (f a) (g c)) :
    Matched related' (x >>= f) (y >>= g) := by
  cases hx with
  | error e => exact .error e
  | ok h => exact hf _ _ h

theorem bind_same (x : Except ε β) {f : β → Except ε α} {g : β → Except ε γ}
    (h : ∀ b, Matched related (f b) (g b)) : Matched related (x >>= f) (x >>= g) := by
  cases x with
  | error e => exact .error e
  | ok b => exact h b

theorem ite {condition : Prop} [Decidable condition] {x x' : Except ε α} {y y' : Except ε γ}
    (h : Matched related x y) (h' : Matched related x' y') :
    Matched related (if condition then x else x') (if condition then y else y') := by
  split
  · exact h
  · exact h'

end Matched

/-! ## Steps that change a state -/

theorem run_bind_of_run {σ : Type} {x : StateM σ α} {f : α → StateM σ β} {s s' : σ} {a : α}
    (h : x.run s = (a, s')) : (x >>= f).run s = (f a).run s' := by
  rw [StateT.run_bind, h]
  rfl

end Commissioning
