import Mathlib.Tactic.Common

/-!
# Computations on a state

A property of computations that survives `pure` and `bind` holds of whatever is built from steps that
have it. Two such properties are that an invariant of the state is kept, and that states which are
related stay so and give the same result.
-/

namespace Stateful

structure Closed {m : Type → Type} [Monad m] (Q : ∀ ⦃α : Type⦄, m α → Prop) : Prop where
  pure {α : Type} (a : α) : Q (pure a)
  bind {α β : Type} {x : m α} {f : α → m β} (hx : Q x) (hf : ∀ a, Q (f a)) : Q (x >>= f)

variable {σ α : Type}

/-- A run from a state with the property ends in one. -/
def Preserves (P : σ → Prop) (x : StateM σ α) : Prop := ∀ s, P s → P (x.run s).2

/-- Runs from related states have one result and end in related states. -/
def Respects (R : σ → σ → Prop) (x : StateM σ α) : Prop :=
  ∀ s₁ s₂, R s₁ s₂ → (x.run s₁).1 = (x.run s₂).1 ∧ R (x.run s₁).2 (x.run s₂).2

theorem closed_preserves (P : σ → Prop) : Closed (m := StateM σ) (fun _ => Preserves P) where
  pure _ _ h := h
  bind hx hf s h := hf _ _ (hx s h)

theorem closed_respects (R : σ → σ → Prop) : Closed (m := StateM σ) (fun _ => Respects R) where
  pure _ _ _ h := ⟨rfl, h⟩
  bind {_ _ x f} hx hf s₁ s₂ h := by
    obtain ⟨hvalue, hstate⟩ := hx s₁ s₂ h
    have hrest := hf (x.run s₁).1 _ _ hstate
    change ((f (x.run s₁).1).run (x.run s₁).2).1 = ((f (x.run s₂).1).run (x.run s₂).2).1 ∧
      R ((f (x.run s₁).1).run (x.run s₁).2).2 ((f (x.run s₂).1).run (x.run s₂).2).2
    rwa [← hvalue]

end Stateful
