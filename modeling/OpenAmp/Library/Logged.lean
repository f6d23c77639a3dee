import Mathlib.Control.Monad.Writer

/-!
# Computations with a log

A computation that may have no outcome keeps a list of what it has done. The list is written and never
read, so that without it the same computation is left.
-/

namespace Logged

universe u

variable {ω α β : Type u}

def outcome (x : WriterT (List ω) Option α) : Option α := x.run.map Prod.fst

theorem outcome_lift (x : Option α) : outcome (liftM x : WriterT (List ω) Option α) = x := by
  cases x <;> rfl

theorem outcome_bind (x : WriterT (List ω) Option α) (f : α → WriterT (List ω) Option β) :
    outcome (x >>= f) = outcome x >>= fun a => outcome (f a) := by
  rw [outcome, WriterT.run_bind]
  rcases hx : x.run with _ | ⟨a, log⟩
  · simp [outcome, hx]
  · rcases hf : (f a).run with _ | ⟨b, more⟩ <;> simp [outcome, hx, hf]

theorem run_pure_eq_some {a b : α} {log : List ω} :
    (pure a : WriterT (List ω) Option α).run = some (b, log) ↔ a = b ∧ log = [] := by
  constructor
  · intro h
    obtain ⟨rfl, rfl⟩ := Prod.mk.inj (Option.some.inj h)
    exact ⟨rfl, rfl⟩
  · rintro ⟨rfl, rfl⟩
    rfl

theorem run_bind_eq_some {x : WriterT (List ω) Option α} {f : α → WriterT (List ω) Option β} {b : β}
    {log : List ω} : (x >>= f).run = some (b, log) ↔
      ∃ a first rest, x.run = some (a, first) ∧ (f a).run = some (b, rest) ∧ first ++ rest = log := by
  rw [WriterT.run_bind]
  constructor
  · intro h
    obtain ⟨⟨a, first⟩, hx, hrest⟩ := Option.bind_eq_some_iff.mp h
    obtain ⟨⟨c, rest⟩, hf, heq⟩ := Option.map_eq_some_iff.mp hrest
    obtain ⟨rfl, rfl⟩ := Prod.mk.inj heq
    exact ⟨a, first, rest, hx, hf, rfl⟩
  · rintro ⟨a, first, rest, hx, hf, rfl⟩
    simp [hx, hf]

theorem run_mk_bind (a : α) (log : List ω) (f : α → WriterT (List ω) Option β) :
    (WriterT.mk (some (a, log)) >>= f : WriterT (List ω) Option β).run =
      (f a).run.map fun out => (out.1, log ++ out.2) :=
  rfl

/-- What is taken from elsewhere leaves no trace. -/
theorem run_lift_bind_eq_some {x : Option α} {f : α → WriterT (List ω) Option β} {b : β}
    {log : List ω} : (liftM x >>= f).run = some (b, log) ↔ ∃ a, x = some a ∧ (f a).run = some (b, log) := by
  cases x with
  | none => simp
  | some a => simp

end Logged
