import Mathlib.Tactic.Common

/-!
# Loops

A loop is given by its body, which either goes round again or leaves with a result. Runs are counted
in rounds, so that they can be evaluated; a loop returns a result if some number of rounds reaches it.
-/

namespace Loop

variable {σ ρ : Type*} {body : σ → σ ⊕ ρ} {s s' : σ} {r r' : ρ}

def run (body : σ → σ ⊕ ρ) : Nat → σ → Option ρ
  | 0, _ => none
  | rounds + 1, s =>
      match body s with
      | .inl s' => run body rounds s'
      | .inr r => some r

def Returns (body : σ → σ ⊕ ρ) (s : σ) (r : ρ) : Prop := ∃ rounds, run body rounds s = some r

theorem run_of_inl (h : body s = .inl s') (rounds : Nat) :
    run body (rounds + 1) s = run body rounds s' := by
  simp only [run, h]

theorem run_of_inr (h : body s = .inr r) (rounds : Nat) : run body (rounds + 1) s = some r := by
  simp only [run, h]

theorem run_mono {rounds rounds' : Nat} (hle : rounds ≤ rounds') (h : run body rounds s = some r) :
    run body rounds' s = some r := by
  induction rounds generalizing s rounds' with
  | zero => exact absurd h (by simp [run])
  | succ rounds ih =>
      obtain ⟨more, rfl⟩ := Nat.exists_eq_add_of_le' hle
      have hsucc : more + (rounds + 1) = (more + rounds) + 1 := by omega
      rw [hsucc]
      cases hbody : body s with
      | inl s' =>
          rw [run_of_inl hbody] at h ⊢
          exact ih (by omega) h
      | inr r' =>
          rw [run_of_inr hbody] at h ⊢
          exact h

theorem Returns.of_inr (h : body s = .inr r) : Returns body s r :=
  ⟨1, run_of_inr h 0⟩

theorem Returns.of_inl (h : body s = .inl s') (hreturns : Returns body s' r) :
    Returns body s r := by
  obtain ⟨rounds, hrun⟩ := hreturns
  exact ⟨rounds + 1, (run_of_inl h rounds).trans hrun⟩

theorem Returns.of_returns (h : body s = .inl s') (hreturns : Returns body s r) :
    Returns body s' r := by
  obtain ⟨rounds, hrun⟩ := hreturns
  cases rounds with
  | zero => exact absurd hrun (by simp [run])
  | succ rounds => exact ⟨rounds, (run_of_inl h rounds).symm.trans hrun⟩

theorem Returns.unique (h : Returns body s r) (h' : Returns body s r') : r = r' := by
  obtain ⟨rounds, hrun⟩ := h
  obtain ⟨rounds', hrun'⟩ := h'
  have hmono := run_mono (Nat.le_max_left rounds rounds') hrun
  have hmono' := run_mono (Nat.le_max_right rounds rounds') hrun'
  exact Option.some.inj (hmono.symm.trans hmono')

/-- What holds at the start and survives every round holds in the round that leaves. -/
theorem Returns.invariant {P : σ → Prop} (h : Returns body s r) (hstart : P s)
    (hround : ∀ s s', P s → body s = .inl s' → P s') : ∃ s', P s' ∧ body s' = .inr r := by
  obtain ⟨rounds, hrun⟩ := h
  induction rounds generalizing s with
  | zero => exact absurd hrun (by simp [run])
  | succ rounds ih =>
      cases hbody : body s with
      | inl s' =>
          rw [run_of_inl hbody] at hrun
          exact ih (hround s s' hstart hbody) hrun
      | inr r' =>
          rw [run_of_inr hbody] at hrun
          obtain rfl := Option.some.inj hrun
          exact ⟨s, hstart, hbody⟩

/-- The states at the start of the rounds that the loop goes through from `s`. -/
inductive Reaches (body : σ → σ ⊕ ρ) (s : σ) : σ → Prop where
  | start : Reaches body s s
  | round {t t' : σ} (ht : Reaches body s t) (h : body t = .inl t') : Reaches body s t'

theorem Reaches.invariant {P : σ → Prop} {t : σ} (ht : Reaches body s t) (hstart : P s)
    (hround : ∀ t t', Reaches body s t → P t → body t = .inl t' → P t') : P t := by
  induction ht with
  | start => exact hstart
  | round ht h ih => exact hround _ _ ht ih h

/-- Where a loop returns, every state it goes through returns the same. -/
theorem Reaches.returns {t : σ} (ht : Reaches body s t) (hreturns : Returns body s r) :
    Returns body t r := by
  induction ht with
  | start => exact hreturns
  | round _ h ih => exact ih.of_returns h

/-- The round that leaves is one of those the loop goes through. -/
theorem Returns.last (h : Returns body s r) : ∃ t, Reaches body s t ∧ body t = .inr r := by
  refine h.invariant (P := Reaches body s) .start ?_
  exact fun _ _ ht hbody => ht.round hbody

/-- What is said of a state or of a result, and survives every round, holds all the way through. -/
theorem Reaches.along {P : σ ⊕ ρ → Prop} {t : σ} (ht : Reaches body s t) (hstart : P (.inl s))
    (hround : ∀ t, Reaches body s t → P (.inl t) → P (body t)) : P (.inl t) := by
  refine @Reaches.invariant σ ρ body s (fun t => P (.inl t)) t ht hstart ?_
  intro t t' hreaches hstate hbody
  exact hbody ▸ hround t hreaches hstate

theorem Returns.along {P : σ ⊕ ρ → Prop} (h : Returns body s r) (hstart : P (.inl s))
    (hround : ∀ t, Reaches body s t → P (.inl t) → P (body t)) : P (.inr r) := by
  obtain ⟨last, hlast, hleave⟩ := h.last
  exact hleave ▸ hround last hlast (hlast.along hstart hround)

/-- A loop whose rounds bring a measure down returns. -/
theorem returns_of_measure (measure : σ → Nat)
    (hround : ∀ t t', Reaches body s t → body t = .inl t' → measure t' < measure t) :
    ∃ r, run body (measure s + 1) s = some r := by
  suffices hall : ∀ bound t, Reaches body s t → measure t ≤ bound →
      ∃ r, run body (bound + 1) t = some r from hall (measure s) s .start (Nat.le_refl _)
  intro bound
  induction bound with
  | zero =>
      intro t ht hle
      cases hbody : body t with
      | inl t' => exact absurd (hround t t' ht hbody) (by omega)
      | inr r => exact ⟨r, run_of_inr hbody 0⟩
  | succ bound ih =>
      intro t ht hle
      cases hbody : body t with
      | inl t' =>
          have hlt := hround t t' ht hbody
          obtain ⟨r, hrun⟩ := ih t' (ht.round hbody) (by omega)
          exact ⟨r, (run_of_inl hbody _).trans hrun⟩
      | inr r => exact ⟨r, run_of_inr hbody _⟩

/-- A loop returns if what is known of its states has a rank that every round brings down. -/
theorem returns_of_rank {P : Nat → σ → Prop}
    (hround : ∀ rank t t', P rank t → body t = .inl t' → ∃ rank' < rank, P rank' t') {rank : Nat}
    (hstart : P rank s) : ∃ r, Returns body s r := by
  induction rank using Nat.strongRecOn generalizing s with
  | ind rank ih =>
      cases hbody : body s with
      | inl s' =>
          obtain ⟨rank', hlt, hnext⟩ := hround rank s s' hstart hbody
          obtain ⟨r, hreturns⟩ := ih rank' hlt hnext
          exact ⟨r, hreturns.of_inl hbody⟩
      | inr r => exact ⟨r, .of_inr hbody⟩

/-- Two loops whose rounds keep their states related leave in the same round, with related results. -/
theorem run_rel {σ' ρ' : Type*} {body' : σ' → σ' ⊕ ρ'} {t : σ'} {R : σ → σ' → Prop}
    {Q : ρ → ρ' → Prop} (hround : ∀ s t, R s t → Sum.LiftRel R Q (body s) (body' t)) (hstart : R s t)
    (rounds : Nat) : Option.Rel Q (run body rounds s) (run body' rounds t) := by
  induction rounds generalizing s t with
  | zero => exact .none
  | succ rounds ih =>
      have hbodies := hround s t hstart
      generalize hfirst : body s = first at hbodies
      generalize hsecond : body' t = second at hbodies
      cases hbodies with
      | inl hstates =>
          rw [run_of_inl hfirst, run_of_inl hsecond]
          exact ih hstates
      | inr hresults =>
          rw [run_of_inr hfirst, run_of_inr hsecond]
          exact .some hresults

end Loop
