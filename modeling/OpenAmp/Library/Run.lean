import Mathlib.Tactic.Common

/-!
# Runs of a guarded machine

A machine takes actions of the environment. An action may be one the environment has no right to
take, and a step may fail to come to an end, which `none` stands for; a run contains neither.
-/

namespace Run

variable {σ α : Type*} {allowed : σ → α → Prop} {step : σ → α → Option σ} {s₀ s : σ}

/-- The states that runs of allowed actions reach from `s₀`. -/
inductive Reachable (allowed : σ → α → Prop) (step : σ → α → Option σ) (s₀ : σ) : σ → Prop where
  | start : Reachable allowed step s₀ s₀
  | next {s s' : σ} (a : α) (hs : Reachable allowed step s₀ s) (ha : allowed s a)
      (hstep : step s a = some s') : Reachable allowed step s₀ s'

/-- What holds at the start and survives every allowed step holds throughout. -/
theorem Reachable.invariant {P : σ → Prop} (hs : Reachable allowed step s₀ s) (hstart : P s₀)
    (hnext : ∀ s a s', P s → allowed s a → step s a = some s' → P s') : P s := by
  induction hs with
  | start => exact hstart
  | next a _ ha hstep ih => exact hnext _ a _ ih ha hstep

/-- A machine with weaker guards reaches at least as much. -/
theorem Reachable.mono {allowed' : σ → α → Prop} (hs : Reachable allowed step s₀ s)
    (hle : ∀ s a, allowed s a → allowed' s a) : Reachable allowed' step s₀ s := by
  induction hs with
  | start => exact .start
  | next a _ ha hstep ih => exact .next a ih (hle _ a ha) hstep

/-- The state after a list of actions, taken without regard to the guard. -/
def exec (step : σ → α → Option σ) (s : σ) (actions : List α) : Option σ :=
  actions.foldlM step s

/-- The machine that does not take an action it is not allowed. -/
def guarded (allowed : σ → α → Prop) [∀ s a, Decidable (allowed s a)] (step : σ → α → Option σ)
    (s : σ) (a : α) : Option σ :=
  if allowed s a then step s a else none

/-- An executed list of allowed actions is a run. -/
theorem reachable_of_exec [∀ s a, Decidable (allowed s a)] {actions : List α} {s' : σ}
    (hs : Reachable allowed step s₀ s) (hexec : exec (guarded allowed step) s actions = some s') :
    Reachable allowed step s₀ s' := by
  induction actions generalizing s with
  | nil =>
      obtain rfl : s = s' := Option.some.inj hexec
      exact hs
  | cons a actions ih =>
      simp only [exec, List.foldlM_cons, Option.bind_eq_bind, Option.bind_eq_some_iff] at hexec
      obtain ⟨middle, hfirst, hrest⟩ := hexec
      rw [guarded] at hfirst
      split_ifs at hfirst with ha
      exact ih (.next a hs ha hfirst) hrest

section Evaluation

variable {β : Type*} (allowed : σ → α → Prop) [∀ s a, Decidable (allowed s a)]
  (step : σ → α → Option σ)

/-- A run found by evaluation, with something seen where it ends. -/
theorem exists_reachable (s₀ : σ) (actions : List α) (observe : σ → β) (value : β)
    (hrun : (exec (guarded allowed step) s₀ actions).map observe = some value) :
    ∃ s, Reachable allowed step s₀ s ∧ observe s = value := by
  obtain ⟨s, hexec, hs⟩ := Option.map_eq_some_iff.mp hrun
  exact ⟨s, reachable_of_exec .start hexec, hs⟩

/-- The same from a start that may fail. -/
theorem exists_reachable_of_ok {ε : Type*} (start : Except ε σ) (actions : List α)
    (observe : σ → β) (value : β)
    (hrun : (start.toOption.bind fun s₀ =>
      (exec (guarded allowed step) s₀ actions).map observe) = some value) :
    ∃ s₀ s, start = .ok s₀ ∧ Reachable allowed step s₀ s ∧ observe s = value := by
  cases start with
  | error err => exact nomatch hrun
  | ok s₀ =>
      obtain ⟨s, hs, hvalue⟩ := exists_reachable allowed step s₀ actions observe value hrun
      exact ⟨s₀, s, rfl, hs, hvalue⟩

end Evaluation

/-- What holds at the start and survives the actions of a list holds after them. -/
theorem exec_invariant {P : σ → Prop} {actions : List α} {s' : σ}
    (hexec : exec step s actions = some s') (hstart : P s)
    (hnext : ∀ s a s', a ∈ actions → P s → step s a = some s' → P s') : P s' := by
  induction actions generalizing s with
  | nil =>
      obtain rfl : s = s' := Option.some.inj hexec
      exact hstart
  | cons a actions ih =>
      simp only [exec, List.foldlM_cons, Option.bind_eq_bind, Option.bind_eq_some_iff] at hexec
      obtain ⟨middle, hfirst, hrest⟩ := hexec
      have hmiddle := hnext s a middle List.mem_cons_self hstart hfirst
      exact ih hrest hmiddle fun s b s' hb => hnext s b s' (List.mem_cons_of_mem a hb)

/-- Actions that are allowed in every state extend a run. -/
theorem Reachable.exec {actions : List α} {s' : σ} (hs : Reachable allowed step s₀ s)
    (hall : ∀ a ∈ actions, ∀ s, allowed s a) (hexec : exec step s actions = some s') :
    Reachable allowed step s₀ s' :=
  exec_invariant hexec hs fun s a _ ha hreach hstep => .next a hreach (hall a ha s) hstep

/-- A machine that always has an action of some kind which brings it closer to a goal gets there by
actions of that kind. -/
theorem exists_exec_of_measure (step : σ → α → Option σ) (P goal : σ → Prop) (kind : α → Prop)
    (measure : σ → Nat)
    (hnext : ∀ s, P s → ¬ goal s → ∃ a s', kind a ∧ step s a = some s' ∧ P s' ∧
      measure s' < measure s) (hs : P s) :
    ∃ actions s', actions.length ≤ measure s ∧ (∀ a ∈ actions, kind a) ∧
      exec step s actions = some s' ∧ P s' ∧ goal s' := by
  induction hn : measure s using Nat.strongRecOn generalizing s with
  | _ n ih =>
      by_cases hgoal : goal s
      · exact ⟨[], s, Nat.zero_le _, fun _ ha => absurd ha List.not_mem_nil, rfl, hs, hgoal⟩
      · obtain ⟨a, next, ha, hstep, hP, hlt⟩ := hnext s hs hgoal
        obtain ⟨actions, s', hlen, hkind, hexec, hend⟩ := ih _ (hn ▸ hlt) hP rfl
        refine ⟨a :: actions, s', ?_, ?_, ?_, hend⟩
        · rw [List.length_cons]
          omega
        · exact List.forall_mem_cons.mpr ⟨ha, hkind⟩
        · rw [Run.exec, List.foldlM_cons, hstep]
          exact hexec

/-- A run takes no more actions of a kind than there is of a measure that each of them uses up and
that an action of another kind adds a bounded amount to. -/
theorem countP_le_of_exec (P : σ → Prop) (own starts : α → Bool) (measure : σ → Nat) (cost : Nat)
    (hown : ∀ s a s', P s → own a = true → step s a = some s' → P s' ∧ measure s' < measure s)
    (hother : ∀ s a s', P s → own a = false → step s a = some s' →
      P s' ∧ measure s' ≤ measure s + cost * (starts a).toNat)
    {actions : List α} {s' : σ} (hs : P s) (hexec : exec step s actions = some s') :
    actions.countP own ≤ measure s + cost * actions.countP starts := by
  induction actions generalizing s with
  | nil => exact Nat.zero_le _
  | cons a actions ih =>
      simp only [exec, List.foldlM_cons, Option.bind_eq_bind, Option.bind_eq_some_iff] at hexec
      obtain ⟨middle, hstep, hrest⟩ := hexec
      have hstarts : (a :: actions).countP starts = actions.countP starts + (starts a).toNat := by
        rw [List.countP_cons]
        cases starts a <;> rfl
      rw [hstarts, List.countP_cons, Nat.mul_add]
      cases ha : own a with
      | true =>
          obtain ⟨hmiddle, hlt⟩ := hown s a middle hs ha hstep
          have hle := ih hmiddle hrest
          rw [if_pos rfl]
          omega
      | false =>
          obtain ⟨hmiddle, hle'⟩ := hother s a middle hs ha hstep
          have hle := ih hmiddle hrest
          rw [if_neg Bool.false_ne_true]
          omega

/-- A run reaches a goal that it cannot leave once enough of its actions are of a kind that brings it
closer, whatever the others take away again. -/
theorem goal_of_exec (P goal : σ → Prop) (own : α → Bool) (measure : σ → Nat) (cost : Nat)
    (hstay : ∀ s a s', goal s → step s a = some s' → goal s')
    (hown : ∀ s a s', P s → own a = true → step s a = some s' →
      goal s' ∨ (P s' ∧ measure s' < measure s))
    (hother : ∀ s a s', P s → own a = false → step s a = some s' →
      P s' ∧ measure s' ≤ measure s + cost)
    {actions : List α} {s' : σ} (hs : P s) (hexec : exec step s actions = some s')
    (hcount : measure s + cost * actions.countP (fun a => !own a) < actions.countP own) :
    goal s' := by
  induction actions generalizing s with
  | nil => exact absurd hcount (Nat.not_lt_zero _)
  | cons a actions ih =>
      simp only [exec, List.foldlM_cons, Option.bind_eq_bind, Option.bind_eq_some_iff] at hexec
      obtain ⟨middle, hfirst, hrest⟩ := hexec
      rw [List.countP_cons, List.countP_cons, Nat.mul_add] at hcount
      cases ha : own a with
      | true =>
          obtain hgoal | ⟨hmiddle, hlt⟩ := hown s a middle hs ha hfirst
          · exact exec_invariant hrest hgoal fun s a s' _ hgoal hstep => hstay s a s' hgoal hstep
          · refine ih hmiddle hrest ?_
            simp only [ha, Bool.not_true, if_true, Bool.false_eq_true, if_false] at hcount
            omega
      | false =>
          obtain ⟨hmiddle, hle⟩ := hother s a middle hs ha hfirst
          refine ih hmiddle hrest ?_
          simp only [ha, Bool.not_false, if_true, Bool.false_eq_true, if_false] at hcount
          omega

/-- A property of actions in the states they are taken in, at every action of a run. -/
def Along (step : σ → α → Option σ) (holds : σ → α → Prop) : σ → List α → Prop
  | _, [] => True
  | s, a :: actions => holds s a ∧ ∀ s', step s a = some s' → Along step holds s' actions

/-- A list of actions that executes under a guard has it along its run. -/
theorem along_of_exec {holds : σ → α → Prop} [∀ s a, Decidable (holds s a)] {actions : List α}
    {s' : σ} (hexec : exec (guarded holds step) s actions = some s') :
    Along step holds s actions := by
  induction actions generalizing s with
  | nil => trivial
  | cons a actions ih =>
      simp only [exec, List.foldlM_cons, Option.bind_eq_bind, Option.bind_eq_some_iff] at hexec
      obtain ⟨middle, hfirst, hrest⟩ := hexec
      rw [guarded] at hfirst
      split_ifs at hfirst with ha
      refine ⟨ha, fun next hnext => ?_⟩
      obtain rfl := Option.some.inj (hfirst.symm.trans hnext)
      exact ih hrest

/-- A property along a run holds of the action after any part of it. -/
theorem Along.holds_of_exec {holds : σ → α → Prop} {earlier later : List α} {a : α} {s' : σ}
    (h : Along step holds s (earlier ++ a :: later)) (hexec : exec step s earlier = some s') :
    holds s' a := by
  induction earlier generalizing s with
  | nil =>
      obtain rfl : s = s' := Option.some.inj hexec
      exact h.1
  | cons b earlier ih =>
      simp only [exec, List.foldlM_cons, Option.bind_eq_bind, Option.bind_eq_some_iff] at hexec
      obtain ⟨middle, hfirst, hrest⟩ := hexec
      exact ih (h.2 middle hfirst) hrest

/-- Where every action of a kind takes one of a measure and no other action changes it, the actions of
that kind are those that the measure has lost. -/
theorem Along.countP_add (P : σ → Prop) (own : α → Bool) (measure : σ → Nat) {holds : σ → α → Prop}
    (hnext : ∀ s a s', P s → holds s a → step s a = some s' →
      P s' ∧ measure s' + (own a).toNat = measure s)
    {actions : List α} {s' : σ} (h : Along step holds s actions) (hs : P s)
    (hexec : exec step s actions = some s') :
    P s' ∧ measure s' + actions.countP own = measure s := by
  induction actions generalizing s with
  | nil =>
      obtain rfl : s = s' := Option.some.inj hexec
      exact ⟨hs, rfl⟩
  | cons a actions ih =>
      simp only [exec, List.foldlM_cons, Option.bind_eq_bind, Option.bind_eq_some_iff] at hexec
      obtain ⟨middle, hstep, hrest⟩ := hexec
      obtain ⟨hmiddle, hfirst⟩ := hnext s a middle hs h.1 hstep
      obtain ⟨hlast, hlater⟩ := ih (h.2 middle hstep) hmiddle hrest
      have hcount : (a :: actions).countP own = actions.countP own + (own a).toNat := by
        rw [List.countP_cons]
        cases own a <;> rfl
      exact ⟨hlast, by omega⟩

/-- A property carries over along a run if it does wherever an invariant holds that actions with the
first property keep. -/
theorem Along.imp {P : σ → Prop} {Q R : σ → α → Prop} (himp : ∀ s a, P s → R s a → Q s a)
    (hnext : ∀ s a s', P s → R s a → step s a = some s' → P s') {actions : List α} (hs : P s)
    (h : Along step R s actions) : Along step Q s actions := by
  induction actions generalizing s with
  | nil => trivial
  | cons a actions ih =>
      obtain ⟨hgood, hrest⟩ := h
      refine ⟨himp s a hs hgood, fun s' hstep => ?_⟩
      exact ih (hnext s a s' hs hgood hstep) (hrest s' hstep)

/-- Two properties agree along every run if they agree wherever an invariant holds that actions with
the second property keep. -/
theorem along_iff {P : σ → Prop} {Q R : σ → α → Prop} (hiff : ∀ s a, P s → (Q s a ↔ R s a))
    (hnext : ∀ s a s', P s → R s a → step s a = some s' → P s') {actions : List α} (hs : P s) :
    Along step Q s actions ↔ Along step R s actions := by
  induction actions generalizing s with
  | nil => exact Iff.rfl
  | cons a actions ih =>
      unfold Along
      rw [hiff s a hs]
      refine and_congr_right fun hgood => ?_
      refine forall₂_congr fun s' hstep => ?_
      exact ih (hnext s a s' hs hgood hstep)

end Run
