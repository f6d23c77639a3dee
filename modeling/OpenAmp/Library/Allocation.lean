import Mathlib.Data.Finset.Card
import Mathlib.Data.Finset.Range
import Mathlib.Order.Bounds.Defs

/-!
# Serving requests for numbers

Requests for a number, served one after the other. A request may name its number, which has to be
free, or leave the choice to the allocator, which hands out the least free number. All requests can
be served unless a free choice takes a number that a later request names, and whether it does can be
read off the requests: the choices and the named numbers below it have then filled everything up to
that number.
-/

namespace Allocation

variable {taken numbers : List Nat} {requests : List (Option Nat)} {e k : Nat}

/-- The number `k` is what a request gets while the numbers in `taken` are not free. -/
def Gets (taken : List Nat) : Option Nat → Nat → Prop
  | some e, k => k = e ∧ e ∉ taken
  | none, k => IsLeast {k | k ∉ taken} k

/-- Every request gets a number, in order, with those in `taken` gone from the start. -/
inductive Served : List Nat → List (Option Nat) → List Nat → Prop where
  | nil {taken : List Nat} : Served taken [] []
  | cons {taken numbers : List Nat} {request : Option Nat} {requests : List (Option Nat)} {k : Nat}
      (hgets : Gets taken request k) (hrest : Served (taken ++ [k]) requests numbers) :
      Served taken (request :: requests) (k :: numbers)

/-- A request that is content with less than `e`. -/
def fitsBelow (e : Nat) (request : Option Nat) : Bool := request.all (· < e)

/-- No free choice falls on a number that a later request names. -/
def Spared (requests : List (Option Nat)) : Prop :=
  ∀ before between after e, requests = before ++ none :: between ++ some e :: after →
    before.countP (fitsBelow e) < e

theorem Gets.free {request : Option Nat} (hgets : Gets taken request k) : k ∉ taken := by
  cases request with
  | none => exact hgets.1
  | some e =>
      rw [hgets.1]
      exact hgets.2

/-- Among numbers that are all different, fewer than `e` are below `e` just if one is missing. -/
theorem countP_lt_iff (hnodup : numbers.Nodup) :
    numbers.countP (· < e) < e ↔ ∃ k < e, k ∉ numbers := by
  have hcard : (numbers.filter (· < e)).toFinset.card = numbers.countP (· < e) := by
    rw [List.toFinset_card_of_nodup (hnodup.filter _), List.countP_eq_length_filter]
  have hsubset : (numbers.filter (· < e)).toFinset ⊆ Finset.range e := by
    intro k hk
    simp only [List.mem_toFinset, List.mem_filter, decide_eq_true_eq] at hk
    exact Finset.mem_range.mpr hk.2
  rw [← hcard]
  constructor
  · intro hlt
    obtain ⟨k, hrange, hk⟩ : ∃ k ∈ Finset.range e, k ∉ (numbers.filter (· < e)).toFinset := by
      apply Finset.exists_mem_notMem_of_card_lt_card
      rwa [Finset.card_range]
    have hlt : k < e := Finset.mem_range.mp hrange
    refine ⟨k, hlt, fun hmem => hk ?_⟩
    simp [hmem, hlt]
  · rintro ⟨k, hlt, hk⟩
    calc (numbers.filter (· < e)).toFinset.card
        < (Finset.range e).card := by
          apply Finset.card_lt_card
          refine (Finset.ssubset_iff_of_subset hsubset).mpr ⟨k, Finset.mem_range.mpr hlt, ?_⟩
          simp [hk]
      _ = e := Finset.card_range e

theorem Served.length_eq (hserved : Served taken requests numbers) :
    numbers.length = requests.length := by
  induction hserved with
  | nil => rfl
  | cons _ _ ih => simp [ih]

theorem Served.nodup (hserved : Served taken requests numbers) (hnodup : taken.Nodup) :
    (taken ++ numbers).Nodup := by
  induction hserved with
  | nil => simpa using hnodup
  | cons hgets _ ih =>
      have hnext := ih (by simpa using List.Nodup.concat hgets.free hnodup)
      simpa using hnext

theorem Served.forall₂ (hserved : Served taken requests numbers) :
    List.Forall₂ (fun request k => ∀ e ∈ request, k = e) requests numbers := by
  induction hserved with
  | nil => exact .nil
  | @cons _ _ request _ _ hgets _ ih =>
      refine .cons ?_ ih
      intro e he
      rw [Option.mem_def.mp he] at hgets
      exact hgets.1

theorem served_cons {request : Option Nat} :
    Served taken (request :: requests) numbers ↔
      ∃ k rest, numbers = k :: rest ∧ Gets taken request k ∧
        Served (taken ++ [k]) requests rest := by
  constructor
  · rintro (_ | ⟨hgets, hserved⟩)
    exact ⟨_, _, rfl, hgets, hserved⟩
  · rintro ⟨k, rest, rfl, hgets, hserved⟩
    exact .cons hgets hserved

theorem served_append {requests' : List (Option Nat)} :
    Served taken (requests ++ requests') numbers ↔
      ∃ first rest, numbers = first ++ rest ∧ Served taken requests first ∧
        Served (taken ++ first) requests' rest := by
  induction requests generalizing taken numbers with
  | nil =>
      constructor
      · intro hserved
        exact ⟨[], numbers, rfl, .nil, by simpa using hserved⟩
      · rintro ⟨_, rest, rfl, ⟨⟩, hrest⟩
        simpa using hrest
  | cons request requests ih =>
      constructor
      · intro hserved
        obtain ⟨k, numbers, rfl, hgets, hserved⟩ := served_cons.mp hserved
        obtain ⟨first, rest, rfl, hfirst, hrest⟩ := ih.mp hserved
        refine ⟨k :: first, rest, rfl, .cons hgets hfirst, ?_⟩
        simpa using hrest
      · rintro ⟨_, rest, rfl, hserved, hrest⟩
        obtain ⟨k, first, rfl, hgets, hfirst⟩ := served_cons.mp hserved
        refine .cons hgets (ih.mpr ⟨first, rest, rfl, hfirst, ?_⟩)
        simpa using hrest

/-- While `e` is free, the requests content with less are the ones that got less. -/
theorem Served.countP_lt (hserved : Served taken requests numbers) (hfree : e ∉ taken ++ numbers) :
    numbers.countP (· < e) = requests.countP (fitsBelow e) := by
  induction hserved with
  | nil => rfl
  | @cons taken _ request _ k hgets _ ih =>
      simp only [List.mem_append, List.mem_cons, not_or] at hfree
      obtain ⟨htaken, hne, hnumbers⟩ := hfree
      have hiff : decide (k < e) = fitsBelow e request := by
        cases request with
        | none =>
            have hle : k ≤ e := hgets.2 htaken
            simp [fitsBelow, Nat.lt_of_le_of_ne hle (Ne.symm hne)]
        | some _ => simp [fitsBelow, hgets.1]
      rw [List.countP_cons, List.countP_cons, hiff, ih (by simp [htaken, hne, hnumbers])]

/-- A number that no request names was a free choice. -/
theorem Served.chosen (hserved : Served taken requests numbers) (hmem : e ∈ numbers)
    (hunnamed : some e ∉ requests) :
    ∃ before after first, requests = before ++ none :: after ∧ Served taken before first ∧
      Gets (taken ++ first) none e := by
  induction hserved with
  | nil => simp at hmem
  | @cons taken _ request requests k hgets _ ih =>
      by_cases heq : e = k
      · subst heq
        cases request with
        | none => exact ⟨[], requests, [], rfl, .nil, by simpa using hgets⟩
        | some _ => exact absurd (by simp [hgets.1]) hunnamed
      · obtain ⟨before, after, first, rfl, hfirst, hlast⟩ :=
          ih (by simpa [heq] using hmem) (fun h => hunnamed (List.mem_cons_of_mem _ h))
        refine ⟨request :: before, after, k :: first, rfl, .cons hgets hfirst, ?_⟩
        simpa using hlast

/-- Requests that are all served spare what they name. -/
theorem Served.spared (hserved : Served [] requests numbers) : Spared requests := by
  rintro before between after e rfl
  rw [List.append_assoc, served_append] at hserved
  obtain ⟨first, _, rfl, hfirst, hserved⟩ := hserved
  obtain ⟨choice, rest, rfl, hchoice, hrest⟩ := served_cons.mp hserved
  obtain ⟨middle, _, rfl, _, hrest⟩ := served_append.mp hrest
  obtain ⟨_, _, rfl, hnamed, _⟩ := served_cons.mp hrest
  have hfree : e ∉ [] ++ first ++ [choice] ++ middle := hnamed.2
  simp only [List.nil_append, List.mem_append, List.mem_singleton, not_or] at hfree
  obtain ⟨⟨hfirstFree, hne⟩, _⟩ := hfree
  rw [← hfirst.countP_lt (by simpa using hfirstFree)]
  apply (countP_lt_iff (by simpa using hfirst.nodup .nil)).mpr
  refine ⟨choice, ?_, by simpa using hchoice.1⟩
  exact Nat.lt_of_le_of_ne (hchoice.2 (by simpa using hfirstFree)) (Ne.symm hne)

/-- A named number is still free when its turn comes. -/
theorem Served.free_of_spared {after : List (Option Nat)} (hserved : Served [] requests numbers)
    (hspared : Spared (requests ++ some e :: after)) (hunnamed : some e ∉ requests) :
    e ∉ numbers := by
  intro hmem
  obtain ⟨before, between, first, rfl, hfirst, hchoice⟩ := hserved.chosen hmem hunnamed
  have hlt : before.countP (fitsBelow e) < e := hspared before between after e rfl
  rw [← hfirst.countP_lt hchoice.1] at hlt
  obtain ⟨k, hk, hfree⟩ := (countP_lt_iff (by simpa using hfirst.nodup .nil)).mp hlt
  exact absurd (hchoice.2 (by simpa using hfree)) (Nat.not_le.mpr hk)

end Allocation
