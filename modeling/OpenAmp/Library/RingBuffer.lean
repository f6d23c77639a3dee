import Mathlib.Algebra.Group.Int.Defs
import Mathlib.Algebra.Group.Nat.Defs
import Mathlib.Data.Int.ModEq
import Mathlib.Data.Nat.Bitwise
import Mathlib.Logic.Function.Basic
import Mathlib.Tactic.Common

/-!
# Ring buffers under free-running counters

A queue lives in the `n` slots of a ring, each element in the slot its position selects modulo `n`.
The two parties publish only their positions, and only modulo a power of two `w` that `n` divides;
what makes the truncated positions as good as the real ones is that the window between them never
exceeds `n`.
-/

namespace RingBuffer

variable {α : Type*} {slots : Nat → α} {n start : Nat} {q : List α} {x : α}

/-- From position `start` on, the slots of a ring of size `n` hold the queue `q`, oldest first. -/
def Holds (slots : Nat → α) (n start : Nat) (q : List α) : Prop :=
  ∀ i (hi : i < q.length), slots ((start + i) % n) = q[i]

theorem holds_nil : Holds slots n start [] := by
  intro i hi
  exact absurd hi (Nat.not_lt_zero i)

theorem Holds.head (h : Holds slots n start (x :: q)) : slots (start % n) = x := by
  have hzero := h 0 (Nat.zero_lt_succ _)
  rwa [Nat.add_zero, List.getElem_cons_zero] at hzero

theorem Holds.pop (h : Holds slots n start (x :: q)) : Holds slots n (start + 1) q := by
  intro i hi
  have hnext := h (i + 1) (by simpa using hi)
  rw [List.getElem_cons_succ] at hnext
  rw [← hnext]
  congr 2
  omega

theorem Holds.last (h : Holds slots n start (q ++ [x])) : slots ((start + q.length) % n) = x := by
  have hlast := h q.length (by simp)
  rwa [List.getElem_concat_length rfl] at hlast

/-- Two positions of one window select different slots. -/
theorem slot_ne {i j : Nat} (hij : i < j) (hj : j < n) : (start + i) % n ≠ (start + j) % n := by
  intro heq
  have hmod : (j - i) % n = 0 := by
    have hsub := (Nat.modEq_iff_dvd' (by omega : start + i ≤ start + j)).mp heq
    exact Nat.mod_eq_zero_of_dvd (by simpa [Nat.add_sub_add_left] using hsub)
  rw [Nat.mod_eq_of_lt (by omega)] at hmod
  omega

theorem Holds.push (h : Holds slots n start q) (hroom : q.length < n) (x : α) :
    Holds (Function.update slots ((start + q.length) % n) x) n start (q ++ [x]) := by
  intro i hi
  rw [List.length_append, List.length_singleton] at hi
  by_cases hlast : i = q.length
  · subst hlast
    simp
  · have hlt : i < q.length := by omega
    rw [Function.update_of_ne (slot_ne hlt hroom), List.getElem_append_left hlt]
    exact h i hlt

/-- A write to a cell that no position selects leaves the queue alone. -/
theorem Holds.update_of_le (h : Holds slots n start q) (hn : 0 < n) {k : Nat} (hk : n ≤ k) (x : α) :
    Holds (Function.update slots k x) n start q := by
  intro i hi
  have hlt : (start + i) % n < n := Nat.mod_lt _ hn
  rw [Function.update_of_ne (by omega)]
  exact h i hi

/-! ### Counters known modulo a word -/

/-- Masking a truncated counter selects the same slot as the counter itself. -/
theorem mask_word {k w c : Nat} (hdvd : 2 ^ k ∣ w) : (c % w) &&& (2 ^ k - 1) = c % 2 ^ k := by
  rw [Nat.and_two_pow_sub_one_eq_mod, Nat.mod_mod_of_dvd c hdvd]

/-- Truncated counters tell an empty window from a nonempty one. -/
theorem word_eq_iff {w a len : Nat} (hlen : len < w) : a % w = (a + len) % w ↔ len = 0 := by
  constructor
  · intro heq
    have hsub := (Nat.modEq_iff_dvd' (by omega : a ≤ a + len)).mp heq
    rw [Nat.add_sub_cancel_left] at hsub
    exact Nat.eq_zero_of_dvd_of_lt hsub hlen
  · rintro rfl
    rfl

theorem succ_word (w c : Nat) : (c % w + 1) % w = (c + 1) % w := by
  rw [Nat.mod_add_mod]

end RingBuffer
