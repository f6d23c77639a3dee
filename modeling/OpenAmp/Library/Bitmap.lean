import Mathlib.Logic.Function.Basic
import Mathlib.Tactic.Common

/-!
# Bitmaps

Sets of numbers as bits, with the operations of an allocator: mark, release, and find the lowest
number that is free.
-/

namespace Bitmap

variable {bits : Nat → Bool} {i k size : Nat}

def empty : Nat → Bool := fun _ => false

def setBit (bits : Nat → Bool) (k : Nat) : Nat → Bool := Function.update bits k true

def clearBit (bits : Nat → Bool) (k : Nat) : Nat → Bool := Function.update bits k false

/-- The scan over `left` bits from `start` on. -/
def scanClear (bits : Nat → Bool) : Nat → Nat → Nat
  | 0, start => start
  | left + 1, start => if bits start then scanClear bits left (start + 1) else start

/-- The lowest clear bit from `start` on and below `size`, or else `size`. -/
def nextClearBit (bits : Nat → Bool) (start size : Nat) : Nat :=
  scanClear bits (size - start) start

@[simp]
theorem empty_apply : empty k = false := rfl

theorem setBit_eq_true : setBit bits k i = true ↔ i = k ∨ bits i = true := by
  by_cases heq : i = k <;> simp [setBit, heq]

theorem clearBit_eq_true : clearBit bits k i = true ↔ i ≠ k ∧ bits i = true := by
  by_cases heq : i = k <;> simp [clearBit, heq]

theorem clearBit_setBit (hclear : bits k = false) : clearBit (setBit bits k) k = bits := by
  rw [clearBit, setBit, Function.update_idem, ← hclear, Function.update_eq_self]

theorem scanClear_spec (left : Nat) :
    ∀ start, scanClear bits left start ≤ start + left ∧
      (scanClear bits left start < start + left → bits (scanClear bits left start) = false) ∧
      ∀ i, start ≤ i → i < scanClear bits left start → bits i = true := by
  induction left with
  | zero =>
      intro start
      refine ⟨Nat.le_refl _, fun hlt => absurd hlt (Nat.lt_irrefl _), fun i hstart hlt => ?_⟩
      exact absurd hlt (Nat.not_lt.mpr hstart)
  | succ left ih =>
      intro start
      unfold scanClear
      by_cases hbit : bits start = true
      · obtain ⟨hle, hclear, hbelow⟩ := ih (start + 1)
        rw [if_pos hbit]
        refine ⟨by omega, fun hlt => hclear (by omega), fun i hstart hlt => ?_⟩
        rcases Nat.eq_or_lt_of_le hstart with rfl | hnext
        · exact hbit
        · exact hbelow i hnext hlt
      · rw [if_neg hbit]
        refine ⟨Nat.le_add_right _ _, fun _ => Bool.eq_false_iff.mpr hbit, fun i hstart hlt => ?_⟩
        exact absurd hlt (Nat.not_lt.mpr hstart)

/-- A scan depends on the bits it comes to. -/
theorem nextClearBit_congr {bits' : Nat → Bool} {start : Nat}
    (h : ∀ i, start ≤ i → i < size → bits i = bits' i) :
    nextClearBit bits start size = nextClearBit bits' start size := by
  have hscan (left : Nat) : ∀ first, (∀ i, first ≤ i → i < first + left → bits i = bits' i) →
      scanClear bits left first = scanClear bits' left first := by
    induction left with
    | zero => exact fun _ _ => rfl
    | succ left ih =>
        intro first hsame
        rw [scanClear, scanClear, hsame first (Nat.le_refl _) (by omega),
          ih (first + 1) fun i hle hlt => hsame i (by omega) (by omega)]
  exact hscan (size - start) start fun i hle hlt => h i hle (by omega)

theorem nextClearBit_succ : nextClearBit bits k (k + 1) = if bits k then k + 1 else k := by
  rw [nextClearBit, Nat.add_sub_cancel_left, scanClear, scanClear]

theorem nextClearBit_le : nextClearBit bits 0 size ≤ size := by
  have hle : scanClear bits (size - 0) 0 ≤ 0 + (size - 0) := (scanClear_spec _ _).1
  rw [nextClearBit]
  omega

theorem nextClearBit_clear (hlt : nextClearBit bits 0 size < size) :
    bits (nextClearBit bits 0 size) = false := by
  refine (scanClear_spec (size - 0) 0).2.1 ?_
  rw [nextClearBit] at hlt
  omega

theorem bit_of_lt_nextClearBit (hlt : i < nextClearBit bits 0 size) : bits i = true :=
  (scanClear_spec (size - 0) 0).2.2 i (Nat.zero_le _) hlt

end Bitmap
