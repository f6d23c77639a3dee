import Mathlib.Algebra.Order.Floor.Div
import OpenAmp.Library.PackedWord

/-!
# Rounding up to an alignment

The least multiple of an alignment that a value does not exceed, and the way machine code computes
it when the alignment is a power of two: add the alignment less one and clear the low bits.
-/

namespace Alignment

variable {align value base k w : Nat}

def roundUp (align value : Nat) : Nat := align * (value ⌈/⌉ align)

theorem le_roundUp (halign : 0 < align) : value ≤ roundUp align value := le_smul_ceilDiv halign

theorem dvd_roundUp : align ∣ roundUp align value := Nat.dvd_mul_right _ _

theorem roundUp_eq_div : roundUp align value = (value + align - 1) / align * align := by
  rw [roundUp, Nat.ceilDiv_eq_add_pred_div, Nat.mul_comm]

theorem roundUp_le : roundUp align value ≤ value + align - 1 := by
  rw [roundUp_eq_div]
  exact Nat.div_mul_le_self _ _

theorem roundUp_add_of_dvd (halign : 0 < align) (hbase : align ∣ base) :
    roundUp align (base + value) = base + roundUp align value := by
  obtain ⟨c, rfl⟩ := hbase
  have hsum : align * c + value + align - 1 = value + align - 1 + align * c := by omega
  calc roundUp align (align * c + value)
      = (value + align - 1 + align * c) / align * align := by rw [roundUp_eq_div, hsum]
    _ = ((value + align - 1) / align + c) * align := by rw [Nat.add_mul_div_left _ _ halign]
    _ = align * c + roundUp align value := by
        rw [roundUp_eq_div, Nat.add_mul, Nat.add_comm, Nat.mul_comm c]

/-- `2 ^ w - 2 ^ k` is the complement of `2 ^ k - 1` in `w` bits. -/
theorem and_mask_eq_div_mul (hk : k ≤ w) (hvalue : value < 2 ^ w) :
    value &&& (2 ^ w - 2 ^ k) = value / 2 ^ k * 2 ^ k := by
  have hmask : 2 ^ w - 2 ^ k = (2 ^ (w - k) - 1) * 2 ^ k := by
    rw [Nat.sub_mul, ← Nat.pow_add, Nat.sub_add_cancel hk, Nat.one_mul]
  have hhigh : value / 2 ^ k < 2 ^ (w - k) := by
    rw [Nat.div_lt_iff_lt_mul (Nat.two_pow_pos k), ← Nat.pow_add, Nat.sub_add_cancel hk]
    exact hvalue
  have hlow := Nat.mod_lt value (Nat.two_pow_pos k)
  calc value &&& (2 ^ w - 2 ^ k)
      = (value / 2 ^ k * 2 ^ k + value % 2 ^ k) &&& (2 ^ (w - k) - 1) * 2 ^ k := by
        rw [hmask, Nat.div_add_mod']
    _ = (value / 2 ^ k &&& 2 ^ (w - k) - 1) * 2 ^ k := PackedWord.and_high hlow
    _ = value / 2 ^ k * 2 ^ k := by
        rw [Nat.and_two_pow_sub_one_eq_mod, Nat.mod_eq_of_lt hhigh]

theorem add_and_mask_eq_roundUp (hk : k ≤ w) (hvalue : value + 2 ^ k - 1 < 2 ^ w) :
    (value + 2 ^ k - 1) &&& (2 ^ w - 2 ^ k) = roundUp (2 ^ k) value := by
  rw [and_mask_eq_div_mul hk hvalue, roundUp_eq_div]

end Alignment
