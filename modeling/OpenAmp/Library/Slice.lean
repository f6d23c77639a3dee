import Mathlib.Tactic.Common

/-!
# Slices of lists
-/

namespace Slice

variable {α : Type*} {l : List α} {offset len : Nat}

def slice (l : List α) (offset len : Nat) : List α := (l.drop offset).take len

theorem length_slice (h : offset + len ≤ l.length) : (slice l offset len).length = len := by
  rw [slice, List.length_take, List.length_drop]
  omega

theorem slice_slice {inner size : Nat} (h : inner + size ≤ len) :
    slice (slice l offset len) inner size = slice l (offset + inner) size := by
  rw [slice, slice, slice, List.drop_take, List.drop_drop, List.take_take]
  congr 1
  omega

theorem slice_append_left {rest : List α} (h : offset + len ≤ l.length) :
    slice (l ++ rest) offset len = slice l offset len := by
  rw [slice, slice, List.drop_append_of_le_length (by omega), List.take_append_of_le_length]
  rw [List.length_drop]
  omega

theorem getElem?_slice {i : Nat} (h : i < len) : (slice l offset len)[i]? = l[offset + i]? := by
  rw [slice, List.getElem?_take_of_lt h, List.getElem?_drop]

end Slice
