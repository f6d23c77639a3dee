import OpenAmp.Library.ByteMemory

/-!
# Records of words

Numbers of one width, stored one after another, as in a structure whose fields all have this width.
-/

namespace WordRecord

open ByteMemory

def words (width : Nat) (values : List Nat) : List UInt8 := values.flatMap (leBytes width)

/-- The word of an index, in the record at `addr`. -/
def wordAt (mem : Nat → UInt8) (addr width i : Nat) : Nat :=
  leValue (readBytes mem (addr + i * width) width)

variable {mem : Nat → UInt8} {addr width i : Nat} {values : List Nat} {rest : List UInt8}

@[simp] theorem length_words : (words width values).length = values.length * width := by
  induction values with
  | nil => simp [words]
  | cons value values ih =>
      rw [words, List.flatMap_cons, List.length_append, length_leBytes, ← words, ih, List.length_cons,
        Nat.succ_mul, Nat.add_comm]

theorem slice_words (h : i < values.length) :
    Slice.slice (words width values ++ rest) (i * width) width = leBytes width values[i] := by
  induction values generalizing i with
  | nil => exact absurd h (Nat.not_lt_zero i)
  | cons value values ih =>
      rw [words, List.flatMap_cons, ← words, List.append_assoc]
      cases i with
      | zero =>
          rw [Slice.slice, Nat.zero_mul, List.drop_zero, List.take_left' (length_leBytes width value)]
          rfl
      | succ i =>
          rw [Slice.slice, Nat.succ_mul, Nat.add_comm, ← List.drop_drop,
            List.drop_left' (length_leBytes width value), ← Slice.slice]
          exact ih (Nat.lt_of_succ_lt_succ h)

/-- The words of a record are there once it has been stored. -/
theorem wordAt_writeBytes (h : i < values.length) :
    wordAt (writeBytes mem addr (words width values ++ rest)) addr width i =
      values[i] % 256 ^ width := by
  have hpart : i * width + width ≤ (words width values ++ rest).length := by
    rw [List.length_append, length_words, ← Nat.succ_mul]
    exact Nat.le_add_right_of_le (Nat.mul_le_mul_right width h)
  rw [wordAt, readBytes_part _ _ hpart, readBytes_writeBytes_self, slice_words h, leValue_leBytes]

end WordRecord
