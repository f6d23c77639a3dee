import Mathlib.Data.List.TakeWhile
import Mathlib.Tactic.Common

/-!
# C strings in arrays of fixed size

The string functions of C that stop after so many bytes, on memory given as a list of bytes.
-/

namespace FixedString

variable {size count : Nat} {bytes string : List UInt8}

/-- The characters that a function sees that looks at most at `count` bytes. -/
def chars (count : Nat) (bytes : List UInt8) : List UInt8 := (bytes.take count).takeWhile (· ≠ 0)

/-- `strncpy` into an array of `size` bytes. -/
def copy (size : Nat) (bytes : List UInt8) : List UInt8 :=
  chars size bytes ++ List.replicate (size - (chars size bytes).length) 0

/-- `strncmp` finds no difference. -/
def Agree (count : Nat) (left right : List UInt8) : Prop := chars count left = chars count right

instance (count : Nat) (left right : List UInt8) : Decidable (Agree count left right) :=
  inferInstanceAs (Decidable (_ = _))

/-- The bytes are a string and the zero that ends it, with anything behind that. -/
def Holds (bytes string : List UInt8) : Prop :=
  0 ∉ string ∧ ∃ rest, bytes = string ++ 0 :: rest

theorem length_chars_le : (chars count bytes).length ≤ count :=
  (List.takeWhile_prefix _).length_le.trans (List.length_take_le ..)

theorem zero_notMem_chars : 0 ∉ chars count bytes := fun hmem => by
  simpa using List.mem_takeWhile_imp hmem

theorem chars_of_notMem (h : 0 ∉ string) : chars count string = string.take count := by
  refine List.takeWhile_eq_self_iff.mpr fun byte hmem => ?_
  exact decide_eq_true fun heq => h (heq ▸ List.mem_of_mem_take hmem)

@[simp] theorem length_copy : (copy size bytes).length = size := by
  have hle : (chars size bytes).length ≤ size := length_chars_le
  rw [copy, List.length_append, List.length_replicate]
  omega

theorem chars_of_holds (h : Holds bytes string) : chars count bytes = string.take count := by
  obtain ⟨hstring, rest, rfl⟩ := h
  rcases Nat.lt_or_ge string.length count with hlt | hge
  · obtain ⟨more, rfl⟩ := Nat.exists_eq_add_of_lt hlt
    rw [chars, List.take_append, List.takeWhile_append_of_pos, List.take_of_length_le (by omega),
      show string.length + more + 1 - string.length = more + 1 by omega, List.take_succ_cons,
      List.takeWhile_cons_of_neg (by simp), List.append_nil]
    intro byte hmem
    exact decide_eq_true fun heq => hstring (heq ▸ List.mem_of_mem_take hmem)
  · rw [chars, List.take_append_of_le_length hge]
    exact chars_of_notMem hstring

theorem holds_copy (h : 0 ∉ string) (hlt : string.length < size) :
    Holds (copy size string) string := by
  refine ⟨h, List.replicate (size - string.length - 1) 0, ?_⟩
  have hchars : chars size string = string := by
    rw [chars_of_notMem h, List.take_of_length_le (by omega)]
  rw [copy, hchars]
  obtain ⟨more, rfl⟩ := Nat.exists_eq_add_of_lt hlt
  simp [show string.length + more + 1 - string.length = more + 1 by omega, List.replicate_succ]

/-- A comparison over the length of a string asks for a prefix. -/
theorem agree_length_iff (h : 0 ∉ string) {held : List UInt8} (hheld : Holds bytes held) :
    Agree string.length string bytes ↔ string <+: held := by
  rw [Agree, chars_of_notMem h, List.take_length, chars_of_holds hheld]
  exact List.prefix_iff_eq_take.symm

@[simp] theorem chars_copy : chars size (copy size bytes) = chars size bytes := by
  have hle : (chars size bytes).length ≤ size := length_chars_le
  rw [copy, chars, List.take_of_length_le (by simp; omega), List.takeWhile_append_of_pos]
  · have hnil : (List.replicate (size - (chars size bytes).length) (0 : UInt8)).takeWhile (· ≠ 0) = [] := by
      cases size - (chars size bytes).length with
      | zero => rfl
      | succ n => simp [List.replicate_succ]
    rw [hnil, List.append_nil]
  · exact fun byte hmem => decide_eq_true fun heq => zero_notMem_chars (heq ▸ hmem)

end FixedString
