import Mathlib.Algebra.Group.Nat.Defs
import Mathlib.Data.Set.BooleanAlgebra
import Mathlib.Order.CompletePartialOrder
import Mathlib.Order.Interval.Set.Basic
import Mathlib.Tactic.Common
import OpenAmp.Library.Slice

/-!
# Bytes in memory

Blocks of bytes at addresses, and unsigned numbers stored in them with the least significant byte
first.
-/

namespace ByteMemory

/-- The `len` bytes from `addr` on. -/
def readBytes (mem : Nat → UInt8) (addr len : Nat) : List UInt8 :=
  (List.range len).map fun i => mem (addr + i)

/-- The memory after `bytes` have been stored from `addr` on. -/
def writeBytes (mem : Nat → UInt8) (addr : Nat) (bytes : List UInt8) : Nat → UInt8 :=
  fun a => if addr ≤ a then bytes[a - addr]?.getD (mem a) else mem a

/-- The memory from the start of a block on. -/
def blockMem (block : List UInt8) (behind : Nat → UInt8) (i : Nat) : UInt8 :=
  block[i]?.getD (behind i)

section Blocks

variable {mem mem' : Nat → UInt8} {addr other len : Nat} {bytes : List UInt8}

@[simp] theorem length_readBytes : (readBytes mem addr len).length = len := by
  simp [readBytes]

theorem readBytes_congr (h : ∀ i < len, mem' (addr + i) = mem (addr + i)) :
    readBytes mem' addr len = readBytes mem addr len := by
  refine List.map_congr_left fun i hi => ?_
  exact h i (List.mem_range.mp hi)

theorem readBytes_add (mem : Nat → UInt8) (addr first rest : Nat) :
    readBytes mem addr (first + rest) =
      readBytes mem addr first ++ readBytes mem (addr + first) rest := by
  simp only [readBytes, List.range_add, List.map_append, List.map_map]
  congr 1
  refine List.map_congr_left fun i _ => ?_
  simp [Nat.add_assoc]

/-- A part of a block. -/
theorem readBytes_part (mem : Nat → UInt8) (addr : Nat) {offset part : Nat}
    (h : offset + part ≤ len) :
    readBytes mem (addr + offset) part = Slice.slice (readBytes mem addr len) offset part := by
  obtain ⟨rest, rfl⟩ := Nat.exists_eq_add_of_le h
  rw [readBytes_add, readBytes_add, Slice.slice, List.append_assoc,
    List.drop_append_of_le_length (by simp), List.drop_of_length_le (by simp), List.nil_append,
    List.take_append_of_le_length (by simp), List.take_of_length_le (by simp)]

theorem writeBytes_apply_of_lt {a : Nat} (h : a < addr) : writeBytes mem addr bytes a = mem a := by
  rw [writeBytes, if_neg (by omega)]

theorem writeBytes_apply_of_le {a : Nat} (h : addr + bytes.length ≤ a) :
    writeBytes mem addr bytes a = mem a := by
  rw [writeBytes, if_pos (by omega), List.getElem?_eq_none (by omega)]
  rfl

theorem writeBytes_apply_add {i : Nat} (h : i < bytes.length) :
    writeBytes mem addr bytes (addr + i) = bytes[i] := by
  rw [writeBytes, if_pos (by omega), Nat.add_sub_cancel_left, List.getElem?_eq_getElem h]
  rfl

@[simp] theorem writeBytes_nil : writeBytes mem addr [] = mem := by
  funext a
  simp [writeBytes]

theorem readBytes_writeBytes_self (mem : Nat → UInt8) (addr : Nat) (bytes : List UInt8) :
    readBytes (writeBytes mem addr bytes) addr bytes.length = bytes := by
  refine List.ext_getElem (by simp) fun i hi hi' => ?_
  simp only [readBytes, List.getElem_map, List.getElem_range]
  exact writeBytes_apply_add hi'

theorem readBytes_writeBytes_of_disjoint
    (h : other + len ≤ addr ∨ addr + bytes.length ≤ other) :
    readBytes (writeBytes mem addr bytes) other len = readBytes mem other len := by
  refine readBytes_congr fun i hi => ?_
  rcases h with h | h
  · exact writeBytes_apply_of_lt (by omega)
  · exact writeBytes_apply_of_le (by omega)

theorem writeBytes_append (mem : Nat → UInt8) (addr : Nat) (first rest : List UInt8) :
    writeBytes (writeBytes mem addr first) (addr + first.length) rest =
      writeBytes mem addr (first ++ rest) := by
  funext a
  by_cases hlow : a < addr
  · rw [writeBytes_apply_of_lt hlow, writeBytes_apply_of_lt (by omega), writeBytes_apply_of_lt hlow]
  · obtain ⟨i, rfl⟩ := Nat.exists_eq_add_of_le (Nat.not_lt.mp hlow)
    by_cases hfirst : i < first.length
    · rw [writeBytes_apply_of_lt (by omega), writeBytes_apply_add hfirst, writeBytes_apply_add,
        List.getElem_append_left hfirst]
      rw [List.length_append]
      omega
    · rw [writeBytes, if_pos (by omega), writeBytes_apply_of_le (by omega), writeBytes,
        if_pos (by omega), Nat.add_sub_cancel_left, List.getElem?_append_right (by omega),
        Nat.add_sub_add_left]

theorem writeBytes_cons (byte : UInt8) :
    writeBytes (Function.update mem addr byte) (addr + 1) bytes =
      writeBytes mem addr (byte :: bytes) := by
  funext a
  rcases Nat.lt_trichotomy a addr with hlt | rfl | hgt
  · rw [writeBytes_apply_of_lt (by omega), writeBytes_apply_of_lt hlt,
      Function.update_of_ne (by omega)]
  · rw [writeBytes_apply_of_lt (by omega), Function.update_self]
    simp [writeBytes]
  · obtain ⟨i, rfl⟩ := Nat.exists_eq_add_of_lt hgt
    rw [writeBytes, writeBytes, if_pos (by omega), if_pos (by omega),
      Function.update_of_ne (by omega), show addr + i + 1 - addr = i + 1 by omega,
      show addr + i + 1 - (addr + 1) = i by omega, List.getElem?_cons_succ]

end Blocks

/-! ### Blocks that are stored one after another -/

def writeBlocks (mem : Nat → UInt8) (blocks : List (Nat × List UInt8)) : Nat → UInt8 :=
  blocks.foldl (fun mem block => writeBytes mem block.1 block.2) mem

/-- The addresses of a block. -/
def blockAddrs (block : Nat × List UInt8) : Set Nat := Set.Ico block.1 (block.1 + block.2.length)

section Sequence

variable {mem : Nat → UInt8} {block : Nat × List UInt8} {blocks : List (Nat × List UInt8)} {a : Nat}

theorem writeBytes_apply_of_notMem (h : a ∉ blockAddrs block) :
    writeBytes mem block.1 block.2 a = mem a := by
  by_cases hlt : a < block.1
  · exact writeBytes_apply_of_lt hlt
  · apply writeBytes_apply_of_le
    by_contra hle
    exact h ⟨by omega, by omega⟩

theorem writeBlocks_apply_of_notMem (h : ∀ block ∈ blocks, a ∉ blockAddrs block) :
    writeBlocks mem blocks a = mem a := by
  induction blocks generalizing mem with
  | nil => rfl
  | cons block blocks ih =>
      rw [writeBlocks, List.foldl_cons]
      apply (ih fun b hb => h b (List.mem_cons_of_mem _ hb)).trans
      exact writeBytes_apply_of_notMem (h block List.mem_cons_self)

/-- Blocks that do not overlap are all there in the end. -/
theorem readBytes_writeBlocks (mem : Nat → UInt8)
    (hdisjoint : blocks.Pairwise fun b c => Disjoint (blockAddrs b) (blockAddrs c))
    (hmem : block ∈ blocks) :
    readBytes (writeBlocks mem blocks) block.1 block.2.length = block.2 := by
  induction blocks generalizing mem with
  | nil => exact absurd hmem List.not_mem_nil
  | cons first blocks ih =>
      obtain ⟨hfirst, hrest⟩ := List.pairwise_cons.mp hdisjoint
      rcases List.mem_cons.mp hmem with rfl | hlater
      · have hkept : readBytes (writeBlocks (writeBytes mem block.1 block.2) blocks) block.1
            block.2.length = readBytes (writeBytes mem block.1 block.2) block.1 block.2.length := by
          refine readBytes_congr fun i hi => ?_
          apply writeBlocks_apply_of_notMem
          intro c hc
          exact Set.disjoint_left.mp (hfirst c hc) ⟨by omega, by omega⟩
        exact hkept.trans (readBytes_writeBytes_self mem block.1 block.2)
      · exact ih _ hrest hlater

end Sequence

/-! ### Numbers, least significant byte first -/

def leBytes : Nat → Nat → List UInt8
  | 0, _ => []
  | width + 1, value => UInt8.ofNat value :: leBytes width (value / 256)

def leValue : List UInt8 → Nat
  | [] => 0
  | byte :: bytes => byte.toNat + 256 * leValue bytes

@[simp] theorem length_leBytes (width value : Nat) : (leBytes width value).length = width := by
  induction width generalizing value with
  | zero => rfl
  | succ width ih => simp [leBytes, ih]

theorem leValue_leBytes (width value : Nat) :
    leValue (leBytes width value) = value % 256 ^ width := by
  induction width generalizing value with
  | zero => simp [leBytes, leValue, Nat.mod_one]
  | succ width ih =>
      have hbyte : (UInt8.ofNat value).toNat = value % 256 := by simp
      rw [leBytes, leValue, ih, hbyte, Nat.pow_succ', Nat.mod_mul]

theorem leBytes_leValue (bytes : List UInt8) : leBytes bytes.length (leValue bytes) = bytes := by
  induction bytes with
  | nil => rfl
  | cons byte bytes ih =>
      have hbyte := byte.toNat_lt
      have hlow : UInt8.ofNat (byte.toNat + 256 * leValue bytes) = byte := by
        apply UInt8.toNat_inj.mp
        rw [UInt8.toNat_ofNat']
        omega
      have hhigh : (byte.toNat + 256 * leValue bytes) / 256 = leValue bytes := by omega
      rw [leValue, List.length_cons, leBytes, hlow, hhigh, ih]

theorem leValue_lt (bytes : List UInt8) : leValue bytes < 256 ^ bytes.length := by
  induction bytes with
  | nil => simp [leValue]
  | cons byte bytes ih =>
      have hbyte := byte.toNat_lt
      rw [leValue, List.length_cons, Nat.pow_succ']
      omega

end ByteMemory
