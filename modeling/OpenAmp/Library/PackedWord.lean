import Mathlib.Algebra.Group.Nat.Defs
import Mathlib.Tactic.Common

/-!
# Words made of two parts

Bitwise operations on a word act on its high and its low part separately.
-/

namespace PackedWord

variable {w high high' low low' : Nat}

theorem eq_pack {value : Nat} (hhigh : value / 2 ^ w = high) (hlow : value % 2 ^ w = low) :
    value = high * 2 ^ w + low := by
  rw [← hhigh, ← hlow, Nat.mul_comm]
  exact (Nat.div_add_mod value (2 ^ w)).symm

theorem pack_div (h : low < 2 ^ w) : (high * 2 ^ w + low) / 2 ^ w = high := by
  rw [Nat.mul_comm, Nat.mul_add_div (Nat.two_pow_pos w), Nat.div_eq_of_lt h, Nat.add_zero]

theorem pack_mod (h : low < 2 ^ w) : (high * 2 ^ w + low) % 2 ^ w = low := by
  rw [Nat.mul_comm, Nat.mul_add_mod, Nat.mod_eq_of_lt h]

theorem and_pack (h : low < 2 ^ w) (h' : low' < 2 ^ w) :
    (high * 2 ^ w + low) &&& (high' * 2 ^ w + low') = (high &&& high') * 2 ^ w + (low &&& low') := by
  apply eq_pack
  · rw [Nat.and_div_two_pow, pack_div h, pack_div h']
  · rw [Nat.and_mod_two_pow, pack_mod h, pack_mod h']

theorem or_pack (h : low < 2 ^ w) (h' : low' < 2 ^ w) :
    (high * 2 ^ w + low) ||| (high' * 2 ^ w + low') = (high ||| high') * 2 ^ w + (low ||| low') := by
  apply eq_pack
  · rw [Nat.or_div_two_pow, pack_div h, pack_div h']
  · rw [Nat.or_mod_two_pow, pack_mod h, pack_mod h']

theorem xor_pack (h : low < 2 ^ w) (h' : low' < 2 ^ w) :
    (high * 2 ^ w + low) ^^^ (high' * 2 ^ w + low') = (high ^^^ high') * 2 ^ w + (low ^^^ low') := by
  apply eq_pack
  · rw [Nat.xor_div_two_pow, pack_div h, pack_div h']
  · rw [Nat.xor_mod_two_pow, pack_mod h, pack_mod h']

theorem and_high (h : low < 2 ^ w) :
    (high * 2 ^ w + low) &&& high' * 2 ^ w = (high &&& high') * 2 ^ w := by
  have hpack := @and_pack w high high' low 0 h (Nat.two_pow_pos w)
  rwa [Nat.add_zero, Nat.and_zero, Nat.add_zero] at hpack

theorem or_high (h : low < 2 ^ w) :
    (high * 2 ^ w + low) ||| high' * 2 ^ w = (high ||| high') * 2 ^ w + low := by
  have hpack := @or_pack w high high' low 0 h (Nat.two_pow_pos w)
  rwa [Nat.add_zero, Nat.or_zero] at hpack

theorem xor_high (h : low < 2 ^ w) :
    (high * 2 ^ w + low) ^^^ high' * 2 ^ w = (high ^^^ high') * 2 ^ w + low := by
  have hpack := @xor_pack w high high' low 0 h (Nat.two_pow_pos w)
  rwa [Nat.add_zero, Nat.xor_zero] at hpack

end PackedWord
