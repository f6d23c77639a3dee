import OpenAmp.RpmsgEndpoint
import Mathlib.Data.List.Nodup

/-!
# Which addresses are taken

The bitmap of a device knows the addresses of its endpoints from `RPMSG_RESERVED_ADDRESSES` on, on
every path through `rpmsg_create_ept` and `rpmsg_destroy_ept`.
-/

namespace OpenAmp

open Bitmap

/-! ### The address helpers -/

/-- An address is one of those the bitmap covers, or the helpers take it for a bad parameter. -/
theorem addrOffset_cases (addr : UInt32) :
    (∃ k < RPMSG_ADDR_BMP_SIZE, addr.toNat = RPMSG_RESERVED_ADDRESSES + k ∧ addrOffset addr = k) ∨
      ((addr.toNat < RPMSG_RESERVED_ADDRESSES ∨
        RPMSG_RESERVED_ADDRESSES + RPMSG_ADDR_BMP_SIZE ≤ addr.toNat) ∧
        ¬ (addrOffset addr ≥ 0 ∧ addrOffset addr < (RPMSG_ADDR_BMP_SIZE : Nat))) := by
  have hlt := addr.toNat_lt
  simp only [addrOffset, toInt32, RPMSG_ADDR_BMP_SIZE, RPMSG_RESERVED_ADDRESSES, Int.bmod_def]
  by_cases hrange : 1024 ≤ addr.toNat ∧ addr.toNat < 1152
  · refine .inl ⟨addr.toNat - 1024, by omega, by omega, ?_⟩
    split_ifs <;> omega
  · refine .inr ⟨by omega, ?_⟩
    split_ifs <;> omega

theorem rpmsgReleaseAddress_of_covered {bitmap : Nat → Bool} {addr : UInt32} {k : Nat}
    (hk : k < RPMSG_ADDR_BMP_SIZE) (haddr : addr.toNat = RPMSG_RESERVED_ADDRESSES + k) :
    rpmsgReleaseAddress bitmap RPMSG_ADDR_BMP_SIZE addr = clearBit bitmap k := by
  rcases addrOffset_cases addr with ⟨i, -, hi, hoffset⟩ | ⟨hout, -⟩
  · obtain rfl : i = k := by omega
    have hin : (i : Int) ≥ 0 ∧ (i : Int) < (RPMSG_ADDR_BMP_SIZE : Nat) := by omega
    rw [rpmsgReleaseAddress, hoffset, if_pos hin, Int.toNat_natCast]
  · omega

theorem rpmsgReleaseAddress_of_not_covered {bitmap : Nat → Bool} {addr : UInt32}
    (haddr : addr.toNat < RPMSG_RESERVED_ADDRESSES) :
    rpmsgReleaseAddress bitmap RPMSG_ADDR_BMP_SIZE addr = bitmap := by
  rcases addrOffset_cases addr with ⟨i, -, hi, -⟩ | ⟨-, hout⟩
  · omega
  · rw [rpmsgReleaseAddress, if_neg hout]

/-- What a successful claim has done: nothing to a reserved address, and a clear bit set for any
other. -/
inductive Claimed (bitmap : Nat → Bool) : (Nat → Bool) → UInt32 → Prop where
  | reserved {addr : UInt32} (hlow : addr.toNat < RPMSG_RESERVED_ADDRESSES) :
      Claimed bitmap bitmap addr
  | covered {addr : UInt32} {k : Nat} (hk : k < RPMSG_ADDR_BMP_SIZE) (hclear : bitmap k = false)
      (haddr : addr.toNat = RPMSG_RESERVED_ADDRESSES + k) : Claimed bitmap (setBit bitmap k) addr

theorem rpmsgClaimAddress_any (bitmap : Nat → Bool) :
    rpmsgClaimAddress bitmap RPMSG_ADDR_ANY =
      if nextClearBit bitmap 0 RPMSG_ADDR_BMP_SIZE < RPMSG_ADDR_BMP_SIZE then
        .ok (setBit bitmap (nextClearBit bitmap 0 RPMSG_ADDR_BMP_SIZE),
          UInt32.ofNat (RPMSG_RESERVED_ADDRESSES + nextClearBit bitmap 0 RPMSG_ADDR_BMP_SIZE))
      else .error RPMSG_ERR_ADDR := by
  simp only [rpmsgClaimAddress, rpmsgGetAddress, if_true]
  by_cases hlt : nextClearBit bitmap 0 RPMSG_ADDR_BMP_SIZE < RPMSG_ADDR_BMP_SIZE
  · have hany : UInt32.ofNat (RPMSG_RESERVED_ADDRESSES +
        nextClearBit bitmap 0 RPMSG_ADDR_BMP_SIZE) ≠ RPMSG_ADDR_ANY := by
      intro heq
      have hnat := congrArg UInt32.toNat heq
      simp only [UInt32.toNat_ofNat', RPMSG_ADDR_ANY, RPMSG_RESERVED_ADDRESSES,
        RPMSG_ADDR_BMP_SIZE] at hnat hlt
      have hvalue : (0xFFFFFFFF : UInt32).toNat = 4294967295 := rfl
      omega
    simp only [if_pos hlt, if_neg hany]
  · simp only [if_neg hlt, if_true]

theorem rpmsgClaimAddress_claimed {bitmap bitmap' : Nat → Bool} {src addr : UInt32}
    (hclaim : rpmsgClaimAddress bitmap src = .ok (bitmap', addr)) : Claimed bitmap bitmap' addr := by
  by_cases hany : src = RPMSG_ADDR_ANY
  · subst hany
    rw [rpmsgClaimAddress_any] at hclaim
    split_ifs at hclaim with hlt
    obtain ⟨rfl, rfl⟩ := Prod.mk.inj (Except.ok.inj hclaim)
    refine .covered hlt (nextClearBit_clear hlt) ?_
    simp only [UInt32.toNat_ofNat', RPMSG_RESERVED_ADDRESSES, RPMSG_ADDR_BMP_SIZE] at hlt ⊢
    omega
  · simp only [rpmsgClaimAddress, if_neg hany] at hclaim
    split_ifs at hclaim with hhigh hset hused
    · obtain ⟨rfl, rfl⟩ := Prod.mk.inj (Except.ok.inj hclaim)
      rcases addrOffset_cases src with ⟨k, hk, haddr, hoffset⟩ | ⟨-, hout⟩
      · have hin : (k : Int) ≥ 0 ∧ (k : Int) < (RPMSG_ADDR_BMP_SIZE : Nat) := by omega
        have hclear : bitmap k = false := by
          simp only [rpmsgIsAddressSet, hoffset, if_pos hin, metalBitmapIsBitSet,
            Int.toNat_natCast] at hset
          by_contra hbit
          rw [Bool.not_eq_false] at hbit
          rw [if_pos hbit] at hset
          exact absurd hset (by decide)
        rw [rpmsgSetAddress, hoffset, if_pos hin, Int.toNat_natCast]
        exact .covered hk hclear haddr
      · rw [rpmsgIsAddressSet, if_neg hout] at hset
        exact absurd hset (by decide)
    · obtain ⟨rfl, rfl⟩ := Prod.mk.inj (Except.ok.inj hclaim)
      exact .reserved (not_le.mp hhigh)

theorem Claimed.bitmap_iff {bitmap bitmap' : Nat → Bool} {addr : UInt32}
    (hclaim : Claimed bitmap bitmap' addr) (k : Nat) :
    bitmap' k = true ↔
      (k < RPMSG_ADDR_BMP_SIZE ∧ addr.toNat = RPMSG_RESERVED_ADDRESSES + k) ∨ bitmap k = true := by
  cases hclaim with
  | reserved hlow =>
      have hout : ¬ (k < RPMSG_ADDR_BMP_SIZE ∧ addr.toNat = RPMSG_RESERVED_ADDRESSES + k) := by
        omega
      rw [or_iff_right hout]
  | @covered _ j hj hclear haddr =>
      rw [setBit_eq_true, haddr]
      refine or_congr_left ?_
      omega

theorem Claimed.addr_lt {bitmap bitmap' : Nat → Bool} {addr : UInt32}
    (hclaim : Claimed bitmap bitmap' addr) :
    addr.toNat < RPMSG_RESERVED_ADDRESSES + RPMSG_ADDR_BMP_SIZE := by
  cases hclaim with
  | reserved hlow => omega
  | covered hk hclear haddr => omega

/-! ### The invariant -/

/-- The bookkeeping of a device. -/
structure Rdev.Inv (rdev : Rdev) : Prop where
  nodup : rdev.endpoints.Nodup
  registered : ∀ ref, (rdev.ept ref).rdev = true ↔ ref ∈ rdev.endpoints
  bit : ∀ k, rdev.bitmap k = true ↔ k < RPMSG_ADDR_BMP_SIZE ∧
    ∃ ref ∈ rdev.endpoints, (rdev.ept ref).addr.toNat = RPMSG_RESERVED_ADDRESSES + k
  addr_lt : ∀ ref ∈ rdev.endpoints,
    (rdev.ept ref).addr.toNat < RPMSG_RESERVED_ADDRESSES + RPMSG_ADDR_BMP_SIZE
  unique : ∀ ref ∈ rdev.endpoints, ∀ ref' ∈ rdev.endpoints,
    (rdev.ept ref).addr = (rdev.ept ref').addr →
      RPMSG_RESERVED_ADDRESSES ≤ (rdev.ept ref).addr.toNat → ref = ref'

section Bookkeeping

variable {rdev rdev' : Rdev} {ref other : EptRef}

@[simp] theorem Rdev.setEpt_self (ept : RpmsgEndpoint) : (rdev.setEpt ref ept).ept ref = ept := by
  simp [Rdev.setEpt]

theorem Rdev.setEpt_of_ne (ept : RpmsgEndpoint) (hne : other ≠ ref) :
    (rdev.setEpt ref ept).ept other = rdev.ept other := by
  simp [Rdev.setEpt, hne]

@[simp] theorem Rdev.endpoints_setEpt (ept : RpmsgEndpoint) :
    (rdev.setEpt ref ept).endpoints = rdev.endpoints := rfl

@[simp] theorem Rdev.bitmap_setEpt (ept : RpmsgEndpoint) :
    (rdev.setEpt ref ept).bitmap = rdev.bitmap := rfl

theorem Rdev.Inv.addr_ne_any (h : rdev.Inv) (href : ref ∈ rdev.endpoints) :
    (rdev.ept ref).addr ≠ RPMSG_ADDR_ANY := by
  intro hany
  have hlt := h.addr_lt ref href
  rw [hany] at hlt
  exact absurd hlt (by decide)

/-- What the bookkeeping depends on. -/
theorem Rdev.Inv.congr (h : rdev.Inv) (hendpoints : rdev'.endpoints = rdev.endpoints)
    (hbitmap : rdev'.bitmap = rdev.bitmap) (haddr : ∀ ref, (rdev'.ept ref).addr = (rdev.ept ref).addr)
    (hrdev : ∀ ref, (rdev'.ept ref).rdev = (rdev.ept ref).rdev) : rdev'.Inv := by
  constructor
  · rw [hendpoints]
    exact h.nodup
  · intro ref
    rw [hrdev, hendpoints]
    exact h.registered ref
  · intro k
    simp only [hbitmap, hendpoints, haddr]
    exact h.bit k
  · intro ref href
    rw [hendpoints] at href
    rw [haddr]
    exact h.addr_lt ref href
  · intro ref href ref' href' heq
    rw [hendpoints] at href href'
    rw [haddr, haddr] at heq
    rw [haddr]
    exact h.unique ref href ref' href' heq

theorem Rdev.ept_setDestAddr (rdev : Rdev) (ref : EptRef) (destAddr : UInt32) (other : EptRef) :
    (rdev.setDestAddr ref destAddr).ept other =
      if other = ref then { rdev.ept ref with destAddr } else rdev.ept other := by
  simp only [Rdev.setDestAddr, Rdev.setEpt, Function.update_apply]

theorem Rdev.Inv.setDestAddr (h : rdev.Inv) (ref : EptRef) (destAddr : UInt32) :
    (rdev.setDestAddr ref destAddr).Inv := by
  refine h.congr rfl rfl (fun other => ?_) (fun other => ?_)
  · rw [Rdev.ept_setDestAddr]
    split_ifs with heq
    · rw [heq]
    · rfl
  · rw [Rdev.ept_setDestAddr]
    split_ifs with heq
    · rw [heq]
    · rfl

/-- No endpoint has the address that is claimed, unless it is a reserved one. -/
theorem Rdev.Inv.addr_ne_of_claimed {bitmap : Nat → Bool} {addr : UInt32} (h : rdev.Inv)
    (hclaim : Claimed rdev.bitmap bitmap addr) (hother : other ∈ rdev.endpoints)
    (hhigh : RPMSG_RESERVED_ADDRESSES ≤ addr.toNat) : (rdev.ept other).addr ≠ addr := by
  intro heq
  cases hclaim with
  | reserved hlow => omega
  | @covered _ k hk hclear haddr =>
      have hbit := (h.bit k).mpr ⟨hk, other, hother, by rw [heq, haddr]⟩
      rw [hclear] at hbit
      exact Bool.noConfusion hbit

theorem Rdev.Inv.register (h : rdev.Inv) (ept : RpmsgEndpoint)
    (hnew : ref ∉ rdev.endpoints) {bitmap : Nat → Bool}
    (hclaim : Claimed rdev.bitmap bitmap ept.addr) (hept : ept.rdev = true)
    (hrdev : rdev' = { rdev with bitmap, endpoints := rdev.endpoints ++ [ref] }.setEpt ref ept) :
    rdev'.Inv := by
  subst hrdev
  have hold : ∀ other ∈ rdev.endpoints, other ≠ ref := by
    rintro other hother rfl
    exact hnew hother
  have hkeep : ∀ other ∈ rdev.endpoints,
      (({ rdev with bitmap, endpoints := rdev.endpoints ++ [ref] } : Rdev).setEpt ref ept).ept other =
        rdev.ept other := fun other hother => Rdev.setEpt_of_ne _ (hold other hother)
  constructor
  · rw [Rdev.endpoints_setEpt, List.nodup_append']
    exact ⟨h.nodup, List.nodup_singleton _, List.disjoint_singleton.mpr hnew⟩
  · intro other
    by_cases heq : other = ref
    · subst heq
      simp [hept]
    · rw [Rdev.setEpt_of_ne _ heq]
      simp [h.registered other, heq]
  · intro k
    rw [Rdev.bitmap_setEpt, hclaim.bitmap_iff, h.bit k]
    simp only [Rdev.endpoints_setEpt, List.mem_append, List.mem_singleton]
    constructor
    · rintro (⟨hk, haddr⟩ | ⟨hk, other, hother, haddr⟩)
      · exact ⟨hk, ref, .inr rfl, by rw [Rdev.setEpt_self, haddr]⟩
      · exact ⟨hk, other, .inl hother, by rw [hkeep other hother, haddr]⟩
    · rintro ⟨hk, other, hother | rfl, haddr⟩
      · rw [hkeep other hother] at haddr
        exact .inr ⟨hk, other, hother, haddr⟩
      · rw [Rdev.setEpt_self] at haddr
        exact .inl ⟨hk, haddr⟩
  · intro other hother
    rcases List.mem_append.mp hother with hother | hother
    · rw [hkeep other hother]
      exact h.addr_lt other hother
    · obtain rfl := List.mem_singleton.mp hother
      rw [Rdev.setEpt_self]
      exact hclaim.addr_lt
  · intro a ha b hb heq hhigh
    rcases List.mem_append.mp ha with hold | hself <;>
      rcases List.mem_append.mp hb with hold' | hself'
    · rw [hkeep a hold, hkeep b hold'] at heq
      rw [hkeep a hold] at hhigh
      exact h.unique a hold b hold' heq hhigh
    · rw [List.mem_singleton.mp hself', hkeep a hold, Rdev.setEpt_self] at heq
      rw [hkeep a hold, heq] at hhigh
      exact absurd heq (h.addr_ne_of_claimed hclaim hold hhigh)
    · rw [List.mem_singleton.mp hself, hkeep b hold', Rdev.setEpt_self] at heq
      rw [List.mem_singleton.mp hself, Rdev.setEpt_self] at hhigh
      exact absurd heq.symm (h.addr_ne_of_claimed hclaim hold' hhigh)
    · rw [List.mem_singleton.mp hself, List.mem_singleton.mp hself']

theorem rpmsgUnregisterEndpoint_endpoints (rdev : Rdev) (ref : EptRef) :
    (rpmsgUnregisterEndpoint rdev ref).endpoints = rdev.endpoints.erase ref := rfl

theorem rpmsgUnregisterEndpoint_of_ne (hne : other ≠ ref) :
    (rpmsgUnregisterEndpoint rdev ref).ept other = rdev.ept other := by
  rw [rpmsgUnregisterEndpoint, Rdev.setEpt_of_ne _ hne]

theorem Rdev.Inv.bitmap_unregister (h : rdev.Inv) (href : ref ∈ rdev.endpoints) (k : Nat) :
    (rpmsgUnregisterEndpoint rdev ref).bitmap k = true ↔
      rdev.bitmap k = true ∧ (rdev.ept ref).addr.toNat ≠ RPMSG_RESERVED_ADDRESSES + k := by
  simp only [rpmsgUnregisterEndpoint, Rdev.bitmap_setEpt, ne_eq, h.addr_ne_any href,
    not_false_eq_true, if_true]
  by_cases hlow : (rdev.ept ref).addr.toNat < RPMSG_RESERVED_ADDRESSES
  · rw [rpmsgReleaseAddress_of_not_covered hlow]
    exact ⟨fun hbit => ⟨hbit, by omega⟩, fun hbit => hbit.1⟩
  · have hlt := h.addr_lt ref href
    obtain ⟨j, haddr⟩ := Nat.exists_eq_add_of_le (not_lt.mp hlow)
    rw [rpmsgReleaseAddress_of_covered (by omega) haddr, clearBit_eq_true, haddr]
    constructor
    · rintro ⟨hne, hbit⟩
      exact ⟨hbit, by omega⟩
    · rintro ⟨hbit, hne⟩
      exact ⟨by omega, hbit⟩

theorem Rdev.Inv.unregister (h : rdev.Inv) (href : ref ∈ rdev.endpoints) :
    (rpmsgUnregisterEndpoint rdev ref).Inv := by
  have hmem : ∀ {other}, other ∈ (rpmsgUnregisterEndpoint rdev ref).endpoints ↔
      other ≠ ref ∧ other ∈ rdev.endpoints := h.nodup.mem_erase_iff
  constructor
  · exact h.nodup.erase ref
  · intro other
    by_cases heq : other = ref
    · subst heq
      simp [rpmsgUnregisterEndpoint, h.nodup.mem_erase_iff]
    · rw [rpmsgUnregisterEndpoint_of_ne heq, hmem, h.registered other]
      exact ⟨fun hother => ⟨heq, hother⟩, fun hother => hother.2⟩
  · intro k
    rw [h.bitmap_unregister href k, h.bit k]
    constructor
    · rintro ⟨⟨hk, other, hother, haddr⟩, hne⟩
      have hother' : other ≠ ref := by
        rintro rfl
        exact hne haddr
      refine ⟨hk, other, hmem.mpr ⟨hother', hother⟩, ?_⟩
      rw [rpmsgUnregisterEndpoint_of_ne hother', haddr]
    · rintro ⟨hk, other, hother, haddr⟩
      obtain ⟨hne, hother⟩ := hmem.mp hother
      rw [rpmsgUnregisterEndpoint_of_ne hne] at haddr
      refine ⟨⟨hk, other, hother, haddr⟩, fun hself => hne ?_⟩
      refine h.unique other hother ref href ?_ (by omega)
      exact UInt32.toNat_inj.mp (haddr.trans hself.symm)
  · intro other hother
    obtain ⟨hne, hother⟩ := hmem.mp hother
    rw [rpmsgUnregisterEndpoint_of_ne hne]
    exact h.addr_lt other hother
  · intro a ha b hb
    obtain ⟨hane, ha⟩ := hmem.mp ha
    obtain ⟨hbne, hb⟩ := hmem.mp hb
    rw [rpmsgUnregisterEndpoint_of_ne hane, rpmsgUnregisterEndpoint_of_ne hbne]
    exact h.unique a ha b hb

/-! ### Creating, destroying and receiving -/

theorem Rdev.register_eq (rdev : Rdev) (ref : EptRef) (name : Option (List UInt8)) (src dest : UInt32)
    (cb : RpmsgEptCb) (unbindCb : Bool) (bitmap : Nat → Bool) :
    rpmsgRegisterEndpoint
        (rpmsgInitializeEpt { rdev with bitmap } ref name src dest cb unbindCb) ref =
      { rdev with bitmap, endpoints := rdev.endpoints ++ [ref] }.setEpt ref
        ⟨strncpy (name.getD []), true, src, dest, cb, unbindCb⟩ := by
  simp [rpmsgRegisterEndpoint, rpmsgInitializeEpt, Rdev.setEpt]

/-- What is left of an endpoint whose announcement has failed. -/
theorem Rdev.Inv.undo_register (h : rdev.Inv) (ept : RpmsgEndpoint)
    (hnew : ref ∉ rdev.endpoints) {bitmap : Nat → Bool}
    (hclaim : Claimed rdev.bitmap bitmap ept.addr) (hept : ept.rdev = true)
    (hrdev : rdev' = { rdev with bitmap, endpoints := rdev.endpoints ++ [ref] }.setEpt ref ept) :
    (rpmsgUnregisterEndpoint rdev' ref).bitmap = rdev.bitmap ∧
      (rpmsgUnregisterEndpoint rdev' ref).endpoints = rdev.endpoints := by
  have h' := h.register ept hnew hclaim hept hrdev
  have href : ref ∈ rdev'.endpoints := by
    simp [hrdev]
  constructor
  · have hany := h'.addr_ne_any href
    have hself : rdev'.ept ref = ept := by
      rw [hrdev, Rdev.setEpt_self]
    have hbitmap : rdev'.bitmap = bitmap := by
      rw [hrdev, Rdev.bitmap_setEpt]
    rw [hself] at hany
    simp only [rpmsgUnregisterEndpoint, Rdev.bitmap_setEpt, hself, hbitmap, if_pos hany]
    generalize ept.addr = addr at hclaim
    cases hclaim with
    | reserved hlow => exact rpmsgReleaseAddress_of_not_covered hlow
    | covered hk hclear haddr =>
        rw [rpmsgReleaseAddress_of_covered hk haddr]
        exact clearBit_setBit hclear
  · rw [rpmsgUnregisterEndpoint_endpoints, hrdev, Rdev.endpoints_setEpt,
      List.erase_append_right _ hnew, List.erase_cons_head, List.append_nil]

theorem rpmsgCreateEpt_of_ne {name : Option (List UInt8)} {src dest : UInt32} {unbindCb : Bool}
    {ret : Int} (hne : other ≠ ref) :
    (rpmsgCreateEpt rdev (some ref) name src dest unbindCb ret).1.ept other = rdev.ept other := by
  cases hclaim : rpmsgClaimAddress rdev.bitmap src with
  | error status => simp only [rpmsgCreateEpt, hclaim]
  | ok claim =>
      simp only [rpmsgCreateEpt, hclaim, Rdev.register_eq]
      split_ifs
      · rw [rpmsgUnregisterEndpoint_of_ne hne, Rdev.setEpt_of_ne _ hne]
      · rw [Rdev.setEpt_of_ne _ hne]
      · rw [Rdev.setEpt_of_ne _ hne]

theorem rpmsgCreateEpt_endpoints (hnew : ref ∉ rdev.endpoints) (name : Option (List UInt8))
    (src dest : UInt32) (unbindCb : Bool) (ret : Int) :
    (rpmsgCreateEpt rdev (some ref) name src dest unbindCb ret).1.endpoints = rdev.endpoints ∨
      (rpmsgCreateEpt rdev (some ref) name src dest unbindCb ret).1.endpoints =
          rdev.endpoints ++ [ref] ∧
        ∃ addr, (rpmsgCreateEpt rdev (some ref) name src dest unbindCb ret).1.ept ref =
          ⟨strncpy (name.getD []), true, addr, dest, .user, unbindCb⟩ := by
  cases hclaim : rpmsgClaimAddress rdev.bitmap src with
  | error status =>
      left
      simp only [rpmsgCreateEpt, hclaim]
  | ok claim =>
      obtain ⟨bitmap, addr⟩ := claim
      simp only [rpmsgCreateEpt, hclaim, Rdev.register_eq]
      split_ifs
      · left
        rw [rpmsgUnregisterEndpoint_endpoints, Rdev.endpoints_setEpt,
          List.erase_append_right _ hnew, List.erase_cons_head, List.append_nil]
      · exact .inr ⟨rfl, addr, Rdev.setEpt_self _⟩
      · exact .inr ⟨rfl, addr, Rdev.setEpt_self _⟩

/-- A call of `rpmsg_create_ept` either leaves the bookkeeping as it is, whatever becomes of the
object, or registers the endpoint. -/
theorem Rdev.Inv.create (h : rdev.Inv) (ept : Option EptRef)
    (hnew : ∀ ref ∈ ept, ref ∉ rdev.endpoints) (name : Option (List UInt8)) (src dest : UInt32)
    (unbindCb : Bool) (ret : Int) :
    (rpmsgCreateEpt rdev ept name src dest unbindCb ret).1.Inv ∧
      ((rpmsgCreateEpt rdev ept name src dest unbindCb ret).2.1 ≠ RPMSG_SUCCESS →
        (rpmsgCreateEpt rdev ept name src dest unbindCb ret).1.bitmap = rdev.bitmap ∧
          (rpmsgCreateEpt rdev ept name src dest unbindCb ret).1.endpoints = rdev.endpoints) := by
  cases ept with
  | none => exact ⟨h, fun _ => ⟨rfl, rfl⟩⟩
  | some ref =>
      cases hclaim : rpmsgClaimAddress rdev.bitmap src with
      | error status =>
          simp only [rpmsgCreateEpt, hclaim, and_self, implies_true, and_true]
          exact h
      | ok claim =>
          obtain ⟨bitmap, addr⟩ := claim
          have hclaimed := rpmsgClaimAddress_claimed hclaim
          simp only [rpmsgCreateEpt, hclaim, Rdev.register_eq]
          have h' := h.register ⟨strncpy (name.getD []), true, addr, dest, .user, unbindCb⟩
            (hnew ref rfl) hclaimed rfl rfl
          have hundo := h.undo_register ⟨strncpy (name.getD []), true, addr, dest, .user, unbindCb⟩
            (hnew ref rfl) hclaimed rfl rfl
          split_ifs
          · exact ⟨h'.unregister (by simp), fun _ => hundo⟩
          · exact ⟨h', fun hfail => absurd (not_not.mp ‹_›) hfail⟩
          · exact ⟨h', fun hfail => absurd rfl hfail⟩

theorem Rdev.Inv.destroy (h : rdev.Inv) (ept : Option EptRef) : (rpmsgDestroyEpt rdev ept).1.Inv := by
  cases ept with
  | none => exact h
  | some ref =>
      simp only [rpmsgDestroyEpt]
      split_ifs with hrdev
      · exact h
      · exact h.unregister ((h.registered ref).mp (Bool.not_eq_false _ ▸ hrdev))
      · exact h.unregister ((h.registered ref).mp (Bool.not_eq_false _ ▸ hrdev))

/-- An announcement changes at most the destination of one endpoint. -/
theorem rpmsgVirtioNsCallback_cases (rdev : Rdev) (ref : EptRef) (data : List UInt8) :
    (rpmsgVirtioNsCallback rdev ref data).1 = rdev ∨
      ∃ found destAddr, (rpmsgVirtioNsCallback rdev ref data).1 = rdev.setDestAddr found destAddr := by
  simp only [rpmsgVirtioNsCallback]
  cases rpmsgGetEndpoint rdev (some (RpmsgNsMsg.ofBytes data).name) RPMSG_ADDR_ANY
      (RpmsgNsMsg.ofBytes data).addr with
  | none =>
      left
      split_ifs <;> rfl
  | some found =>
      simp only
      split_ifs
      · exact .inl rfl
      · exact .inr ⟨found, _, rfl⟩
      · exact .inr ⟨found, _, rfl⟩
      · exact .inr ⟨found, _, rfl⟩

theorem Rdev.Inv.nsCallback (h : rdev.Inv) (ref : EptRef) (data : List UInt8) :
    (rpmsgVirtioNsCallback rdev ref data).1.Inv := by
  rcases rpmsgVirtioNsCallback_cases rdev ref data with hsame | ⟨found, destAddr, hset⟩
  · rw [hsame]
    exact h
  · rw [hset]
    exact h.setDestAddr found destAddr

theorem Rdev.Inv.learnDestAddr (h : rdev.Inv) (ref : EptRef) (src : UInt32) :
    (rdev.learnDestAddr ref src).Inv := by
  rw [Rdev.learnDestAddr]
  split_ifs
  · exact h.setDestAddr ref src
  · exact h

theorem Rdev.Inv.rxCallback (h : rdev.Inv) (msg : RxMessage) :
    (rpmsgVirtioRxCallback rdev msg).1.Inv := by
  rw [rpmsgVirtioRxCallback]
  cases rpmsgGetEptFromAddr rdev msg.dst with
  | none => exact h
  | some ref =>
      have h' := h.learnDestAddr ref msg.src
      simp only
      cases ((rdev.learnDestAddr ref msg.src).ept ref).cb with
      | nsCallback => exact h'.nsCallback ref msg.payload
      | user => exact h'

theorem Rdev.Inv.receive (h : rdev.Inv) (msg : RxMessage) : (rdev.receive msg).Inv := by
  have h' := h.rxCallback msg
  rw [Rdev.receive]
  generalize rpmsgVirtioRxCallback rdev msg = outcome at h'
  obtain ⟨rdev', call⟩ := outcome
  rcases call with - | ref | ⟨owner, ept⟩ | name
  · exact h'
  · exact h'
  · exact h'.destroy (some ept)
  · exact h'

theorem Rdev.Inv.step (h : rdev.Inv) {action : RdevAction} (hallowed : rdev.Allowed action)
    (hstep : rdev.step action = some rdev') : rdev'.Inv := by
  cases action with
  | create ept name src dest unbindCb ret =>
      obtain rfl := Option.some.inj hstep
      exact (h.create ept (fun ref href => hallowed ref href) name src dest unbindCb ret).1
  | destroy ept =>
      obtain rfl := Option.some.inj hstep
      exact h.destroy ept
  | receive msg =>
      obtain rfl := Option.some.inj hstep
      exact h.receive msg

theorem rpmsgInitEndpoints_inv (supportNs nsBindCb : Bool) :
    (rpmsgInitEndpoints supportNs nsBindCb).Inv := by
  have hnone : (rpmsgInitEndpoints false nsBindCb).Inv := by
    constructor
    · exact List.nodup_nil
    · intro ref
      simp [rpmsgInitEndpoints, RpmsgEndpoint.zeroed]
    · intro k
      simp [rpmsgInitEndpoints]
    · intro ref href
      simp [rpmsgInitEndpoints] at href
    · intro ref href
      simp [rpmsgInitEndpoints] at href
  cases supportNs with
  | false => exact hnone
  | true =>
      have hsupport : ({ rpmsgInitEndpoints false nsBindCb with supportNs := true } : Rdev).Inv :=
        hnone.congr rfl rfl (fun _ => rfl) fun _ => rfl
      have hnew : EptRef.nsEpt ∉ (rpmsgInitEndpoints false nsBindCb).endpoints := List.not_mem_nil
      refine hsupport.register
        ⟨strncpy [78, 83], true, RPMSG_NS_EPT_ADDR, RPMSG_NS_EPT_ADDR, .nsCallback, false⟩
        hnew (.reserved (by decide)) rfl ?_
      exact Rdev.register_eq { rpmsgInitEndpoints false nsBindCb with supportNs := true } .nsEpt
        (some [78, 83]) RPMSG_NS_EPT_ADDR RPMSG_NS_EPT_ADDR .nsCallback false Bitmap.empty

end Bookkeeping

instance Rdev.decidableAllowed (rdev : Rdev) (action : RdevAction) :
    Decidable (rdev.Allowed action) :=
  match action with
  | .create none _ _ _ _ _ => isTrue fun _ href => nomatch href
  | .create (some ref) _ _ _ _ _ =>
      decidable_of_iff (ref ∉ rdev.endpoints)
        ⟨fun hnew _ href => Option.some.inj href ▸ hnew, fun hnew => hnew ref rfl⟩
  | .destroy _ => isTrue trivial
  | .receive _ => isTrue trivial

/-- The bookkeeping of addresses in every run of creations, of destructions and of messages received,
with every outcome of the announcements. -/
theorem endpoint_addresses (supportNs nsBindCb : Bool) {rdev : Rdev}
    (hrdev : Run.Reachable Rdev.Allowed Rdev.step (rpmsgInitEndpoints supportNs nsBindCb) rdev) :
    (∀ k < RPMSG_ADDR_BMP_SIZE, rdev.bitmap k = true ↔
        ∃! ref, ref ∈ rdev.endpoints ∧
          (rdev.ept ref).addr.toNat = RPMSG_RESERVED_ADDRESSES + k) ∧
      (∀ ref ∈ rdev.endpoints,
        (rdev.ept ref).addr.toNat < RPMSG_RESERVED_ADDRESSES + RPMSG_ADDR_BMP_SIZE) ∧
      (rdev.endpoints.Nodup ∧ ∀ ref ∈ rdev.endpoints, ∀ ref' ∈ rdev.endpoints,
        (rdev.ept ref).addr = (rdev.ept ref').addr →
          RPMSG_RESERVED_ADDRESSES ≤ (rdev.ept ref).addr.toNat → ref = ref') ∧
      ∀ ept name src dest unbindCb ret, rdev.Allowed (.create ept name src dest unbindCb ret) →
        (rpmsgCreateEpt rdev ept name src dest unbindCb ret).2.1 ≠ RPMSG_SUCCESS →
          (rpmsgCreateEpt rdev ept name src dest unbindCb ret).1.bitmap = rdev.bitmap ∧
            (rpmsgCreateEpt rdev ept name src dest unbindCb ret).1.endpoints = rdev.endpoints := by
  have h : rdev.Inv := hrdev.invariant (rpmsgInitEndpoints_inv supportNs nsBindCb)
    fun s action s' hs hallowed hstep => hs.step hallowed hstep
  refine ⟨fun k hk => ?_, h.addr_lt, ⟨h.nodup, h.unique⟩, ?_⟩
  · rw [h.bit k]
    constructor
    · rintro ⟨-, ref, href, haddr⟩
      refine ⟨ref, ⟨href, haddr⟩, ?_⟩
      rintro other ⟨hother, haddr'⟩
      exact h.unique other hother ref href (UInt32.toNat_inj.mp (haddr'.trans haddr.symm)) (by omega)
    · rintro ⟨ref, ⟨href, haddr⟩, -⟩
      exact ⟨hk, ref, href, haddr⟩
  · intro ept name src dest unbindCb ret hallowed
    exact (h.create ept (fun ref href => hallowed ref href) name src dest unbindCb ret).2

/-- An address that is given out, one that is refused because it is taken, and one that is released
because the announcement fails. -/
theorem endpoint_addresses_three :
    ∃ rdev : Rdev, rdev.endpoints = [.nsEpt, .user 0] ∧ rdev.bitmap 1 = false ∧
      ∃! ref, ref ∈ rdev.endpoints ∧
        (rdev.ept ref).addr.toNat = RPMSG_RESERVED_ADDRESSES + 0 := by
  obtain ⟨rdev, hrun, hrdev⟩ := Run.exists_reachable Rdev.Allowed Rdev.step
    (rpmsgInitEndpoints true false)
    [.create (some (.user 0)) (some [120]) RPMSG_ADDR_ANY RPMSG_ADDR_ANY true 40,
      .create (some (.user 1)) (some [121]) 1024 RPMSG_ADDR_ANY true 40,
      .create (some (.user 1)) (some [121]) RPMSG_ADDR_ANY RPMSG_ADDR_ANY true (-2002)]
    (fun rdev => (rdev.endpoints, rdev.bitmap 0, rdev.bitmap 1))
    ([.nsEpt, .user 0], true, false) (by decide +kernel)
  simp only [Prod.mk.injEq] at hrdev
  obtain ⟨hendpoints, hbit, hclear⟩ := hrdev
  have h := endpoint_addresses true false hrun
  exact ⟨rdev, hendpoints, hclear, (h.1 0 (by decide)).mp hbit⟩

end OpenAmp
