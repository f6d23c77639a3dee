import OpenAmp.Library.LinkedChain
import OpenAmp.Library.RingBuffer
import OpenAmp.Virtqueue
import Mathlib.Data.List.Perm.Basic
import Mathlib.Data.List.Nodup

/-!
# What a vring and its two control blocks represent

The abstract ring is a pool of free descriptors, a queue of chains on offer, the chains the slave
holds, and a queue of chains it has handed back. The representation invariant ties the shared memory
and both control blocks to such a ring, and each queue operation moves one chain.
-/

namespace OpenAmp

open LinkedChain RingBuffer

/-- A chain the master has posted and not yet taken back: its descriptors, the cookie it was posted
with, and the address and length of its first buffer. -/
structure Posted where
  head : Nat
  rest : List Nat
  cookie : Nat
  addr : Nat
  len : Nat
deriving DecidableEq, Repr

def Posted.descs (posted : Posted) : List Nat := posted.head :: posted.rest

@[simp]
theorem Posted.length_descs (posted : Posted) : posted.descs.length = posted.rest.length + 1 := rfl

theorem Posted.head_mem_descs (posted : Posted) : posted.head ∈ posted.descs :=
  List.mem_cons_self ..

/-- The abstract ring. `taken` and `got` count the chains that have left the two queues. -/
structure RingView where
  free : List Nat
  avail : List Posted
  held : List Posted
  used : List (Posted × Nat)
  taken : Nat
  got : Nat

def RingView.outstanding (view : RingView) : List Posted :=
  view.avail ++ view.held ++ view.used.map Prod.fst

/-- The master posts a chain made of the first free descriptors. -/
def RingView.post (view : RingView) (posted : Posted) : RingView :=
  { view with
    free := view.free.drop posted.descs.length
    avail := view.avail ++ [posted] }

/-- The slave takes the oldest chain on offer. -/
def RingView.take (view : RingView) : RingView :=
  { view with
    avail := view.avail.tail
    held := view.held ++ view.avail.head?.toList
    taken := view.taken + 1 }

/-- The slave hands back one of the chains it holds, leaving `held`. -/
def RingView.giveBack (view : RingView) (posted : Posted) (held : List Posted) (len : Nat) :
    RingView :=
  { view with
    held
    used := view.used ++ [(posted, len)] }

/-- The master takes back the oldest used chain, whose descriptors go to the front of the free
chain. -/
def RingView.reclaim (view : RingView) : RingView :=
  { view with
    free := (view.used.head?.map fun entry => entry.1.descs).getD [] ++ view.free
    used := view.used.tail
    got := view.got + 1 }

/-- What stays fixed while a vring is in use. -/
structure RingConfig where
  order : Nat
  order_le : order ≤ 15
  masterIo : MetalIo
  slaveIo : MetalIo

/-- The number of entries, a power of two up to `2 ^ 15`. -/
def RingConfig.entries (cfg : RingConfig) : Nat := 2 ^ cfg.order

theorem RingConfig.entries_pos (cfg : RingConfig) : 0 < cfg.entries := Nat.two_pow_pos _

theorem RingConfig.entries_le (cfg : RingConfig) : cfg.entries ≤ 32768 :=
  Nat.pow_le_pow_right (by decide) cfg.order_le

theorem RingConfig.entries_dvd (cfg : RingConfig) : 2 ^ cfg.order ∣ 2 ^ 16 :=
  pow_dvd_pow 2 (by have := cfg.order_le; omega)

theorem RingConfig.ringMask_entries (cfg : RingConfig) : ringMask cfg.entries = 2 ^ cfg.order - 1 := by
  have hpos := cfg.entries_pos
  have hle := cfg.entries_le
  simp only [ringMask, u32, RingConfig.entries] at *
  omega

/-- Masking one of the 16-bit indices selects the slot of the counter it truncates. -/
theorem RingConfig.mask_idx (cfg : RingConfig) (count : Nat) :
    u16 count &&& ringMask cfg.entries = count % cfg.entries := by
  rw [cfg.ringMask_entries]
  exact mask_word cfg.entries_dvd

/-- The descriptors of a posted chain point at each other and only the last one ends it. -/
def ChainLinked (desc : Nat → VringDesc) : List Nat → Prop
  | [] => True
  | [last] => (desc last).flags &&& VRING_DESC_F_NEXT = 0
  | cell :: next :: cells =>
      (desc cell).flags &&& VRING_DESC_F_NEXT ≠ 0 ∧ (desc cell).next = next ∧
        ChainLinked desc (next :: cells)

theorem ChainLinked.congr {desc desc' : Nat → VringDesc} {cells : List Nat}
    (h : ChainLinked desc cells) (hsame : ∀ cell ∈ cells, desc' cell = desc cell) :
    ChainLinked desc' cells := by
  induction cells with
  | nil => trivial
  | cons cell cells ih =>
      have hcell := hsame cell (List.mem_cons_self ..)
      cases cells with
      | nil =>
          simp only [ChainLinked, hcell] at h ⊢
          exact h
      | cons next cells =>
          simp only [ChainLinked, hcell] at h ⊢
          exact ⟨h.1, h.2.1,
            ih h.2.2 fun other hother => hsame other (List.mem_cons_of_mem _ hother)⟩

/-- The shared table and the master's own table describe a posted chain. -/
structure Posted.Stored (desc : Nat → VringDesc) (descx : Nat → VqDescExtra) (posted : Posted) :
    Prop where
  linked : ChainLinked desc posted.descs
  direct : (desc posted.head).flags &&& VRING_DESC_F_INDIRECT = 0
  addr : (desc posted.head).addr = posted.addr
  len : (desc posted.head).len = posted.len
  extra : descx posted.head = ⟨posted.cookie, posted.descs.length⟩
  cookie_ne : posted.cookie ≠ NULL

theorem Posted.Stored.congr {desc desc' : Nat → VringDesc} {descx descx' : Nat → VqDescExtra}
    {posted : Posted} (h : posted.Stored desc descx)
    (hdesc : ∀ cell ∈ posted.descs, desc' cell = desc cell)
    (hdescx : descx' posted.head = descx posted.head) : posted.Stored desc' descx' := by
  have hhead := hdesc posted.head posted.head_mem_descs
  exact
    { linked := h.linked.congr hdesc
      direct := by rw [hhead]; exact h.direct
      addr := by rw [hhead]; exact h.addr
      len := by rw [hhead]; exact h.len
      extra := by rw [hdescx]; exact h.extra
      cookie_ne := h.cookie_ne }

/-- The representation invariant of a vring shared by a master and a slave. -/
structure RingInv (cfg : RingConfig) (vr : Vring) (master slave : Virtqueue) (view : RingView) :
    Prop where
  num : vr.num = cfg.entries
  masterRole : master.role = .master
  slaveRole : slave.role = .slave
  masterEntries : master.vqNentries = cfg.entries
  slaveEntries : slave.vqNentries = cfg.entries
  masterIo : master.shmIo = cfg.masterIo
  slaveIo : slave.shmIo = cfg.slaveIo
  masterDebug : master.vqDebug = VqDebug.clean
  slaveDebug : slave.vqDebug = VqDebug.clean
  partition : (view.free ++ view.outstanding.flatMap Posted.descs).Perm (List.range cfg.entries)
  freePath : Path (fun cell => (vr.desc cell).next) master.vqDescHeadIdx view.free
    VQ_RING_DESC_CHAIN_END
  freeCnt : master.vqFreeCnt = view.free.length
  stored : ∀ posted ∈ view.outstanding, posted.Stored vr.desc master.vqDescx
  noCookie : ∀ cell, (∀ posted ∈ view.outstanding, posted.head ≠ cell) →
    (master.vqDescx cell).cookie = NULL
  availIdx : vr.avail.idx = u16 (view.taken + view.avail.length)
  availableIdx : slave.vqAvailableIdx = u16 view.taken
  availRing : Holds vr.avail.ring cfg.entries view.taken (view.avail.map Posted.head)
  usedIdx : vr.used.idx = u16 (view.got + view.used.length)
  usedConsIdx : master.vqUsedConsIdx = u16 view.got
  usedRing : Holds vr.used.ring cfg.entries view.got
    (view.used.map fun entry => ⟨entry.1.head, entry.2⟩)

section Counting

variable {cfg : RingConfig} {vr : Vring} {master slave : Virtqueue} {view : RingView}

theorem RingInv.nodup (h : RingInv cfg vr master slave view) :
    (view.free ++ view.outstanding.flatMap Posted.descs).Nodup :=
  h.partition.nodup_iff.mpr List.nodup_range

theorem RingInv.free_lt (h : RingInv cfg vr master slave view) {cell : Nat}
    (hcell : cell ∈ view.free) : cell < cfg.entries :=
  List.mem_range.mp (h.partition.subset (List.mem_append_left _ hcell))

theorem RingInv.descs_lt (h : RingInv cfg vr master slave view) {posted : Posted}
    (hposted : posted ∈ view.outstanding) {cell : Nat} (hcell : cell ∈ posted.descs) :
    cell < cfg.entries :=
  List.mem_range.mp (h.partition.subset
    (List.mem_append_right _ (List.mem_flatMap.mpr ⟨posted, hposted, hcell⟩)))

theorem length_le_length_flatMap_descs (chains : List Posted) :
    chains.length ≤ (chains.flatMap Posted.descs).length := by
  induction chains with
  | nil => simp
  | cons posted chains ih =>
      simp only [List.flatMap_cons, List.length_append, List.length_cons, Posted.length_descs]
      omega

/-- Every chain has at least one descriptor, so the chains and the free descriptors fit the ring. -/
theorem RingInv.count_le (h : RingInv cfg vr master slave view) :
    view.free.length + view.outstanding.length ≤ cfg.entries := by
  have hlen := h.partition.length_eq
  rw [List.length_append, List.length_range] at hlen
  have hle := length_le_length_flatMap_descs view.outstanding
  omega

theorem RingView.length_outstanding (view : RingView) :
    view.outstanding.length = view.avail.length + view.held.length + view.used.length := by
  simp [RingView.outstanding, Nat.add_assoc]

theorem RingInv.avail_lt (h : RingInv cfg vr master slave view) :
    view.avail.length < 2 ^ 16 := by
  have hcount := h.count_le
  have hlen := view.length_outstanding
  have hle := cfg.entries_le
  omega

theorem RingInv.used_lt (h : RingInv cfg vr master slave view) : view.used.length < 2 ^ 16 := by
  have hcount := h.count_le
  have hlen := view.length_outstanding
  have hle := cfg.entries_le
  omega

theorem RingInv.free_disjoint (h : RingInv cfg vr master slave view) {posted : Posted}
    (hposted : posted ∈ view.outstanding) : List.Disjoint view.free posted.descs := by
  intro cell hfree hcell
  exact (List.nodup_append'.mp h.nodup).2.2 hfree (List.mem_flatMap.mpr ⟨posted, hposted, hcell⟩)

theorem chainEnd_notMem (h : RingInv cfg vr master slave view) :
    VQ_RING_DESC_CHAIN_END ∉ view.free := by
  intro hmem
  have hlt := h.free_lt hmem
  have hle := cfg.entries_le
  simp only [VQ_RING_DESC_CHAIN_END] at hlt
  omega

end Counting

end OpenAmp
