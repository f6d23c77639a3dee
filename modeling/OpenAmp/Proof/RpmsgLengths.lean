import OpenAmp.Proof.RpmsgDelivery

/-!
# Buffers keep their length

A buffer goes round: descriptor, slave, used entry, master, descriptor. Every hop hands on the length
it has read, so no buffer ever loses room.
-/

namespace OpenAmp

/-- Every chain the master has posted and not taken back, and every used entry it has not read yet,
carries the length of a whole buffer. -/
def WholeBuffers (vr : Vring) (master : Virtqueue) : Prop :=
  (∀ cell, (master.vqDescx cell).cookie ≠ NULL → (vr.desc cell).len = RPMSG_BUFFER_SIZE) ∧
    ∀ k < ofInt 16 ((vr.used.idx : Int) - master.vqUsedConsIdx),
      (vr.used.ring (u16 (master.vqUsedConsIdx + k) &&& ringMask master.vqNentries)).len =
        RPMSG_BUFFER_SIZE

/-- Every buffer that a send of a side can get is a whole one, and has the size the send is tested
against. -/
def RpmsgSystem.WholeTxBuffer (s : RpmsgSystem) (role : Role) : Prop :=
  ∀ vring svq shpool buffer,
    rpmsgVirtioGetTxBuffer role (s.sendRing role) (s.device role).svq s.shpool =
        some (vring, svq, shpool, some buffer) →
      (rpmsgVirtioGetBufferSize role (s.sendRing role) (s.device role).svq).2 =
          (RPMSG_BUFFER_SIZE : Int) - RPMSG_HDR_SIZE ∧
        buffer.len = RPMSG_BUFFER_SIZE ∧ buffer.descLen = RPMSG_BUFFER_SIZE

section Lengths

variable {cfg : RpmsgConfig} {rc : RingConfig} {vr : Vring} {master slave : Virtqueue}
  {ring : SlotView} {content : Prop} {s s₀ : RpmsgSystem} {view : RpmsgView}

theorem SlotView.len_of_outstanding {posted : Posted}
    (hposted : posted ∈ (ring.ring cfg).outstanding) : posted.len = RPMSG_BUFFER_SIZE := by
  simp only [RingView.outstanding, SlotView.ring, List.map_map, List.mem_append,
    List.mem_map] at hposted
  rcases hposted with (⟨slot, -, rfl⟩ | ⟨slot, -, rfl⟩) | ⟨slot, -, rfl⟩ <;> rfl

theorem RingInv.wholeBuffers (h : RingInv rc vr master slave (ring.ring cfg)) :
    WholeBuffers vr master := by
  constructor
  · intro cell hcookie
    by_contra hlen
    refine hcookie (h.noCookie cell ?_)
    rintro posted hposted rfl
    exact hlen ((h.stored posted hposted).len.trans (SlotView.len_of_outstanding hposted))
  · intro k hk
    rw [h.usedIdx, h.usedConsIdx, ofInt_word_sub h.used_lt] at hk
    have hslot : u16 (master.vqUsedConsIdx + k) &&& ringMask master.vqNentries =
        ((ring.ring cfg).got + k) % rc.entries := by
      rw [h.usedConsIdx, h.masterEntries, u16, u16, Nat.mod_add_mod]
      exact rc.mask_idx _
    have hentry := h.usedRing k (by rwa [List.length_map])
    rw [hslot, hentry]
    simp [SlotView.ring]

theorem RpmsgInv.wholeTxBuffer_master (h : RpmsgInv cfg content s view) :
    s.WholeTxBuffer .master := by
  intro vring svq shpool buffer hget
  refine ⟨rfl, ?_⟩
  simp only [rpmsgVirtioGetTxBuffer, RpmsgSystem.sendRing, RpmsgSystem.device,
    Option.bind_eq_bind, Option.bind_eq_some_iff] at hget
  obtain ⟨⟨vring', svq', used⟩, hused, hget⟩ := hget
  cases hview : view.ring1.used with
  | nil =>
      -- nothing has come back, so the buffer is a fresh one
      obtain ⟨rfl, rfl, rfl⟩ : vring' = s.vring1 ∧ svq' = s.master.svq ∧ used = none := by
        rw [h.ring1.masterGetBuffer_nil hview] at hused
        simpa [eq_comm] using hused
      simp only at hget
      split_ifs at hget
      · simp at hget
      · simp only [Option.some.injEq, Prod.mk.injEq] at hget
        rw [← hget.2.2.2]
        exact ⟨rfl, rfl⟩
  | cons slot rest =>
      obtain ⟨vring₁, svq₁, idx, hcall, -⟩ := h.ring1.masterGetBuffer hview
      rw [hcall] at hused
      obtain ⟨rfl, rfl, rfl⟩ : vring₁ = vring' ∧ svq₁ = svq' ∧
          some (cfg.buffer .master slot.buf idx) = used := by
        simpa using hused
      simp only [Option.some.injEq, Prod.mk.injEq] at hget
      rw [← hget.2.2.2]
      exact ⟨rfl, rfl⟩

theorem RpmsgInv.wholeTxBuffer_slave (h : RpmsgInv cfg content s view) :
    s.WholeTxBuffer .slave := by
  intro vring svq shpool buffer hget
  simp only [rpmsgVirtioGetTxBuffer, RpmsgSystem.sendRing, RpmsgSystem.device] at hget ⊢
  cases hview : view.ring0.avail with
  | nil =>
      rw [h.ring0.slaveGetBuffer_nil hview] at hget
      simp at hget
  | cons slot rest =>
      have hbuf : slot.buf < cfg.buffers := by
        refine h.owned_lt ?_
        simp [RpmsgView.owned, hview]
      obtain ⟨svq₁, hcall, -⟩ := h.ring0.slaveGetBuffer rfl hview hbuf
      rw [hcall] at hget
      simp only [Option.some.injEq, Prod.mk.injEq] at hget
      rw [h.ring0.slaveBufferSize, ← hget.2.2.2, if_neg (by rw [hview]; exact List.cons_ne_nil _ _)]
      exact ⟨rfl, rfl, rfl⟩

end Lengths

/-- Buffers never shrink, as long as the rings have entries for all buffers of the pool. A chain is
posted, and a used entry with it, one at a time; so what holds of those outstanding in every reachable
state holds of all that were ever posted. -/
theorem buffers_keep_length (cfg : RpmsgConfig)
    (hpool : cfg.size ≤ (cfg.num0 + cfg.num1) * RPMSG_BUFFER_SIZE)
    (masterFeatures slaveFeatures : Nat) (shm : Nat → UInt8) {s₀ s : RpmsgSystem}
    (hinit : rpmsgInitVdev cfg.num0 cfg.num1 masterFeatures slaveFeatures cfg.masterIo cfg.slaveIo
      (rpmsgVirtioInitShmPool cfg.base cfg.size) shm = .ok s₀)
    (hs : Run.Reachable RpmsgSystem.Allowed RpmsgSystem.step s₀ s) :
    WholeBuffers s.vring0 s.master.rvq ∧ WholeBuffers s.vring1 s.master.svq ∧
      ∀ role, s.WholeTxBuffer role := by
  have hbuffers : cfg.buffers ≤ cfg.num0 + cfg.num1 :=
    Nat.div_le_of_le_mul (by rwa [Nat.mul_comm] at hpool)
  obtain ⟨view, h⟩ := exists_rpmsgInv False False.elim (.inl hbuffers) hinit hs
  refine ⟨h.ring0.wholeBuffers, h.ring1.wholeBuffers, fun role => ?_⟩
  cases role with
  | master => exact h.wholeTxBuffer_master
  | slave => exact h.wholeTxBuffer_slave

/-- The slave has sent a byte, which the master has not taken yet. -/
theorem buffers_keep_length_one_entry :
    ∃ s : RpmsgSystem, s.vring0.used.idx = 1 ∧ s.master.rvq.vqUsedConsIdx = 0 ∧
      WholeBuffers s.vring0 s.master.rvq := by
  let cfg := RpmsgConfig.linear 0 0 1024 (by decide) (by decide) (by decide)
  obtain ⟨s₀, s, hinit, hs, hindices⟩ := Run.exists_reachable_of_ok
    RpmsgSystem.Allowed RpmsgSystem.step
    (rpmsgInitVdev cfg.num0 cfg.num1 0 0 cfg.masterIo cfg.slaveIo
      (rpmsgVirtioInitShmPool cfg.base cfg.size) fun _ => 0)
    (.send .slave ⟨3, 4, fun _ => 8, 1, true, 0⟩ :: List.replicate 6 (.stepSend .slave 0))
    (fun s => (s.vring0.used.idx, s.master.rvq.vqUsedConsIdx)) (1, 0) (by decide +kernel)
  obtain ⟨hidx, hcons⟩ := Prod.mk.inj hindices
  have h := buffers_keep_length cfg (by decide) 0 0 (fun _ => 0) hinit hs
  exact ⟨s, hidx, hcons, h.1⟩

end OpenAmp
