import OpenAmp.SendTrace
import OpenAmp.Proof.RpmsgCapacity

/-!
# When a send that fails has done nothing

The steps before a send finds a buffer leave everything as it was; those after it end with the kick.
So a call has an effect exactly when it has found a buffer, and what it then returns is the size it
was called with, whatever that is. What it publishes is its own message as long as no send writes
beyond its buffer, where the header of another may stand.
-/

namespace OpenAmp

open ListCuts RingBuffer

/-! ### The status byte -/

section Status

/-- Nothing but the start of a send reads the status. -/
def RpmsgSystem.withStatus (s : RpmsgSystem) (status : Nat) : RpmsgSystem :=
  { s with status }

variable (s : RpmsgSystem) (status : Nat)

@[simp] theorem RpmsgSystem.device_withStatus (role : Role) :
    (s.withStatus status).device role = s.device role := by
  cases role <;> rfl

@[simp] theorem RpmsgSystem.sendRing_withStatus (role : Role) :
    (s.withStatus status).sendRing role = s.sendRing role := by
  cases role <;> rfl

@[simp] theorem RpmsgSystem.receiveRing_withStatus (role : Role) :
    (s.withStatus status).receiveRing role = s.receiveRing role := by
  cases role <;> rfl

@[simp] theorem RpmsgSystem.setDevice_withStatus (device : RpmsgDevice) (role : Role) :
    (s.withStatus status).setDevice device role = (s.setDevice device role).withStatus status := by
  cases role <;> rfl

theorem RpmsgSystem.takeBuffer_withStatus (role : Role) (i : Nat) (call : SendCall)
    (tickCount : Nat) (availSize : Int) :
    (s.withStatus status).takeBuffer role i call tickCount availSize =
      (s.takeBuffer role i call tickCount availSize).map (·.withStatus status) := by
  have hshpool : (s.withStatus status).shpool = s.shpool := rfl
  simp only [RpmsgSystem.takeBuffer, RpmsgSystem.device_withStatus,
    RpmsgSystem.sendRing_withStatus, hshpool, Option.bind_eq_bind, Option.map_bind]
  congr 1
  funext taken
  obtain ⟨vring, svq, shpool, buffer⟩ := taken
  cases buffer with
  | some buffer => cases role <;> rfl
  | none =>
      simp only [Function.comp_apply]
      split_ifs <;> cases role <;> rfl

theorem RpmsgSystem.stepSend_withStatus (role : Role) (i : Nat) :
    (s.withStatus status).stepSend role i = (s.stepSend role i).map (·.withStatus status) := by
  simp only [RpmsgSystem.stepSend, RpmsgSystem.device_withStatus]
  split
  · rfl
  · next call pc hsend =>
      cases pc with
      | loop tickCount =>
          simp only [RpmsgSystem.testSize, RpmsgSystem.device_withStatus,
            RpmsgSystem.sendRing_withStatus, RpmsgSystem.setDevice_withStatus, Option.map_some]
          split_ifs <;> rfl
      | tested tickCount availSize => exact s.takeBuffer_withStatus status role i call _ _
      | taken buffer => cases role <;> rfl
      | header buffer =>
          simp only [RpmsgSystem.writePayload, RpmsgSystem.device_withStatus]
          split_ifs
          · rfl
          · cases role <;> rfl
      | payload buffer =>
          simp only [RpmsgSystem.enqueue, RpmsgSystem.device_withStatus,
            RpmsgSystem.sendRing_withStatus]
          split_ifs
          · rfl
          · cases role <;> rfl
      | enqueued => cases role <;> rfl

theorem RpmsgSystem.rxCallback_withStatus (role : Role) :
    (s.withStatus status).rxCallback role = (s.rxCallback role).map (·.withStatus status) := by
  simp only [RpmsgSystem.rxCallback, RpmsgSystem.device_withStatus,
    RpmsgSystem.receiveRing_withStatus, Option.bind_eq_bind, Option.map_bind]
  congr 1
  funext taken
  obtain ⟨vring, rvq, buffer⟩ := taken
  cases buffer <;> cases role <;> rfl

theorem RpmsgSystem.stepReceive_withStatus (role : Role) (i : Nat) :
    (s.withStatus status).stepReceive role i =
      (s.stepReceive role i).map (·.withStatus status) := by
  simp only [RpmsgSystem.stepReceive, RpmsgSystem.device_withStatus]
  split
  · rfl
  · cases role <;> rfl
  · simp only [RpmsgSystem.nextBuffer, RpmsgSystem.device_withStatus,
      RpmsgSystem.receiveRing_withStatus, Option.bind_eq_bind, Option.map_bind]
    congr 1
    funext taken
    obtain ⟨vring, rvq, buffer⟩ := taken
    cases buffer <;> cases role <;> rfl

end Status

/-! ### What a step of a send publishes -/

section Published

variable {cfg : RpmsgConfig} {content : Prop} {s s' : RpmsgSystem} {view : RpmsgView} {role : Role}

theorem newSlots_self (num idx : Nat) : newSlots num idx idx = [] := by
  have hnone : u16 (idx + 2 ^ 16 - idx) = 0 := by
    rw [Nat.add_sub_cancel_left]
    rfl
  rw [newSlots, hnone]
  rfl

/-- An index that moves on by one passes the slot its counter selects. -/
theorem RingConfig.newSlots_succ (rc : RingConfig) (count : Nat) :
    newSlots rc.entries (u16 count) (u16 (count + 1)) = [count % rc.entries] := by
  have hone : u16 (u16 (count + 1) + 2 ^ 16 - u16 count) = 1 := by
    simp only [u16]
    omega
  have hslot : u16 (u16 count + 0) &&& ringMask rc.entries = count % rc.entries := by
    rw [Nat.add_zero, u16, u16, Nat.mod_mod]
    exact rc.mask_idx count
  rw [newSlots, hone, List.range_one, List.map_singleton, hslot]

theorem RpmsgSystem.published_of_idx (hidx : s'.publishIdx role = s.publishIdx role) :
    s.published s' role = [] := by
  rw [RpmsgSystem.published, hidx, newSlots_self]
  rfl

/-- The peer reads what lies in the one slot that the index has passed. -/
theorem RpmsgSystem.published_succ (rc : RingConfig) {count addr : Nat}
    (hnum : (s'.sendRing role).num = rc.entries) (hidx : s.publishIdx role = u16 count)
    (hidx' : s'.publishIdx role = u16 (count + 1))
    (haddr : s'.publishedAddr role (count % rc.entries) = addr) :
    s.published s' role = [rpmsgRead (s'.device role.peer).shbufIo s'.shm addr] := by
  rw [RpmsgSystem.published, hnum, hidx, hidx', rc.newSlots_succ, List.map_singleton, haddr]

theorem RpmsgSystem.enqueue_shm {i : Nat} {call : SendCall} {buffer : RpmsgBuffer}
    (hstep : s.enqueue role i call buffer = some s') : s'.shm = s.shm := by
  simp only [RpmsgSystem.enqueue] at hstep
  split_ifs at hstep
  obtain rfl := Option.some.inj hstep
  simp

/-- The slave finds the message of the master through the descriptor. -/
theorem RpmsgInv.published_post (h : RpmsgInv cfg content s view) {head buf : Nat}
    (h' : RpmsgInv cfg content s' { view with ring1 := view.ring1.post ⟨head, buf⟩ })
    (hbuf : buf < cfg.buffers) :
    s.published s' .master = [rpmsgRead cfg.slaveIo s'.shm (cfg.addr .slave buf)] := by
  have hio : (s'.device .slave).shbufIo = cfg.slaveIo := h'.io .slave
  have hring := h'.ring1
  rw [SlotView.ring_post] at hring
  have hidx' := hring.availIdx
  have hslots := hring.availRing
  have hposted := hring.stored (cfg.posted ⟨head, buf⟩) (by simp [RingView.outstanding, RingView.post])
  simp only [RingView.post, List.length_append, List.length_singleton, ← Nat.add_assoc,
    List.map_append, List.map_singleton] at hidx' hslots
  have hslot := hslots.last
  rw [List.length_map] at hslot
  rw [← hio]
  refine RpmsgSystem.published_succ cfg.ring1 hring.num h.ring1.availIdx hidx' ?_
  rw [RpmsgSystem.publishedAddr, hslot, hring.slaveIo]
  exact (congrArg cfg.slaveIo.physToVirt hposted.addr).trans (cfg.translate_addr hbuf)

/-- The master finds the message of the slave through the pointer it has kept. -/
theorem RpmsgInv.published_giveBack (h : RpmsgInv cfg content s view) {head buf : Nat}
    {held : List Slot}
    (h' : RpmsgInv cfg content s' { view with ring0 := view.ring0.giveBack ⟨head, buf⟩ held }) :
    s.published s' .slave = [rpmsgRead cfg.masterIo s'.shm (cfg.addr .master buf)] := by
  have hio : (s'.device .master).shbufIo = cfg.masterIo := h'.io .master
  have hring := h'.ring0
  rw [SlotView.ring_giveBack] at hring
  have hidx' := hring.usedIdx
  have hslots := hring.usedRing
  have hmem : cfg.posted ⟨head, buf⟩ ∈ ((view.ring0.ring cfg).giveBack (cfg.posted ⟨head, buf⟩)
      (held.map cfg.posted) RPMSG_BUFFER_SIZE).outstanding := by
    simp [RingView.outstanding, RingView.giveBack]
  have hposted := hring.stored _ hmem
  have hlt : head < cfg.ring0.entries := hring.descs_lt hmem (List.mem_cons_self ..)
  have hentries := cfg.ring0.entries_le
  have hhead : u16 head = head := Nat.mod_eq_of_lt (by omega)
  simp only [RingView.giveBack, List.length_append, List.length_singleton, ← Nat.add_assoc,
    List.map_append, List.map_singleton] at hidx' hslots
  have hslot := hslots.last
  rw [List.length_map] at hslot
  rw [← hio]
  refine RpmsgSystem.published_succ cfg.ring0 hring.num h.ring0.usedIdx hidx' ?_
  rw [RpmsgSystem.publishedAddr, hslot]
  simp only [RpmsgConfig.posted, hhead]
  exact congrArg VqDescExtra.cookie hposted.extra

/-- Enqueueing publishes the message that lies in the buffer. -/
theorem RpmsgInv.published_enqueue (h : RpmsgInv cfg content s view) {i : Nat} {call : SendCall}
    {buffer : RpmsgBuffer} (hsend : (s.device role).sends[i]? = some ⟨call, .payload buffer⟩)
    (hroom : role = .master → view.ring1.free ≠ [])
    (hmessage : MessageAt s.shm (cfg.cell (cfg.number role buffer)) call)
    (hstep : s.enqueue role i call buffer = some s') : s.published s' role = [call.message] := by
  have hmem : buffer ∈ (s.device role).txBuffers :=
    List.mem_filterMap.mpr ⟨_, List.mem_of_getElem? hsend, rfl⟩
  obtain ⟨buf, idx, rfl, hbuf⟩ := h.txBuffer_eq hmem
  rw [cfg.number_buffer, ← RpmsgSystem.enqueue_shm hstep] at hmessage
  cases role with
  | master =>
      obtain ⟨s₁, head, henqueue, -, h'⟩ := h.enqueue_master hsend (hroom rfl)
      obtain rfl := Option.some.inj (henqueue.symm.trans hstep)
      rw [cfg.number_buffer] at h'
      rw [h.published_post h' hbuf]
      exact congrArg (· :: []) (cfg.rpmsgRead_eq .slave hbuf hmessage)
  | slave =>
      obtain ⟨s₁, head, held, henqueue, h'⟩ := h.enqueue_slave hsend
      obtain rfl := Option.some.inj (henqueue.symm.trans hstep)
      rw [cfg.number_buffer] at h'
      rw [h.published_giveBack h']
      exact congrArg (· :: []) (cfg.rpmsgRead_eq .master hbuf hmessage)

end Published

/-! ### What a step of a send does -/

section Outcome

/-- The send has found no buffer yet. -/
def SendPc.Waits : SendPc → Prop
  | .loop _ | .tested _ _ => True
  | .taken _ | .header _ | .payload _ | .enqueued => False

/-- The `i`th send of a device is still under way. -/
structure RpmsgSystem.MovedTo (s s' : RpmsgSystem) (role : Role) (i : Nat) (call : SendCall)
    (pc : SendPc) : Prop where
  sends : (s'.device role).sends = (s.device role).sends.set i ⟨call, pc⟩
  results : (s'.device role).results = (s.device role).results
  peer : (s'.device role.peer).sends = (s.device role.peer).sends

/-- The `i`th send of a device has returned. -/
structure RpmsgSystem.Returned (s s' : RpmsgSystem) (role : Role) (i : Nat) (call : SendCall)
    (ret : Int) : Prop where
  sends : (s'.device role).sends = (s.device role).sends.eraseIdx i
  results : (s'.device role).results = (s.device role).results ++ [(call, ret)]
  peer : (s'.device role.peer).sends = (s.device role.peer).sends

/-- What a step of the `i`th send of a device can do. Only the step that enqueues moves the index of
the send ring. -/
inductive SendOutcome (s s' : RpmsgSystem) (role : Role) (i : Nat) (call : SendCall) :
    SendPc → Prop where
  | fails {pc : SendPc} {ret : Int} (hpc : pc.Waits) (hsame : s.Unchanged s' role) (hret : ret < 0)
      (hend : s.Returned s' role i call ret) : SendOutcome s s' role i call pc
  | waits {pc pc' : SendPc} (hpc : pc.Waits) (hsame : s.Unchanged s' role) (hpc' : pc'.Waits)
      (hmove : s.MovedTo s' role i call pc') : SendOutcome s s' role i call pc
  | takes {tickCount : Nat} {availSize : Int} {vring : Vring} {svq : Virtqueue}
      {shpool : RpmsgVirtioShmPool} {buffer : RpmsgBuffer}
      (hget : rpmsgVirtioGetTxBuffer role (s.sendRing role) (s.device role).svq s.shpool =
        some (vring, svq, shpool, some buffer))
      (hidx : s'.publishIdx role = s.publishIdx role)
      (hmove : s.MovedTo s' role i call (.taken buffer)) :
      SendOutcome s s' role i call (.tested tickCount availSize)
  | header {buffer : RpmsgBuffer} (hidx : s'.publishIdx role = s.publishIdx role)
      (hmove : s.MovedTo s' role i call (.header buffer)) :
      SendOutcome s s' role i call (.taken buffer)
  | payload {buffer : RpmsgBuffer} (hidx : s'.publishIdx role = s.publishIdx role)
      (hmove : s.MovedTo s' role i call (.payload buffer)) :
      SendOutcome s s' role i call (.header buffer)
  | enqueues {buffer : RpmsgBuffer} (hmove : s.MovedTo s' role i call .enqueued) :
      SendOutcome s s' role i call (.payload buffer)
  | kicks (hidx : s'.publishIdx role = s.publishIdx role)
      (hend : s.Returned s' role i call call.size) : SendOutcome s s' role i call .enqueued

variable {cfg : RpmsgConfig} {content : Prop} {s s' : RpmsgSystem} {status : Nat}
  {view : RpmsgView}

theorem RpmsgSystem.Unchanged.publishIdx_eq {role : Role} (h : s.Unchanged s' role) :
    s'.publishIdx role = s.publishIdx role := by
  cases role with
  | master => exact congrArg (fun vring => vring.avail.idx) h.vring1
  | slave => exact congrArg (fun vring => vring.used.idx) h.vring0

@[simp] theorem RpmsgSystem.publishIdx_setDevice (s : RpmsgSystem) (device : RpmsgDevice)
    (role role' : Role) : (s.setDevice device role).publishIdx role' = s.publishIdx role' := by
  cases role <;> cases role' <;> rfl

theorem vqRingFreeChain_avail {vr vr' : Vring} {vq vq' : Virtqueue} {descIdx : Nat}
    (hfree : vqRingFreeChain vr vq descIdx = some (vr', vq')) : vr'.avail = vr.avail := by
  simp only [vqRingFreeChain, Option.bind_eq_bind] at hfree
  split_ifs at hfree <;>
    obtain ⟨last, -, hlast⟩ := Option.bind_eq_some_iff.mp hfree <;>
    rw [← (Prod.mk.inj (Option.some.inj hlast)).1]

/-- Taking a used chain back writes to the descriptors only. -/
theorem virtqueueGetBuffer_avail {vr vr' : Vring} {vq vq' : Virtqueue} {used : Option UsedBuffer}
    (hget : virtqueueGetBuffer vr vq = some (vr', vq', used)) : vr'.avail = vr.avail := by
  rw [virtqueueGetBuffer] at hget
  split_ifs at hget
  · rw [(Prod.mk.inj (Option.some.inj hget)).1]
  · simp only [Option.bind_eq_bind, Option.bind_eq_some_iff] at hget
    obtain ⟨⟨vring, vq₁⟩, hfree, hlast⟩ := hget
    rw [← (Prod.mk.inj (Option.some.inj hlast)).1]
    exact vqRingFreeChain_avail hfree

/-- Taking a buffer to send publishes nothing. -/
theorem RpmsgSystem.publishIdx_getTxBuffer {role : Role} {vring : Vring} {svq : Virtqueue}
    {shpool : RpmsgVirtioShmPool} {buffer : Option RpmsgBuffer}
    (hget : rpmsgVirtioGetTxBuffer role (s.sendRing role) (s.device role).svq s.shpool =
      some (vring, svq, shpool, buffer)) :
    ({ s with shpool }.setSendRing vring role).publishIdx role = s.publishIdx role := by
  cases role with
  | master =>
      simp only [rpmsgVirtioGetTxBuffer, masterGetBuffer, Option.bind_eq_bind,
        Option.bind_eq_some_iff] at hget
      obtain ⟨⟨vring', svq', found⟩, ⟨⟨vring₁, svq₁, used⟩, hused, hfound⟩, hrest⟩ := hget
      have hring : vring₁ = vring' := (Prod.mk.inj (Option.some.inj hfound)).1
      have hlast : vring' = vring := by
        cases found with
        | some found => exact (Prod.mk.inj (Option.some.inj hrest)).1
        | none =>
            simp only at hrest
            split_ifs at hrest <;> exact (Prod.mk.inj (Option.some.inj hrest)).1
      rw [← hlast, ← hring]
      exact congrArg VringAvail.idx (virtqueueGetBuffer_avail hused)
  | slave =>
      have hring : s.vring0 = vring := (Prod.mk.inj (Option.some.inj hget)).1
      rw [← hring]
      rfl

theorem RpmsgSystem.unchanged_setDevice (s : RpmsgSystem) (role : Role) {device : RpmsgDevice}
    (hsvq : device.svq = (s.device role).svq) (hrvq : device.rvq = (s.device role).rvq) :
    s.Unchanged (s.setDevice device role) role := by
  constructor
  case svq => rw [RpmsgSystem.device_setDevice_self, hsvq]
  case rvq => rw [RpmsgSystem.device_setDevice_self, hrvq]
  all_goals cases role <;> rfl

/-- A search for a buffer that finds none leaves the ring, the queue and the pool as they were. -/
theorem RpmsgInv.getTxBuffer_none (h : RpmsgInv cfg content s view) {role : Role} {vring : Vring}
    {svq : Virtqueue} {shpool : RpmsgVirtioShmPool}
    (hget : rpmsgVirtioGetTxBuffer role (s.sendRing role) (s.device role).svq s.shpool =
      some (vring, svq, shpool, none)) :
    vring = s.sendRing role ∧ svq = (s.device role).svq ∧ shpool = s.shpool := by
  cases role with
  | master =>
      simp only [rpmsgVirtioGetTxBuffer, RpmsgSystem.sendRing, RpmsgSystem.device] at hget ⊢
      cases hused : view.ring1.used with
      | cons slot used =>
          obtain ⟨vring', svq', idx, hcall, -⟩ := h.ring1.masterGetBuffer hused
          simp [hcall] at hget
      | nil =>
          rw [h.ring1.masterGetBuffer_nil hused, h.poolGetBuffer] at hget
          by_cases hleft : view.allocated < cfg.buffers
          · simp [hleft, cfg.addr_ne_null] at hget
          · simp only [hleft, if_false, if_true, Option.bind_eq_bind, Option.bind_some,
              Option.some.injEq, Prod.mk.injEq] at hget
            exact ⟨hget.1.symm, hget.2.1.symm, hget.2.2.1.symm⟩
  | slave =>
      simp only [rpmsgVirtioGetTxBuffer, RpmsgSystem.sendRing, RpmsgSystem.device] at hget ⊢
      by_cases havail : view.ring0.avail = []
      · rw [h.ring0.slaveGetBuffer_nil havail] at hget
        simp only [Option.some.injEq, Prod.mk.injEq] at hget
        exact ⟨hget.1.symm, hget.2.1.symm, hget.2.2.1.symm⟩
      · obtain ⟨slot, avail, havail⟩ := List.exists_cons_of_ne_nil havail
        have hbuf : slot.buf < cfg.buffers := by
          refine h.owned_lt ?_
          simp [RpmsgView.owned, havail]
        obtain ⟨svq', hcall, -⟩ := h.ring0.slaveGetBuffer rfl havail hbuf
        simp [hcall] at hget

theorem SendOutcome.fails_finish (s : RpmsgSystem) (role : Role) (lock : Bool) (i : Nat)
    (call : SendCall) {pc : SendPc} (hpc : pc.Waits) {ret : Int} (hret : ret < 0) :
    SendOutcome s (s.setDevice ({ s.device role with lock }.finish i call ret) role) role i call
      pc := by
  refine .fails hpc (s.unchanged_setDevice role rfl rfl) hret ⟨?_, ?_, ?_⟩ <;>
    simp [RpmsgDevice.finish]

theorem SendOutcome.waits_setSend (s : RpmsgSystem) (role : Role) (lock : Bool) (i : Nat)
    (call : SendCall) {pc pc' : SendPc} (hpc : pc.Waits) (hpc' : pc'.Waits) :
    SendOutcome s (s.setDevice ({ s.device role with lock }.setSend i ⟨call, pc'⟩) role) role i call
      pc := by
  refine .waits hpc (s.unchanged_setDevice role rfl rfl) hpc' ⟨?_, ?_, ?_⟩ <;>
    simp [RpmsgDevice.setSend]

theorem RpmsgInv.outcome_testSize (h : RpmsgInv cfg content (s.withStatus status) view)
    (role : Role) (i : Nat) (call : SendCall) (tickCount : Nat) :
    SendOutcome s (s.testSize role i call tickCount) role i call (.loop tickCount) := by
  have hsize := h.bufferSize role
  rw [RpmsgSystem.sendRing_withStatus, RpmsgSystem.device_withStatus] at hsize
  simp only [RpmsgSystem.testSize, hsize]
  split_ifs
  · exact .fails_finish s role _ i call (by trivial) (by decide)
  · exact .waits_setSend s role _ i call (by trivial) (by trivial)

theorem RpmsgInv.outcome_takeBuffer (h : RpmsgInv cfg content (s.withStatus status) view)
    {role : Role} {i : Nat} {call : SendCall} {tickCount : Nat} {availSize : Int}
    (hstep : s.takeBuffer role i call tickCount availSize = some s') :
    SendOutcome s s' role i call (.tested tickCount availSize) := by
  simp only [RpmsgSystem.takeBuffer, Option.bind_eq_bind, Option.bind_eq_some_iff] at hstep
  obtain ⟨⟨vring, svq, shpool, buffer⟩, hget, hstep⟩ := hstep
  cases buffer with
  | some buffer =>
      obtain rfl := Option.some.inj hstep
      refine .takes hget ?_ ⟨?_, ?_, ?_⟩
      · rw [RpmsgSystem.publishIdx_setDevice]
        exact RpmsgSystem.publishIdx_getTxBuffer hget
      · simp [RpmsgDevice.setSend]
      · simp [RpmsgDevice.setSend]
      · simp
  | none =>
      obtain ⟨rfl, rfl, rfl⟩ : vring = s.sendRing role ∧ svq = (s.device role).svq ∧
          shpool = s.shpool := by
        rw [← s.sendRing_withStatus status, ← s.device_withStatus status] at hget ⊢
        exact h.getTxBuffer_none hget
      have hring : RpmsgSystem.setSendRing s (s.sendRing role) role = s := by
        cases role <;> rfl
      simp only [hring] at hstep
      split_ifs at hstep <;> obtain rfl := Option.some.inj hstep
      · exact .fails_finish s role _ i call (by trivial) (by decide)
      · exact .fails_finish s role _ i call (by trivial) (by decide)
      · exact .waits_setSend s role _ i call (by trivial) (by trivial)

theorem RpmsgInv.outcome_stepSend (h : RpmsgInv cfg content (s.withStatus status) view)
    {role : Role} {i : Nat} {call : SendCall} {pc : SendPc}
    (hsend : (s.device role).sends[i]? = some ⟨call, pc⟩)
    (hstep : s.stepSend role i = some s') : SendOutcome s s' role i call pc := by
  simp only [RpmsgSystem.stepSend, hsend] at hstep
  cases pc with
  | loop tickCount =>
      obtain rfl := Option.some.inj hstep
      exact h.outcome_testSize role i call tickCount
  | tested tickCount availSize => exact h.outcome_takeBuffer hstep
  | taken buffer =>
      obtain rfl := Option.some.inj hstep
      refine .header ?_ ⟨?_, ?_, ?_⟩
      · cases role <;> rfl
      all_goals simp [RpmsgSystem.writeHeader, RpmsgDevice.setSend]
  | header buffer =>
      simp only [RpmsgSystem.writePayload] at hstep
      split_ifs at hstep
      obtain rfl := Option.some.inj hstep
      refine .payload ?_ ⟨?_, ?_, ?_⟩
      · cases role <;> rfl
      all_goals simp [RpmsgDevice.setSend]
  | payload buffer =>
      simp only [RpmsgSystem.enqueue] at hstep
      split_ifs at hstep
      obtain rfl := Option.some.inj hstep
      refine .enqueues ⟨?_, ?_, ?_⟩ <;> simp [RpmsgDevice.setSend]
  | enqueued =>
      obtain rfl := Option.some.inj hstep
      refine .kicks ?_ ⟨?_, ?_, ?_⟩
      · cases role <;> rfl
      all_goals simp [RpmsgSystem.kick, RpmsgDevice.finish]

end Outcome

/-! ### The record of a send -/

section Record

/-- What the record of a send under way says. -/
def Send.Recorded (send : Send) (trace : SendTrace) : Prop :=
  match send.pc with
  | .loop _ | .tested _ _ => trace.silent ∧ trace.published = [] ∧ trace.kicks = 0
  | .taken _ | .header _ | .payload _ => trace.published = [] ∧ 0 ≤ send.call.size
  | .enqueued => trace.published = [send.call.message] ∧ 0 ≤ send.call.size

variable {s s' : RpmsgSystem} {role : Role} {i : Nat} {call : SendCall} {pc : SendPc}
  {trace : SendTrace}

theorem Send.recorded_waits {pc : SendPc} (hpc : pc.Waits) (trace : SendTrace) :
    Send.Recorded ⟨call, pc⟩ trace ↔ trace.silent ∧ trace.published = [] ∧ trace.kicks = 0 := by
  cases pc with
  | loop | tested => exact Iff.rfl
  | taken | header | payload | enqueued => exact absurd hpc id

/-- A step that leaves the index of the send ring where it was adds no message to the record. -/
theorem SendTrace.next_published (trace : SendTrace) (send : Send)
    (hidx : s'.publishIdx role = s.publishIdx role) :
    (trace.next role s s' send).published = trace.published := by
  rw [SendTrace.next, RpmsgSystem.published_of_idx hidx, List.append_nil]

/-- A step of a send that waits adds nothing to its record but whether it was silent. -/
theorem SendTrace.next_waits {pc : SendPc} (hpc : pc.Waits)
    (hrecord : Send.Recorded ⟨call, pc⟩ trace) (hsame : s.Unchanged s' role) :
    (trace.next role s s' ⟨call, pc⟩).silent ∧ (trace.next role s s' ⟨call, pc⟩).published = [] ∧
      (trace.next role s s' ⟨call, pc⟩).kicks = 0 := by
  obtain ⟨hsilent, hpublished, hkicks⟩ := (Send.recorded_waits hpc trace).mp hrecord
  rw [trace.next_published _ hsame.publishIdx_eq]
  cases pc with
  | loop | tested => exact ⟨⟨hsilent, hsame⟩, hpublished, hkicks⟩
  | taken | header | payload | enqueued => exact absurd hpc id

theorem sendSound_failed {ret : Int} (hret : ret < 0)
    (hnothing : trace.silent ∧ trace.published = [] ∧ trace.kicks = 0) :
    SendSound call ret trace :=
  ⟨fun _ => hnothing, fun hsent => absurd hret (not_lt.mpr hsent)⟩

/-- The record of a send goes along with its steps, and when it returns it is sound. -/
theorem SendOutcome.recorded (hstep : SendOutcome s s' role i call pc)
    (hrecord : Send.Recorded ⟨call, pc⟩ trace)
    (hsize : ∀ tickCount availSize vring svq shpool buffer, pc = .tested tickCount availSize →
      rpmsgVirtioGetTxBuffer role (s.sendRing role) (s.device role).svq s.shpool =
        some (vring, svq, shpool, some buffer) → 0 ≤ call.size)
    (hpublished : ∀ buffer, pc = .payload buffer → s.published s' role = [call.message]) :
    (∃ ret, s.Returned s' role i call ret ∧
        SendSound call ret (trace.next role s s' ⟨call, pc⟩)) ∨
      ∃ pc', s.MovedTo s' role i call pc' ∧
        Send.Recorded ⟨call, pc'⟩ (trace.next role s s' ⟨call, pc⟩) := by
  cases hstep with
  | fails hpc hsame hret hend =>
      exact .inl ⟨_, hend, sendSound_failed hret (SendTrace.next_waits hpc hrecord hsame)⟩
  | waits hpc hsame hpc' hmove =>
      refine .inr ⟨_, hmove, (Send.recorded_waits hpc' _).mpr ?_⟩
      exact SendTrace.next_waits hpc hrecord hsame
  | takes hget hidx hmove =>
      refine .inr ⟨_, hmove, ?_, hsize _ _ _ _ _ _ rfl hget⟩
      rw [trace.next_published _ hidx]
      exact hrecord.2.1
  | header hidx hmove =>
      refine .inr ⟨_, hmove, ?_, hrecord.2⟩
      rw [trace.next_published _ hidx]
      exact hrecord.1
  | payload hidx hmove =>
      refine .inr ⟨_, hmove, ?_, hrecord.2⟩
      rw [trace.next_published _ hidx]
      exact hrecord.1
  | enqueues hmove =>
      refine .inr ⟨_, hmove, ?_, hrecord.2⟩
      rw [SendTrace.next, hrecord.1, hpublished _ rfl]
      rfl
  | kicks hidx hend =>
      obtain ⟨hmessage, hnonneg⟩ := hrecord
      refine .inl ⟨_, hend, fun hneg => absurd hnonneg (not_le.mpr hneg), fun _ => ?_⟩
      refine ⟨rfl, call.message, ?_, Int.toNat_of_nonneg hnonneg⟩
      rw [trace.next_published _ hidx]
      exact hmessage

end Record

/-! ### What the sends have written -/

section Filled

variable {cfg : RpmsgConfig} {content : Prop} {s s' : RpmsgSystem} {view : RpmsgView}

/-- Every send that has a buffer is of a message that fits it, and has written it as far as it has
got. A send that waits for a buffer may be of any size. -/
def RpmsgSystem.Filled (cfg : RpmsgConfig) (s : RpmsgSystem) : Prop :=
  ∀ role, ∀ send ∈ (s.device role).sends, send.pc.buffer? ≠ none → send.Ok cfg s.shm role

theorem RpmsgSystem.filled_withStatus (s : RpmsgSystem) (status : Nat) :
    (s.withStatus status).Filled cfg ↔ s.Filled cfg := by
  simp only [RpmsgSystem.Filled, RpmsgSystem.device_withStatus]
  exact Iff.rfl

/-- What a send has written stays when another one takes a step. -/
theorem RpmsgInv.ok_stepSend (h : RpmsgInv cfg content s view) (hfilled : s.Filled cfg)
    {role role' : Role} {i : Nat} {acting other : Send}
    (hacting : (s.device role).sends[i]? = some acting)
    (hmem : other ∈ (s.device role').sends)
    (hdistinct : ∀ buffer buffer', acting.pc.buffer? = some buffer →
      other.pc.buffer? = some buffer' → cfg.number role' buffer' ≠ cfg.number role buffer)
    (hbuffer : other.pc.buffer? ≠ none) (hstep : s.stepSend role i = some s') :
    other.Ok cfg s'.shm role' := by
  have hold := hfilled role' other hmem hbuffer
  refine { hold with written := hold.written.congr fun buffer' hbuffer' => ?_ }
  refine h.stepSend_frame (fun call buffer hsend => ?_) hstep fun send buffer hsend hsome => ?_
  · exact (hfilled role _ (List.mem_of_getElem? hsend) nofun).fits
  · obtain rfl := Option.some.inj (hacting.symm.trans hsend)
    exact (hdistinct buffer buffer' hsome hbuffer').symm

/-- The step itself writes what the next state of its send says. -/
theorem RpmsgInv.ok_next (h : RpmsgInv cfg content s view) (hfilled : s.Filled cfg) {role : Role}
    {i : Nat} {call : SendCall} {pc pc' : SendPc}
    (hsend : (s.device role).sends[i]? = some ⟨call, pc⟩) (hnext : pc.Next s role call pc')
    (hsize : ∀ tickCount availSize vring svq shpool buffer, pc = .tested tickCount availSize →
      rpmsgVirtioGetTxBuffer role (s.sendRing role) (s.device role).svq s.shpool =
        some (vring, svq, shpool, some buffer) → 0 ≤ call.size ∧ call.size ≤ capacity)
    (hbuffer : pc'.buffer? ≠ none) (hstep : s.stepSend role i = some s') :
    Send.Ok cfg s'.shm role ⟨call, pc'⟩ := by
  have hmem := List.mem_of_getElem? hsend
  simp only [RpmsgSystem.stepSend, hsend] at hstep
  cases hnext with
  | test | retry | enqueue => exact absurd rfl hbuffer
  | take hget =>
      obtain ⟨hnonneg, hfits⟩ := hsize _ _ _ _ _ _ rfl hget
      exact ⟨hnonneg, hfits, trivial⟩
  | @header buffer =>
      obtain ⟨hnonneg, hfits, -⟩ := hfilled role _ hmem (Option.some_ne_none _)
      obtain ⟨buf, idx, rfl, hbuf⟩ := h.txBuffer_eq (List.mem_filterMap.mpr ⟨_, hmem, rfl⟩)
      obtain rfl := Option.some.inj hstep
      refine ⟨hnonneg, hfits, (Send.written_header ..).mpr ?_⟩
      simp only [RpmsgSystem.writeHeader, RpmsgSystem.shm_setDevice, h.io role]
      exact cfg.headerAt_write role hbuf s.shm call
  | @payload buffer =>
      obtain ⟨hnonneg, hfits, hheader⟩ := hfilled role _ hmem (Option.some_ne_none _)
      obtain ⟨buf, idx, rfl, hbuf⟩ := h.txBuffer_eq (List.mem_filterMap.mpr ⟨_, hmem, rfl⟩)
      rw [Send.written_header] at hheader
      simp only [RpmsgSystem.writePayload, if_neg (not_lt.mpr hnonneg)] at hstep
      obtain rfl := Option.some.inj hstep
      refine ⟨hnonneg, hfits, (Send.written_payload ..).mpr ?_⟩
      simp only [RpmsgSystem.shm_setDevice, h.io role]
      exact cfg.messageAt_write role hbuf hnonneg hfits hheader

theorem RpmsgInv.filled_stepSend (h : RpmsgInv cfg content s view) (hfilled : s.Filled cfg)
    {role : Role} {i : Nat} {call : SendCall} {pc : SendPc}
    (hsend : (s.device role).sends[i]? = some ⟨call, pc⟩)
    (hsize : ∀ tickCount availSize vring svq shpool buffer, pc = .tested tickCount availSize →
      rpmsgVirtioGetTxBuffer role (s.sendRing role) (s.device role).svq s.shpool =
        some (vring, svq, shpool, some buffer) → 0 ≤ call.size ∧ call.size ≤ capacity)
    (hstep : s.stepSend role i = some s') : s'.Filled cfg := by
  obtain ⟨front, back, hsends, hset, herase⟩ := exists_around hsend
  obtain ⟨call', pc', hacting, hpeer, hself⟩ := RpmsgSystem.sendsMove_stepSend hstep
  obtain ⟨rfl, rfl⟩ := Send.mk.inj (Option.some.inj (hsend.symm.trans hacting))
  have hothers : ∀ other ∈ front ++ back, other.pc.buffer? ≠ none → other.Ok cfg s'.shm role := by
    intro other hother hbuffer
    have hmem : other ∈ (s.device role).sends := by
      rw [hsends]
      exact mem_around.mpr (.inr hother)
    refine h.ok_stepSend hfilled hsend hmem (fun buffer buffer' hsome hsome' => ?_) hbuffer hstep
    exact (h.exclusive hsends hsome).sends other hother buffer' hsome'
  refine (Role.forall_iff role).mpr ⟨fun other hother hbuffer => ?_, fun other hother hbuffer => ?_⟩
  · rcases hself with hgone | ⟨pc', hnext, hmoved⟩
    · rw [hgone, herase] at hother
      exact hothers other hother hbuffer
    · rw [hmoved, hset, mem_around] at hother
      rcases hother with rfl | hother
      · exact h.ok_next hfilled hsend hnext hsize hbuffer hstep
      · exact hothers other hother hbuffer
  · rw [hpeer] at hother
    refine h.ok_stepSend hfilled hsend hother (fun buffer buffer' hsome hsome' => ?_) hbuffer hstep
    exact (h.exclusive hsends hsome).peerSends buffer'
      (List.mem_filterMap.mpr ⟨other, hother, hsome'⟩)

/-- Steps that write no message. -/
theorem RpmsgSystem.Filled.congr (h : s.Filled cfg) (hshm : s'.shm = s.shm)
    (hsends : ∀ role, ∀ send ∈ (s'.device role).sends,
      send ∈ (s.device role).sends ∨ send.pc.buffer? = none) : s'.Filled cfg := by
  intro role send hsend hbuffer
  rw [hshm]
  exact h role send ((hsends role send hsend).resolve_right hbuffer) hbuffer

end Filled

/-! ### Runs -/

/-- The buffers are accounted for, with what the sends under way have written, every send is what its
record says, and every call that has returned is sound. -/
structure TracedInv (cfg : RpmsgConfig) (t : TracedSystem) : Prop where
  accounted : ∃ view, RpmsgInv cfg False (t.sys.withStatus VIRTIO_CONFIG_STATUS_DRIVER_OK) view
  filled : t.sys.Filled cfg
  recorded : ∀ role, List.Forall₂ Send.Recorded (t.sys.device role).sends (t.traces role)
  sound : ∀ role, ∀ entry ∈ t.returned role, SendSound entry.1 entry.2.1 entry.2.2

section Run

variable {cfg : RpmsgConfig} {negative : Int → (Nat → UInt8) → Option (Nat → UInt8)}
  {t t' : TracedSystem}

/-- A step of the two devices keeps the accounting whatever the status is. -/
theorem TracedInv.accounted_step (h : TracedInv cfg t) (action : RpmsgAction) {sys : RpmsgSystem}
    (hroom : ∀ i, action = .stepSend .master i → t.sys.EnqueuesWithRoom i)
    (hstep : (t.sys.withStatus VIRTIO_CONFIG_STATUS_DRIVER_OK).step action =
      some (sys.withStatus VIRTIO_CONFIG_STATUS_DRIVER_OK)) :
    ∃ view, RpmsgInv cfg False (sys.withStatus VIRTIO_CONFIG_STATUS_DRIVER_OK) view := by
  obtain ⟨view, hinv⟩ := h.accounted
  exact hinv.step hroom False.elim hstep

theorem TracedInv.record (h : TracedInv cfg t) (role : Role) {call : SendCall} {ret : Int}
    {trace : SendTrace} (hsound : SendSound call ret trace) :
    TracedInv cfg (t.record role call ret trace) := by
  refine ⟨h.accounted, h.filled, h.recorded, (Role.forall_iff role).mpr ⟨?_, ?_⟩⟩
  · intro entry hentry
    have hself : (t.record role call ret trace).returned role =
        t.returned role ++ [(call, ret, trace)] := Function.update_self ..
    rw [hself] at hentry
    rcases List.mem_append.mp hentry with hold | hnew
    · exact h.sound role entry hold
    · obtain rfl := List.mem_singleton.mp hnew
      exact hsound
  · have hpeer : (t.record role call ret trace).returned role.peer = t.returned role.peer :=
      Function.update_of_ne role.ne_peer.symm ..
    rw [hpeer]
    exact h.sound role.peer

/-- Steps that neither read nor write the sends. -/
theorem TracedInv.setSys (h : TracedInv cfg t) {sys : RpmsgSystem}
    (haccounted : ∃ view, RpmsgInv cfg False (sys.withStatus VIRTIO_CONFIG_STATUS_DRIVER_OK) view)
    (hshm : sys.shm = t.sys.shm)
    (hsends : ∀ role, (sys.device role).sends = (t.sys.device role).sends) :
    TracedInv cfg { t with sys } := by
  refine ⟨haccounted, h.filled.congr hshm fun role send hsend => .inl ?_, fun role => ?_, h.sound⟩
  · rw [← hsends role]
    exact hsend
  · rw [hsends role]
    exact h.recorded role

/-- Steps of the sends of one device. -/
theorem TracedInv.setTraces (h : TracedInv cfg t) (role : Role) {sys : RpmsgSystem}
    {traces : List SendTrace}
    (haccounted : ∃ view, RpmsgInv cfg False (sys.withStatus VIRTIO_CONFIG_STATUS_DRIVER_OK) view)
    (hfilled : sys.Filled cfg)
    (hself : List.Forall₂ Send.Recorded (sys.device role).sends traces)
    (hpeer : (sys.device role.peer).sends = (t.sys.device role.peer).sends) :
    TracedInv cfg ({ t with sys }.setTraces role traces) := by
  refine ⟨haccounted, hfilled, (Role.forall_iff role).mpr ⟨?_, ?_⟩, h.sound⟩
  · have htraces : ({ t with sys }.setTraces role traces).traces role = traces :=
      Function.update_self ..
    rw [htraces]
    exact hself
  · have htraces : ({ t with sys }.setTraces role traces).traces role.peer = t.traces role.peer :=
      Function.update_of_ne role.ne_peer.symm ..
    rw [htraces]
    exact hpeer ▸ h.recorded role.peer

theorem RpmsgSystem.startSend_ready {s : RpmsgSystem}
    (hready : ¬ s.status &&& VIRTIO_CONFIG_STATUS_DRIVER_OK = 0) (role : Role) (call : SendCall) :
    s.startSend role call = s.setDevice { s.device role with
      sends := (s.device role).sends ++ [⟨call, .loop call.ticks⟩] } role :=
  if_neg hready

/-- A call is rejected at once, or becomes a send without a buffer. -/
theorem TracedInv.send (h : TracedInv cfg t) (role : Role) (raw : RawCall) :
    TracedInv cfg (rpmsgSendOffchannelRaw t role raw) := by
  obtain ⟨view, hinv⟩ := h.accounted
  rw [rpmsgSendOffchannelRaw]
  by_cases hparam : raw.ept = false ∨ raw.data = false ∨ raw.call.dst = RPMSG_ADDR_ANY
  case pos =>
    rw [if_pos hparam]
    exact h.record role (sendSound_failed (by decide) ⟨trivial, rfl, rfl⟩)
  rw [if_neg hparam]
  by_cases hstatus : t.sys.status &&& VIRTIO_CONFIG_STATUS_DRIVER_OK = 0
  · simp only [if_pos hstatus, RpmsgSystem.startSend]
    refine TracedInv.record (h.setSys ⟨view, ?_⟩ ?_ ?_) role ?_
    · rw [← RpmsgSystem.setDevice_withStatus]
      exact hinv.setSends role (List.Perm.refl _) False.elim
    · exact RpmsgSystem.shm_setDevice ..
    · exact RpmsgSystem.sends_setDevice _ rfl
    · exact sendSound_failed (by decide) ⟨t.sys.unchanged_setDevice role rfl rfl, rfl, rfl⟩
  · simp only [if_neg hstatus, RpmsgSystem.startSend_ready hstatus]
    refine h.setTraces role ⟨view, ?_⟩ ?_ ?_ ?_
    · have hstart : RpmsgInv cfg False
          ((t.sys.withStatus VIRTIO_CONFIG_STATUS_DRIVER_OK).startSend role raw.call) view :=
        hinv.startSend role False.elim
      have hready : ¬ (t.sys.withStatus VIRTIO_CONFIG_STATUS_DRIVER_OK).status &&&
          VIRTIO_CONFIG_STATUS_DRIVER_OK = 0 := by
        change ¬ VIRTIO_CONFIG_STATUS_DRIVER_OK &&& VIRTIO_CONFIG_STATUS_DRIVER_OK = 0
        decide
      rw [RpmsgSystem.startSend_ready hready, RpmsgSystem.device_withStatus,
        RpmsgSystem.setDevice_withStatus] at hstart
      exact hstart
    · refine h.filled.congr (RpmsgSystem.shm_setDevice ..) ((Role.forall_iff role).mpr ⟨?_, ?_⟩)
      · rw [RpmsgSystem.device_setDevice_self]
        intro send hsend
        refine (List.mem_append.mp hsend).imp id fun hnew => ?_
        rw [List.mem_singleton.mp hnew]
        rfl
      · rw [RpmsgSystem.device_setDevice_peer]
        exact fun send hsend => .inl hsend
    · rw [RpmsgSystem.device_setDevice_self]
      refine List.rel_append (h.recorded role) (.cons ?_ .nil)
      exact ⟨t.sys.unchanged_setDevice role rfl rfl, rfl, rfl⟩
    · rw [RpmsgSystem.device_setDevice_peer]

/-- A send whose size is known to be sendable once it has a buffer never writes a block of negative
length. -/
theorem RpmsgSystem.stepSendRaw_eq {s : RpmsgSystem} {role : Role} {i : Nat} {send : Send}
    {trace : SendTrace} (hsend : (s.device role).sends[i]? = some send)
    (hrecord : send.Recorded trace) : s.stepSendRaw negative role i = s.stepSend role i := by
  obtain ⟨call, pc⟩ := send
  rw [RpmsgSystem.stepSendRaw, hsend]
  cases pc with
  | header buffer =>
      have hnonneg : ¬ call.size < 0 := not_lt.mpr hrecord.2
      simp only [if_neg hnonneg]
  | loop | tested | taken | payload | enqueued => rfl

/-- A send that enqueues publishes its own message. -/
theorem TracedInv.published (h : TracedInv cfg t) {role : Role} {i : Nat} {call : SendCall}
    {buffer : RpmsgBuffer} {sys : RpmsgSystem} (hroom : t.EnqueuesWithRoom (.stepSend role i))
    (hsend : (t.sys.device role).sends[i]? = some ⟨call, .payload buffer⟩)
    (hsys : t.sys.stepSend role i = some sys) : t.sys.published sys role = [call.message] := by
  obtain ⟨view, hinv⟩ := h.accounted
  have hsend' : ((t.sys.withStatus VIRTIO_CONFIG_STATUS_DRIVER_OK).device role).sends[i]? =
      some ⟨call, .payload buffer⟩ := by
    rw [RpmsgSystem.device_withStatus]
    exact hsend
  have hstep : (t.sys.withStatus VIRTIO_CONFIG_STATUS_DRIVER_OK).enqueue role i call buffer =
      some (sys.withStatus VIRTIO_CONFIG_STATUS_DRIVER_OK) := by
    have hboth := t.sys.stepSend_withStatus VIRTIO_CONFIG_STATUS_DRIVER_OK role i
    rw [hsys, RpmsgSystem.stepSend, hsend'] at hboth
    exact hboth
  have hmessage := (h.filled role _ (List.mem_of_getElem? hsend) (Option.some_ne_none _)).written
  have hfree : role = .master → view.ring1.free ≠ [] := by
    rintro rfl
    have hleast : 1 ≤ (t.sys.withStatus VIRTIO_CONFIG_STATUS_DRIVER_OK).master.svq.vqFreeCnt :=
      hroom call buffer hsend
    rw [hinv.svqFreeCnt] at hleast
    exact List.length_pos_iff.mp hleast
  have hpublished := hinv.published_enqueue hsend' hfree hmessage hstep
  cases role <;> exact hpublished

theorem TracedInv.stepSend (h : TracedInv cfg t) {role : Role} {i : Nat}
    (hroom : t.EnqueuesWithRoom (.stepSend role i)) (hsize : t.TakesSendable (.stepSend role i))
    (hstep : t.stepSend negative role i = some t') : TracedInv cfg t' := by
  simp only [TracedSystem.stepSend, Option.bind_eq_bind, Option.bind_eq_some_iff] at hstep
  obtain ⟨⟨call, pc⟩, hsend, trace, htrace, sys, hsys, hstep⟩ := hstep
  have hrecord := forall₂_getElem? (h.recorded role) hsend htrace
  rw [RpmsgSystem.stepSendRaw_eq hsend hrecord] at hsys
  have hsys' : (t.sys.withStatus VIRTIO_CONFIG_STATUS_DRIVER_OK).stepSend role i =
      some (sys.withStatus VIRTIO_CONFIG_STATUS_DRIVER_OK) := by
    rw [RpmsgSystem.stepSend_withStatus, hsys, Option.map_some]
  have haccounted := h.accounted_step (.stepSend role i) (fun j heq => by
    obtain ⟨rfl, rfl⟩ := RpmsgAction.stepSend.inj heq
    exact hroom) hsys'
  obtain ⟨view, hinv⟩ := h.accounted
  have hfits : ∀ tickCount availSize vring svq shpool buffer, pc = .tested tickCount availSize →
      rpmsgVirtioGetTxBuffer role (t.sys.sendRing role) (t.sys.device role).svq t.sys.shpool =
        some (vring, svq, shpool, some buffer) → 0 ≤ call.size ∧ call.size ≤ capacity := by
    rintro tickCount availSize vring svq shpool buffer rfl hget
    have hboth := hsize call tickCount availSize vring svq shpool buffer hsend hget
    simp only [capacity, RPMSG_HDR_SIZE, RPMSG_BUFFER_SIZE] at *
    omega
  have hfilled : sys.Filled cfg := by
    have hsend' := hsend
    rw [← t.sys.device_withStatus VIRTIO_CONFIG_STATUS_DRIVER_OK] at hsend'
    refine (RpmsgSystem.filled_withStatus sys _).mp (hinv.filled_stepSend
      ((RpmsgSystem.filled_withStatus t.sys _).mpr h.filled) hsend' ?_ hsys')
    rw [RpmsgSystem.device_withStatus, RpmsgSystem.sendRing_withStatus]
    exact hfits
  have hpublished : ∀ buffer, pc = .payload buffer →
      t.sys.published sys role = [call.message] := by
    rintro buffer rfl
    exact h.published hroom hsend hsys
  have houtcome := (hinv.outcome_stepSend hsend hsys).recorded hrecord
    (fun _ _ _ _ _ _ hpc hget => (hfits _ _ _ _ _ _ hpc hget).1) hpublished
  rcases houtcome with ⟨ret, hend, hsound⟩ | ⟨pc', hmove, hrecord'⟩
  · rw [hend.results] at hstep
    simp only [List.getElem?_concat_length] at hstep
    obtain rfl := Option.some.inj hstep
    refine TracedInv.record (h.setTraces role haccounted hfilled ?_ hend.peer) role hsound
    rw [hend.sends]
    exact forall₂_eraseIdx (h.recorded role) i
  · rw [hmove.results, List.getElem?_eq_none le_rfl] at hstep
    obtain rfl := Option.some.inj hstep
    refine h.setTraces role haccounted hfilled ?_ hmove.peer
    rw [hmove.sends]
    exact forall₂_set (h.recorded role) i hrecord'

theorem TracedInv.step (h : TracedInv cfg t) {action : RawAction}
    (hroom : t.EnqueuesWithRoom action) (hsize : t.TakesSendable action)
    (hstep : t.step negative action = some t') : TracedInv cfg t' := by
  cases action with
  | send role raw =>
      obtain rfl := Option.some.inj hstep
      exact h.send role raw
  | stepSend role i => exact h.stepSend hroom hsize hstep
  | rxCallback role =>
      obtain ⟨sys, hrx, heq⟩ := Option.bind_eq_some_iff.mp hstep
      obtain rfl := Option.some.inj heq
      refine h.setSys (h.accounted_step (.rxCallback role) (by simp) ?_)
        (RpmsgSystem.rxCallback_shm hrx) (RpmsgSystem.sends_rxCallback hrx)
      rw [RpmsgSystem.step, RpmsgSystem.rxCallback_withStatus, hrx, Option.map_some]
  | stepReceive role i =>
      obtain ⟨sys, hreceive, heq⟩ := Option.bind_eq_some_iff.mp hstep
      obtain rfl := Option.some.inj heq
      refine h.setSys (h.accounted_step (.stepReceive role i) (by simp) ?_)
        (RpmsgSystem.stepReceive_shm hreceive) (RpmsgSystem.sends_stepReceive hreceive)
      rw [RpmsgSystem.step, RpmsgSystem.stepReceive_withStatus, hreceive, Option.map_some]
  | setStatus status =>
      obtain rfl := Option.some.inj hstep
      exact h.setSys h.accounted rfl fun role => by cases role <;> rfl

theorem TracedInv.start {s₀ : RpmsgSystem} {view : RpmsgView} (h : RpmsgInv cfg True s₀ view)
    (hsends : ∀ role, (s₀.device role).sends = []) : TracedInv cfg (.start s₀) := by
  have hstatus : s₀.withStatus VIRTIO_CONFIG_STATUS_DRIVER_OK = s₀ := by
    rw [← h.status]
    rfl
  refine ⟨⟨view, ?_⟩, fun role send hsend => ?_, fun role => ?_, fun role entry hentry =>
    absurd hentry List.not_mem_nil⟩
  · change RpmsgInv cfg False (s₀.withStatus VIRTIO_CONFIG_STATUS_DRIVER_OK) view
    rw [hstatus]
    exact { h with contents := False.elim }
  · rw [show ((TracedSystem.start s₀).sys.device role).sends = [] from hsends role] at hsend
    exact absurd hsend List.not_mem_nil
  · change List.Forall₂ Send.Recorded (s₀.device role).sends []
    rw [hsends role]
    exact .nil

/-- In every run in which a call that finds a buffer is of a message that fits it, and in which the
master never enqueues on a full ring, a call that returns an error has taken, written, published and
kicked nothing, and any other returns its size and has published one message of that many bytes. -/
theorem failed_send_no_effect (cfg : RpmsgConfig)
    (negative : Int → (Nat → UInt8) → Option (Nat → UInt8)) (masterFeatures slaveFeatures : Nat)
    (shm : Nat → UInt8) {s₀ : RpmsgSystem} {t : TracedSystem}
    (hinit : rpmsgInitVdev cfg.num0 cfg.num1 masterFeatures slaveFeatures cfg.masterIo cfg.slaveIo
      (rpmsgVirtioInitShmPool cfg.base cfg.size) shm = .ok s₀)
    (ht : Run.Reachable (fun t action =>
        t.Ready action ∧ t.EnqueuesWithRoom action ∧ t.TakesSendable action)
      (TracedSystem.step negative) (.start s₀) t) :
    ∀ role, ∀ entry ∈ t.returned role, SendSound entry.1 entry.2.1 entry.2.2 := by
  obtain ⟨ring0, hinv, hsends, -⟩ := rpmsgInitVdev_ok hinit
  have hall : TracedInv cfg t := by
    refine ht.invariant (.start hinv hsends) fun t action t' h hallowed hstep => ?_
    exact h.step hallowed.2.1 hallowed.2.2 hstep
  exact hall.sound

end Run

instance (t : TracedSystem) (action : RawAction) : Decidable (t.Ready action) :=
  match action with
  | .send _ _ => inferInstanceAs (Decidable True)
  | .stepSend role i => inferInstanceAs (Decidable (t.sys.Ready (.stepSend role i)))
  | .rxCallback role => inferInstanceAs (Decidable (t.sys.Ready (.rxCallback role)))
  | .stepReceive role i => inferInstanceAs (Decidable (t.sys.Ready (.stepReceive role i)))
  | .setStatus _ => inferInstanceAs (Decidable True)

/-- The sizes of the calls of a device that have returned, with what they returned and the lengths of
the messages they published. -/
def TracedSystem.outcomes (t : TracedSystem) (role : Role) : List (Int × Int × List Nat) :=
  (t.returned role).map fun entry =>
    (entry.1.size, entry.2.1, entry.2.2.published.map RpmsgMessage.len)

theorem TracedSystem.exists_not_sound {t : TracedSystem} {role : Role} {size : Int} (ret : Int)
    (published : List Nat) (hmem : (size, ret, published) ∈ t.outcomes role)
    (hbad : (ret < 0 ∧ published ≠ []) ∨ (0 ≤ ret ∧ ∀ len ∈ published, (len : Int) ≠ size)) :
    ∃ entry ∈ t.returned role, entry.1.size = size ∧
      ¬ SendSound entry.1 entry.2.1 entry.2.2 := by
  obtain ⟨entry, hentry, heq⟩ := List.mem_map.mp hmem
  simp only [Prod.mk.injEq] at heq
  obtain ⟨rfl, rfl, rfl⟩ := heq
  refine ⟨entry, hentry, rfl, fun hsound => ?_⟩
  rcases hbad with ⟨hneg, hpublished⟩ | ⟨hnonneg, hother⟩
  · exact hpublished (List.map_eq_nil_iff.mpr (hsound.failed hneg).2.1)
  · obtain ⟨-, message, hmessage, hlen⟩ := hsound.sent hnonneg
    refine hother message.len ?_ hlen
    rw [hmessage]
    exact List.mem_singleton_self message.len

theorem exists_of_map_start {result : Except Int RpmsgSystem} {t₀ : TracedSystem}
    (h : result.map TracedSystem.start = .ok t₀) : ∃ s₀, result = .ok s₀ ∧ .start s₀ = t₀ := by
  cases result with
  | error err => exact nomatch h
  | ok s₀ => exact ⟨s₀, rfl, Except.ok.inj h⟩

/-- The slave sends 496 bytes, and its next message finds no buffer; for the master 497 bytes are too
many, and it sends 10. -/
theorem failed_send_no_effect_one_entry :
    ∃ t : TracedSystem,
      t.outcomes .slave = [(496, 496, [496]), (7, RPMSG_ERR_NO_BUFF, [])] ∧
      t.outcomes .master = [(497, RPMSG_ERR_BUFF_SIZE, []), (10, 10, [10])] ∧
      ∀ role, ∀ entry ∈ t.returned role, SendSound entry.1 entry.2.1 entry.2.2 := by
  let cfg := RpmsgConfig.linear 0 0 1024 (by decide) (by decide) (by decide)
  let negative (_ : Int) (_ : Nat → UInt8) : Option (Nat → UInt8) := none
  let allowed (t : TracedSystem) (action : RawAction) : Prop :=
    t.Ready action ∧
      (∀ send ∈ t.sys.master.sends, send.pc = .enqueued ∨ 1 ≤ t.sys.master.svq.vqFreeCnt) ∧
      ∀ role ∈ [Role.master, .slave], ∀ send ∈ (t.sys.device role).sends,
        (send.pc matches .loop _) = true ∨ (0 ≤ send.call.size ∧ send.call.size ≤ 496)
  let send (role : Role) (size : Int) (steps : Nat) : List RawAction :=
    .send role ⟨true, true, 0, 0, fun _ => 7, size, false, 0⟩ ::
      List.replicate steps (.stepSend role 0)
  obtain ⟨t₀, t, hstart, ht, houtcomes⟩ := Run.exists_reachable_of_ok allowed
    (TracedSystem.step negative)
    ((rpmsgInitVdev cfg.num0 cfg.num1 0 0 cfg.masterIo cfg.slaveIo
      (rpmsgVirtioInitShmPool cfg.base cfg.size) fun _ => 0).map TracedSystem.start)
    (send .slave 496 6 ++ send .slave 7 2 ++ send .master 497 1 ++ send .master 10 6)
    (fun t => (t.outcomes .slave, t.outcomes .master))
    ([(496, 496, [496]), (7, RPMSG_ERR_NO_BUFF, [])],
      [(497, RPMSG_ERR_BUFF_SIZE, []), (10, 10, [10])]) (by decide +kernel)
  obtain ⟨s₀, hinit, rfl⟩ := exists_of_map_start hstart
  obtain ⟨hslave, hmaster⟩ := Prod.mk.inj houtcomes
  refine ⟨t, hslave, hmaster, failed_send_no_effect cfg negative 0 0 (fun _ => 0) hinit (ht.mono ?_)⟩
  rintro t action ⟨hready, hroom, hsizes⟩
  refine ⟨hready, ?_, ?_⟩
  · cases action with
    | stepSend role i =>
        cases role with
        | master =>
            intro call buffer hsend
            exact (hroom _ (List.mem_of_getElem? hsend)).resolve_left nofun
        | slave => trivial
    | send | rxCallback | stepReceive | setStatus => trivial
  · cases action with
    | stepSend role i =>
        intro call tickCount availSize vring svq shpool buffer hsend _
        have hboth := (hsizes role (by cases role <;> simp) _
          (List.mem_of_getElem? hsend)).resolve_left Bool.noConfusion
        simp only [RPMSG_HDR_SIZE, RPMSG_BUFFER_SIZE] at *
        omega
    | send | rxCallback | stepReceive | setStatus => trivial

/-- The slave has written a message of 10 bytes when its send of 600 bytes, tested while no buffer was
on offer, takes the buffer in front of it: a message of 1799 bytes is published. And where a block of
negative length is taken for one that was written, the master sends -1 bytes: a message of 65535 bytes
is published, and the call returns an error. -/
theorem failed_send_publishes :
    ∃ (cfg : RpmsgConfig) (s₀ s t : TracedSystem),
      cfg.size = (cfg.num0 + cfg.num1) * RPMSG_BUFFER_SIZE ∧
      (rpmsgInitVdev cfg.num0 cfg.num1 0 0 cfg.masterIo cfg.slaveIo
        (rpmsgVirtioInitShmPool cfg.base cfg.size) fun _ => 0).map TracedSystem.start = .ok s₀ ∧
      Run.Reachable TracedSystem.Ready (TracedSystem.step fun _ _ => none) s₀ s ∧
      (∃ entry ∈ s.returned .slave, entry.1.size = 10 ∧
        ¬ SendSound entry.1 entry.2.1 entry.2.2) ∧
      Run.Reachable TracedSystem.Ready (TracedSystem.step fun _ shm => some shm) s₀ t ∧
      ∃ entry ∈ t.returned .master, entry.1.size = -1 ∧
        ¬ SendSound entry.1 entry.2.1 entry.2.2 := by
  let cfg := RpmsgConfig.linear 1 1 2048 (by decide) (by decide) (by decide)
  let call (size : Int) : RawCall := ⟨true, true, 0, 0, fun _ => 7, size, false, 0⟩
  let start := (rpmsgInitVdev cfg.num0 cfg.num1 0 0 cfg.masterIo cfg.slaveIo
    (rpmsgVirtioInitShmPool cfg.base cfg.size) fun _ => 0).map TracedSystem.start
  let send (role : Role) (size : Int) (steps : Nat) : List RawAction :=
    .send role (call size) :: List.replicate steps (.stepSend role 0)
  let late : List RawAction :=
    [.send .slave (call 600), .stepSend .slave 1, .stepReceive .master 0, .stepReceive .master 0] ++
      List.replicate 3 (.stepSend .slave 1)
  obtain ⟨s₀, s, hstart, hs, hslave⟩ := Run.exists_reachable_of_ok TracedSystem.Ready
    (TracedSystem.step fun _ _ => none) start
    (send .slave 0 6 ++ [.rxCallback .master] ++ send .slave 10 4 ++ late ++
      List.replicate 2 (.stepSend .slave 0)) (·.outcomes .slave)
    [(0, 0, [0]), (10, 10, [1799])] (by decide +kernel)
  obtain ⟨t₀, t, hstart', ht, hmaster⟩ := Run.exists_reachable_of_ok TracedSystem.Ready
    (TracedSystem.step fun _ shm => some shm) start (send .master (-1) 6) (·.outcomes .master)
    [(-1, -1, [65535])] (by decide +kernel)
  obtain rfl := Except.ok.inj (hstart.symm.trans hstart')
  refine ⟨cfg, s₀, s, t, by decide, hstart, hs, TracedSystem.exists_not_sound 10 [1799] ?_ (by decide),
    ht, TracedSystem.exists_not_sound (-1) [65535] ?_ (by decide)⟩
  · rw [hslave]
    decide
  · rw [hmaster]
    decide

end OpenAmp
