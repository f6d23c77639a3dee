import OpenAmp.Proof.RpmsgInvariant

/-!
# Every step of a device keeps the accounting

One lemma for each step of a send and of a receive callback. Steps that move a buffer differ between
the roles, since the two sides use different primitives for the same ring; steps that only write, test
or return do not.
-/

namespace OpenAmp

open ByteMemory ListCuts

section Consequences

variable {cfg : RpmsgConfig} {content : Prop} {s : RpmsgSystem} {view : RpmsgView}

theorem RpmsgInv.owned_nodup (h : RpmsgInv cfg content s view) : (view.owned cfg s).Nodup :=
  h.partition.nodup_iff.mpr List.nodup_range

theorem RpmsgInv.owned_lt (h : RpmsgInv cfg content s view) {buf : Nat}
    (hbuf : buf ∈ view.owned cfg s) : buf < cfg.buffers :=
  lt_of_lt_of_le (List.mem_range.mp (h.partition.subset hbuf)) h.allocated_le

theorem RpmsgInv.txBuffer_eq (h : RpmsgInv cfg content s view) {role : Role} {buffer : RpmsgBuffer}
    (hbuffer : buffer ∈ (s.device role).txBuffers) :
    ∃ buf idx, buffer = cfg.buffer role buf idx ∧ buf < cfg.buffers := by
  have hnumber : cfg.number role buffer ∈ view.owned cfg s := by
    have hmem := List.mem_map_of_mem (f := cfg.number role) hbuffer
    cases role <;> simp only [RpmsgView.owned, RpmsgSystem.txNumbers, List.mem_append] <;> tauto
  have hlt := h.owned_lt hnumber
  cases role with
  | master =>
      obtain ⟨buf, idx, rfl⟩ := h.masterTx buffer hbuffer
      rw [cfg.number_buffer] at hlt
      exact ⟨buf, idx, rfl, hlt⟩
  | slave =>
      obtain ⟨slot, -, rfl⟩ := List.mem_map.mp (h.slaveTx.subset hbuffer)
      rw [cfg.number_buffer] at hlt
      exact ⟨slot.buf, slot.head, rfl, hlt⟩

theorem RpmsgInv.rxBuffer_eq (h : RpmsgInv cfg content s view) {role : Role} {buffer : RpmsgBuffer}
    (hbuffer : buffer ∈ (s.device role).rxBuffers) :
    ∃ buf idx, buffer = cfg.buffer role buf idx ∧ buf < cfg.buffers := by
  have hnumber : cfg.number role buffer ∈ view.owned cfg s := by
    have hmem := List.mem_map_of_mem (f := cfg.number role) hbuffer
    cases role <;> simp only [RpmsgView.owned, RpmsgSystem.rxNumbers, List.mem_append] <;> tauto
  have hlt := h.owned_lt hnumber
  cases role with
  | master =>
      obtain ⟨buf, idx, rfl⟩ := h.masterRx buffer hbuffer
      rw [cfg.number_buffer] at hlt
      exact ⟨buf, idx, rfl, hlt⟩
  | slave =>
      obtain ⟨slot, -, rfl⟩ := List.mem_map.mp (h.slaveRx.subset hbuffer)
      rw [cfg.number_buffer] at hlt
      exact ⟨slot.buf, slot.head, rfl, hlt⟩

theorem RpmsgView.length_owned (cfg : RpmsgConfig) (s : RpmsgSystem) (view : RpmsgView) :
    (view.owned cfg s).length =
      view.ring0.avail.length + view.ring0.used.length + view.ring1.avail.length +
        view.ring1.used.length + s.slave.txBuffers.length + s.slave.rxBuffers.length +
        s.master.txBuffers.length + s.master.rxBuffers.length := by
  simp [RpmsgView.owned, RpmsgSystem.txNumbers, RpmsgSystem.rxNumbers, RpmsgSystem.device]
  omega

/-- All buffers beyond those that fill the receive ring circulate through the send ring. -/
theorem RpmsgInv.ring1_count (h : RpmsgInv cfg content s view) :
    view.allocated + view.ring1.free.length =
      cfg.num0 + cfg.num1 + s.master.txBuffers.length := by
  have hcount0 := SlotView.count h.ring0
  have hcount1 := SlotView.count h.ring1
  have hlen := h.partition.length_eq
  rw [List.length_range, RpmsgView.length_owned, h.slaveTx.length_eq, h.slaveRx.length_eq] at hlen
  simp only [List.length_map] at hlen
  have hfree := h.ring0Free
  have hnum0 : cfg.ring0.entries = cfg.num0 := rfl
  have hnum1 : cfg.ring1.entries = cfg.num1 := rfl
  omega

/-- Unless the pool has more buffers than both rings have entries, a master that owns a buffer finds
a free descriptor for it. -/
theorem RpmsgInv.ring1_free_ne_nil (h : RpmsgInv cfg content s view)
    (hpool : cfg.buffers ≤ cfg.num0 + cfg.num1) {buffer : RpmsgBuffer}
    (hbuffer : buffer ∈ s.master.txBuffers) : view.ring1.free ≠ [] := by
  have hcount := h.ring1_count
  have hle := h.allocated_le
  have hpos := List.length_pos_of_mem hbuffer
  exact List.length_pos_iff.mp (by omega)

end Consequences

section Contents

variable {cfg : RpmsgConfig} {s s' : RpmsgSystem} {view view' : RpmsgView} {role : Role}

/-- The calls of one device move on; no message changes hands. -/
theorem RpmsgContent.move (h : RpmsgContent cfg s view) (role : Role) (hshm : s'.shm = s.shm)
    (hpeer : s'.device role.peer = s.device role.peer)
    (hsent : (s'.device role).sent = (s.device role).sent)
    (hreceived : (s'.device role).received = (s.device role).received)
    (hpending : ∀ r, view'.pending r = view.pending r)
    (hsends : ∀ send ∈ (s'.device role).sends, send.Ok cfg s.shm role)
    (hreads : ∀ pc ∈ (s'.device role).receives,
      pc.Reads cfg s.shm role (s.device role.peer).sent) : RpmsgContent cfg s' view' := by
  constructor
  case sends =>
    rw [hshm]
    refine (Role.forall_iff role).mpr ⟨hsends, ?_⟩
    rw [hpeer]
    exact h.sends role.peer
  case pending =>
    rw [hshm]
    refine (Role.forall_iff role).mpr ⟨?_, ?_⟩
    · rw [hpeer, hreceived, hpending]
      exact h.pending role
    · have hother := h.pending role.peer
      rw [Role.peer_peer] at hother
      rw [Role.peer_peer, hpeer, hsent, hpending]
      exact hother
  case received_le =>
    refine (Role.forall_iff role).mpr ⟨?_, ?_⟩
    · rw [hpeer, hreceived]
      exact h.received_le role
    · have hother := h.received_le role.peer
      rw [Role.peer_peer] at hother
      rw [Role.peer_peer, hpeer, hsent]
      exact hother
  case received =>
    refine (Role.forall_iff role).mpr ⟨?_, ?_⟩
    · rw [hpeer, hreceived]
      exact h.received role
    · have hother := h.received role.peer
      rw [Role.peer_peer] at hother
      rw [Role.peer_peer, hpeer, hsent]
      exact hother
  case reads =>
    rw [hshm]
    refine (Role.forall_iff role).mpr ⟨?_, ?_⟩
    · rw [hpeer]
      exact hreads
    · have hother := h.reads role.peer
      rw [Role.peer_peer] at hother
      rw [Role.peer_peer, hpeer, hsent]
      exact hother

/-- A message changes hands from a send of one device to the queue of its peer. -/
theorem RpmsgContent.send (h : RpmsgContent cfg s view) (role : Role) (call : SendCall)
    (slot : Slot) (hshm : s'.shm = s.shm) (hpeer : s'.device role.peer = s.device role.peer)
    (hsent : (s'.device role).sent = (s.device role).sent ++ [call])
    (hreceived : (s'.device role).received = (s.device role).received)
    (hpending : view'.pending role = view.pending role)
    (hqueued : view'.pending role.peer = view.pending role.peer ++ [slot])
    (hmessage : MessageAt s.shm (cfg.cell slot.buf) call)
    (hsends : ∀ send ∈ (s'.device role).sends, send.Ok cfg s.shm role)
    (hreceives : (s'.device role).receives = (s.device role).receives) :
    RpmsgContent cfg s' view' := by
  have hle := h.received_le role.peer
  rw [Role.peer_peer] at hle
  constructor
  case sends =>
    rw [hshm]
    refine (Role.forall_iff role).mpr ⟨hsends, ?_⟩
    rw [hpeer]
    exact h.sends role.peer
  case pending =>
    rw [hshm]
    refine (Role.forall_iff role).mpr ⟨?_, ?_⟩
    · rw [hpeer, hreceived, hpending]
      exact h.pending role
    · have hother := h.pending role.peer
      rw [Role.peer_peer] at hother
      rw [Role.peer_peer, hpeer, hsent, hqueued, List.drop_append_of_le_length hle]
      exact List.rel_append hother (.cons hmessage .nil)
  case received_le =>
    refine (Role.forall_iff role).mpr ⟨?_, ?_⟩
    · rw [hpeer, hreceived]
      exact h.received_le role
    · rw [Role.peer_peer, hpeer, hsent, List.length_append]
      exact hle.trans (Nat.le_add_right _ _)
  case received =>
    refine (Role.forall_iff role).mpr ⟨?_, ?_⟩
    · rw [hpeer, hreceived]
      exact h.received role
    · have hother := h.received role.peer
      rw [Role.peer_peer] at hother
      rw [Role.peer_peer, hpeer, hsent, List.take_append_of_le_length hle]
      exact hother
  case reads =>
    rw [hshm]
    refine (Role.forall_iff role).mpr ⟨?_, ?_⟩
    · rw [hpeer, hreceives]
      exact h.reads role
    · have hother := h.reads role.peer
      rw [Role.peer_peer] at hother
      rw [Role.peer_peer, hpeer, hsent]
      intro pc hpc
      have hreads := hother pc hpc
      cases pc with
      | handling buffer position =>
          obtain ⟨earlier, hearlier, hat⟩ := hreads
          exact ⟨earlier, getElem?_append_of_some hearlier _, hat⟩
      | returned => trivial

/-- A message changes hands from the queue of a device to one of its receive callbacks. -/
theorem RpmsgContent.receive (h : RpmsgContent cfg s view) (role : Role) (slot : Slot)
    (hshm : s'.shm = s.shm) (hpeer : s'.device role.peer = s.device role.peer) {idx : Nat}
    {rest : List Slot}
    (hsent : (s'.device role).sent = (s.device role).sent)
    (hview : view.pending role = slot :: rest) (hbuf : slot.buf < cfg.buffers)
    (hreceived : (s'.device role).received =
      (s.device role).received ++ [rpmsgRead (cfg.io role) s.shm (cfg.addr role slot.buf)])
    (hpending : view'.pending role = rest)
    (hqueued : view'.pending role.peer = view.pending role.peer)
    (hsends : (s'.device role).sends = (s.device role).sends)
    (hreceives : ∀ pc ∈ (s'.device role).receives, pc ∈ (s.device role).receives ∨
      pc = .handling (cfg.buffer role slot.buf idx) (s.device role).received.length) :
    RpmsgContent cfg s' view' := by
  have hqueue := h.pending role
  rw [hview] at hqueue
  obtain ⟨call, calls, hmessage, hrest, hdrop⟩ := List.forall₂_cons_left_iff.mp hqueue
  obtain ⟨hlt, hget, htake, hdrop'⟩ := cut_succ hdrop
  have hread := cfg.rpmsgRead_eq role hbuf hmessage
  have hlength : (s'.device role).received.length = (s.device role).received.length + 1 := by
    rw [hreceived, List.length_append]
    rfl
  constructor
  case sends =>
    rw [hshm]
    refine (Role.forall_iff role).mpr ⟨?_, ?_⟩
    · rw [hsends]
      exact h.sends role
    · rw [hpeer]
      exact h.sends role.peer
  case pending =>
    rw [hshm]
    refine (Role.forall_iff role).mpr ⟨?_, ?_⟩
    · rw [hpeer, hlength, hpending, hdrop']
      exact hrest
    · have hother := h.pending role.peer
      rw [Role.peer_peer] at hother
      rw [Role.peer_peer, hpeer, hsent, hqueued]
      exact hother
  case received_le =>
    refine (Role.forall_iff role).mpr ⟨?_, ?_⟩
    · rw [hpeer, hlength]
      exact hlt
    · have hother := h.received_le role.peer
      rw [Role.peer_peer] at hother
      rw [Role.peer_peer, hpeer, hsent]
      exact hother
  case received =>
    refine (Role.forall_iff role).mpr ⟨?_, ?_⟩
    · rw [hlength, hpeer, htake, List.map_append, ← h.received role, hreceived, hread]
      rfl
    · have hother := h.received role.peer
      rw [Role.peer_peer] at hother
      rw [Role.peer_peer, hpeer, hsent]
      exact hother
  case reads =>
    rw [hshm]
    refine (Role.forall_iff role).mpr ⟨?_, ?_⟩
    · intro pc hpc
      rw [hpeer]
      rcases hreceives pc hpc with hold | rfl
      · exact h.reads role pc hold
      · refine ⟨call, hget, ?_⟩
        rw [cfg.number_buffer]
        exact hmessage
    · have hother := h.reads role.peer
      rw [Role.peer_peer] at hother
      rw [Role.peer_peer, hpeer, hsent]
      exact hother

end Contents

section Sends

variable {cfg : RpmsgConfig} {content : Prop} {s : RpmsgSystem} {view : RpmsgView}

@[simp] theorem RpmsgSystem.device_setDevice_self (s : RpmsgSystem) (device : RpmsgDevice)
    (role : Role) : (s.setDevice device role).device role = device := by
  cases role <;> rfl

@[simp] theorem RpmsgSystem.device_setDevice_peer (s : RpmsgSystem) (device : RpmsgDevice)
    (role : Role) : (s.setDevice device role).device role.peer = s.device role.peer := by
  cases role <;> rfl

@[simp] theorem RpmsgSystem.shm_setDevice (s : RpmsgSystem) (device : RpmsgDevice) (role : Role) :
    (s.setDevice device role).shm = s.shm := by
  cases role <;> rfl

/-- A change of the pending calls of a device that moves no buffer. -/
theorem RpmsgInv.setSends (h : RpmsgInv cfg content s view) (role : Role) {sends : List Send}
    {lock : Bool} {results : List (SendCall × Int)}
    (htx : (sends.filterMap fun send => send.pc.buffer?).Perm (s.device role).txBuffers)
    (hsends : content → ∀ send ∈ sends, send.Ok cfg s.shm role) :
    RpmsgInv cfg content (s.setDevice { s.device role with sends, lock, results } role) view := by
  have hpartition := h.partition
  have hnumbers := htx.map (cfg.number role)
  have hcontents : content → RpmsgContent cfg
      (s.setDevice { s.device role with sends, lock, results } role) view := by
    intro hcontent
    refine (h.contents hcontent).move role ?_ ?_ ?_ ?_ (fun _ => rfl) ?_ ?_ <;>
      simp only [RpmsgSystem.device_setDevice_self, RpmsgSystem.device_setDevice_peer,
        RpmsgSystem.shm_setDevice]
    · exact hsends hcontent
    · exact (h.contents hcontent).reads role
  have hio : ∀ r, ((s.setDevice { s.device role with sends, lock, results } role).device r).shbufIo =
      cfg.io r := by
    refine (Role.forall_iff role).mpr ⟨?_, ?_⟩
    · rw [RpmsgSystem.device_setDevice_self]
      exact h.io role
    · rw [RpmsgSystem.device_setDevice_peer]
      exact h.io role.peer
  cases role with
  | master =>
      refine { h with io := hio, masterTx := ?_, partition := ?_, contents := hcontents }
      · intro buffer hbuffer
        exact h.masterTx buffer (htx.subset hbuffer)
      · refine List.Perm.trans ?_ hpartition
        exact (List.Perm.append_left _ hnumbers).append_right _
  | slave =>
      refine { h with
        io := hio
        slaveTx := htx.trans h.slaveTx
        partition := ?_
        contents := hcontents }
      refine List.Perm.trans ?_ hpartition
      exact (((List.Perm.append_left _ hnumbers).append_right _).append_right _).append_right _

/-- One send is replaced by another state of the same call. -/
theorem RpmsgContent.replaceSend {cfg : RpmsgConfig} (h : RpmsgContent cfg s view) (role : Role)
    {front back : List Send} {call : SendCall} {pc pc' : SendPc}
    (hsends : (s.device role).sends = front ++ ⟨call, pc⟩ :: back)
    (hwritten : Send.Written cfg s.shm role ⟨call, pc'⟩) :
    ∀ send ∈ front ++ ⟨call, pc'⟩ :: back, send.Ok cfg s.shm role := by
  have hall := h.sends role
  rw [hsends] at hall
  intro send hsend
  rcases mem_around.mp hsend with rfl | hother
  · have hold := hall ⟨call, pc⟩ List.mem_append_cons_self
    exact ⟨hold.nonneg, hold.fits, hwritten⟩
  · exact hall send (mem_around.mpr (.inr hother))

theorem RpmsgInv.setSend (h : RpmsgInv cfg content s view) {role : Role} {i : Nat} {call : SendCall}
    {pc : SendPc} (pc' : SendPc) (lock : Bool)
    (hsend : (s.device role).sends[i]? = some ⟨call, pc⟩) (hbuffer : pc'.buffer? = pc.buffer?)
    (hwritten : content → Send.Written cfg s.shm role ⟨call, pc'⟩) :
    RpmsgInv cfg content
      (s.setDevice ({ s.device role with lock }.setSend i ⟨call, pc'⟩) role) view := by
  obtain ⟨front, back, hsends, hset, -⟩ := exists_around hsend
  have hnew : ({ s.device role with lock }.setSend i ⟨call, pc'⟩) =
      { s.device role with sends := front ++ ⟨call, pc'⟩ :: back, lock } := by
    rw [RpmsgDevice.setSend]
    simp only [hset]
  rw [hnew]
  refine h.setSends role ?_ fun hcontent =>
    (h.contents hcontent).replaceSend role hsends (hwritten hcontent)
  rw [RpmsgDevice.txBuffers, hsends, List.filterMap_append, List.filterMap_append,
    List.filterMap_cons, List.filterMap_cons, hbuffer]

theorem RpmsgInv.finish (h : RpmsgInv cfg content s view) {role : Role} {i : Nat} {call : SendCall}
    {pc : SendPc} (lock : Bool) (hsend : (s.device role).sends[i]? = some ⟨call, pc⟩)
    (hbuffer : pc.buffer? = none) (result : Int) :
    RpmsgInv cfg content
      (s.setDevice ({ s.device role with lock }.finish i call result) role) view := by
  obtain ⟨front, back, hsends, -, herase⟩ := exists_around hsend
  have hnew : ({ s.device role with lock }.finish i call result) =
      { s.device role with
        sends := front ++ back
        lock
        results := (s.device role).results ++ [(call, result)] } := by
    rw [RpmsgDevice.finish]
    simp only [herase]
  rw [hnew]
  refine h.setSends role ?_ fun hcontent send hother => ?_
  · rw [RpmsgDevice.txBuffers, hsends, List.filterMap_append, List.filterMap_append,
      List.filterMap_cons, hbuffer]
  · refine (h.contents hcontent).sends role send ?_
    rw [hsends]
    exact mem_around.mpr (.inr hother)

theorem RpmsgInv.startSend (h : RpmsgInv cfg content s view) (role : Role) {call : SendCall}
    (hcall : content → 0 ≤ call.size ∧ call.size ≤ capacity) :
    RpmsgInv cfg content (s.startSend role call) view := by
  have hready : ¬ s.status &&& VIRTIO_CONFIG_STATUS_DRIVER_OK = 0 := by
    rw [h.status]
    decide
  rw [RpmsgSystem.startSend, if_neg hready]
  refine h.setSends role ?_ ?_
  · rw [List.filterMap_append]
    exact List.Perm.of_eq (List.append_nil _)
  · intro hcontent send hsend
    rcases List.mem_append.mp hsend with hold | hnew
    · exact (h.contents hcontent).sends role send hold
    · obtain rfl := List.mem_singleton.mp hnew
      exact ⟨(hcall hcontent).1, (hcall hcontent).2, trivial⟩

/-- The size a send is tested against. -/
def RpmsgView.room (view : RpmsgView) : Role → Int
  | .master => capacity
  | .slave => if view.ring0.avail = [] then 0 else capacity

theorem RpmsgInv.bufferSize (h : RpmsgInv cfg content s view) (role : Role) :
    rpmsgVirtioGetBufferSize role (s.sendRing role) (s.device role).svq =
      ((s.device role).svq, view.room role) := by
  cases role with
  | master => rfl
  | slave => exact h.ring0.slaveBufferSize

theorem RpmsgInv.testSize_eq (h : RpmsgInv cfg content s view) (role : Role) (i : Nat)
    (call : SendCall) (tickCount : Nat) :
    s.testSize role i call tickCount =
      if view.room role ≠ 0 ∧ call.size > view.room role then
        s.setDevice ((s.device role).finish i call RPMSG_ERR_BUFF_SIZE) role
      else
        s.setDevice ({ s.device role with lock := true }.setSend i
          ⟨call, .tested tickCount (view.room role)⟩) role := by
  simp only [RpmsgSystem.testSize, h.bufferSize]

theorem RpmsgInv.testSize (h : RpmsgInv cfg content s view) {role : Role} {i : Nat}
    {call : SendCall} {tickCount : Nat}
    (hsend : (s.device role).sends[i]? = some ⟨call, .loop tickCount⟩) :
    RpmsgInv cfg content (s.testSize role i call tickCount) view := by
  rw [h.testSize_eq]
  split_ifs
  · exact h.finish _ hsend rfl RPMSG_ERR_BUFF_SIZE
  · exact h.setSend _ _ hsend rfl fun _ => trivial

theorem RpmsgInv.kickRing (h : RpmsgInv cfg content s view) (role : Role) :
    RpmsgInv cfg content
      (s.setDevice
        { s.device role with svq := (virtqueueKick (s.sendRing role) (s.device role).svq).1 } role)
      view := by
  have hcontents : content → RpmsgContent cfg (s.setDevice
      { s.device role with svq := (virtqueueKick (s.sendRing role) (s.device role).svq).1 } role)
      view := by
    intro hcontent
    refine (h.contents hcontent).move role ?_ ?_ ?_ ?_ (fun _ => rfl) ?_ ?_ <;>
      simp only [RpmsgSystem.device_setDevice_self, RpmsgSystem.device_setDevice_peer,
        RpmsgSystem.shm_setDevice]
    · exact (h.contents hcontent).sends role
    · exact (h.contents hcontent).reads role
  have hio := h.io
  cases role with
  | master =>
      refine { h with ring1 := h.ring1.masterKick, io := ?_, contents := hcontents }
      rintro (_ | _)
      exacts [hio .master, hio .slave]
  | slave =>
      refine { h with ring0 := h.ring0.slaveKick, io := ?_, contents := hcontents }
      rintro (_ | _)
      exacts [hio .master, hio .slave]

theorem RpmsgInv.kick (h : RpmsgInv cfg content s view) {role : Role} {i : Nat} {call : SendCall}
    (hsend : (s.device role).sends[i]? = some ⟨call, .enqueued⟩) :
    RpmsgInv cfg content (s.kick role i call) view := by
  have hkicked := h.kickRing role
  have hsend' : ((s.setDevice
      { s.device role with svq := (virtqueueKick (s.sendRing role) (s.device role).svq).1 }
      role).device role).sends[i]? = some ⟨call, .enqueued⟩ := by
    rw [RpmsgSystem.device_setDevice_self]
    exact hsend
  have hdone := hkicked.finish false hsend' rfl call.size
  cases role <;> exact hdone

end Sends

section Writes

variable {cfg : RpmsgConfig} {content : Prop} {s : RpmsgSystem} {view : RpmsgView} {role : Role}

/-- Nothing but the send that owns it knows a buffer. -/
structure RpmsgView.Exclusive (cfg : RpmsgConfig) (s : RpmsgSystem) (view : RpmsgView) (role : Role)
    (others : List Send) (buf : Nat) : Prop where
  pending : ∀ r, ∀ slot ∈ view.pending r, slot.buf ≠ buf
  receives : ∀ r, ∀ buffer ∈ (s.device r).rxBuffers, cfg.number r buffer ≠ buf
  peerSends : ∀ buffer ∈ (s.device role.peer).txBuffers, cfg.number role.peer buffer ≠ buf
  sends : ∀ send ∈ others, ∀ buffer, send.pc.buffer? = some buffer → cfg.number role buffer ≠ buf

theorem ne_of_count_map_eq_zero {α : Type*} {l : List α} {f : α → Nat} {n : Nat}
    (h : (l.map f).count n = 0) : ∀ x ∈ l, f x ≠ n := by
  intro x hx heq
  exact List.count_eq_zero.mp h (heq ▸ List.mem_map_of_mem hx)

/-- The places a buffer with a message, or in the hands of a call, can be in. -/
theorem RpmsgView.count_le_owned (cfg : RpmsgConfig) (s : RpmsgSystem) (view : RpmsgView)
    (role : Role) (n : Nat) :
    ((view.pending role).map Slot.buf).count n + ((view.pending role.peer).map Slot.buf).count n +
      (s.txNumbers cfg role).count n + (s.txNumbers cfg role.peer).count n +
      (s.rxNumbers cfg role).count n + (s.rxNumbers cfg role.peer).count n ≤
        (view.owned cfg s).count n := by
  cases role <;>
    simp only [RpmsgView.owned, RpmsgView.pending, Role.peer, List.count_append] <;> omega

theorem RpmsgInv.exclusive (h : RpmsgInv cfg content s view) {send : Send} {buffer : RpmsgBuffer}
    {front back : List Send} (hsends : (s.device role).sends = front ++ send :: back)
    (hbuffer : send.pc.buffer? = some buffer) :
    view.Exclusive cfg s role (front ++ back) (cfg.number role buffer) := by
  let others := (front ++ back).filterMap fun send => send.pc.buffer?
  have hself : (s.txNumbers cfg role).count (cfg.number role buffer) =
      (others.map (cfg.number role)).count (cfg.number role buffer) + 1 := by
    simp only [others, RpmsgSystem.txNumbers, RpmsgDevice.txBuffers, hsends, List.filterMap_append,
      List.filterMap_cons, hbuffer, List.map_append, List.map_cons, List.count_append,
      List.count_cons_self]
    omega
  have hcount := (view.count_le_owned cfg s role (cfg.number role buffer)).trans
    (List.nodup_iff_count_le_one.mp h.owned_nodup (cfg.number role buffer))
  constructor
  case pending =>
    refine (Role.forall_iff role).mpr ⟨?_, ?_⟩
    · exact ne_of_count_map_eq_zero (by omega)
    · exact ne_of_count_map_eq_zero (by omega)
  case receives =>
    refine (Role.forall_iff role).mpr ⟨?_, ?_⟩
    · exact ne_of_count_map_eq_zero (f := cfg.number role) (by
        rw [RpmsgSystem.rxNumbers] at hcount
        omega)
    · exact ne_of_count_map_eq_zero (f := cfg.number role.peer) (by
        rw [RpmsgSystem.rxNumbers, RpmsgSystem.rxNumbers] at hcount
        omega)
  case peerSends =>
    rw [RpmsgSystem.txNumbers, RpmsgSystem.txNumbers] at hcount
    rw [RpmsgSystem.txNumbers] at hself
    exact ne_of_count_map_eq_zero (by omega)
  case sends =>
    intro send hsend buffer' hbuffer'
    have hzero : (others.map (cfg.number role)).count (cfg.number role buffer) = 0 := by omega
    exact ne_of_count_map_eq_zero hzero _ (List.mem_filterMap.mpr ⟨send, hsend, hbuffer'⟩)

theorem Send.Written.congr {shm shm' : Nat → UInt8} {send : Send}
    (h : send.Written cfg shm role)
    (hsame : ∀ buffer, send.pc.buffer? = some buffer → ∀ i < RPMSG_BUFFER_SIZE,
      shm' (cfg.cell (cfg.number role buffer) + i) = shm (cfg.cell (cfg.number role buffer) + i)) :
    send.Written cfg shm' role := by
  obtain ⟨call, pc⟩ := send
  cases pc with
  | header buffer => exact HeaderAt.congr h (hsame buffer rfl)
  | payload buffer => exact MessageAt.congr h (hsame buffer rfl)
  | loop | tested | taken | enqueued => trivial

theorem RxPc.Reads.congr {shm shm' : Nat → UInt8} {sent : List SendCall} {pc : RxPc}
    (h : pc.Reads cfg shm role sent)
    (hsame : ∀ buffer, pc.buffer? = some buffer → ∀ i < RPMSG_BUFFER_SIZE,
      shm' (cfg.cell (cfg.number role buffer) + i) = shm (cfg.cell (cfg.number role buffer) + i)) :
    pc.Reads cfg shm' role sent := by
  cases pc with
  | handling buffer position =>
      obtain ⟨call, hcall, hat⟩ := h
      exact ⟨call, hcall, hat.congr (hsame buffer rfl)⟩
  | returned => trivial

/-- A send writes into its buffer, and only there. -/
theorem RpmsgInv.setShm (h : RpmsgInv cfg content s view) {i : Nat} {send : Send}
    {buffer : RpmsgBuffer} {shm : Nat → UInt8}
    (hsend : (s.device role).sends[i]? = some send) (hbuffer : send.pc.buffer? = some buffer)
    (hframe : ∀ n, n ≠ cfg.number role buffer → ∀ k < RPMSG_BUFFER_SIZE,
      shm (cfg.cell n + k) = s.shm (cfg.cell n + k))
    (hkeep : content → send.Written cfg shm role) :
    RpmsgInv cfg content { s with shm } view := by
  obtain ⟨front, back, hsends, -, -⟩ := exists_around hsend
  have hexclusive := h.exclusive hsends hbuffer
  have hdevice : ∀ r, RpmsgSystem.device { s with shm } r = s.device r := by
    rintro (_ | _) <;> rfl
  refine { h with io := ?_, contents := fun hcontent => ?_ }
  · intro r
    rw [hdevice]
    exact h.io r
  obtain ⟨hall, hpending, hle, hreceived, hreads⟩ := h.contents hcontent
  constructor <;> simp only [hdevice]
  case received_le => exact hle
  case received => exact hreceived
  case sends =>
    refine (Role.forall_iff role).mpr ⟨?_, ?_⟩
    · intro other hother
      have hold := hall role other hother
      refine { hold with written := ?_ }
      rw [hsends, mem_around] at hother
      rcases hother with rfl | hother
      · exact hkeep hcontent
      · exact hold.written.congr fun buffer' hbuffer' =>
          hframe _ (hexclusive.sends other hother buffer' hbuffer')
    · intro other hother
      have hold := hall role.peer other hother
      refine { hold with written := hold.written.congr fun buffer' hbuffer' => ?_ }
      exact hframe _ (hexclusive.peerSends buffer'
        (List.mem_filterMap.mpr ⟨other, hother, hbuffer'⟩))
  case pending =>
    intro r
    have hboth := (List.forall₂_and_left _ _).mpr ⟨hexclusive.pending r, hpending r⟩
    exact hboth.imp fun slot call hslot => hslot.2.congr (hframe _ hslot.1)
  case reads =>
    intro r pc hpc
    refine (hreads r pc hpc).congr fun buffer' hbuffer' => ?_
    exact hframe _ (hexclusive.receives r buffer'
      (List.mem_filterMap.mpr ⟨pc, hpc, hbuffer'⟩))

theorem RpmsgConfig.writeBytes_frame (cfg : RpmsgConfig) (shm : Nat → UInt8) {buf : Nat}
    (start : Nat) {bytes : List UInt8} (hlen : start + bytes.length ≤ RPMSG_BUFFER_SIZE) {n : Nat}
    (hne : n ≠ buf)
    {k : Nat} (hk : k < RPMSG_BUFFER_SIZE) :
    writeBytes shm (cfg.cell buf + start) bytes (cfg.cell n + k) = shm (cfg.cell n + k) := by
  simp only [RpmsgConfig.cell, RPMSG_BUFFER_SIZE] at *
  rcases Nat.lt_or_gt_of_ne hne with hlt | hgt
  · exact writeBytes_apply_of_lt (by omega)
  · exact writeBytes_apply_of_le (by omega)

theorem RpmsgConfig.write_header (cfg : RpmsgConfig) (role : Role) {buf : Nat}
    (hbuf : buf < cfg.buffers) (shm : Nat → UInt8) (call : SendCall) :
    metalIoBlockWrite (cfg.io role) shm ((cfg.io role).virtToOffset (cfg.addr role buf)) call.rpHdr =
      writeBytes shm (cfg.cell buf) call.rpHdr := by
  refine cfg.write_addr role hbuf shm (i := 0) ?_
  rw [call.length_rpHdr]
  decide

/-- The header is there once it is written. -/
theorem RpmsgConfig.headerAt_write (cfg : RpmsgConfig) (role : Role) {buf : Nat}
    (hbuf : buf < cfg.buffers) (shm : Nat → UInt8) (call : SendCall) :
    HeaderAt (metalIoBlockWrite (cfg.io role) shm
      ((cfg.io role).virtToOffset (cfg.addr role buf)) call.rpHdr) (cfg.cell buf) call := by
  rw [cfg.write_header role hbuf, HeaderAt, ← call.length_rpHdr]
  exact readBytes_writeBytes_self ..

theorem RpmsgConfig.write_payload (cfg : RpmsgConfig) (role : Role) {buf : Nat}
    (hbuf : buf < cfg.buffers) (shm : Nat → UInt8) {call : SendCall} (hfits : call.size ≤ capacity) :
    metalIoBlockWrite (cfg.io role) shm
        ((cfg.io role).virtToOffset (cfg.addr role buf + RPMSG_HDR_SIZE)) call.payload =
      writeBytes shm (cfg.cell buf + RPMSG_HDR_SIZE) call.payload := by
  refine cfg.write_addr role hbuf shm ?_
  rw [call.length_payload]
  simp only [capacity, RPMSG_HDR_SIZE, RPMSG_BUFFER_SIZE] at *
  omega

/-- The whole message is there once the payload is written behind its header. -/
theorem RpmsgConfig.messageAt_write (cfg : RpmsgConfig) (role : Role) {buf : Nat}
    (hbuf : buf < cfg.buffers) {shm : Nat → UInt8} {call : SendCall} (hnonneg : 0 ≤ call.size)
    (hfits : call.size ≤ capacity) (hheader : HeaderAt shm (cfg.cell buf) call) :
    MessageAt (metalIoBlockWrite (cfg.io role) shm
      ((cfg.io role).virtToOffset (cfg.addr role buf + RPMSG_HDR_SIZE)) call.payload)
      (cfg.cell buf) call := by
  rw [cfg.write_payload role hbuf shm hfits]
  refine ⟨hnonneg, hfits, ?_, ?_⟩
  · rw [HeaderAt, readBytes_writeBytes_of_disjoint (.inl le_rfl)]
    exact hheader
  · have hread := readBytes_writeBytes_self shm (cfg.cell buf + RPMSG_HDR_SIZE) call.payload
    rw [call.length_payload] at hread
    exact hread

/-- Neither write reaches another buffer. -/
theorem RpmsgConfig.header_frame (cfg : RpmsgConfig) (role : Role) {buf n : Nat}
    (hbuf : buf < cfg.buffers) (shm : Nat → UInt8) (call : SendCall) (hne : n ≠ buf) :
    ∀ k < RPMSG_BUFFER_SIZE, metalIoBlockWrite (cfg.io role) shm
      ((cfg.io role).virtToOffset (cfg.addr role buf)) call.rpHdr (cfg.cell n + k) =
        shm (cfg.cell n + k) := by
  intro k hk
  rw [cfg.write_header role hbuf]
  refine cfg.writeBytes_frame shm 0 ?_ hne hk
  rw [call.length_rpHdr]
  decide

theorem RpmsgConfig.payload_frame (cfg : RpmsgConfig) (role : Role) {buf n : Nat}
    (hbuf : buf < cfg.buffers) (shm : Nat → UInt8) {call : SendCall} (hfits : call.size ≤ capacity)
    (hne : n ≠ buf) :
    ∀ k < RPMSG_BUFFER_SIZE, metalIoBlockWrite (cfg.io role) shm
      ((cfg.io role).virtToOffset (cfg.addr role buf + RPMSG_HDR_SIZE)) call.payload
        (cfg.cell n + k) = shm (cfg.cell n + k) := by
  intro k hk
  rw [cfg.write_payload role hbuf shm hfits]
  refine cfg.writeBytes_frame shm _ ?_ hne hk
  rw [call.length_payload]
  simp only [capacity, RPMSG_HDR_SIZE, RPMSG_BUFFER_SIZE] at *
  omega

theorem RpmsgInv.writeHeader (h : RpmsgInv cfg content s view) {i : Nat} {call : SendCall}
    {buffer : RpmsgBuffer} (hsend : (s.device role).sends[i]? = some ⟨call, .taken buffer⟩) :
    RpmsgInv cfg content (s.writeHeader role i call buffer) view := by
  have hmem : buffer ∈ (s.device role).txBuffers :=
    List.mem_filterMap.mpr ⟨_, List.mem_of_getElem? hsend, rfl⟩
  obtain ⟨buf, idx, rfl, hbuf⟩ := h.txBuffer_eq hmem
  let shm := metalIoBlockWrite (cfg.io role) s.shm
    ((cfg.io role).virtToOffset (cfg.addr role buf)) call.rpHdr
  have hshm : RpmsgInv cfg content { s with shm } view := by
    refine h.setShm hsend rfl (fun n hne => ?_) fun _ => trivial
    rw [cfg.number_buffer] at hne
    exact cfg.header_frame role hbuf s.shm call hne
  have hsend' : ({ s with shm }.device role).sends[i]? =
      some ⟨call, .taken (cfg.buffer role buf idx)⟩ := by
    cases role <;> exact hsend
  have hnew := hshm.setSend (.header (cfg.buffer role buf idx)) (s.device role).lock hsend' rfl
    fun _ => (Send.written_header ..).mpr (cfg.headerAt_write role hbuf s.shm call)
  rw [RpmsgSystem.writeHeader, h.io role]
  cases role <;> exact hnew

/-- Without a claim on the contents, a write may go anywhere. -/
theorem RpmsgInv.setShm_of_not (h : RpmsgInv cfg content s view) (hnone : ¬ content)
    (shm : Nat → UInt8) : RpmsgInv cfg content { s with shm } view := by
  refine { h with io := ?_, contents := fun hcontent => absurd hcontent hnone }
  have hio := h.io
  rintro (_ | _)
  exacts [hio .master, hio .slave]

theorem RpmsgInv.payloadShm (h : RpmsgInv cfg content s view) {i : Nat} {call : SendCall}
    {buf idx : Nat} (hbuf : buf < cfg.buffers)
    (hsend : (s.device role).sends[i]? = some ⟨call, .header (cfg.buffer role buf idx)⟩) :
    let shm := metalIoBlockWrite (cfg.io role) s.shm
      ((cfg.io role).virtToOffset (cfg.addr role buf + RPMSG_HDR_SIZE)) call.payload
    RpmsgInv cfg content { s with shm } view ∧
      (content → MessageAt shm (cfg.cell buf) call) := by
  intro shm
  by_cases hcontent : content
  case neg => exact ⟨h.setShm_of_not hcontent shm, fun hyes => absurd hyes hcontent⟩
  obtain ⟨hnonneg, hfits, hold⟩ := (h.contents hcontent).sends role _ (List.mem_of_getElem? hsend)
  rw [Send.written_header] at hold
  have hmessage : MessageAt shm (cfg.cell buf) call :=
    cfg.messageAt_write role hbuf hnonneg hfits hold
  refine ⟨h.setShm hsend rfl (fun n hne => ?_) fun _ => ?_, fun _ => hmessage⟩
  · rw [cfg.number_buffer] at hne
    exact cfg.payload_frame role hbuf s.shm hfits hne
  · rw [Send.written_header]
    exact hmessage.header

theorem RpmsgInv.writePayload (h : RpmsgInv cfg content s view) {i : Nat} {call : SendCall}
    {buffer : RpmsgBuffer} (hsend : (s.device role).sends[i]? = some ⟨call, .header buffer⟩)
    {s' : RpmsgSystem} (hstep : s.writePayload role i call buffer = some s') :
    RpmsgInv cfg content s' view := by
  have hmem : buffer ∈ (s.device role).txBuffers :=
    List.mem_filterMap.mpr ⟨_, List.mem_of_getElem? hsend, rfl⟩
  obtain ⟨buf, idx, rfl, hbuf⟩ := h.txBuffer_eq hmem
  obtain ⟨hshm, hmessage⟩ := h.payloadShm hbuf hsend
  have hsend' : ({ s with
      shm := metalIoBlockWrite (cfg.io role) s.shm
        ((cfg.io role).virtToOffset (cfg.addr role buf + RPMSG_HDR_SIZE))
        call.payload }.device role).sends[i]? =
      some ⟨call, .header (cfg.buffer role buf idx)⟩ := by
    cases role <;> exact hsend
  have hnew := hshm.setSend (.payload (cfg.buffer role buf idx)) (s.device role).lock hsend' rfl
    fun hcontent => (Send.written_payload ..).mpr (hmessage hcontent)
  rw [RpmsgSystem.writePayload, h.io role] at hstep
  split_ifs at hstep
  obtain rfl := Option.some.inj hstep
  cases role <;> exact hnew

end Writes

section SendMoves

variable {cfg : RpmsgConfig} {content : Prop} {s : RpmsgSystem} {view : RpmsgView}

theorem RpmsgInv.poolGetBuffer (h : RpmsgInv cfg content s view) :
    rpmsgVirtioShmPoolGetBuffer s.shpool RPMSG_BUFFER_SIZE =
      if view.allocated < cfg.buffers then
        (cfg.pool (view.allocated + 1), cfg.addr .master view.allocated)
      else (s.shpool, NULL) := by
  rw [h.pool]
  exact cfg.poolGetBuffer_eq h.allocated_le

theorem SendPc.buffer?_taken (buffer : RpmsgBuffer) : (SendPc.taken buffer).buffer? = some buffer :=
  rfl

theorem SendPc.buffer?_payload (buffer : RpmsgBuffer) :
    (SendPc.payload buffer).buffer? = some buffer :=
  rfl

theorem SendPc.buffer?_enqueued : SendPc.enqueued.buffer? = none :=
  rfl

theorem RpmsgDevice.txBuffers_around (device : RpmsgDevice) {i : Nat} {call : SendCall}
    {pc : SendPc} (hsend : device.sends[i]? = some ⟨call, pc⟩) (pc' : SendPc) :
    ∃ front back : List Send, device.sends = front ++ ⟨call, pc⟩ :: back ∧
      device.sends.set i ⟨call, pc'⟩ = front ++ ⟨call, pc'⟩ :: back ∧
      device.txBuffers = front.filterMap (fun send => send.pc.buffer?) ++
        (pc.buffer?.toList ++ back.filterMap fun send => send.pc.buffer?) ∧
      (device.setSend i ⟨call, pc'⟩).txBuffers = front.filterMap (fun send => send.pc.buffer?) ++
        (pc'.buffer?.toList ++ back.filterMap fun send => send.pc.buffer?) := by
  obtain ⟨front, back, hsends, hset, -⟩ := exists_around hsend
  have hcons : ∀ pc, (⟨call, pc⟩ :: back).filterMap (fun send => send.pc.buffer?) =
      pc.buffer?.toList ++ back.filterMap fun send => send.pc.buffer? := by
    intro pc
    rw [List.filterMap_cons]
    cases pc.buffer? <;> rfl
  refine ⟨front, back, hsends, hset _, ?_, ?_⟩
  · rw [RpmsgDevice.txBuffers, hsends, List.filterMap_append, hcons]
  · rw [RpmsgDevice.txBuffers, RpmsgDevice.setSend]
    simp only [hset]
    rw [List.filterMap_append, hcons]

theorem RpmsgInv.gotBuffer_master (h : RpmsgInv cfg content s view) {i : Nat} {call : SendCall}
    {pc : SendPc} (hsend : s.master.sends[i]? = some ⟨call, pc⟩) (hnone : pc.buffer? = none)
    {vring : Vring} {svq : Virtqueue} {shpool : RpmsgVirtioShmPool} {ring1 : SlotView}
    {allocated : Nat} (buf idx : Nat)
    (hring1 : RingInv cfg.ring1 vring svq s.slave.rvq (ring1.ring cfg))
    (hpool : shpool = cfg.pool allocated)
    (hallocated : allocated ≤ cfg.buffers)
    (havail : ring1.avail = view.ring1.avail) (hheld : ring1.held = view.ring1.held)
    (hmove : (buf :: List.range view.allocated ++ ring1.used.map Slot.buf).Perm
      (List.range allocated ++ view.ring1.used.map Slot.buf)) :
    RpmsgInv cfg content
      { s with
        vring1 := vring
        shpool
        master := { s.master with svq, lock := false }.setSend i
          ⟨call, .taken (cfg.buffer .master buf idx)⟩ }
      { view with ring1, allocated } := by
  obtain ⟨front, back, hsends, hset, htx, htx'⟩ :=
    RpmsgDevice.txBuffers_around { s.master with svq, lock := false } hsend
      (.taken (cfg.buffer .master buf idx))
  have htxOld : s.master.txBuffers = _ := htx
  simp only [hnone, SendPc.buffer?_taken, Option.toList_none, Option.toList_some, List.nil_append,
    List.singleton_append] at htxOld htx'
  constructor
  case ring0 => exact h.ring0
  case ring1 => exact hring1
  case io =>
    have hio := h.io
    rintro (_ | _)
    exacts [hio .master, hio .slave]
  case status => exact h.status
  case pool => exact hpool
  case allocated_le => exact hallocated
  case slaveTx => exact h.slaveTx
  case slaveRx =>
    change s.slave.rxBuffers.Perm (ring1.held.map _)
    rw [hheld]
    exact h.slaveRx
  case masterTx =>
    intro buffer hbuffer
    rw [htx', mem_around] at hbuffer
    rcases hbuffer with rfl | hbuffer
    · exact ⟨buf, idx, rfl⟩
    · exact h.masterTx buffer (htxOld ▸ hbuffer)
  case masterRx => exact h.masterRx
  case partition =>
    have hpartition := h.partition
    rw [List.perm_iff_count] at hpartition hmove ⊢
    intro n
    have hold := hpartition n
    have hmoved := hmove n
    have hrx : RpmsgDevice.rxBuffers ({ s.master with svq, lock := false }.setSend i
        ⟨call, .taken (cfg.buffer .master buf idx)⟩) = s.master.rxBuffers := rfl
    simp only [RpmsgView.owned, RpmsgSystem.txNumbers, RpmsgSystem.rxNumbers, RpmsgSystem.device,
      htxOld, htx', hrx, List.count_append, List.map_append, List.map_cons, List.count_cons, havail,
      List.cons_append, cfg.number_buffer] at hold hmoved ⊢
    omega
  case ring0Free => exact h.ring0Free
  case contents =>
    intro hcontent
    refine (h.contents hcontent).move .master rfl rfl rfl rfl ?_ ?_ ?_
    · rintro (_ | _)
      · rfl
      · exact havail
    · simp only [RpmsgSystem.device, RpmsgDevice.setSend]
      rw [hset]
      exact (h.contents hcontent).replaceSend .master hsends trivial
    · exact (h.contents hcontent).reads .master

theorem RpmsgInv.gotBuffer_slave (h : RpmsgInv cfg content s view) {i : Nat} {call : SendCall}
    {pc : SendPc} (hsend : s.slave.sends[i]? = some ⟨call, pc⟩) (hnone : pc.buffer? = none)
    {svq : Virtqueue} {slot : Slot} {avail : List Slot} (hview : view.ring0.avail = slot :: avail)
    (hring0 : RingInv cfg.ring0 s.vring0 s.master.rvq svq (view.ring0.take.ring cfg)) :
    RpmsgInv cfg content
      { s with
        slave := { s.slave with svq, lock := false }.setSend i
          ⟨call, .taken (cfg.buffer .slave slot.buf slot.head)⟩ }
      { view with ring0 := view.ring0.take } := by
  obtain ⟨front, back, hsends, hset, htx, htx'⟩ :=
    RpmsgDevice.txBuffers_around { s.slave with svq, lock := false } hsend
      (.taken (cfg.buffer .slave slot.buf slot.head))
  have htxOld : s.slave.txBuffers = _ := htx
  simp only [hnone, SendPc.buffer?_taken, Option.toList_none, Option.toList_some, List.nil_append,
    List.singleton_append] at htxOld htx'
  constructor
  case ring0 => exact hring0
  case ring1 => exact h.ring1
  case io =>
    have hio := h.io
    rintro (_ | _)
    exacts [hio .master, hio .slave]
  case status => exact h.status
  case pool => exact h.pool
  case allocated_le => exact h.allocated_le
  case slaveTx =>
    have hold := h.slaveTx
    rw [htxOld] at hold
    rw [htx']
    simp only [SlotView.take, hview, List.head?_cons, Option.toList_some, List.map_append,
      List.map_cons, List.map_nil]
    refine List.perm_middle.trans (List.Perm.trans (hold.cons _) ?_)
    exact (List.perm_append_singleton _ _).symm
  case slaveRx => exact h.slaveRx
  case masterTx => exact h.masterTx
  case masterRx => exact h.masterRx
  case partition =>
    have hpartition := h.partition
    rw [List.perm_iff_count] at hpartition ⊢
    intro n
    have hold := hpartition n
    have hrx : RpmsgDevice.rxBuffers ({ s.slave with svq, lock := false }.setSend i
        ⟨call, .taken (cfg.buffer .slave slot.buf slot.head)⟩) = s.slave.rxBuffers := rfl
    simp only [RpmsgView.owned, RpmsgSystem.txNumbers, RpmsgSystem.rxNumbers, RpmsgSystem.device,
      htxOld, htx', hrx, SlotView.take, hview, List.tail_cons, List.count_append, List.map_append,
      List.map_cons, List.count_cons, cfg.number_buffer] at hold ⊢
    omega
  case ring0Free => exact h.ring0Free
  case contents =>
    intro hcontent
    refine (h.contents hcontent).move .slave rfl rfl rfl rfl ?_ ?_ ?_
    · rintro (_ | _) <;> rfl
    · simp only [RpmsgSystem.device, RpmsgDevice.setSend]
      rw [hset]
      exact (h.contents hcontent).replaceSend .slave hsends trivial
    · exact (h.contents hcontent).reads .slave

theorem RpmsgInv.takeUsed (h : RpmsgInv cfg content s view) {i : Nat} {call : SendCall}
    {tickCount : Nat} {availSize : Int}
    (hsend : s.master.sends[i]? = some ⟨call, .tested tickCount availSize⟩) {slot : Slot}
    {used : List Slot} (hview : view.ring1.used = slot :: used) :
    ∃ s', s.takeBuffer .master i call tickCount availSize = some s' ∧
      RpmsgInv cfg content s' { view with ring1 := view.ring1.reclaim } := by
  obtain ⟨vring, svq, idx, hget, hring1⟩ := h.ring1.masterGetBuffer hview
  refine ⟨_, ?_, h.gotBuffer_master hsend rfl slot.buf idx hring1 h.pool h.allocated_le
    rfl rfl ?_⟩
  · simp only [RpmsgSystem.takeBuffer, RpmsgSystem.device, RpmsgSystem.sendRing,
      rpmsgVirtioGetTxBuffer, hget, Option.bind_eq_bind, Option.bind_some]
    rfl
  · rw [SlotView.reclaim, hview]
    exact List.perm_middle.symm

theorem RpmsgInv.takeFresh (h : RpmsgInv cfg content s view) {i : Nat} {call : SendCall}
    {tickCount : Nat} {availSize : Int}
    (hsend : s.master.sends[i]? = some ⟨call, .tested tickCount availSize⟩)
    (hview : view.ring1.used = []) (hleft : view.allocated < cfg.buffers) :
    ∃ s', s.takeBuffer .master i call tickCount availSize = some s' ∧
      s'.master.sends = s.master.sends.set i
        ⟨call, .taken (cfg.buffer .master view.allocated 0)⟩ ∧
      s'.master.lock = false ∧
      RpmsgInv cfg content s' { view with allocated := view.allocated + 1 } := by
  have hget := h.ring1.masterGetBuffer_nil hview
  have hpool := h.poolGetBuffer
  rw [if_pos hleft] at hpool
  refine ⟨_, ?_, ?_, ?_, h.gotBuffer_master hsend rfl view.allocated 0 h.ring1 rfl hleft
    rfl rfl ?_⟩
  · simp only [RpmsgSystem.takeBuffer, RpmsgSystem.device, RpmsgSystem.sendRing,
      rpmsgVirtioGetTxBuffer, hget, hpool, if_neg (cfg.addr_ne_null .master view.allocated),
      Option.bind_eq_bind, Option.bind_some]
    rfl
  · rfl
  · rfl
  · rw [List.range_succ, List.append_assoc]
    exact List.perm_middle.symm

theorem RpmsgInv.takeNone (h : RpmsgInv cfg content s view) {i : Nat} {call : SendCall}
    {tickCount : Nat} {availSize : Int} (hview : view.ring1.used = [])
    (hleft : ¬ view.allocated < cfg.buffers) :
    s.takeBuffer .master i call tickCount availSize =
      some (s.setDevice
        (if tickCount = 0 then
          { s.master with lock := false }.finish i call RPMSG_ERR_NO_BUFF
        else if availSize ≠ 0 then
          { s.master with lock := false }.finish i call RPMSG_ERR_BUFF_SIZE
        else { s.master with lock := false }.setSend i ⟨call, .loop (tickCount - 1)⟩) .master) := by
  have hget := h.ring1.masterGetBuffer_nil hview
  have hpool := h.poolGetBuffer
  rw [if_neg hleft] at hpool
  simp only [RpmsgSystem.takeBuffer, RpmsgSystem.device, RpmsgSystem.sendRing,
    rpmsgVirtioGetTxBuffer, hget, hpool, if_true, Option.bind_eq_bind, Option.bind_some]
  split_ifs <;> rfl

theorem RpmsgInv.leaveRound (h : RpmsgInv cfg content s view) (role : Role) {i : Nat}
    {call : SendCall} {tickCount : Nat} {availSize : Int}
    (hsend : (s.device role).sends[i]? = some ⟨call, .tested tickCount availSize⟩) :
    RpmsgInv cfg content (s.setDevice
        (if tickCount = 0 then
          { s.device role with lock := false }.finish i call RPMSG_ERR_NO_BUFF
        else if availSize ≠ 0 then
          { s.device role with lock := false }.finish i call RPMSG_ERR_BUFF_SIZE
        else { s.device role with lock := false }.setSend i ⟨call, .loop (tickCount - 1)⟩) role)
      view := by
  split_ifs
  · exact h.finish _ hsend rfl _
  · exact h.finish _ hsend rfl _
  · exact h.setSend _ _ hsend rfl fun _ => trivial

theorem RpmsgInv.takeBuffer_master (h : RpmsgInv cfg content s view) {i : Nat} {call : SendCall}
    {tickCount : Nat} {availSize : Int}
    (hsend : s.master.sends[i]? = some ⟨call, .tested tickCount availSize⟩) :
    ∃ s' view', s.takeBuffer .master i call tickCount availSize = some s' ∧
      RpmsgInv cfg content s' view' := by
  cases hused : view.ring1.used with
  | cons slot used =>
      obtain ⟨s', hstep, hinv⟩ := h.takeUsed hsend hused
      exact ⟨s', _, hstep, hinv⟩
  | nil =>
      by_cases hleft : view.allocated < cfg.buffers
      · obtain ⟨s', hstep, -, -, hinv⟩ := h.takeFresh hsend hused hleft
        exact ⟨s', _, hstep, hinv⟩
      · exact ⟨_, view, h.takeNone hused hleft, h.leaveRound .master hsend⟩

theorem RpmsgInv.takeAvail (h : RpmsgInv cfg content s view) {i : Nat} {call : SendCall}
    {tickCount : Nat} {availSize : Int}
    (hsend : s.slave.sends[i]? = some ⟨call, .tested tickCount availSize⟩)
    (havail : view.ring0.avail ≠ []) :
    ∃ (s' : RpmsgSystem) (view' : RpmsgView) (slot : Slot),
      s.takeBuffer .slave i call tickCount availSize = some s' ∧
      s'.slave.sends = s.slave.sends.set i
        ⟨call, .taken (cfg.buffer .slave slot.buf slot.head)⟩ ∧
      RpmsgInv cfg content s' view' := by
  obtain ⟨slot, avail, havail⟩ := List.exists_cons_of_ne_nil havail
  have hbuf : slot.buf < cfg.buffers := by
    refine h.owned_lt ?_
    simp [RpmsgView.owned, havail]
  obtain ⟨svq, hget, hring0⟩ := h.ring0.slaveGetBuffer rfl havail hbuf
  refine ⟨_, _, slot, ?_, ?_, h.gotBuffer_slave hsend rfl havail hring0⟩
  · simp only [RpmsgSystem.takeBuffer, RpmsgSystem.device, RpmsgSystem.sendRing,
      rpmsgVirtioGetTxBuffer, hget, Option.bind_eq_bind, Option.bind_some]
    rfl
  · rfl

theorem RpmsgInv.takeBuffer_slave (h : RpmsgInv cfg content s view) {i : Nat} {call : SendCall}
    {tickCount : Nat} {availSize : Int}
    (hsend : s.slave.sends[i]? = some ⟨call, .tested tickCount availSize⟩) :
    ∃ s' view', s.takeBuffer .slave i call tickCount availSize = some s' ∧
      RpmsgInv cfg content s' view' := by
  by_cases havail : view.ring0.avail = []
  · refine ⟨_, view, ?_, h.leaveRound .slave hsend⟩
    simp only [RpmsgSystem.takeBuffer, RpmsgSystem.device, RpmsgSystem.sendRing,
      rpmsgVirtioGetTxBuffer, h.ring0.slaveGetBuffer_nil havail, Option.bind_eq_bind,
      Option.bind_some]
    split_ifs <;> rfl
  · obtain ⟨s', view', slot, htake, -, hinv⟩ := h.takeAvail hsend havail
    exact ⟨s', view', htake, hinv⟩

theorem toInt32_bufferSize : toInt32 RPMSG_BUFFER_SIZE = RPMSG_BUFFER_SIZE := by
  decide

/-- The master posts a message; it needs a free descriptor. -/
theorem RpmsgInv.enqueue_master (h : RpmsgInv cfg content s view) {i : Nat} {call : SendCall}
    {buffer : RpmsgBuffer} (hsend : s.master.sends[i]? = some ⟨call, .payload buffer⟩)
    (hroom : view.ring1.free ≠ []) :
    ∃ s' head, s.enqueue .master i call buffer = some s' ∧
      s'.master.sends = s.master.sends.set i ⟨call, .enqueued⟩ ∧
      RpmsgInv cfg content s'
        { view with ring1 := view.ring1.post ⟨head, cfg.number .master buffer⟩ } := by
  have hmem : buffer ∈ s.master.txBuffers :=
    List.mem_filterMap.mpr ⟨_, List.mem_of_getElem? hsend, rfl⟩
  obtain ⟨buf, idx, rfl⟩ := h.masterTx buffer hmem
  obtain ⟨vring, svq, head, hcall, hring1⟩ :=
    h.ring1.postSlot rfl hroom buf 1 0 rfl
  obtain ⟨front, back, hsends, hset, htx, htx'⟩ :=
    RpmsgDevice.txBuffers_around
      { s.master with svq, lock := true, sent := s.master.sent ++ [call] } hsend
      .enqueued
  have htxOld : s.master.txBuffers = _ := htx
  simp only [SendPc.buffer?_payload, SendPc.buffer?_enqueued, Option.toList_none,
    Option.toList_some, List.nil_append, List.singleton_append] at htxOld htx'
  refine ⟨{ s with
    vring1 := vring
    master := { s.master with svq, lock := true, sent := s.master.sent ++ [call] }.setSend i
      ⟨call, .enqueued⟩ }, head, ?_, rfl, ?_⟩
  · simp only [RpmsgSystem.enqueue, RpmsgSystem.device, RpmsgSystem.sendRing,
      rpmsgVirtioEnqueueBuffer, RpmsgConfig.buffer, toInt32_bufferSize, hcall, ne_eq,
      not_true_eq_false, if_false]
    rfl
  rw [cfg.number_buffer]
  constructor
  case ring0 => exact h.ring0
  case ring1 => exact hring1
  case io =>
    have hio := h.io
    rintro (_ | _)
    exacts [hio .master, hio .slave]
  case status => exact h.status
  case pool => exact h.pool
  case allocated_le => exact h.allocated_le
  case slaveTx => exact h.slaveTx
  case slaveRx => exact h.slaveRx
  case masterTx =>
    intro buffer hbuffer
    rw [htx'] at hbuffer
    refine h.masterTx buffer ?_
    rw [htxOld]
    exact mem_around.mpr (.inr hbuffer)
  case masterRx => exact h.masterRx
  case partition =>
    have hpartition := h.partition
    rw [List.perm_iff_count] at hpartition ⊢
    intro n
    have hold := hpartition n
    have hrx : RpmsgDevice.rxBuffers
        ({ s.master with svq, lock := true, sent := s.master.sent ++ [call] }.setSend i
          ⟨call, .enqueued⟩) = s.master.rxBuffers := rfl
    simp only [RpmsgView.owned, RpmsgSystem.txNumbers, RpmsgSystem.rxNumbers, RpmsgSystem.device,
      htxOld, htx', hrx, SlotView.post, List.count_append, List.map_append, List.map_cons,
      List.map_nil, List.count_cons, List.count_nil, cfg.number_buffer] at hold ⊢
    omega
  case ring0Free => exact h.ring0Free
  case contents =>
    intro hcontent
    have hmessage := ((h.contents hcontent).sends .master _ (List.mem_of_getElem? hsend)).written
    rw [Send.written_payload] at hmessage
    refine (h.contents hcontent).send .master call ⟨head, buf⟩ rfl rfl
      rfl rfl rfl rfl hmessage ?_ rfl
    simp only [RpmsgSystem.device, RpmsgDevice.setSend]
    rw [hset]
    exact (h.contents hcontent).replaceSend .master hsends trivial

theorem RpmsgInv.enqueue_slave (h : RpmsgInv cfg content s view) {i : Nat} {call : SendCall}
    {buffer : RpmsgBuffer} (hsend : s.slave.sends[i]? = some ⟨call, .payload buffer⟩) :
    ∃ s' head held, s.enqueue .slave i call buffer = some s' ∧
      RpmsgInv cfg content s'
        { view with ring0 := view.ring0.giveBack ⟨head, cfg.number .slave buffer⟩ held } := by
  have hmem : buffer ∈ s.slave.txBuffers :=
    List.mem_filterMap.mpr ⟨_, List.mem_of_getElem? hsend, rfl⟩
  obtain ⟨slot, hslot, rfl⟩ := List.mem_map.mp (h.slaveTx.subset hmem)
  obtain ⟨heldFront, heldBack, hheld⟩ := List.append_of_mem hslot
  obtain ⟨vring, svq, hcall, hring0⟩ := h.ring0.giveBackSlot hheld
  obtain ⟨front, back, hsends, hset, htx, htx'⟩ :=
    RpmsgDevice.txBuffers_around
      { s.slave with svq, lock := true, sent := s.slave.sent ++ [call] } hsend
      .enqueued
  have htxOld : s.slave.txBuffers = _ := htx
  simp only [SendPc.buffer?_payload, SendPc.buffer?_enqueued, Option.toList_none,
    Option.toList_some, List.nil_append, List.singleton_append] at htxOld htx'
  refine ⟨{ s with
    vring0 := vring
    slave := { s.slave with svq, lock := true, sent := s.slave.sent ++ [call] }.setSend i
      ⟨call, .enqueued⟩ }, slot.head, heldFront ++ heldBack, ?_, ?_⟩
  · simp only [RpmsgSystem.enqueue, RpmsgSystem.device, RpmsgSystem.sendRing,
      rpmsgVirtioEnqueueBuffer, RpmsgConfig.buffer, hcall, ne_eq, not_true_eq_false, if_false]
    rfl
  rw [cfg.number_buffer]
  constructor
  case ring0 => exact hring0
  case ring1 => exact h.ring1
  case io =>
    have hio := h.io
    rintro (_ | _)
    exacts [hio .master, hio .slave]
  case status => exact h.status
  case pool => exact h.pool
  case allocated_le => exact h.allocated_le
  case slaveTx =>
    have hold := h.slaveTx
    rw [htxOld, hheld, List.map_append, List.map_cons] at hold
    rw [htx']
    simp only [SlotView.giveBack, List.map_append]
    exact (List.perm_middle.symm.trans (hold.trans List.perm_middle)).cons_inv
  case slaveRx => exact h.slaveRx
  case masterTx => exact h.masterTx
  case masterRx => exact h.masterRx
  case partition =>
    have hpartition := h.partition
    rw [List.perm_iff_count] at hpartition ⊢
    intro n
    have hold := hpartition n
    have hrx : RpmsgDevice.rxBuffers
        ({ s.slave with svq, lock := true, sent := s.slave.sent ++ [call] }.setSend i
          ⟨call, .enqueued⟩) = s.slave.rxBuffers := rfl
    simp only [RpmsgView.owned, RpmsgSystem.txNumbers, RpmsgSystem.rxNumbers, RpmsgSystem.device,
      htxOld, htx', hrx, SlotView.giveBack, List.count_append, List.map_append, List.map_cons,
      List.map_nil, List.count_cons, List.count_nil, cfg.number_buffer] at hold ⊢
    omega
  case ring0Free => exact h.ring0Free
  case contents =>
    intro hcontent
    have hmessage := ((h.contents hcontent).sends .slave _ (List.mem_of_getElem? hsend)).written
    rw [Send.written_payload] at hmessage
    refine (h.contents hcontent).send .slave call slot rfl rfl
      rfl rfl rfl rfl hmessage ?_ rfl
    simp only [RpmsgSystem.device, RpmsgDevice.setSend]
    rw [hset]
    exact (h.contents hcontent).replaceSend .slave hsends trivial

end SendMoves

section ReceiveMoves

variable {cfg : RpmsgConfig} {content : Prop} {s : RpmsgSystem} {view : RpmsgView}

theorem RpmsgInv.received_master (h : RpmsgInv cfg content s view) {vring : Vring} {rvq : Virtqueue}
    {lock : Bool} {receives : List RxPc} {slot : Slot} {used : List Slot} {idx : Nat}
    (hview : view.ring0.used = slot :: used)
    (hring0 : RingInv cfg.ring0 vring rvq s.slave.svq (view.ring0.reclaim.ring cfg))
    (hrx : (receives.filterMap RxPc.buffer?).Perm
      (cfg.buffer .master slot.buf idx :: s.master.rxBuffers))
    (hreceives : ∀ pc ∈ receives, pc ∈ s.master.receives ∨
      pc = .handling (cfg.buffer .master slot.buf idx) s.master.received.length) :
    RpmsgInv cfg content
      { s with
        vring0 := vring
        master := { s.master with rvq, lock, receives }.receive s.shm
          (cfg.buffer .master slot.buf idx) }
      { view with ring0 := view.ring0.reclaim } := by
  have hbuf : slot.buf < cfg.buffers := by
    refine h.owned_lt ?_
    simp [RpmsgView.owned, hview]
  have hrx' : RpmsgDevice.rxBuffers ({ s.master with rvq, lock, receives }.receive s.shm
      (cfg.buffer .master slot.buf idx)) = receives.filterMap RxPc.buffer? := rfl
  have htx' : RpmsgDevice.txBuffers ({ s.master with rvq, lock, receives }.receive s.shm
      (cfg.buffer .master slot.buf idx)) = s.master.txBuffers := rfl
  constructor
  case ring0 => exact hring0
  case ring1 => exact h.ring1
  case io =>
    have hio := h.io
    rintro (_ | _)
    exacts [hio .master, hio .slave]
  case status => exact h.status
  case pool => exact h.pool
  case allocated_le => exact h.allocated_le
  case slaveTx => exact h.slaveTx
  case slaveRx => exact h.slaveRx
  case masterTx => exact h.masterTx
  case masterRx =>
    intro buffer hbuffer
    rcases List.mem_cons.mp (hrx.subset hbuffer) with rfl | hold
    · exact ⟨slot.buf, idx, rfl⟩
    · exact h.masterRx buffer hold
  case partition =>
    have hpartition := h.partition
    have hnumbers := hrx.map (cfg.number .master)
    rw [List.perm_iff_count] at hpartition hnumbers ⊢
    intro n
    have hold := hpartition n
    have hmoved := hnumbers n
    simp only [RpmsgView.owned, RpmsgSystem.txNumbers, RpmsgSystem.rxNumbers, RpmsgSystem.device,
      htx', hrx', SlotView.reclaim, hview, List.tail_cons, List.count_append, List.map_cons,
      List.count_cons, cfg.number_buffer] at hold hmoved ⊢
    omega
  case ring0Free =>
    have hfree := h.ring0Free
    have hlen := hrx.length_eq
    rw [List.length_cons] at hlen
    simp only [hrx', hlen, SlotView.reclaim, hview, List.head?_cons, Option.map_some,
      Option.toList_some, List.length_append, List.length_singleton]
    omega
  case contents =>
    intro hcontent
    refine (h.contents hcontent).receive .master slot rfl rfl rfl
      hview hbuf ?_ ?_ rfl rfl hreceives
    · have hio : s.master.shbufIo = cfg.io .master := h.io .master
      simp only [RpmsgSystem.device, RpmsgDevice.receive, hio]
      rfl
    · simp only [RpmsgView.pending, SlotView.reclaim, hview, List.tail_cons]

theorem RpmsgInv.received_slave (h : RpmsgInv cfg content s view) {rvq : Virtqueue}
    {lock : Bool} {receives : List RxPc} {slot : Slot} {avail : List Slot}
    (hview : view.ring1.avail = slot :: avail)
    (hring1 : RingInv cfg.ring1 s.vring1 s.master.svq rvq (view.ring1.take.ring cfg))
    (hrx : (receives.filterMap RxPc.buffer?).Perm
      (cfg.buffer .slave slot.buf slot.head :: s.slave.rxBuffers))
    (hreceives : ∀ pc ∈ receives, pc ∈ s.slave.receives ∨
      pc = .handling (cfg.buffer .slave slot.buf slot.head) s.slave.received.length) :
    RpmsgInv cfg content
      { s with
        slave := { s.slave with rvq, lock, receives }.receive s.shm
          (cfg.buffer .slave slot.buf slot.head) }
      { view with ring1 := view.ring1.take } := by
  have hbuf : slot.buf < cfg.buffers := by
    refine h.owned_lt ?_
    simp [RpmsgView.owned, hview]
  have hrx' : RpmsgDevice.rxBuffers ({ s.slave with rvq, lock, receives }.receive s.shm
      (cfg.buffer .slave slot.buf slot.head)) = receives.filterMap RxPc.buffer? := rfl
  have htx' : RpmsgDevice.txBuffers ({ s.slave with rvq, lock, receives }.receive s.shm
      (cfg.buffer .slave slot.buf slot.head)) = s.slave.txBuffers := rfl
  constructor
  case ring0 => exact h.ring0
  case ring1 => exact hring1
  case io =>
    have hio := h.io
    rintro (_ | _)
    exacts [hio .master, hio .slave]
  case status => exact h.status
  case pool => exact h.pool
  case allocated_le => exact h.allocated_le
  case slaveTx => exact h.slaveTx
  case slaveRx =>
    rw [hrx']
    simp only [SlotView.take, hview, List.head?_cons, Option.toList_some, List.map_append,
      List.map_cons, List.map_nil]
    exact (hrx.trans (h.slaveRx.cons _)).trans (List.perm_append_singleton _ _).symm
  case masterTx => exact h.masterTx
  case masterRx => exact h.masterRx
  case partition =>
    have hpartition := h.partition
    have hnumbers := hrx.map (cfg.number .slave)
    rw [List.perm_iff_count] at hpartition hnumbers ⊢
    intro n
    have hold := hpartition n
    have hmoved := hnumbers n
    simp only [RpmsgView.owned, RpmsgSystem.txNumbers, RpmsgSystem.rxNumbers, RpmsgSystem.device,
      htx', hrx', SlotView.take, hview, List.tail_cons, List.count_append, List.map_cons,
      List.count_cons, cfg.number_buffer] at hold hmoved ⊢
    omega
  case ring0Free => exact h.ring0Free
  case contents =>
    intro hcontent
    refine (h.contents hcontent).receive .slave slot rfl rfl rfl
      hview hbuf ?_ ?_ rfl rfl hreceives
    · have hio : s.slave.shbufIo = cfg.io .slave := h.io .slave
      simp only [RpmsgSystem.device, RpmsgDevice.receive, hio]
      rfl
    · simp only [RpmsgView.pending, SlotView.take, hview, List.tail_cons]

theorem RpmsgInv.getRxBuffer (h : RpmsgInv cfg content s view) (role : Role) :
    (view.pending role = [] ∧
      rpmsgVirtioGetRxBuffer role (s.receiveRing role) (s.device role).rvq =
        some (s.receiveRing role, (s.device role).rvq, none)) ∨
    ∃ (slot : Slot) (rest : List Slot) (idx : Nat) (vring : Vring) (rvq : Virtqueue)
      (view' : RpmsgView), view.pending role = slot :: rest ∧
      rpmsgVirtioGetRxBuffer role (s.receiveRing role) (s.device role).rvq =
        some (vring, rvq, some (cfg.buffer role slot.buf idx)) ∧
      ∀ (lock : Bool) (receives : List RxPc),
        (receives.filterMap RxPc.buffer?).Perm
          (cfg.buffer role slot.buf idx :: (s.device role).rxBuffers) →
        (∀ pc ∈ receives, pc ∈ (s.device role).receives ∨
          pc = .handling (cfg.buffer role slot.buf idx) (s.device role).received.length) →
        RpmsgInv cfg content
          ((s.setReceiveRing vring role).setDevice
            ({ s.device role with rvq, lock, receives }.receive s.shm
              (cfg.buffer role slot.buf idx)) role) view' := by
  cases role with
  | master =>
      cases hused : view.ring0.used with
      | nil => exact .inl ⟨hused, h.ring0.masterGetBuffer_nil hused⟩
      | cons slot used =>
          obtain ⟨vring, rvq, idx, hget, hring0⟩ := h.ring0.masterGetBuffer hused
          exact .inr ⟨slot, used, idx, vring, rvq, _, hused, hget,
            fun _ _ hrx hreceives => h.received_master hused hring0 hrx hreceives⟩
  | slave =>
      cases havail : view.ring1.avail with
      | nil =>
          refine .inl ⟨havail, ?_⟩
          simp only [rpmsgVirtioGetRxBuffer, RpmsgSystem.receiveRing, RpmsgSystem.device,
            h.ring1.slaveGetBuffer_nil havail]
      | cons slot avail =>
          have hbuf : slot.buf < cfg.buffers := by
            refine h.owned_lt ?_
            simp [RpmsgView.owned, havail]
          obtain ⟨rvq, hget, hring1⟩ := h.ring1.slaveGetBuffer rfl havail hbuf
          refine .inr ⟨slot, avail, slot.head, s.vring1, rvq, _, havail, ?_,
            fun _ _ hrx hreceives => h.received_slave havail hring1 hrx hreceives⟩
          simp only [rpmsgVirtioGetRxBuffer, RpmsgSystem.receiveRing, RpmsgSystem.device, hget]

theorem RpmsgSystem.setDevice_device (s : RpmsgSystem) (role : Role) :
    (s.setReceiveRing (s.receiveRing role) role).setDevice (s.device role) role = s := by
  cases role <;> rfl

theorem RpmsgInv.rxCallback (h : RpmsgInv cfg content s view) (role : Role) :
    ∃ s' view', s.rxCallback role = some s' ∧ RpmsgInv cfg content s' view' := by
  rcases h.getRxBuffer role with ⟨-, hget⟩ | ⟨slot, rest, idx, vring, rvq, view', -, hget, hinv⟩
  · refine ⟨s, view, ?_, h⟩
    simp only [RpmsgSystem.rxCallback, hget, Option.bind_eq_bind, Option.bind_some]
    rw [show ({ s.device role with rvq := (s.device role).rvq } : RpmsgDevice) = s.device role
      from rfl, RpmsgSystem.setDevice_device]
  · refine ⟨_, view', ?_, hinv (s.device role).lock
      ((s.device role).receives ++
        [.handling (cfg.buffer role slot.buf idx) (s.device role).received.length]) ?_ ?_⟩
    · simp only [RpmsgSystem.rxCallback, hget, Option.bind_eq_bind, Option.bind_some]
      cases role <;> rfl
    · rw [List.filterMap_append]
      exact List.perm_append_singleton _ _
    · intro pc hpc
      rcases List.mem_append.mp hpc with hold | hnew
      · exact .inl hold
      · exact .inr (List.mem_singleton.mp hnew)

theorem RpmsgInv.endReceive (h : RpmsgInv cfg content s view) {role : Role} {i : Nat}
    (hreceive : (s.device role).receives[i]? = some .returned) :
    RpmsgInv cfg content
      (s.setDevice
        { s.device role with
          rvq := (virtqueueKick (s.receiveRing role) (s.device role).rvq).1
          lock := false
          receives := (s.device role).receives.eraseIdx i } role) view := by
  obtain ⟨front, back, hreceives, -, herase⟩ := exists_around hreceive
  have hrx : ((s.device role).receives.eraseIdx i).filterMap RxPc.buffer? =
      (s.device role).rxBuffers := by
    rw [RpmsgDevice.rxBuffers, hreceives, ← hreceives, herase, hreceives, List.filterMap_append,
      List.filterMap_append, List.filterMap_cons]
    rfl
  have hcontents : content → RpmsgContent cfg (s.setDevice
      { s.device role with
        rvq := (virtqueueKick (s.receiveRing role) (s.device role).rvq).1
        lock := false
        receives := (s.device role).receives.eraseIdx i } role) view := by
    intro hcontent
    refine (h.contents hcontent).move role ?_ ?_ ?_ ?_ (fun _ => rfl) ?_ ?_ <;>
      simp only [RpmsgSystem.device_setDevice_self, RpmsgSystem.device_setDevice_peer,
        RpmsgSystem.shm_setDevice]
    · exact (h.contents hcontent).sends role
    · intro pc hpc
      exact (h.contents hcontent).reads role pc (List.mem_of_mem_eraseIdx hpc)
  have hio := h.io
  cases role with
  | master =>
      refine { h with
        ring0 := h.ring0.masterKick
        io := ?_
        masterRx := ?_
        partition := ?_
        ring0Free := ?_
        contents := hcontents }
      · rintro (_ | _)
        exacts [hio .master, hio .slave]
      · intro buffer hbuffer
        exact h.masterRx buffer (hrx ▸ hbuffer)
      · refine List.Perm.trans (List.Perm.of_eq ?_) h.partition
        exact congrArg (_ ++ List.map (cfg.number .master) ·) hrx
      · exact h.ring0Free.trans (congrArg List.length hrx.symm)
  | slave =>
      refine { h with
        ring1 := h.ring1.slaveKick
        io := ?_
        slaveRx := ?_
        partition := ?_
        contents := hcontents }
      · rintro (_ | _)
        exacts [hio .master, hio .slave]
      · exact (List.Perm.of_eq hrx).trans h.slaveRx
      · refine List.Perm.trans (List.Perm.of_eq ?_) h.partition
        exact congrArg (_ ++ List.map (cfg.number .slave) · ++ _ ++ _) hrx

theorem RpmsgInv.nextBuffer (h : RpmsgInv cfg content s view) {role : Role} {i : Nat}
    (hreceive : (s.device role).receives[i]? = some .returned) :
    ∃ s' view', s.nextBuffer role i = some s' ∧ RpmsgInv cfg content s' view' := by
  rcases h.getRxBuffer role with ⟨-, hget⟩ | ⟨slot, rest, idx, vring, rvq, view', -, hget, hinv⟩
  · refine ⟨_, view, ?_, h.endReceive hreceive⟩
    simp only [RpmsgSystem.nextBuffer, hget, Option.bind_eq_bind, Option.bind_some]
    cases role <;> rfl
  · obtain ⟨front, back, hreceives, hset, -⟩ := exists_around hreceive
    refine ⟨_, view', ?_, hinv false
      ((s.device role).receives.set i
        (.handling (cfg.buffer role slot.buf idx) (s.device role).received.length)) ?_ ?_⟩
    · simp only [RpmsgSystem.nextBuffer, hget, Option.bind_eq_bind, Option.bind_some]
      cases role <;> rfl
    · rw [hset, RpmsgDevice.rxBuffers, hreceives, List.filterMap_append, List.filterMap_append,
        List.filterMap_cons, List.filterMap_cons]
      exact List.perm_middle
    · intro pc hpc
      rw [hset, mem_around] at hpc
      rcases hpc with rfl | hold
      · exact .inr rfl
      · rw [hreceives]
        exact .inl (mem_around.mpr (.inr hold))

theorem RpmsgDevice.rxBuffers_around {device : RpmsgDevice} {i position : Nat}
    {buffer : RpmsgBuffer} (hreceive : device.receives[i]? = some (.handling buffer position)) :
    ∃ front back, device.rxBuffers = front ++ buffer :: back ∧
      (device.receives.set i .returned).filterMap RxPc.buffer? = front ++ back ∧
      ∀ pc ∈ device.receives.set i .returned, pc = .returned ∨ pc ∈ device.receives := by
  obtain ⟨front, back, hreceives, hset, -⟩ := exists_around hreceive
  refine ⟨front.filterMap RxPc.buffer?, back.filterMap RxPc.buffer?, ?_, ?_, ?_⟩
  · rw [RpmsgDevice.rxBuffers, hreceives, List.filterMap_append, List.filterMap_cons]
    rfl
  · rw [hset, List.filterMap_append, List.filterMap_cons]
    rfl
  · intro pc hpc
    rw [hset, mem_around] at hpc
    rw [hreceives]
    exact hpc.imp id fun hold => mem_around.mpr (.inr hold)

/-- The master posts a buffer it has read. There is a free descriptor, the one the buffer had. -/
theorem RpmsgInv.returnBuffer_master (h : RpmsgInv cfg content s view) {i position : Nat}
    {buffer : RpmsgBuffer}
    (hreceive : s.master.receives[i]? = some (.handling buffer position)) :
    ∃ view', RpmsgInv cfg content (s.returnBuffer .master i buffer) view' := by
  obtain ⟨front, back, hrx, hrx', hmem⟩ := RpmsgDevice.rxBuffers_around hreceive
  have hheld : buffer ∈ s.master.rxBuffers := by
    rw [hrx]
    exact List.mem_append_cons_self
  obtain ⟨buf, idx, rfl⟩ := h.masterRx buffer hheld
  have hlen := h.ring0Free
  rw [hrx, List.length_append, List.length_cons] at hlen
  have hroom : view.ring0.free ≠ [] := List.length_pos_iff.mp (by omega)
  obtain ⟨vring, rvq, head, hcall, hring0⟩ :=
    h.ring0.postSlot rfl hroom buf 0 1 rfl
  refine ⟨{ view with ring0 := view.ring0.post ⟨head, buf⟩ }, ?_⟩
  have hstep : s.returnBuffer .master i (cfg.buffer .master buf idx) =
      { s with
        vring0 := vring
        master := { s.master with
          rvq
          lock := true
          receives := s.master.receives.set i .returned } } := by
    simp only [RpmsgSystem.returnBuffer, RpmsgSystem.device, RpmsgSystem.receiveRing,
      rpmsgVirtioReturnBuffer, RpmsgConfig.buffer, toInt32_bufferSize, hcall]
    rfl
  rw [hstep]
  constructor
  case ring0 => exact hring0
  case ring1 => exact h.ring1
  case io =>
    have hio := h.io
    rintro (_ | _)
    exacts [hio .master, hio .slave]
  case status => exact h.status
  case pool => exact h.pool
  case allocated_le => exact h.allocated_le
  case slaveTx => exact h.slaveTx
  case slaveRx => exact h.slaveRx
  case masterTx => exact h.masterTx
  case masterRx =>
    intro buffer hbuffer
    rw [RpmsgDevice.rxBuffers, hrx'] at hbuffer
    refine h.masterRx buffer ?_
    rw [hrx]
    exact mem_around.mpr (.inr hbuffer)
  case partition =>
    have hpartition := h.partition
    rw [List.perm_iff_count] at hpartition ⊢
    intro n
    have hold := hpartition n
    have hnew : RpmsgDevice.rxBuffers { s.master with
        rvq
        lock := true
        receives := s.master.receives.set i .returned } = front ++ back := hrx'
    have htx : RpmsgDevice.txBuffers { s.master with
        rvq
        lock := true
        receives := s.master.receives.set i .returned } = s.master.txBuffers := rfl
    simp only [RpmsgView.owned, RpmsgSystem.txNumbers, RpmsgSystem.rxNumbers, RpmsgSystem.device,
      hrx, hnew, htx, SlotView.post, List.count_append, List.map_append, List.map_cons,
      List.map_nil, List.count_cons, List.count_nil, cfg.number_buffer] at hold ⊢
    omega
  case ring0Free =>
    simp only [RpmsgDevice.rxBuffers, hrx', SlotView.post, List.length_tail, List.length_append]
    omega
  case contents =>
    intro hcontent
    refine (h.contents hcontent).move .master rfl rfl rfl rfl ?_ ?_ ?_
    · rintro (_ | _) <;> rfl
    · exact (h.contents hcontent).sends .master
    · intro pc hpc
      rcases hmem pc hpc with rfl | hold
      · trivial
      · exact (h.contents hcontent).reads .master pc hold

theorem RpmsgInv.returnBuffer_slave (h : RpmsgInv cfg content s view) {i position : Nat}
    {buffer : RpmsgBuffer}
    (hreceive : s.slave.receives[i]? = some (.handling buffer position)) :
    ∃ view', RpmsgInv cfg content (s.returnBuffer .slave i buffer) view' := by
  obtain ⟨front, back, hrx, hrx', hmem⟩ := RpmsgDevice.rxBuffers_around hreceive
  have hbuffer : buffer ∈ s.slave.rxBuffers := by
    rw [hrx]
    exact List.mem_append_cons_self
  obtain ⟨slot, hslot, rfl⟩ := List.mem_map.mp (h.slaveRx.subset hbuffer)
  obtain ⟨heldFront, heldBack, hheld⟩ := List.append_of_mem hslot
  obtain ⟨vring, rvq, hcall, hring1⟩ := h.ring1.giveBackSlot hheld
  refine ⟨{ view with ring1 := view.ring1.giveBack slot (heldFront ++ heldBack) }, ?_⟩
  have hstep : s.returnBuffer .slave i (cfg.buffer .slave slot.buf slot.head) =
      { s with
        vring1 := vring
        slave := { s.slave with
          rvq
          lock := true
          receives := s.slave.receives.set i .returned } } := by
    simp only [RpmsgSystem.returnBuffer, RpmsgSystem.device, RpmsgSystem.receiveRing,
      rpmsgVirtioReturnBuffer, RpmsgConfig.buffer, hcall]
    rfl
  rw [hstep]
  constructor
  case ring0 => exact h.ring0
  case ring1 => exact hring1
  case io =>
    have hio := h.io
    rintro (_ | _)
    exacts [hio .master, hio .slave]
  case status => exact h.status
  case pool => exact h.pool
  case allocated_le => exact h.allocated_le
  case slaveTx => exact h.slaveTx
  case slaveRx =>
    have hold := h.slaveRx
    rw [hrx, hheld, List.map_append, List.map_cons] at hold
    simp only [RpmsgDevice.rxBuffers, hrx', SlotView.giveBack, List.map_append]
    exact (List.perm_middle.symm.trans (hold.trans List.perm_middle)).cons_inv
  case masterTx => exact h.masterTx
  case masterRx => exact h.masterRx
  case partition =>
    have hpartition := h.partition
    rw [List.perm_iff_count] at hpartition ⊢
    intro n
    have hold := hpartition n
    have hnew : RpmsgDevice.rxBuffers { s.slave with
        rvq
        lock := true
        receives := s.slave.receives.set i .returned } = front ++ back := hrx'
    have htx : RpmsgDevice.txBuffers { s.slave with
        rvq
        lock := true
        receives := s.slave.receives.set i .returned } = s.slave.txBuffers := rfl
    simp only [RpmsgView.owned, RpmsgSystem.txNumbers, RpmsgSystem.rxNumbers, RpmsgSystem.device,
      hrx, hnew, htx, SlotView.giveBack, List.count_append, List.map_append, List.map_cons,
      List.map_nil, List.count_cons, List.count_nil, cfg.number_buffer] at hold ⊢
    omega
  case ring0Free => exact h.ring0Free
  case contents =>
    intro hcontent
    refine (h.contents hcontent).move .slave rfl rfl rfl rfl ?_ ?_ ?_
    · rintro (_ | _) <;> rfl
    · exact (h.contents hcontent).sends .slave
    · intro pc hpc
      rcases hmem pc hpc with rfl | hold
      · trivial
      · exact (h.contents hcontent).reads .slave pc hold

end ReceiveMoves

section Steps

variable {cfg : RpmsgConfig} {content : Prop} {s s' : RpmsgSystem} {view : RpmsgView}

theorem RpmsgInv.stepReceive (h : RpmsgInv cfg content s view) {role : Role} {i : Nat}
    (hstep : s.stepReceive role i = some s') : ∃ view', RpmsgInv cfg content s' view' := by
  rw [RpmsgSystem.stepReceive] at hstep
  split at hstep
  · exact absurd hstep (Option.some_ne_none _).symm
  · next buffer position hreceive =>
      obtain rfl := Option.some.inj hstep
      cases role with
      | master => exact h.returnBuffer_master hreceive
      | slave => exact h.returnBuffer_slave hreceive
  · next hreceive =>
      obtain ⟨s₁, view', hnext, hinv⟩ := h.nextBuffer hreceive
      obtain rfl := Option.some.inj (hnext.symm.trans hstep)
      exact ⟨view', hinv⟩

/-- If the `i`th send of the master is about to enqueue, the send ring has a free descriptor. -/
def RpmsgSystem.EnqueuesWithRoom (s : RpmsgSystem) (i : Nat) : Prop :=
  ∀ call buffer, s.master.sends[i]? = some ⟨call, SendPc.payload buffer⟩ →
    1 ≤ s.master.svq.vqFreeCnt

/-- A step of a send. The master needs a free descriptor when it enqueues. -/
theorem RpmsgInv.stepSend (h : RpmsgInv cfg content s view)
    {role : Role} {i : Nat}
    (hroom : ∀ call buffer, role = .master → s.master.sends[i]? = some ⟨call, .payload buffer⟩ →
      view.ring1.free ≠ [])
    (hstep : s.stepSend role i = some s') : ∃ view', RpmsgInv cfg content s' view' := by
  rw [RpmsgSystem.stepSend] at hstep
  split at hstep
  · exact absurd hstep (Option.some_ne_none _).symm
  · next call pc hsend =>
      cases pc with
      | loop tickCount =>
          obtain rfl := Option.some.inj hstep
          exact ⟨view, h.testSize hsend⟩
      | tested tickCount availSize =>
          cases role with
          | master =>
              obtain ⟨s₁, view', htake, hinv⟩ := h.takeBuffer_master hsend
              obtain rfl := Option.some.inj (htake.symm.trans hstep)
              exact ⟨view', hinv⟩
          | slave =>
              obtain ⟨s₁, view', htake, hinv⟩ := h.takeBuffer_slave hsend
              obtain rfl := Option.some.inj (htake.symm.trans hstep)
              exact ⟨view', hinv⟩
      | taken buffer =>
          obtain rfl := Option.some.inj hstep
          exact ⟨view, h.writeHeader hsend⟩
      | header buffer => exact ⟨view, h.writePayload hsend hstep⟩
      | payload buffer =>
          cases role with
          | master =>
              obtain ⟨s₁, head, henqueue, -, hinv⟩ :=
                h.enqueue_master hsend (hroom call buffer rfl hsend)
              obtain rfl := Option.some.inj (henqueue.symm.trans hstep)
              exact ⟨_, hinv⟩
          | slave =>
              obtain ⟨s₁, head, held, henqueue, hinv⟩ := h.enqueue_slave hsend
              obtain rfl := Option.some.inj (henqueue.symm.trans hstep)
              exact ⟨_, hinv⟩
      | enqueued =>
          obtain rfl := Option.some.inj hstep
          exact ⟨view, h.kick hsend⟩

theorem RpmsgInv.svqFreeCnt (h : RpmsgInv cfg content s view) :
    s.master.svq.vqFreeCnt = view.ring1.free.length :=
  h.ring1.freeCnt

/-- Every step, as long as the master has a free descriptor whenever it enqueues. -/
theorem RpmsgInv.step (h : RpmsgInv cfg content s view) {action : RpmsgAction}
    (hroom : ∀ i, action = .stepSend .master i → s.EnqueuesWithRoom i)
    (hcall : content → ∀ role call, action = .send role call →
      0 ≤ call.size ∧ call.size ≤ capacity)
    (hstep : s.step action = some s') : ∃ view', RpmsgInv cfg content s' view' := by
  cases action with
  | send role call =>
      obtain rfl := Option.some.inj hstep
      exact ⟨view, h.startSend role fun hcontent => hcall hcontent role call rfl⟩
  | stepSend role i =>
      refine h.stepSend ?_ hstep
      rintro call buffer rfl hsend
      have hfree := hroom i rfl call buffer hsend
      rw [h.svqFreeCnt] at hfree
      exact List.length_pos_iff.mp hfree
  | rxCallback role =>
      obtain ⟨s₁, view', hrx, hinv⟩ := h.rxCallback role
      obtain rfl := Option.some.inj (hrx.symm.trans hstep)
      exact ⟨view', hinv⟩
  | stepReceive role i => exact h.stepReceive hstep

end Steps

end OpenAmp
