import OpenAmp.Proof.NotifyWakeup
import OpenAmp.Proof.QueueFrames
import OpenAmp.Proof.RpmsgDelivery
import OpenAmp.Proof.UsedIds

/-!
# Which messages interrupt the other processor

Every send ends in a kick, and so does every receive callback. Whether a kick notifies is decided by
words of the vring that the other side writes when it switches its callbacks. An rpmsg device does that
once, for its send queue, while it is initialised; so the words stay as they are, the event indices of
the receive queues included.
-/

namespace OpenAmp

/-- Whether the kick of a message that has been enqueued calls the notify callback. -/
def RpmsgSystem.sendNotifies (s : RpmsgSystem) (role : Role) : Bool :=
  (virtqueueKick (s.sendRing role) (s.device role).svq).2

/-- Whether the kick at the end of a receive callback does. -/
def RpmsgSystem.returnNotifies (s : RpmsgSystem) (role : Role) : Bool :=
  (virtqueueKick (s.receiveRing role) (s.device role).rvq).2

variable {vr vr' : Vring} {vq vq' : Virtqueue} {n posts quiet : Nat}

/-! ### The words of a ring -/

/-- A ring of `n` entries that `role` has published `posts` messages on. The consumer has never
touched its event index and accepts notifications; `quiet` is the flag by which the publisher refuses
them. -/
structure RingWords (role : Role) (n posts quiet : Nat) (vr : Vring) : Prop where
  num : vr.num = n
  event : vr.event role = 0
  flags : vr.consumerFlags role = 0
  quiet : vr.consumerFlags role.peer = quiet
  idx : vr.producerIdx role = u16 posts

theorem RingWords.setDesc {role : Role} (h : RingWords role n posts quiet vr)
    (desc : Nat → VringDesc) : RingWords role n posts quiet { vr with desc } := by
  cases role
  · exact ⟨h.num, h.event, h.flags, h.quiet, h.idx⟩
  · exact ⟨h.num, h.event, h.flags, h.quiet, h.idx⟩

theorem u16_succ (posts : Nat) : u16 (u16 posts + 1) = u16 (posts + 1) := by
  unfold u16
  omega

/-- The master publishes. -/
theorem RingWords.addBuffer (h : RingWords .master n posts quiet vr)
    (bufList : Nat → VirtqueueBuf) (readable writable : Int) (cookie : Nat) :
    RingWords .master n (posts + 1) quiet
      (virtqueueAddBuffer vr vq bufList readable writable cookie).1 := by
  obtain ⟨desc, head, hvring⟩ := virtqueueAddBuffer_vring vr vq bufList readable writable cookie
  rw [hvring]
  have hidx : vr.avail.idx = u16 posts := h.idx
  refine ⟨h.num, h.event, h.flags, h.quiet, ?_⟩
  change u16 (vr.avail.idx + 1) = _
  rw [hidx, u16_succ]

/-- The master gives a buffer back: the slot it writes is not the one with the event index. -/
theorem RingWords.returnMaster (h : RingWords .slave n posts quiet vr) (hentries : vq.vqNentries = n)
    (hpos : 0 < n) (hlt : n < 2 ^ 16) (bufList : Nat → VirtqueueBuf) (readable writable : Int)
    (cookie : Nat) :
    RingWords .slave n posts quiet
      (virtqueueAddBuffer vr vq bufList readable writable cookie).1 := by
  obtain ⟨desc, head, hvring⟩ := virtqueueAddBuffer_vring vr vq bufList readable writable cookie
  rw [hvring]
  refine ⟨h.num, ?_, h.flags, h.quiet, h.idx⟩
  have hslot := and_ringMask_lt hpos hlt vr.avail.idx
  change Function.update vr.avail.ring (vr.avail.idx &&& ringMask vq.vqNentries) head vr.num = 0
  rw [h.num, hentries, Function.update_of_ne (by omega), ← h.num]
  exact h.event

theorem virtqueueAddConsumedBuffer_cases (vr : Vring) (vq : Virtqueue) (headIdx len : Nat) :
    virtqueueAddConsumedBuffer vr vq headIdx len = (vr, vq, ERROR_VRING_NO_BUFF) ∨
      (virtqueueAddConsumedBuffer vr vq headIdx len).1 =
          { vr with used := { vr.used with
            ring := Function.update vr.used.ring (vr.used.idx &&& ringMask vq.vqNentries)
              ⟨headIdx, len⟩
            idx := u16 (vr.used.idx + 1) } } ∧
        (virtqueueAddConsumedBuffer vr vq headIdx len).2.1.control = vq.control.queue ∧
        (virtqueueAddConsumedBuffer vr vq headIdx len).2.2 = VQUEUE_SUCCESS := by
  unfold virtqueueAddConsumedBuffer
  split_ifs
  · exact .inl rfl
  · exact .inr ⟨rfl, rfl, rfl⟩

/-- The slave publishes. -/
theorem RingWords.addConsumedBuffer (h : RingWords .slave n posts quiet vr) {headIdx len : Nat}
    (hsuccess : (virtqueueAddConsumedBuffer vr vq headIdx len).2.2 = VQUEUE_SUCCESS) :
    RingWords .slave n (posts + 1) quiet (virtqueueAddConsumedBuffer vr vq headIdx len).1 := by
  obtain hfail | ⟨hvring, -, -⟩ := virtqueueAddConsumedBuffer_cases vr vq headIdx len
  · rw [hfail] at hsuccess
    cases hsuccess
  · rw [hvring]
    have hidx : vr.used.idx = u16 posts := h.idx
    refine ⟨h.num, h.event, h.flags, h.quiet, ?_⟩
    change u16 (vr.used.idx + 1) = _
    rw [hidx, u16_succ]

/-- The slave gives a buffer back. -/
theorem RingWords.returnSlave (h : RingWords .master n posts quiet vr) (hentries : vq.vqNentries = n)
    (hpos : 0 < n) (hlt : n < 2 ^ 16) (headIdx len : Nat) :
    RingWords .master n posts quiet (virtqueueAddConsumedBuffer vr vq headIdx len).1 := by
  obtain hfail | ⟨hvring, -, -⟩ := virtqueueAddConsumedBuffer_cases vr vq headIdx len
  · rw [hfail]
    exact h
  · rw [hvring]
    refine ⟨h.num, ?_, h.flags, h.quiet, h.idx⟩
    have hslot := and_ringMask_lt hpos hlt vr.used.idx
    change u16 (Function.update vr.used.ring (vr.used.idx &&& ringMask vq.vqNentries)
      ⟨headIdx, len⟩ vr.num).id = 0
    rw [h.num, hentries, Function.update_of_ne (by omega), ← h.num]
    exact h.event

/-! ### The devices -/

/-- The call holds the lock. -/
def SendPc.holds : SendPc → Bool
  | .tested _ _ | .enqueued => true
  | .loop _ | .taken _ | .header _ | .payload _ => false

def RxPc.holds : RxPc → Bool
  | .returned => true
  | .handling _ _ => false

/-- The message is on the ring and its kick is still to come. -/
def SendPc.isEnqueued : SendPc → Bool
  | .enqueued => true
  | .loop _ | .tested _ _ | .taken _ | .header _ | .payload _ => false

theorem SendPc.holds_of_isEnqueued {pc : SendPc} (h : pc.isEnqueued = true) : pc.holds = true := by
  cases pc with
  | enqueued => rfl
  | _ => cases h

/-- The settings of a queue since it was created. -/
structure VqControl.Is (control : VqControl) (role : Role) (features n : Nat) : Prop where
  role : control.role = role
  features : control.features = features
  vqNentries : control.vqNentries = n
  notify : control.notify = true

/-- A device whose send queue has as many buffers queued as calls are about to kick, and whose lock is
held by one call or by none. -/
structure DeviceWords (role : Role) (features n nPeer : Nat) (device : RpmsgDevice) : Prop where
  svq : device.svq.control.Is role features n
  rvq : device.rvq.control.Is role features nPeer
  queued : device.svq.vqQueuedCnt = device.sends.countP (·.pc.isEnqueued)
  held : device.sends.countP (·.pc.holds) + device.receives.countP RxPc.holds = device.lock.toNat

section Device

variable {role : Role} {features nPeer : Nat} {device device' : RpmsgDevice} {i : Nat}
  {call : SendCall} {pc pc' : SendPc}

theorem DeviceWords.enqueued_le (h : DeviceWords role features n nPeer device) :
    device.sends.countP (·.pc.isEnqueued) ≤ device.lock.toNat := by
  have hle : device.sends.countP (·.pc.isEnqueued) ≤ device.sends.countP (·.pc.holds) :=
    List.countP_mono_left fun send _ => SendPc.holds_of_isEnqueued
  have hheld := h.held
  omega

theorem DeviceWords.lock_of_pos (h : DeviceWords role features n nPeer device)
    (hpos : 0 < device.sends.countP (·.pc.holds) + device.receives.countP RxPc.holds) :
    device.lock = true := by
  have hheld := h.held
  cases hlock : device.lock with
  | true => rfl
  | false =>
      rw [hlock, Bool.toNat_false] at hheld
      omega

theorem DeviceWords.lock_of_send (h : DeviceWords role features n nPeer device)
    (hsend : device.sends[i]? = some ⟨call, pc⟩) (hholds : pc.holds = true) :
    device.lock = true := by
  have hpos : 0 < device.sends.countP (·.pc.holds) :=
    List.countP_pos_iff.mpr ⟨_, List.mem_of_getElem? hsend, hholds⟩
  exact h.lock_of_pos (by omega)

theorem DeviceWords.lock_of_receive (h : DeviceWords role features n nPeer device) {rxPc : RxPc}
    (hreceive : device.receives[i]? = some rxPc) (hholds : rxPc.holds = true) :
    device.lock = true := by
  have hpos : 0 < device.receives.countP RxPc.holds :=
    List.countP_pos_iff.mpr ⟨_, List.mem_of_getElem? hreceive, hholds⟩
  exact h.lock_of_pos (by omega)

/-- A call that is about to kick has queued its message and no other. -/
theorem DeviceWords.queued_one (h : DeviceWords role features n nPeer device)
    (hsend : device.sends[i]? = some ⟨call, .enqueued⟩) : device.svq.vqQueuedCnt = 1 := by
  have hle := h.enqueued_le
  have hpos : 0 < device.sends.countP (·.pc.isEnqueued) :=
    List.countP_pos_iff.mpr ⟨_, List.mem_of_getElem? hsend, rfl⟩
  rw [h.lock_of_send hsend rfl, Bool.toNat_true] at hle
  rw [h.queued]
  omega

/-- A send moves on. -/
theorem DeviceWords.setSend (h : DeviceWords role features n nPeer device)
    (hsend : device.sends[i]? = some ⟨call, pc⟩)
    (hsends : device'.sends = device.sends.set i ⟨call, pc'⟩)
    (hreceives : device'.receives = device.receives)
    (hrvq : device'.rvq.control = device.rvq.control)
    (hsvq : device'.svq.control.Is role features n)
    (hqueued : device'.svq.vqQueuedCnt + pc.isEnqueued.toNat =
      device.svq.vqQueuedCnt + pc'.isEnqueued.toNat)
    (hlock : device'.lock.toNat + pc.holds.toNat = device.lock.toNat + pc'.holds.toNat) :
    DeviceWords role features n nPeer device' := by
  have henqueued := ListCuts.countP_set (p := fun send : Send => send.pc.isEnqueued) hsend ⟨call, pc'⟩
  have hholds := ListCuts.countP_set (p := fun send : Send => send.pc.holds) hsend ⟨call, pc'⟩
  have hqueued' := h.queued
  have hheld := h.held
  dsimp only at henqueued hholds
  refine ⟨hsvq, hrvq ▸ h.rvq, ?_, ?_⟩
  · rw [hsends]
    omega
  · rw [hsends, hreceives]
    omega

/-- A send returns. -/
theorem DeviceWords.finish (h : DeviceWords role features n nPeer device)
    (hsend : device.sends[i]? = some ⟨call, pc⟩) (hsends : device'.sends = device.sends.eraseIdx i)
    (hreceives : device'.receives = device.receives)
    (hrvq : device'.rvq.control = device.rvq.control)
    (hsvq : device'.svq.control.Is role features n)
    (hqueued : device'.svq.vqQueuedCnt + pc.isEnqueued.toNat = device.svq.vqQueuedCnt)
    (hlock : device'.lock.toNat + pc.holds.toNat = device.lock.toNat) :
    DeviceWords role features n nPeer device' := by
  have henqueued := ListCuts.countP_eraseIdx (p := fun send : Send => send.pc.isEnqueued) hsend
  have hholds := ListCuts.countP_eraseIdx (p := fun send : Send => send.pc.holds) hsend
  have hqueued' := h.queued
  have hheld := h.held
  dsimp only at henqueued hholds
  refine ⟨hsvq, hrvq ▸ h.rvq, ?_, ?_⟩
  · rw [hsends]
    omega
  · rw [hsends, hreceives]
    omega

/-- The receive callbacks change: what they hold is what the lock says. -/
theorem DeviceWords.setReceives (h : DeviceWords role features n nPeer device)
    (hsends : device'.sends = device.sends) (hsvq : device'.svq = device.svq)
    (hrvq : device'.rvq.control.Is role features nPeer)
    (hheld : device'.receives.countP RxPc.holds + device.lock.toNat =
      device.receives.countP RxPc.holds + device'.lock.toNat) :
    DeviceWords role features n nPeer device' := by
  have hheld' := h.held
  refine ⟨hsvq ▸ h.svq, hrvq, by rw [hsvq, hsends, h.queued], ?_⟩
  rw [hsends]
  omega

end Device

/-! ### Every step -/

section Steps

variable {features n quietOf : Role → Nat} {s s' : RpmsgSystem} {role : Role} {i : Nat}

/-- The words of both rings and both devices. -/
structure NotifyWords (features n quietOf : Role → Nat) (s : RpmsgSystem) : Prop where
  ring : ∀ role, RingWords role (n role) (s.device role).sent.length (quietOf role) (s.sendRing role)
  device : ∀ role, DeviceWords role (features role) (n role) (n role.peer) (s.device role)

/-- The sizes of rings. -/
def Sizes (n : Role → Nat) : Prop := ∀ role, 0 < n role ∧ n role < 2 ^ 16

theorem RpmsgSystem.receiveRing_eq (s : RpmsgSystem) (role : Role) :
    s.receiveRing role = s.sendRing role.peer := by
  cases role <;> rfl

/-- A step of one device, on its two rings. -/
theorem NotifyWords.step (h : NotifyWords features n quietOf s)
    (hpeer : s'.device role.peer = s.device role.peer)
    (hsend : RingWords role (n role) (s'.device role).sent.length (quietOf role) (s'.sendRing role))
    (hreceive : RingWords role.peer (n role.peer) (s.device role.peer).sent.length
      (quietOf role.peer) (s'.receiveRing role))
    (hdevice : DeviceWords role (features role) (n role) (n role.peer) (s'.device role)) :
    NotifyWords features n quietOf s' := by
  refine ⟨(Role.forall_iff role).mpr ⟨hsend, ?_⟩, (Role.forall_iff role).mpr ⟨hdevice, ?_⟩⟩
  · rw [hpeer, ← s'.receiveRing_eq]
    exact hreceive
  · rw [hpeer]
    exact h.device role.peer

theorem NotifyWords.receive (h : NotifyWords features n quietOf s) (role : Role) :
    RingWords role.peer (n role.peer) (s.device role.peer).sent.length (quietOf role.peer)
      (s.receiveRing role) := by
  rw [s.receiveRing_eq]
  exact h.ring role.peer

theorem rpmsgVirtioGetBufferSize_control (role : Role) (vr : Vring) (svq : Virtqueue) :
    (rpmsgVirtioGetBufferSize role vr svq).1.control = svq.control := by
  cases role with
  | master => rfl
  | slave =>
      simp only [rpmsgVirtioGetBufferSize, virtqueueGetDescSize]
      split_ifs <;> rfl

theorem VqControl.Is.of_getBuffer {role : Role} {features n cons : Nat} {vq vq' : Virtqueue}
    (h : vq.control.Is role features n)
    (hcontrol : vq'.control = { vq.control with vqUsedConsIdx := cons }) :
    vq'.control.Is role features n ∧ vq'.vqQueuedCnt = vq.vqQueuedCnt := by
  refine ⟨?_, congrArg VqControl.vqQueuedCnt hcontrol⟩
  rw [hcontrol]
  exact ⟨h.role, h.features, h.vqNentries, h.notify⟩

theorem slaveGetBuffer_control (vr : Vring) (vq : Virtqueue) :
    ∃ idx, (slaveGetBuffer vr vq).1.control = { vq.control with vqAvailableIdx := idx } :=
  virtqueueGetAvailableBuffer_control vr vq

theorem masterGetBuffer_frame {vr vr' : Vring} {vq vq' : Virtqueue} {buffer : Option RpmsgBuffer}
    (hget : masterGetBuffer vr vq = some (vr', vq', buffer)) :
    ∃ desc cons, vr' = { vr with desc } ∧
      vq'.control = { vq.control with vqUsedConsIdx := cons } := by
  obtain ⟨⟨vring, queue, used⟩, hused, hrest⟩ := Option.bind_eq_some_iff.mp hget
  obtain ⟨rfl, hqueue⟩ := Prod.mk.inj (Option.some.inj hrest)
  obtain ⟨rfl, -⟩ := Prod.mk.inj hqueue
  exact virtqueueGetBuffer_frame hused

/-- A side gets a buffer to send in. -/
theorem rpmsgVirtioGetTxBuffer_frame {posts quiet : Nat} {vr vr' : Vring} {svq svq' : Virtqueue}
    {shpool shpool' : RpmsgVirtioShmPool} {buffer : Option RpmsgBuffer} {features n : Nat}
    (hget : rpmsgVirtioGetTxBuffer role vr svq shpool = some (vr', svq', shpool', buffer))
    (hring : RingWords role n posts quiet vr) (hsvq : svq.control.Is role features n) :
    RingWords role n posts quiet vr' ∧ svq'.control.Is role features n ∧
      svq'.vqQueuedCnt = svq.vqQueuedCnt := by
  cases role with
  | master =>
      obtain ⟨⟨vring, queue, found⟩, hfound, hrest⟩ := Option.bind_eq_some_iff.mp hget
      obtain ⟨desc, cons, rfl, hcontrol⟩ := masterGetBuffer_frame hfound
      have hpair : vr' = { vr with desc } ∧ svq' = queue := by
        cases found with
        | some found =>
            obtain ⟨hvr, hq⟩ := Prod.mk.inj (Option.some.inj hrest)
            exact ⟨hvr.symm, (Prod.mk.inj hq).1.symm⟩
        | none =>
            dsimp only at hrest
            split_ifs at hrest
            all_goals
              obtain ⟨hvr, hq⟩ := Prod.mk.inj (Option.some.inj hrest)
              exact ⟨hvr.symm, (Prod.mk.inj hq).1.symm⟩
      obtain ⟨rfl, rfl⟩ := hpair
      exact ⟨hring.setDesc desc, hsvq.of_getBuffer hcontrol⟩
  | slave =>
      have hvr : vr = vr' := congrArg Prod.fst (Option.some.inj hget)
      have hsvq' : (slaveGetBuffer vr svq).1 = svq' :=
        congrArg (fun result => result.2.1) (Option.some.inj hget)
      obtain ⟨idx, hcontrol⟩ := slaveGetBuffer_control vr svq
      rw [← hvr, ← hsvq']
      refine ⟨hring, ?_, congrArg VqControl.vqQueuedCnt hcontrol⟩
      rw [hcontrol]
      exact ⟨hsvq.role, hsvq.features, hsvq.vqNentries, hsvq.notify⟩

/-- A side takes a message. -/
theorem rpmsgVirtioGetRxBuffer_frame {posts quiet : Nat} {vr vr' : Vring} {rvq rvq' : Virtqueue}
    {buffer : Option RpmsgBuffer} {features n : Nat}
    (hget : rpmsgVirtioGetRxBuffer role vr rvq = some (vr', rvq', buffer))
    (hring : RingWords role.peer n posts quiet vr) (hrvq : rvq.control.Is role features n) :
    RingWords role.peer n posts quiet vr' ∧ rvq'.control.Is role features n := by
  cases role with
  | master =>
      obtain ⟨desc, cons, rfl, hcontrol⟩ := masterGetBuffer_frame hget
      exact ⟨hring.setDesc desc, (hrvq.of_getBuffer hcontrol).1⟩
  | slave =>
      have hvr : vr = vr' := congrArg Prod.fst (Option.some.inj hget)
      have hrvq' : (slaveGetBuffer vr rvq).1 = rvq' :=
        congrArg (fun result => result.2.1) (Option.some.inj hget)
      obtain ⟨idx, hcontrol⟩ := slaveGetBuffer_control vr rvq
      rw [← hvr, ← hrvq', hcontrol]
      exact ⟨hring, hrvq.role, hrvq.features, hrvq.vqNentries, hrvq.notify⟩

/-- A step on the send ring. -/
theorem NotifyWords.sendStep (h : NotifyWords features n quietOf s) (shm : Nat → UInt8)
    (shpool : RpmsgVirtioShmPool) {vr : Vring} {device : RpmsgDevice}
    (hring : RingWords role (n role) device.sent.length (quietOf role) vr)
    (hdevice : DeviceWords role (features role) (n role) (n role.peer) device) :
    NotifyWords features n quietOf
      (({ s with shm, shpool }.setSendRing vr role).setDevice device role) := by
  cases role
  · exact h.step rfl hring (h.receive .master) hdevice
  · exact h.step rfl hring (h.receive .slave) hdevice

/-- A step on the device alone, or on the memory besides. -/
theorem NotifyWords.deviceStep (h : NotifyWords features n quietOf s) (shm : Nat → UInt8)
    {device : RpmsgDevice} (hsent : device.sent = (s.device role).sent)
    (hdevice : DeviceWords role (features role) (n role) (n role.peer) device) :
    NotifyWords features n quietOf ({ s with shm }.setDevice device role) := by
  have hring := h.ring role
  rw [← hsent] at hring
  cases role
  · exact h.step rfl hring (h.receive .master) hdevice
  · exact h.step rfl hring (h.receive .slave) hdevice

/-- A step on the receive ring. -/
theorem NotifyWords.receiveStep (h : NotifyWords features n quietOf s) {vr : Vring}
    {device : RpmsgDevice} (hsent : device.sent = (s.device role).sent)
    (hring : RingWords role.peer (n role.peer) (s.device role.peer).sent.length (quietOf role.peer) vr)
    (hdevice : DeviceWords role (features role) (n role) (n role.peer) device) :
    NotifyWords features n quietOf ((s.setReceiveRing vr role).setDevice device role) := by
  have hown := h.ring role
  rw [← hsent] at hown
  cases role
  · exact h.step rfl hown hring hdevice
  · exact h.step rfl hown hring hdevice

theorem NotifyWords.startSend (h : NotifyWords features n quietOf s) (role : Role)
    (call : SendCall) : NotifyWords features n quietOf (s.startSend role call) := by
  have hdevice := h.device role
  unfold RpmsgSystem.startSend
  dsimp only
  split_ifs
  · exact h.deviceStep s.shm rfl ⟨hdevice.svq, hdevice.rvq, hdevice.queued, hdevice.held⟩
  all_goals
    have hqueued := hdevice.queued
    have hheld := hdevice.held
    refine h.deviceStep s.shm rfl ⟨hdevice.svq, hdevice.rvq, ?_, ?_⟩
    · rw [List.countP_append, ← hqueued]
      rfl
    · rw [List.countP_append, ← hheld]
      rfl

theorem VqControl.Is.trans {role : Role} {features n : Nat} {control control' : VqControl}
    (h : control.Is role features n) (heq : control' = control) : control'.Is role features n :=
  heq ▸ h

/-- A side publishes a message. -/
theorem rpmsgVirtioEnqueueBuffer_frame {posts quiet n : Nat} {vr : Vring} (svq : Virtqueue)
    (buffer : RpmsgBuffer) (hring : RingWords role n posts quiet vr)
    (hstatus : (rpmsgVirtioEnqueueBuffer role vr svq buffer).2.2 = VQUEUE_SUCCESS) :
    RingWords role n (posts + 1) quiet (rpmsgVirtioEnqueueBuffer role vr svq buffer).1 ∧
      (rpmsgVirtioEnqueueBuffer role vr svq buffer).2.1.control = svq.control.queue := by
  cases role with
  | master =>
      let bufList : Nat → VirtqueueBuf := fun _ => ⟨buffer.addr, toInt32 buffer.len⟩
      have hcontrol := virtqueueAddBuffer_control vr svq bufList 1 0 buffer.addr
      exact ⟨hring.addBuffer bufList 1 0 buffer.addr, hcontrol⟩
  | slave =>
      obtain hfail | ⟨-, hcontrol, -⟩ := virtqueueAddConsumedBuffer_cases vr svq buffer.idx buffer.len
      · have hstatus' : (virtqueueAddConsumedBuffer vr svq buffer.idx buffer.len).2.2 =
            VQUEUE_SUCCESS := hstatus
        rw [hfail] at hstatus'
        cases hstatus'
      · exact ⟨hring.addConsumedBuffer hstatus, hcontrol⟩

/-- A side gives back the buffer of a message. -/
theorem rpmsgVirtioReturnBuffer_frame {posts quiet n features : Nat} {vr : Vring} {rvq : Virtqueue}
    (buffer : RpmsgBuffer) (hring : RingWords role.peer n posts quiet vr)
    (hrvq : rvq.control.Is role features n) (hpos : 0 < n) (hlt : n < 2 ^ 16) :
    RingWords role.peer n posts quiet (rpmsgVirtioReturnBuffer role vr rvq buffer).1 ∧
      (rpmsgVirtioReturnBuffer role vr rvq buffer).2.control.Is role features n := by
  have hqueue : rvq.control.queue.Is role features n :=
    ⟨hrvq.role, hrvq.features, hrvq.vqNentries, hrvq.notify⟩
  cases role with
  | master =>
      let bufList : Nat → VirtqueueBuf := fun _ => ⟨buffer.addr, toInt32 buffer.len⟩
      have hcontrol := virtqueueAddBuffer_control vr rvq bufList 0 1 buffer.addr
      exact ⟨hring.returnMaster hrvq.vqNentries hpos hlt bufList 0 1 buffer.addr,
        hqueue.trans hcontrol⟩
  | slave =>
      refine ⟨hring.returnSlave hrvq.vqNentries hpos hlt buffer.idx buffer.len, ?_⟩
      obtain hfail | ⟨-, hcontrol, -⟩ := virtqueueAddConsumedBuffer_cases vr rvq buffer.idx buffer.len
      · rw [rpmsgVirtioReturnBuffer, hfail]
        exact hrvq
      · exact hqueue.trans hcontrol

theorem NotifyWords.stepSend (h : NotifyWords features n quietOf s) {call : SendCall} {pc : SendPc}
    (hsend : (s.device role).sends[i]? = some ⟨call, pc⟩)
    (hready : pc.acquires = true → (s.device role).lock = false)
    (hstep : s.stepSend role i = some s') : NotifyWords features n quietOf s' := by
  have hdevice := h.device role
  rw [RpmsgSystem.stepSend, hsend] at hstep
  cases pc with
  | loop tickCount =>
      obtain rfl := Option.some.inj hstep
      have hcontrol := rpmsgVirtioGetBufferSize_control role (s.sendRing role) (s.device role).svq
      have hqueued := congrArg VqControl.vqQueuedCnt hcontrol
      have hlock := hready rfl
      unfold RpmsgSystem.testSize
      dsimp only
      split_ifs
      · exact h.deviceStep s.shm rfl
          (hdevice.finish hsend rfl rfl rfl (hdevice.svq.trans hcontrol) hqueued rfl)
      · refine h.deviceStep s.shm rfl
          (hdevice.setSend hsend rfl rfl rfl (hdevice.svq.trans hcontrol) ?_ ?_)
        · exact congrArg (· + 0) hqueued
        · rw [hlock]
          rfl
  | tested tickCount availSize =>
      obtain ⟨⟨vring, svq, shpool, buffer⟩, hget, hrest⟩ := Option.bind_eq_some_iff.mp hstep
      obtain ⟨hring, hsvq, hqueued⟩ := rpmsgVirtioGetTxBuffer_frame hget (h.ring role) hdevice.svq
      have hlock := hdevice.lock_of_send hsend rfl
      cases buffer with
      | some buffer =>
          obtain rfl := Option.some.inj hrest
          refine h.sendStep s.shm shpool hring (hdevice.setSend hsend rfl rfl rfl hsvq ?_ ?_)
          · exact congrArg (· + 0) hqueued
          · rw [hlock]
            rfl
      | none =>
          dsimp only at hrest
          split_ifs at hrest
          · obtain rfl := Option.some.inj hrest
            refine h.sendStep s.shm shpool hring (hdevice.finish hsend rfl rfl rfl hsvq hqueued ?_)
            rw [hlock]
            rfl
          · obtain rfl := Option.some.inj hrest
            refine h.sendStep s.shm shpool hring (hdevice.finish hsend rfl rfl rfl hsvq hqueued ?_)
            rw [hlock]
            rfl
          · obtain rfl := Option.some.inj hrest
            refine h.sendStep s.shm shpool hring (hdevice.setSend hsend rfl rfl rfl hsvq ?_ ?_)
            · exact congrArg (· + 0) hqueued
            · rw [hlock]
              rfl
  | taken buffer =>
      obtain rfl := Option.some.inj hstep
      exact h.deviceStep _ rfl (hdevice.setSend hsend rfl rfl rfl hdevice.svq rfl rfl)
  | header buffer =>
      dsimp only [RpmsgSystem.writePayload] at hstep
      split_ifs at hstep
      obtain rfl := Option.some.inj hstep
      exact h.deviceStep _ rfl (hdevice.setSend hsend rfl rfl rfl hdevice.svq rfl rfl)
  | payload buffer =>
      have hlock := hready rfl
      have hnone : (s.device role).svq.vqQueuedCnt = 0 := by
        have hle := hdevice.enqueued_le
        rw [hlock, Bool.toNat_false] at hle
        rw [hdevice.queued]
        omega
      dsimp only [RpmsgSystem.enqueue] at hstep
      split_ifs at hstep with hstatus
      obtain rfl := Option.some.inj hstep
      obtain ⟨hring, hcontrol⟩ := rpmsgVirtioEnqueueBuffer_frame (s.device role).svq buffer
        (h.ring role) (not_not.mp hstatus)
      have hsvq := hdevice.svq
      have hqueue : (s.device role).svq.control.queue.Is role (features role) (n role) :=
        ⟨hsvq.role, hsvq.features, hsvq.vqNentries, hsvq.notify⟩
      refine h.sendStep s.shm s.shpool ?_
        (hdevice.setSend hsend rfl rfl rfl (hqueue.trans hcontrol) ?_ ?_)
      · change RingWords _ _ ((s.device role).sent ++ [call]).length _ _
        rw [List.length_append]
        exact hring
      · have hqueued := congrArg VqControl.vqQueuedCnt hcontrol
        change _ = u16 ((s.device role).svq.vqQueuedCnt + 1) at hqueued
        rw [hnone] at hqueued ⊢
        exact congrArg (· + 0) hqueued
      · rw [hlock]
        rfl
  | enqueued =>
      have hlock := hdevice.lock_of_send hsend rfl
      have hqueued := hdevice.queued_one hsend
      obtain rfl := Option.some.inj hstep
      have hsvq := hdevice.svq
      refine h.deviceStep s.shm rfl (hdevice.finish hsend rfl rfl rfl
        ⟨hsvq.role, hsvq.features, hsvq.vqNentries, hsvq.notify⟩ ?_ ?_)
      · rw [hqueued]
        rfl
      · rw [hlock]
        rfl

theorem NotifyWords.rxCallback (h : NotifyWords features n quietOf s)
    (hstep : s.rxCallback role = some s') : NotifyWords features n quietOf s' := by
  have hdevice := h.device role
  obtain ⟨⟨vring, rvq, buffer⟩, hget, hrest⟩ := Option.bind_eq_some_iff.mp hstep
  obtain ⟨hring, hrvq⟩ := rpmsgVirtioGetRxBuffer_frame hget (h.receive role) hdevice.rvq
  cases buffer with
  | some buffer =>
      obtain rfl := Option.some.inj hrest
      refine h.receiveStep rfl hring (hdevice.setReceives rfl rfl hrvq ?_)
      exact congrArg (· + _) (List.countP_append ..)
  | none =>
      obtain rfl := Option.some.inj hrest
      exact h.receiveStep rfl hring (hdevice.setReceives rfl rfl hrvq rfl)

theorem NotifyWords.stepReceive (h : NotifyWords features n quietOf s) (hsizes : Sizes n)
    {pc : RxPc} (hreceive : (s.device role).receives[i]? = some pc)
    (hready : pc.acquires = true → (s.device role).lock = false)
    (hstep : s.stepReceive role i = some s') : NotifyWords features n quietOf s' := by
  have hdevice := h.device role
  rw [RpmsgSystem.stepReceive, hreceive] at hstep
  cases pc with
  | handling buffer position =>
      obtain rfl := Option.some.inj hstep
      have hlock := hready rfl
      obtain ⟨hpos, hlt⟩ := hsizes role.peer
      obtain ⟨hring, hrvq⟩ := rpmsgVirtioReturnBuffer_frame buffer (h.receive role) hdevice.rvq hpos hlt
      refine h.receiveStep rfl hring (hdevice.setReceives rfl rfl hrvq ?_)
      have hcount := ListCuts.countP_set (p := RxPc.holds) hreceive .returned
      rw [hlock]
      exact hcount
  | returned =>
      have hlock := hdevice.lock_of_receive hreceive rfl
      obtain ⟨⟨vring, rvq, buffer⟩, hget, hrest⟩ := Option.bind_eq_some_iff.mp hstep
      obtain ⟨hring, hrvq⟩ := rpmsgVirtioGetRxBuffer_frame hget (h.receive role) hdevice.rvq
      cases buffer with
      | some buffer =>
          obtain rfl := Option.some.inj hrest
          refine h.receiveStep rfl hring (hdevice.setReceives rfl rfl hrvq ?_)
          have hcount := ListCuts.countP_set (p := RxPc.holds) hreceive
            (.handling buffer (s.device role).received.length)
          rw [hlock]
          exact hcount
      | none =>
          obtain rfl := Option.some.inj hrest
          refine h.receiveStep rfl hring (hdevice.setReceives rfl rfl ?_ ?_)
          · exact ⟨hrvq.role, hrvq.features, hrvq.vqNentries, hrvq.notify⟩
          · have hcount := ListCuts.countP_eraseIdx (p := RxPc.holds) hreceive
            rw [hlock]
            exact hcount

theorem NotifyWords.action (h : NotifyWords features n quietOf s) (hsizes : Sizes n)
    {action : RpmsgAction} (hready : s.Ready action) (hstep : s.step action = some s') :
    NotifyWords features n quietOf s' := by
  cases action with
  | send role call =>
      obtain rfl := Option.some.inj hstep
      exact h.startSend role call
  | stepSend role i =>
      obtain ⟨⟨call, pc⟩, hsend, hlock⟩ := hready
      exact h.stepSend hsend hlock hstep
  | rxCallback role => exact h.rxCallback hstep
  | stepReceive role i =>
      obtain ⟨pc, hreceive, hlock⟩ := hready
      exact h.stepReceive hsizes hreceive hlock hstep

end Steps

/-! ### What initialisation writes -/

/-- The flag a side leaves in the words of its send ring. -/
def quietFlag (features : Nat) : Nat :=
  if features &&& VIRTIO_RING_F_EVENT_IDX = 0 then 1 else 0

section Init

variable {role : Role} {features : Nat}

theorem RingWords.zeroed (role : Role) (n : Nat) : RingWords role n 0 0 (Vring.zeroed n) := by
  cases role
  · exact ⟨rfl, rfl, rfl, rfl, rfl⟩
  · exact ⟨rfl, rfl, rfl, rfl, rfl⟩

theorem RingWords.setEvent_peer (h : RingWords role n posts quiet vr) (event : Nat) :
    RingWords role n posts quiet (vr.setEvent role.peer event) := by
  cases role
  · exact ⟨h.num, h.event, h.flags, h.quiet, h.idx⟩
  · exact ⟨h.num, h.event, h.flags, h.quiet, h.idx⟩

theorem RingWords.setFlags_peer (h : RingWords role n posts quiet vr) (flags : Nat) :
    RingWords role n posts flags (vr.setConsumerFlags role.peer flags) := by
  cases role
  · exact ⟨h.num, h.event, h.flags, rfl, h.idx⟩
  · exact ⟨h.num, h.event, h.flags, rfl, h.idx⟩

/-- Switching callbacks off writes the event index or the flags. -/
theorem virtqueueDisableCb_vring (vr : Vring) (vq : Virtqueue) :
    ∃ event, (virtqueueDisableCb vr vq).1 =
      if vq.features &&& VIRTIO_RING_F_EVENT_IDX = 0 then
        vr.setConsumerFlags vq.role.peer (setFlag (vr.consumerFlags vq.role.peer))
      else vr.setEvent vq.role.peer event := by
  have hmode : vq.busy.eventIdx = true ↔ ¬ vq.features &&& VIRTIO_RING_F_EVENT_IDX = 0 :=
    decide_eq_true_iff
  unfold virtqueueDisableCb
  dsimp only
  cases hrole : vq.role
  · refine ⟨ofInt 16 ((vq.vqUsedConsIdx : Int) - vq.vqNentries - 1), ?_⟩
    rw [show vq.busy.role = .master from hrole]
    by_cases hevent : vq.features &&& VIRTIO_RING_F_EVENT_IDX = 0
    · rw [if_neg fun hbusy => hmode.mp hbusy hevent, if_pos hevent]
      rfl
    · rw [if_pos (hmode.mpr hevent), if_neg hevent]
      rfl
  · refine ⟨ofInt 16 ((vq.vqAvailableIdx : Int) - vq.vqNentries - 1), ?_⟩
    rw [show vq.busy.role = .slave from hrole]
    by_cases hevent : vq.features &&& VIRTIO_RING_F_EVENT_IDX = 0
    · rw [if_neg fun hbusy => hmode.mp hbusy hevent, if_pos hevent]
      rfl
    · rw [if_pos (hmode.mpr hevent), if_neg hevent]
      rfl

/-- The publisher switches its callbacks off. -/
theorem RingWords.disableCb (h : RingWords role n posts 0 vr) (hvq : vq.control.Is role features n) :
    RingWords role n posts (quietFlag features) (virtqueueDisableCb vr vq).1 := by
  have hrole : vq.role = role := hvq.role
  have hfeatures : vq.features = features := hvq.features
  obtain ⟨event, hvring⟩ := virtqueueDisableCb_vring vr vq
  rw [hvring, hrole, hfeatures, quietFlag]
  split_ifs
  · rw [h.quiet]
    exact h.setFlags_peer 1
  · exact h.setEvent_peer event

/-- Filling the receive ring. -/
theorem rpmsgInitBuffers_words {io : ShmIo} {left : Nat} {shpool shpool' : RpmsgVirtioShmPool}
    {shm shm' : Nat → UInt8} (hpos : 0 < n) (hlt : n < 2 ^ 16)
    (hring : RingWords .slave n 0 0 vr) (hvq : vq.control.Is .master features n)
    (hfill : rpmsgInitBuffers io left vr vq shpool shm = .ok (vr', vq', shpool', shm')) :
    RingWords .slave n 0 0 vr' ∧ vq'.control.Is .master features n := by
  induction left generalizing vr vq shpool shm with
  | zero =>
      have hresult := Except.ok.inj hfill
      have hvr : vr = vr' := congrArg Prod.fst hresult
      have hvq' : vq = vq' := congrArg (fun result => result.2.1) hresult
      rw [← hvr, ← hvq']
      exact ⟨hring, hvq⟩
  | succ left ih =>
      unfold rpmsgInitBuffers at hfill
      dsimp only at hfill
      split_ifs at hfill
      let buffer := (rpmsgVirtioShmPoolGetBuffer shpool RPMSG_BUFFER_SIZE).2
      have hcontrol := virtqueueAddBuffer_control vr vq
        (fun _ => ⟨buffer, (RPMSG_BUFFER_SIZE : Nat)⟩) 0 1 buffer
      have hqueue : vq.control.queue.Is .master features n :=
        ⟨hvq.role, hvq.features, hvq.vqNentries, hvq.notify⟩
      exact ih (hring.returnMaster hvq.vqNentries hpos hlt _ 0 1 _) (hqueue.trans hcontrol) hfill

/-- A ring as both sides create it. -/
theorem virtqueueCreate_is (role : Role) (features id n : Nat) (vr : Vring) :
    (virtqueueCreate role features id n true vr virtqueueAllocate).2.control.Is role features n := by
  cases role
  · exact ⟨rfl, rfl, rfl, rfl⟩
  · exact ⟨rfl, rfl, rfl, rfl⟩

theorem RingWords.create (h : RingWords role n posts quiet vr) (side : Role) (features id : Nat) :
    RingWords role n posts quiet
      (virtqueueCreate side features id n true vr virtqueueAllocate).1 := by
  have hnum := h.num
  have hsame : { vr with num := n } = vr := Vring.setNum_self hnum
  cases side with
  | master =>
      change RingWords role n posts quiet
        { ({ vr with num := n } : Vring) with desc := vqRingInit vr.desc n }
      rw [hsame]
      exact h.setDesc (vqRingInit vr.desc n)
  | slave =>
      change RingWords role n posts quiet { vr with num := n }
      rw [hsame]
      exact h

end Init

/-- The value that belongs to a side. -/
def Role.pick {α : Type} (master slave : α) : Role → α
  | .master => master
  | .slave => slave

section Reachable

variable {num0 num1 masterFeatures slaveFeatures : Nat} {masterIo slaveIo : ShmIo}
  {shpool : RpmsgVirtioShmPool} {shm : Nat → UInt8} {s₀ s : RpmsgSystem} {role : Role}

theorem rpmsgInitVdevMaster_words {vr0 vr1 : Vring} {device : RpmsgDevice}
    {shpool' : RpmsgVirtioShmPool} {shm' : Nat → UInt8} (hpos : 0 < num0) (hlt : num0 < 2 ^ 16)
    (hinit : rpmsgInitVdevMaster num0 num1 masterFeatures masterIo shpool shm =
      .ok (vr0, vr1, device, shpool', shm')) :
    RingWords .slave num0 0 0 vr0 ∧ RingWords .master num1 0 (quietFlag masterFeatures) vr1 ∧
      DeviceWords .master masterFeatures num1 num0 device ∧ device.sent = [] := by
  unfold rpmsgInitVdevMaster rpmsgInitVdevMasterOn at hinit
  split_ifs at hinit
  dsimp only at hinit
  split at hinit
  · cases hinit
  next vring0 rvq shpool₁ shm₁ hfill =>
    have hcreated : (RpmsgDevice.create
        (virtqueueCreate .master masterFeatures 0 num0 true (Vring.zeroed num0) virtqueueAllocate).2
        (virtqueueDisableCb
          (virtqueueCreate .master masterFeatures 1 num1 true (Vring.zeroed num1)
            virtqueueAllocate).1
          (virtqueueCreate .master masterFeatures 1 num1 true (Vring.zeroed num1)
            virtqueueAllocate).2).2 masterIo).rvq.control.Is .master masterFeatures num0 :=
      virtqueueCreate_is .master masterFeatures 0 num0 (Vring.zeroed num0)
    obtain ⟨hring0, hrvq⟩ := rpmsgInitBuffers_words hpos hlt
      ((RingWords.zeroed .slave num0).create .master masterFeatures 0) hcreated hfill
    have hsvq := virtqueueCreate_is .master masterFeatures 1 num1 (Vring.zeroed num1)
    have hring1 := ((RingWords.zeroed .master num1).create .master masterFeatures 1).disableCb hsvq
    have hresult := Except.ok.inj hinit
    have hvr0 : vring0 = vr0 := congrArg Prod.fst hresult
    have hvr1 := congrArg (fun result => result.2.1) hresult
    have hdevice := congrArg (fun result => result.2.2.1) hresult
    dsimp only at hvr1 hdevice
    rw [← hvr0, ← hvr1, ← hdevice]
    exact ⟨hring0, hring1, ⟨hsvq, hrvq, rfl, rfl⟩, rfl⟩

theorem NotifyWords.init (hnum0 : 0 < num0 ∧ num0 < 2 ^ 16)
    (hinit : rpmsgInitVdev num0 num1 masterFeatures slaveFeatures masterIo slaveIo shpool shm =
      .ok s₀) :
    NotifyWords (Role.pick masterFeatures slaveFeatures) (Role.pick num1 num0)
      (fun role => quietFlag (Role.pick masterFeatures slaveFeatures role)) s₀ := by
  rw [rpmsgInitVdev_eq] at hinit
  split at hinit
  · cases hinit
  next vr0 vr1 device shpool₁ shm₁ hmaster =>
    obtain ⟨hring0, hring1, hdevice, hsent⟩ := rpmsgInitVdevMaster_words hnum0.1 hnum0.2 hmaster
    have hsvq := virtqueueCreate_is .slave slaveFeatures 0 num0 vr0
    have hrvq := virtqueueCreate_is .slave slaveFeatures 1 num1 vr1
    obtain rfl := Except.ok.inj hinit
    refine ⟨(Role.forall_iff .master).mpr ⟨?_, ?_⟩, (Role.forall_iff .master).mpr ⟨hdevice, ?_⟩⟩
    · change RingWords .master num1 device.sent.length _ _
      rw [hsent]
      exact hring1.create .slave slaveFeatures 1
    · exact (hring0.create .slave slaveFeatures 0).disableCb hsvq
    · exact ⟨hsvq, hrvq, rfl, rfl⟩

theorem notifyWords_of_reachable (hnum0 : 0 < num0 ∧ num0 < 2 ^ 16)
    (hnum1 : 0 < num1 ∧ num1 < 2 ^ 16)
    (hinit : rpmsgInitVdev num0 num1 masterFeatures slaveFeatures masterIo slaveIo shpool shm =
      .ok s₀) (hs : Run.Reachable RpmsgSystem.Ready RpmsgSystem.step s₀ s) :
    NotifyWords (Role.pick masterFeatures slaveFeatures) (Role.pick num1 num0)
      (fun role => quietFlag (Role.pick masterFeatures slaveFeatures role)) s := by
  have hsizes : Sizes (Role.pick num1 num0) := by
    rintro (_ | _)
    · exact hnum1
    · exact hnum0
  refine hs.invariant (NotifyWords.init hnum0 hinit) ?_
  intro s action s' h hready hstep
  exact h.action hsizes hready hstep

/-- Publishing the `count`th message moves the index past the event index 0 once in `2 ^ 16`. -/
theorem vringNeedEvent_zero {count : Nat} :
    vringNeedEvent 0 (u16 count) (ofInt 16 ((u16 count : Int) - (1 : Nat))) = true ↔
      count % 2 ^ 16 = 1 := by
  rw [vringNeedEvent, decide_eq_true_iff]
  unfold ofInt u16
  omega

end Reachable

/-- The kick of a message calls the notify callback unless event indices are in use; then only the
kick of every `2 ^ 16`th message does, the first included, however much the receiver has taken. The
kick of a receive callback never calls it, as long as neither side uses event indices. -/
theorem send_notifies_iff {num0 num1 : Nat} (hnum0 : 0 < num0 ∧ num0 < 2 ^ 16)
    (hnum1 : 0 < num1 ∧ num1 < 2 ^ 16) (masterFeatures slaveFeatures : Nat)
    (masterIo slaveIo : ShmIo) (shpool : RpmsgVirtioShmPool) (shm : Nat → UInt8)
    {s₀ s : RpmsgSystem}
    (hinit : rpmsgInitVdev num0 num1 masterFeatures slaveFeatures masterIo slaveIo shpool shm =
      .ok s₀)
    (hs : Run.Reachable RpmsgSystem.Ready RpmsgSystem.step s₀ s) :
    let eventIdx (role : Role) : Prop :=
      Role.pick masterFeatures slaveFeatures role &&& VIRTIO_RING_F_EVENT_IDX ≠ 0
    (∀ role (i : Nat) (call : SendCall), (s.device role).sends[i]? = some ⟨call, .enqueued⟩ →
        (s.sendNotifies role = true ↔
          ¬ eventIdx role ∨ (s.device role).sent.length % 2 ^ 16 = 1)) ∧
      ∀ role, ¬ eventIdx role → ¬ eventIdx role.peer → s.returnNotifies role = false := by
  intro eventIdx
  have h := notifyWords_of_reachable hnum0 hnum1 hinit hs
  refine ⟨fun role i call hsend => ?_, fun role hown hpeer => ?_⟩
  · have hring := h.ring role
    have hvq := (h.device role).svq
    have hkick : s.sendNotifies role =
        (vqRingMustNotify (s.sendRing role) (s.device role).svq && (s.device role).svq.notify) := rfl
    have hnotify : (s.device role).svq.notify = true := hvq.notify
    have hrole : (s.device role).svq.role = role := hvq.role
    have hfeatures : (s.device role).svq.features = _ := hvq.features
    have hmode : (s.device role).svq.eventIdx = true ↔ eventIdx role := by
      rw [Virtqueue.eventIdx, hfeatures]
      exact decide_eq_true_iff
    rw [hkick, hnotify, Bool.and_true, vqRingMustNotify_eq, hrole, hring.event, hring.idx,
      hring.flags, (h.device role).queued_one hsend]
    by_cases hevent : eventIdx role
    · rw [if_pos (hmode.mpr hevent), vringNeedEvent_zero]
      exact ⟨.inr, fun hor => hor.resolve_left (not_not.mpr hevent)⟩
    · rw [if_neg fun hidx => hevent (hmode.mp hidx)]
      exact ⟨fun _ => .inl hevent, fun _ => rfl⟩
  · have hring := h.receive role
    have hvq := (h.device role).rvq
    have hkick : s.returnNotifies role =
        (vqRingMustNotify (s.receiveRing role) (s.device role).rvq && (s.device role).rvq.notify) :=
      rfl
    have hrole : (s.device role).rvq.role = role := hvq.role
    have hmode : ¬ (s.device role).rvq.eventIdx = true := by
      intro hidx
      have hfeatures : (s.device role).rvq.features = _ := hvq.features
      rw [Virtqueue.eventIdx, hfeatures] at hidx
      exact hown (of_decide_eq_true hidx)
    have hquiet := hring.quiet
    rw [Role.peer_peer, quietFlag, if_pos (not_not.mp hpeer)] at hquiet
    rw [hkick, vqRingMustNotify_eq, hrole, if_neg hmode, hquiet]
    rfl

/-- With event indices the second message of the slave interrupts nobody, though the master has taken
the first and returned its buffer. -/
theorem send_notifies_second :
    ∃ s : RpmsgSystem, s.slave.sent.length = 2 ∧ s.slave.sends.map Send.pc = [.enqueued] ∧
      s.master.received.length = 1 ∧ s.sendNotifies .slave = false := by
  let cfg := RpmsgConfig.linear 0 0 1024 (by decide) (by decide) (by decide)
  let send (steps : Nat) : List RpmsgAction :=
    .send .slave ⟨3, 4, fun _ => 8, 1, true, 0⟩ :: List.replicate steps (.stepSend .slave 0)
  let features := VIRTIO_RING_F_EVENT_IDX
  obtain ⟨s₀, s, hinit, hs, hseen⟩ := Run.exists_reachable_of_ok RpmsgSystem.Ready RpmsgSystem.step
    (rpmsgInitVdev 1 1 features features cfg.masterIo cfg.slaveIo
      (rpmsgVirtioInitShmPool cfg.base cfg.size) fun _ => 0)
    (send 6 ++ [.rxCallback .master, .stepReceive .master 0, .stepReceive .master 0] ++ send 5)
    (fun s => (s.slave.sent.length, s.slave.sends.map Send.pc, s.master.received.length))
    (2, [.enqueued], 1) (by decide +kernel)
  obtain ⟨hsent, hrest⟩ := Prod.mk.inj hseen
  obtain ⟨hpcs, hreceived⟩ := Prod.mk.inj hrest
  refine ⟨s, hsent, hpcs, hreceived, ?_⟩
  obtain ⟨⟨call, pc⟩, hsends, rfl⟩ := List.map_eq_singleton_iff.mp hpcs
  have hsend : (s.device .slave).sends[0]? = some ⟨call, .enqueued⟩ := by
    rw [RpmsgSystem.device, hsends]
    rfl
  have hiff := (send_notifies_iff (by decide) (by decide) features features cfg.masterIo cfg.slaveIo
    _ _ hinit hs).1 .slave 0 call hsend
  refine Bool.eq_false_iff.mpr fun hnotifies => ?_
  obtain hevent | hcount := hiff.mp hnotifies
  · exact hevent (by decide)
  · rw [RpmsgSystem.device, hsent] at hcount
    exact absurd hcount (by decide)

end OpenAmp
