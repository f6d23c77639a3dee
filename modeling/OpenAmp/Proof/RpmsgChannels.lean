import OpenAmp.Library.BoundedChannel
import OpenAmp.Proof.RpmsgCapacity

/-!
# The two directions are channels

The channels that the message tests run over are those of the two devices. A send that looks for a
buffer reserves room, one that enqueues posts its message, a receive callback takes the next message,
and returning the buffer gives its room back.
-/

namespace OpenAmp

open BoundedChannel ListCuts

/-- The messages of a side that its peer has not taken, and the buffers for them that are in the hands
of calls. -/
def RpmsgSystem.channel (s : RpmsgSystem) (role : Role) : Channel RpmsgMessage where
  reserved := (s.device role).txBuffers.length
  queue := ((s.device role).sent.drop (s.device role.peer).received.length).map SendCall.message
  held := (s.device role.peer).rxBuffers.length

/-- The buffers that there are for the messages of a side. The slave has those that fill the receive
ring of the master, and the master has the others. -/
def RpmsgConfig.room (cfg : RpmsgConfig) : Role → Nat
  | .master => cfg.buffers - cfg.num0
  | .slave => cfg.num0

/-- What the next step of a send does to the channel of its side. -/
def Send.transmit (room : Nat) (channel : Channel RpmsgMessage) (send : Send) : Channel RpmsgMessage :=
  match send.pc with
  | .tested _ _ => (channel.reserve room).getD channel
  | .payload _ => channel.post send.call.message
  | .loop _ | .taken _ | .header _ | .enqueued => channel

/-- What the next step of a receive callback does to the channel that it empties. -/
def RxPc.consume (channel : Channel RpmsgMessage) : RxPc → Channel RpmsgMessage
  | .handling _ _ => channel.giveBack
  | .returned => channel.next

/-- The message that it gets. -/
def RxPc.gets (channel : Channel RpmsgMessage) : RxPc → List RpmsgMessage
  | .handling _ _ => []
  | .returned => channel.queue.head?.toList

def RpmsgSystem.channelStep (cfg : RpmsgConfig) (s : RpmsgSystem) (role : Role) :
    RpmsgAction → Channel RpmsgMessage
  | .send _ _ => s.channel role
  | .stepSend sender i =>
      if sender = role then
        ((s.device role).sends[i]?).elim (s.channel role) (Send.transmit (cfg.room role) (s.channel role))
      else
        s.channel role
  | .rxCallback receiver => if receiver = role then s.channel role else (s.channel role).next
  | .stepReceive receiver i =>
      if receiver = role then
        s.channel role
      else
        ((s.device receiver).receives[i]?).elim (s.channel role) (RxPc.consume (s.channel role))

/-- The messages that a side gets in a step. -/
def RpmsgSystem.handed (s : RpmsgSystem) (role : Role) : RpmsgAction → List RpmsgMessage
  | .send _ _ | .stepSend _ _ => []
  | .rxCallback receiver => if receiver = role then (s.channel role.peer).queue.head?.toList else []
  | .stepReceive receiver i =>
      if receiver = role then
        ((s.device role).receives[i]?).elim [] (RxPc.gets (s.channel role.peer))
      else
        []

/-- A step of a side that sends. -/
structure RpmsgSystem.Sends (s s' : RpmsgSystem) (role : Role) (channel : Channel RpmsgMessage) :
    Prop where
  own : s'.channel role = channel
  other : s'.channel role.peer = s.channel role.peer
  received : ∀ role', (s'.device role').received = (s.device role').received

/-- A step of a side that receives. -/
structure RpmsgSystem.Receives (s s' : RpmsgSystem) (role : Role) (channel : Channel RpmsgMessage)
    (messages : List RpmsgMessage) : Prop where
  own : s'.channel role = s.channel role
  other : s'.channel role.peer = channel
  received : (s'.device role).received = (s.device role).received ++ messages
  kept : (s'.device role.peer).received = (s.device role.peer).received

section Frames

variable {s base : RpmsgSystem} {device device' : RpmsgDevice} {role : Role} {i : Nat} {call : SendCall}
  {pc pc' : SendPc}

theorem RpmsgDevice.length_txBuffers (device : RpmsgDevice) :
    device.txBuffers.length = device.sends.countP fun send => send.pc.buffer?.isSome :=
  List.length_filterMap_eq_countP

theorem RpmsgDevice.length_rxBuffers (device : RpmsgDevice) :
    device.rxBuffers.length = device.receives.countP fun pc => pc.buffer?.isSome :=
  List.length_filterMap_eq_countP

/-- A device that sends changes the channel of its side. -/
theorem RpmsgSystem.sends_setDevice_of (device : RpmsgDevice)
    (hbase : ∀ role, base.device role = s.device role)
    (hreceived : device.received = (s.device role).received)
    (hreceives : device.receives = (s.device role).receives) :
    s.Sends (base.setDevice device role) role
      ⟨device.txBuffers.length,
        (device.sent.drop (s.device role.peer).received.length).map SendCall.message,
        (s.device role.peer).rxBuffers.length⟩ := by
  have hrx : device.rxBuffers = (s.device role).rxBuffers :=
    congrArg (List.filterMap RxPc.buffer?) hreceives
  refine ⟨?_, ?_, (Role.forall_iff role).mpr ⟨?_, ?_⟩⟩
  · simp only [RpmsgSystem.channel, RpmsgSystem.device_setDevice_self,
      RpmsgSystem.device_setDevice_peer, hbase]
  · simp only [RpmsgSystem.channel, RpmsgSystem.device_setDevice_self,
      RpmsgSystem.device_setDevice_peer, Role.peer_peer, hbase, hreceived, hrx]
  · rw [RpmsgSystem.device_setDevice_self, hreceived]
  · rw [RpmsgSystem.device_setDevice_peer, hbase]

theorem RpmsgSystem.sends_kept (hbase : ∀ role, base.device role = s.device role)
    (htx : device.txBuffers.length = (s.device role).txBuffers.length)
    (hsent : device.sent = (s.device role).sent)
    (hreceived : device.received = (s.device role).received)
    (hreceives : device.receives = (s.device role).receives) :
    s.Sends (base.setDevice device role) role (s.channel role) := by
  have hsends := RpmsgSystem.sends_setDevice_of device hbase hreceived hreceives
  rw [htx, hsent] at hsends
  exact hsends

/-- A device that receives changes the channel of the other side. -/
theorem RpmsgSystem.receives_setDevice (device : RpmsgDevice)
    (hbase : ∀ role, base.device role = s.device role)
    (hsends : device.sends = (s.device role).sends) (hsent : device.sent = (s.device role).sent)
    {messages : List RpmsgMessage}
    (hreceived : device.received = (s.device role).received ++ messages) :
    s.Receives (base.setDevice device role) role
      { s.channel role.peer with
        queue := ((s.device role.peer).sent.drop device.received.length).map SendCall.message
        held := device.rxBuffers.length } messages := by
  have htx : device.txBuffers = (s.device role).txBuffers :=
    congrArg (List.filterMap fun send : Send => send.pc.buffer?) hsends
  refine ⟨?_, ?_, ?_, ?_⟩
  · simp only [RpmsgSystem.channel, RpmsgSystem.device_setDevice_self,
      RpmsgSystem.device_setDevice_peer, hbase, hsent, htx]
  · simp only [RpmsgSystem.channel, RpmsgSystem.device_setDevice_self,
      RpmsgSystem.device_setDevice_peer, Role.peer_peer, hbase]
  · rw [RpmsgSystem.device_setDevice_self, hreceived]
  · rw [RpmsgSystem.device_setDevice_peer, hbase]

theorem RpmsgDevice.length_txBuffers_set (device' : RpmsgDevice) (pc' : SendPc)
    (hsend : device.sends[i]? = some ⟨call, pc⟩)
    (hsends : device'.sends = device.sends.set i ⟨call, pc'⟩) :
    device'.txBuffers.length + pc.buffer?.isSome.toNat =
      device.txBuffers.length + pc'.buffer?.isSome.toNat := by
  rw [RpmsgDevice.length_txBuffers, RpmsgDevice.length_txBuffers, hsends]
  exact countP_set hsend ⟨call, pc'⟩

theorem RpmsgDevice.length_txBuffers_erase (hsend : device.sends[i]? = some ⟨call, pc⟩)
    (hsends : device'.sends = device.sends.eraseIdx i) (hnone : pc.buffer? = none) :
    device'.txBuffers.length = device.txBuffers.length := by
  have hcount := countP_eraseIdx (p := fun send : Send => send.pc.buffer?.isSome) hsend
  rw [hnone, Option.isSome_none, Bool.toNat_false, Nat.add_zero] at hcount
  rw [RpmsgDevice.length_txBuffers, RpmsgDevice.length_txBuffers, hsends]
  exact hcount

end Frames

/-! ### The room of a channel -/

section Room

variable {cfg : RpmsgConfig} {s s' : RpmsgSystem} {view : RpmsgView} {role : Role}

theorem RpmsgInv.length_queue (h : RpmsgInv cfg True s view) (role : Role) :
    (s.channel role).queue.length = (view.pending role.peer).length := by
  have hpending := ((h.contents trivial).pending role.peer).length_eq
  rw [Role.peer_peer] at hpending
  rw [RpmsgSystem.channel, List.length_map, hpending]

/-- The buffers of the pool are in the receive ring of the master, in the channel, given back and not yet
taken again, or have not been handed out. -/
theorem RpmsgInv.inUse_master (h : RpmsgInv cfg True s view) :
    (s.channel .master).inUse + cfg.num0 + view.ring1.used.length = view.allocated := by
  have hqueue := h.length_queue .master
  have hcount := SlotView.count h.ring1
  have hring := h.ring1_count
  have hrx := h.slaveRx.length_eq
  have hnum1 : cfg.ring1.entries = cfg.num1 := rfl
  rw [List.length_map] at hrx
  simp only [RpmsgView.pending, Role.peer] at hqueue
  simp only [Channel.inUse, hqueue]
  simp only [RpmsgSystem.channel, RpmsgSystem.device, Role.peer]
  omega

theorem RpmsgInv.inUse_slave (h : RpmsgInv cfg True s view) :
    (s.channel .slave).inUse + view.ring0.avail.length = cfg.num0 := by
  have hqueue := h.length_queue .slave
  have hcount := SlotView.count h.ring0
  have htx := h.slaveTx.length_eq
  have hfree := h.ring0Free
  have hnum0 : cfg.ring0.entries = cfg.num0 := rfl
  rw [List.length_map] at htx
  simp only [RpmsgView.pending, Role.peer] at hqueue
  simp only [Channel.inUse, hqueue]
  simp only [RpmsgSystem.channel, RpmsgSystem.device, Role.peer]
  omega

/-- A send finds a buffer as long as its channel has room. -/
theorem RpmsgInv.getTxBuffer_isSome (h : RpmsgInv cfg True s view) {vring : Vring} {svq : Virtqueue}
    {shpool : RpmsgVirtioShmPool} {buffer : Option RpmsgBuffer}
    (hget : rpmsgVirtioGetTxBuffer role (s.sendRing role) (s.device role).svq s.shpool =
      some (vring, svq, shpool, buffer)) :
    buffer.isSome = true ↔ (s.channel role).inUse < cfg.room role := by
  cases role with
  | master =>
      have hinUse := h.inUse_master
      have hallocated := h.allocated_le
      simp only [RpmsgSystem.sendRing, RpmsgSystem.device, rpmsgVirtioGetTxBuffer] at hget
      simp only [RpmsgConfig.room]
      cases hused : view.ring1.used with
      | cons slot used =>
          obtain ⟨vring', svq', idx, hmaster, -⟩ := h.ring1.masterGetBuffer hused
          simp only [hmaster, Option.bind_eq_bind, Option.bind_some, Option.some.injEq,
            Prod.mk.injEq] at hget
          obtain ⟨-, -, -, rfl⟩ := hget
          rw [hused, List.length_cons] at hinUse
          exact iff_of_true rfl (by omega)
      | nil =>
          have hpool := h.poolGetBuffer
          rw [hused, List.length_nil] at hinUse
          by_cases hleft : view.allocated < cfg.buffers
          · rw [if_pos hleft] at hpool
            simp only [h.ring1.masterGetBuffer_nil hused, hpool, Option.bind_eq_bind, Option.bind_some,
              if_neg (cfg.addr_ne_null .master view.allocated), Option.some.injEq, Prod.mk.injEq] at hget
            obtain ⟨-, -, -, rfl⟩ := hget
            exact iff_of_true rfl (by omega)
          · rw [if_neg hleft] at hpool
            simp only [h.ring1.masterGetBuffer_nil hused, hpool, Option.bind_eq_bind, Option.bind_some,
              if_true, Option.some.injEq, Prod.mk.injEq] at hget
            obtain ⟨-, -, -, rfl⟩ := hget
            exact iff_of_false Bool.false_ne_true (by omega)
  | slave =>
      have hinUse := h.inUse_slave
      simp only [RpmsgSystem.sendRing, RpmsgSystem.device, rpmsgVirtioGetTxBuffer] at hget
      simp only [RpmsgConfig.room]
      cases havail : view.ring0.avail with
      | cons slot avail =>
          have hbuf : slot.buf < cfg.buffers := by
            refine h.owned_lt ?_
            simp [RpmsgView.owned, havail]
          obtain ⟨svq', hslave, -⟩ := h.ring0.slaveGetBuffer rfl havail hbuf
          simp only [hslave, Option.some.injEq, Prod.mk.injEq] at hget
          obtain ⟨-, -, -, rfl⟩ := hget
          rw [havail, List.length_cons] at hinUse
          exact iff_of_true rfl (by omega)
      | nil =>
          simp only [h.ring0.slaveGetBuffer_nil havail, Option.some.injEq, Prod.mk.injEq] at hget
          obtain ⟨-, -, -, rfl⟩ := hget
          rw [havail, List.length_nil] at hinUse
          exact iff_of_false Bool.false_ne_true (by omega)

end Room

/-! ### The steps of a send -/

section Sends

variable {cfg : RpmsgConfig} {s s' : RpmsgSystem} {view : RpmsgView} {role : Role} {i : Nat}
  {call : SendCall}

theorem RpmsgSystem.sends_testSize {tickCount : Nat}
    (hsend : (s.device role).sends[i]? = some ⟨call, .loop tickCount⟩) :
    s.Sends (s.testSize role i call tickCount) role (s.channel role) := by
  unfold RpmsgSystem.testSize
  dsimp only
  split_ifs
  · exact RpmsgSystem.sends_kept (fun _ => rfl)
      (RpmsgDevice.length_txBuffers_erase hsend rfl rfl) rfl rfl rfl
  · exact RpmsgSystem.sends_kept (fun _ => rfl)
      (RpmsgDevice.length_txBuffers_set _ (.tested tickCount _) hsend rfl) rfl rfl rfl

/-- The send goes on with a buffer if there is room for its message, and otherwise without one. -/
theorem RpmsgInv.sends_takeBuffer (h : RpmsgInv cfg True s view) {tickCount : Nat} {availSize : Int}
    (hsend : (s.device role).sends[i]? = some ⟨call, .tested tickCount availSize⟩)
    (hstep : s.takeBuffer role i call tickCount availSize = some s') :
    s.Sends s' role (((s.channel role).reserve (cfg.room role)).getD (s.channel role)) := by
  simp only [RpmsgSystem.takeBuffer, Option.bind_eq_bind, Option.bind_eq_some_iff] at hstep
  obtain ⟨⟨vring, svq, shpool, buffer⟩, hget, hstep⟩ := hstep
  have hroom := h.getTxBuffer_isSome hget
  have hbase (role' : Role) : ({ s with shpool }.setSendRing vring role).device role' =
      s.device role' := by simp
  cases buffer with
  | some buffer =>
      obtain rfl := Option.some.inj hstep
      have hsends := RpmsgSystem.sends_setDevice_of
        ({ s.device role with svq, lock := false }.setSend i ⟨call, .taken buffer⟩) hbase rfl rfl
      have hlen := RpmsgDevice.length_txBuffers_set
        ({ s.device role with svq, lock := false }.setSend i ⟨call, .taken buffer⟩) _ hsend rfl
      rw [Channel.reserve, if_pos (hroom.mp rfl), Option.getD_some]
      exact { hsends with own := hsends.own.trans (Channel.ext hlen rfl rfl) }
  | none =>
      have hfull : ¬ (s.channel role).inUse < cfg.room role := fun hlt =>
        Bool.false_ne_true (hroom.mpr hlt)
      rw [Channel.reserve, if_neg hfull, Option.getD_none]
      dsimp only at hstep
      split_ifs at hstep
      · obtain rfl := Option.some.inj hstep
        exact RpmsgSystem.sends_kept hbase (RpmsgDevice.length_txBuffers_erase hsend rfl rfl) rfl rfl rfl
      · obtain rfl := Option.some.inj hstep
        exact RpmsgSystem.sends_kept hbase (RpmsgDevice.length_txBuffers_erase hsend rfl rfl) rfl rfl rfl
      · obtain rfl := Option.some.inj hstep
        exact RpmsgSystem.sends_kept hbase
          (RpmsgDevice.length_txBuffers_set _ (.loop (tickCount - 1)) hsend rfl) rfl rfl rfl

theorem RpmsgInv.sends_enqueue (h : RpmsgInv cfg True s view) {buffer : RpmsgBuffer}
    (hsend : (s.device role).sends[i]? = some ⟨call, .payload buffer⟩)
    (hstep : s.enqueue role i call buffer = some s') :
    s.Sends s' role ((s.channel role).post call.message) := by
  dsimp only [RpmsgSystem.enqueue] at hstep
  generalize rpmsgVirtioEnqueueBuffer role (s.sendRing role) (s.device role).svq buffer = result at hstep
  obtain ⟨vring, svq, status⟩ := result
  split_ifs at hstep
  obtain rfl := Option.some.inj hstep
  have hsends := RpmsgSystem.sends_setDevice_of ({ s.device role with
    svq, lock := true, sent := (s.device role).sent ++ [call] }.setSend i ⟨call, .enqueued⟩)
    (RpmsgSystem.device_setSendRing s vring role) rfl rfl
  have hlen := RpmsgDevice.length_txBuffers_set ({ s.device role with
    svq, lock := true, sent := (s.device role).sent ++ [call] }.setSend i ⟨call, .enqueued⟩) _ hsend rfl
  have hle := (h.contents trivial).received_le role.peer
  rw [Role.peer_peer] at hle
  refine { hsends with own := hsends.own.trans (Channel.ext (Nat.eq_sub_of_add_eq hlen) ?_ rfl) }
  simp only [RpmsgDevice.setSend, Channel.post, RpmsgSystem.channel]
  rw [List.drop_append_of_le_length hle, List.map_append, List.map_singleton]

theorem RpmsgInv.sends_stepSend (h : RpmsgInv cfg True s view) {send : Send}
    (hsend : (s.device role).sends[i]? = some send) (hstep : s.stepSend role i = some s') :
    s.Sends s' role (send.transmit (cfg.room role) (s.channel role)) := by
  obtain ⟨call, pc⟩ := send
  unfold RpmsgSystem.stepSend at hstep
  rw [hsend] at hstep
  cases pc with
  | loop tickCount =>
      obtain rfl := Option.some.inj hstep
      exact RpmsgSystem.sends_testSize hsend
  | tested tickCount availSize => exact h.sends_takeBuffer hsend hstep
  | taken buffer =>
      obtain rfl := Option.some.inj hstep
      exact RpmsgSystem.sends_kept (RpmsgSystem.device_withShm s _)
        (Nat.succ.inj (RpmsgDevice.length_txBuffers_set _ (.header buffer) hsend rfl)) rfl rfl rfl
  | header buffer =>
      dsimp only [RpmsgSystem.writePayload] at hstep
      split_ifs at hstep
      obtain rfl := Option.some.inj hstep
      exact RpmsgSystem.sends_kept (RpmsgSystem.device_withShm s _)
        (Nat.succ.inj (RpmsgDevice.length_txBuffers_set _ (.payload buffer) hsend rfl)) rfl rfl rfl
  | payload buffer => exact h.sends_enqueue hsend hstep
  | enqueued =>
      obtain rfl := Option.some.inj hstep
      exact RpmsgSystem.sends_kept (fun _ => rfl)
        (RpmsgDevice.length_txBuffers_erase hsend rfl rfl) rfl rfl rfl

theorem RpmsgSystem.sends_startSend (s : RpmsgSystem) (role : Role) (call : SendCall) :
    s.Sends (s.startSend role call) role (s.channel role) := by
  rw [RpmsgSystem.startSend]
  by_cases hstatus : s.status &&& VIRTIO_CONFIG_STATUS_DRIVER_OK = 0
  · rw [if_pos hstatus]
    exact RpmsgSystem.sends_kept (fun _ => rfl) rfl rfl rfl rfl
  · rw [if_neg hstatus]
    refine RpmsgSystem.sends_kept (fun _ => rfl) ?_ rfl rfl rfl
    rw [RpmsgDevice.txBuffers, List.filterMap_append, List.length_append]
    rfl

end Sends

/-! ### The steps of a receive callback -/

section Receives

variable {cfg : RpmsgConfig} {s s' base : RpmsgSystem} {view view' : RpmsgView} {role : Role} {i : Nat}
  {device : RpmsgDevice}

theorem RpmsgSystem.queue_peer (s : RpmsgSystem) (role : Role) :
    (s.channel role.peer).queue =
      ((s.device role.peer).sent.drop (s.device role).received.length).map SendCall.message := by
  rw [RpmsgSystem.channel, Role.peer_peer]

theorem RpmsgSystem.held_peer (s : RpmsgSystem) (role : Role) :
    (s.channel role.peer).held = (s.device role).rxBuffers.length := by
  rw [RpmsgSystem.channel, Role.peer_peer]

/-- The message that a side has got is the first of those on their way to it. -/
theorem RpmsgInv.receives_message (h : RpmsgInv cfg True s view)
    (hbase : ∀ role, base.device role = s.device role)
    (h' : RpmsgInv cfg True (base.setDevice device role) view')
    (hsends : device.sends = (s.device role).sends) (hsent : device.sent = (s.device role).sent)
    {msg : RpmsgMessage} (hreceived : device.received = (s.device role).received ++ [msg])
    (hrx : device.rxBuffers.length = (s.device role).rxBuffers.length + 1) :
    s.Receives (base.setDevice device role) role (s.channel role.peer).next
      (s.channel role.peer).queue.head?.toList := by
  have hreceives := RpmsgSystem.receives_setDevice device hbase hsends hsent hreceived
  have hall := (h.contents trivial).received role
  have hall' := (h'.contents trivial).received role
  have hle := (h'.contents trivial).received_le role
  rw [RpmsgSystem.device_setDevice_self, RpmsgSystem.device_setDevice_peer, hbase] at hall' hle
  have hlen : device.received.length = (s.device role).received.length + 1 := by
    rw [hreceived, List.length_append, List.length_singleton]
  have hlt : (s.device role).received.length < (s.device role.peer).sent.length := by omega
  have hmsg : msg = (s.device role.peer).sent[(s.device role).received.length].message := by
    rw [hlen, hreceived, List.take_add_one, List.getElem?_eq_getElem hlt, List.map_append, ← hall] at hall'
    exact List.singleton_inj.mp (List.append_cancel_left hall')
  have hqueue : (s.channel role.peer).queue =
      msg :: ((s.device role.peer).sent.drop device.received.length).map SendCall.message := by
    rw [RpmsgSystem.queue_peer, List.drop_eq_getElem_cons hlt, List.map_cons, hlen, hmsg]
  rw [Channel.next_of_cons hqueue, hqueue]
  refine { hreceives with other := hreceives.other.trans (Channel.ext rfl rfl ?_) }
  rw [RpmsgSystem.held_peer]
  exact hrx

theorem RpmsgInv.receives_nothing (h : RpmsgInv cfg True s view) {vring : Vring} {rvq : Virtqueue}
    (hnone : rpmsgVirtioGetRxBuffer role (s.receiveRing role) (s.device role).rvq =
      some (vring, rvq, none))
    (hbase : ∀ role, base.device role = s.device role)
    (hsends : device.sends = (s.device role).sends) (hsent : device.sent = (s.device role).sent)
    (hreceived : device.received = (s.device role).received)
    (hrx : device.rxBuffers.length = (s.device role).rxBuffers.length) :
    s.Receives (base.setDevice device role) role (s.channel role.peer).next
      (s.channel role.peer).queue.head?.toList := by
  have hreceives := RpmsgSystem.receives_setDevice device hbase hsends hsent
    (hreceived.trans (List.append_nil _).symm)
  have hqueue : (s.channel role.peer).queue = [] := by
    rw [RpmsgSystem.queue_peer, h.received_all hnone, List.drop_length, List.map_nil]
  rw [Channel.next_of_nil hqueue, hqueue]
  refine { hreceives with other := hreceives.other.trans (Channel.ext rfl ?_ ?_) }
  · rw [RpmsgSystem.queue_peer, hreceived]
  · rw [RpmsgSystem.held_peer]
    exact hrx

theorem RpmsgInv.receives_rxCallback (h : RpmsgInv cfg True s view)
    (hstep : s.rxCallback role = some s') :
    s.Receives s' role (s.channel role.peer).next (s.channel role.peer).queue.head?.toList := by
  obtain ⟨s₁, view', hrx, h'⟩ := h.rxCallback role
  obtain rfl := Option.some.inj (hrx.symm.trans hstep)
  simp only [RpmsgSystem.rxCallback, Option.bind_eq_bind, Option.bind_eq_some_iff] at hstep
  obtain ⟨⟨vring, rvq, buffer⟩, hget, hstep⟩ := hstep
  have hbase (role' : Role) : (s.setReceiveRing vring role).device role' = s.device role' := by simp
  cases buffer with
  | none =>
      obtain rfl := Option.some.inj hstep
      exact h.receives_nothing hget hbase rfl rfl rfl rfl
  | some buffer =>
      obtain rfl := Option.some.inj hstep
      refine h.receives_message hbase h' rfl rfl rfl ?_
      rw [RpmsgDevice.length_rxBuffers, RpmsgDevice.length_rxBuffers]
      exact List.countP_append

theorem RpmsgInv.receives_nextBuffer (h : RpmsgInv cfg True s view)
    (hreceive : (s.device role).receives[i]? = some .returned)
    (hstep : s.nextBuffer role i = some s') :
    s.Receives s' role (s.channel role.peer).next (s.channel role.peer).queue.head?.toList := by
  obtain ⟨s₁, view', hnext, h'⟩ := h.nextBuffer hreceive
  obtain rfl := Option.some.inj (hnext.symm.trans hstep)
  simp only [RpmsgSystem.nextBuffer, Option.bind_eq_bind, Option.bind_eq_some_iff] at hstep
  obtain ⟨⟨vring, rvq, buffer⟩, hget, hstep⟩ := hstep
  have hbase (role' : Role) : (s.setReceiveRing vring role).device role' = s.device role' := by simp
  cases buffer with
  | none =>
      obtain rfl := Option.some.inj hstep
      refine h.receives_nothing hget hbase rfl rfl rfl ?_
      rw [RpmsgDevice.length_rxBuffers, RpmsgDevice.length_rxBuffers]
      exact countP_eraseIdx (p := fun pc : RxPc => pc.buffer?.isSome) hreceive
  | some buffer =>
      obtain rfl := Option.some.inj hstep
      refine h.receives_message hbase h' rfl rfl rfl ?_
      rw [RpmsgDevice.length_rxBuffers, RpmsgDevice.length_rxBuffers]
      exact countP_set (p := fun pc : RxPc => pc.buffer?.isSome) hreceive (.handling buffer _)

theorem RpmsgSystem.receives_returnBuffer {buffer : RpmsgBuffer} {position : Nat}
    (hreceive : (s.device role).receives[i]? = some (.handling buffer position)) :
    s.Receives (s.returnBuffer role i buffer) role (s.channel role.peer).giveBack [] := by
  dsimp only [RpmsgSystem.returnBuffer]
  generalize rpmsgVirtioReturnBuffer role (s.receiveRing role) (s.device role).rvq buffer = result
  obtain ⟨vring, rvq⟩ := result
  have hreceives := RpmsgSystem.receives_setDevice { s.device role with
      rvq, lock := true, receives := (s.device role).receives.set i .returned }
    (RpmsgSystem.device_setReceiveRing s vring role) rfl rfl (List.append_nil _).symm
  have hlen := countP_set (p := fun pc : RxPc => pc.buffer?.isSome) hreceive .returned
  refine { hreceives with other := hreceives.other.trans (Channel.ext rfl ?_ ?_) }
  · exact (RpmsgSystem.queue_peer s role).symm
  · rw [Channel.giveBack, RpmsgSystem.held_peer, RpmsgDevice.length_rxBuffers,
      RpmsgDevice.length_rxBuffers]
    exact Nat.eq_sub_of_add_eq hlen

theorem RpmsgInv.receives_stepReceive (h : RpmsgInv cfg True s view) {pc : RxPc}
    (hreceive : (s.device role).receives[i]? = some pc) (hstep : s.stepReceive role i = some s') :
    s.Receives s' role (pc.consume (s.channel role.peer)) (pc.gets (s.channel role.peer)) := by
  unfold RpmsgSystem.stepReceive at hstep
  rw [hreceive] at hstep
  cases pc with
  | handling buffer position =>
      obtain rfl := Option.some.inj hstep
      exact RpmsgSystem.receives_returnBuffer hreceive
  | returned => exact h.receives_nextBuffer hreceive hstep

end Receives

/-! ### Runs -/

section Runs

variable {cfg : RpmsgConfig} {s s' : RpmsgSystem} {view : RpmsgView}

/-- Both devices start without a message. -/
theorem rpmsgInitVdev_channel {num0 num1 masterFeatures slaveFeatures : Nat} {masterIo slaveIo : ShmIo}
    {shpool : RpmsgVirtioShmPool} {shm : Nat → UInt8}
    (hinit : rpmsgInitVdev num0 num1 masterFeatures slaveFeatures masterIo slaveIo shpool shm = .ok s)
    (role : Role) : s.channel role = .empty := by
  rw [rpmsgInitVdev_eq] at hinit
  split at hinit
  · cases hinit
  next vring0 vring1 master shpool' shm' hmaster =>
    unfold rpmsgInitVdevMaster rpmsgInitVdevMasterOn at hmaster
    split_ifs at hmaster
    dsimp only at hmaster
    split at hmaster
    · cases hmaster
    have hdevice := congrArg (fun result => result.2.2.1) (Except.ok.inj hmaster)
    dsimp only at hdevice
    obtain rfl := Except.ok.inj hinit
    cases role with
    | master =>
        rw [← hdevice]
        rfl
    | slave =>
        rw [← hdevice]
        rfl

/-- Every step does to the channels what it says. -/
theorem RpmsgInv.channel_step (h : RpmsgInv cfg True s view) {action : RpmsgAction}
    (hstep : s.step action = some s') (role : Role) :
    s'.channel role = s.channelStep cfg role action ∧
      (s'.device role).received = (s.device role).received ++ s.handed role action := by
  cases action with
  | send sender call =>
      obtain rfl := Option.some.inj hstep
      have hsends := s.sends_startSend sender call
      refine ⟨?_, (hsends.received role).trans (List.append_nil _).symm⟩
      obtain rfl | rfl := sender.eq_or_eq_peer role
      · exact hsends.own
      · exact hsends.other
  | stepSend sender i =>
      have hsome : ∃ send, (s.device sender).sends[i]? = some send := by
        obtain ⟨call, pc, hsend, -⟩ := RpmsgSystem.sendsMove_stepSend hstep
        exact ⟨_, hsend⟩
      obtain ⟨send, hsend⟩ := hsome
      have hsends := h.sends_stepSend hsend hstep
      refine ⟨?_, (hsends.received role).trans (List.append_nil _).symm⟩
      rw [RpmsgSystem.channelStep]
      obtain rfl | rfl := sender.eq_or_eq_peer role
      · rw [if_pos rfl, hsend]
        exact hsends.own
      · rw [if_neg sender.ne_peer]
        exact hsends.other
  | rxCallback receiver =>
      have hreceives := h.receives_rxCallback hstep
      rw [RpmsgSystem.channelStep, RpmsgSystem.handed]
      obtain rfl | rfl := receiver.eq_or_eq_peer role
      · rw [if_pos rfl, if_pos rfl]
        exact ⟨hreceives.own, hreceives.received⟩
      · rw [if_neg receiver.ne_peer, if_neg receiver.ne_peer, List.append_nil]
        exact ⟨hreceives.other, hreceives.kept⟩
  | stepReceive receiver i =>
      cases hreceive : (s.device receiver).receives[i]? with
      | none =>
          rw [RpmsgSystem.step, RpmsgSystem.stepReceive, hreceive] at hstep
          cases hstep
      | some pc =>
          have hreceives := h.receives_stepReceive hreceive hstep
          rw [RpmsgSystem.channelStep, RpmsgSystem.handed]
          obtain rfl | rfl := receiver.eq_or_eq_peer role
          · rw [if_pos rfl, if_pos rfl, hreceive]
            exact ⟨hreceives.own, hreceives.received⟩
          · rw [if_neg receiver.ne_peer, if_neg receiver.ne_peer, List.append_nil, hreceive]
            exact ⟨hreceives.other, hreceives.kept⟩

end Runs

/-- The two devices, whatever the order of their steps, are two channels: a send gets a buffer if and
only if its channel has room, enqueueing posts the message, a receive callback gets the first message
on its way, and only returning the buffer gives the room back. -/
theorem rpmsg_refines_channels (cfg : RpmsgConfig)
    (hpool : cfg.size ≤ (cfg.num0 + cfg.num1) * RPMSG_BUFFER_SIZE)
    (masterFeatures slaveFeatures : Nat) (shm : Nat → UInt8) {s₀ s : RpmsgSystem}
    (hinit : rpmsgInitVdev cfg.num0 cfg.num1 masterFeatures slaveFeatures cfg.masterIo cfg.slaveIo
      (rpmsgVirtioInitShmPool cfg.base cfg.size) shm = .ok s₀)
    (hs : Run.Reachable RpmsgSystem.Allowed RpmsgSystem.step s₀ s) :
    (∀ role, s₀.channel role = Channel.empty) ∧
      ∀ action s', s.step action = some s' → ∀ role,
        s'.channel role = s.channelStep cfg role action ∧
          (s'.device role).received = (s.device role).received ++ s.handed role action := by
  have hbuffers : cfg.buffers ≤ cfg.num0 + cfg.num1 :=
    Nat.div_le_of_le_mul (by rwa [Nat.mul_comm] at hpool)
  obtain ⟨view, h⟩ := exists_rpmsgInv True (fun _ _ _ hallowed => hallowed.2)
    (.inl hbuffers) hinit hs
  exact ⟨rpmsgInitVdev_channel hinit, fun action s' hstep role => h.channel_step hstep role⟩

end OpenAmp
