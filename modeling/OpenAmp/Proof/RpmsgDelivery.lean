import OpenAmp.Proof.RpmsgInit

/-!
# What two devices deliver

Every message arrives once, in order and as it was sent, and a buffer in the hands of a call belongs
to that call alone.
-/

namespace OpenAmp

open ByteMemory ListCuts

/-- A step that can be taken, where every message is to fit the buffers of the pool. -/
def RpmsgSystem.Allowed (s : RpmsgSystem) (action : RpmsgAction) : Prop :=
  s.Ready action ∧ ∀ role call, action = .send role call → 0 ≤ call.size ∧ call.size ≤ capacity

instance RpmsgSystem.decidableAllowed (s : RpmsgSystem) (action : RpmsgAction) :
    Decidable (s.Allowed action) :=
  match action with
  | .send role call =>
      decidable_of_iff (0 ≤ call.size ∧ call.size ≤ capacity)
        ⟨fun h => ⟨trivial, fun _ _ heq => by
          obtain ⟨rfl, rfl⟩ := RpmsgAction.send.inj heq
          exact h⟩, fun h => h.2 role call rfl⟩
  | .stepSend role i =>
      decidable_of_iff (s.Ready (.stepSend role i)) ⟨fun h => ⟨h, by simp⟩, fun h => h.1⟩
  | .rxCallback role =>
      decidable_of_iff (s.Ready (.rxCallback role)) ⟨fun h => ⟨h, by simp⟩, fun h => h.1⟩
  | .stepReceive role i =>
      decidable_of_iff (s.Ready (.stepReceive role i)) ⟨fun h => ⟨h, by simp⟩, fun h => h.1⟩

section Delivery

variable {cfg : RpmsgConfig} {s s' : RpmsgSystem} {view : RpmsgView}

theorem RpmsgContent.received_isPrefix (h : RpmsgContent cfg s view) (role : Role) :
    (s.device role).received <+: (s.device role.peer).sent.map SendCall.message := by
  rw [h.received role, List.map_take]
  exact List.take_prefix _ _

/-- A receive callback that finds nothing has left nothing behind. -/
theorem RpmsgInv.received_all (h : RpmsgInv cfg True s view) {role : Role} {vr : Vring}
    {vq : Virtqueue}
    (hnone : rpmsgVirtioGetRxBuffer role (s.receiveRing role) (s.device role).rvq =
      some (vr, vq, none)) :
    (s.device role).received.length = (s.device role.peer).sent.length := by
  have hcontents := h.contents trivial
  rcases h.getRxBuffer role with ⟨hempty, -⟩ | ⟨slot, rest, idx, vring, rvq, view', -, hget, -⟩
  · have hpending := (hcontents.pending role).length_eq
    rw [hempty, List.length_nil, List.length_drop] at hpending
    have hle := hcontents.received_le role
    omega
  · rw [hget] at hnone
    simp at hnone

/-- What a receive callback sees while it handles a message. -/
theorem RpmsgInv.reads_message (h : RpmsgInv cfg True s view) {role : Role} {i position : Nat}
    {buffer : RpmsgBuffer}
    (hreceive : (s.device role).receives[i]? = some (.handling buffer position)) :
    ∃ call, (s.device role.peer).sent[position]? = some call ∧
      rpmsgRead (s.device role).shbufIo s.shm buffer.addr = call.message := by
  have hmem : buffer ∈ (s.device role).rxBuffers :=
    List.mem_filterMap.mpr ⟨_, List.mem_of_getElem? hreceive, rfl⟩
  obtain ⟨buf, idx, rfl, hbuf⟩ := h.rxBuffer_eq hmem
  obtain ⟨call, hcall, hat⟩ := (h.contents trivial).reads role _ (List.mem_of_getElem? hreceive)
  rw [cfg.number_buffer] at hat
  refine ⟨call, hcall, ?_⟩
  rw [h.io role]
  exact cfg.rpmsgRead_eq role hbuf hat

end Delivery

/-! ### Ownership -/

section Ownership

variable {cfg : RpmsgConfig} {content : Prop} {s s' : RpmsgSystem} {view : RpmsgView}

theorem RpmsgConfig.cells_buffer (cfg : RpmsgConfig) (role : Role) {buf idx : Nat}
    (hbuf : buf < cfg.buffers) :
    (cfg.buffer role buf idx).cells (cfg.io role) =
      (List.range RPMSG_BUFFER_SIZE).map fun i => cfg.cell buf + i := by
  refine List.map_congr_left fun i hi => ?_
  have hcell := cfg.cell_addr role (i := i) (j := 0) hbuf (by simpa using hi)
  rw [Nat.add_zero, Nat.add_zero] at hcell
  exact hcell

/-- The buffers in the hands of the calls of a device, by number. -/
theorem RpmsgInv.holdings_eq (h : RpmsgInv cfg content s view) :
    s.holdings = (s.txNumbers cfg .master ++ s.rxNumbers cfg .master ++
      (s.txNumbers cfg .slave ++ s.rxNumbers cfg .slave)).map fun buf =>
        (List.range RPMSG_BUFFER_SIZE).map fun i => cfg.cell buf + i := by
  have hside : ∀ role, ((s.device role).txBuffers ++ (s.device role).rxBuffers).map
      (RpmsgBuffer.cells (s.device role).shbufIo) =
        (s.txNumbers cfg role ++ s.rxNumbers cfg role).map fun buf =>
          (List.range RPMSG_BUFFER_SIZE).map fun i => cfg.cell buf + i := by
    intro role
    rw [RpmsgSystem.txNumbers, RpmsgSystem.rxNumbers, ← List.map_append, List.map_map, h.io role]
    refine List.map_congr_left fun buffer hbuffer => ?_
    have hwhole : ∃ buf idx, buffer = cfg.buffer role buf idx ∧ buf < cfg.buffers := by
      rcases List.mem_append.mp hbuffer with htx | hrx
      · exact h.txBuffer_eq htx
      · exact h.rxBuffer_eq hrx
    obtain ⟨buf, idx, rfl, hbuf⟩ := hwhole
    rw [cfg.cells_buffer role hbuf, Function.comp_apply, cfg.number_buffer]
  simp only [RpmsgSystem.holdings, List.flatMap_cons, List.flatMap_nil, List.append_nil, hside,
    List.map_append]

theorem RpmsgInv.holdings_pairwise (h : RpmsgInv cfg content s view) :
    s.holdings.Pairwise List.Disjoint := by
  rw [h.holdings_eq, List.pairwise_map]
  have hnodup : (s.txNumbers cfg .master ++ s.rxNumbers cfg .master ++
      (s.txNumbers cfg .slave ++ s.rxNumbers cfg .slave)).Nodup := by
    rw [List.nodup_iff_count_le_one]
    intro n
    have hcount := (view.count_le_owned cfg s .master n).trans
      (List.nodup_iff_count_le_one.mp h.owned_nodup n)
    simp only [Role.peer] at hcount
    simp only [List.count_append]
    omega
  refine hnodup.imp fun {buf buf'} hne cell hcell hcell' => hne ?_
  obtain ⟨i, hi, rfl⟩ := List.mem_map.mp hcell
  obtain ⟨j, hj, heq⟩ := List.mem_map.mp hcell'
  have hi' := List.mem_range.mp hi
  have hj' := List.mem_range.mp hj
  simp only [RpmsgConfig.cell, RPMSG_BUFFER_SIZE] at *
  omega

@[simp] theorem RpmsgSystem.shm_setSendRing (s : RpmsgSystem) (vring : Vring) (role : Role) :
    (s.setSendRing vring role).shm = s.shm := by
  cases role <;> rfl

@[simp] theorem RpmsgSystem.shm_setReceiveRing (s : RpmsgSystem) (vring : Vring) (role : Role) :
    (s.setReceiveRing vring role).shm = s.shm := by
  cases role <;> rfl

theorem RpmsgSystem.takeBuffer_shm {role : Role} {i : Nat} {call : SendCall} {tickCount : Nat}
    {availSize : Int} (hstep : s.takeBuffer role i call tickCount availSize = some s') :
    s'.shm = s.shm := by
  simp only [RpmsgSystem.takeBuffer, Option.bind_eq_bind, Option.bind_eq_some_iff] at hstep
  obtain ⟨⟨vring, svq, shpool, buffer⟩, -, hstep⟩ := hstep
  cases buffer with
  | some buffer =>
      obtain rfl := Option.some.inj hstep
      simp
  | none =>
      simp only at hstep
      split_ifs at hstep <;> obtain rfl := Option.some.inj hstep <;> simp

theorem RpmsgSystem.nextBuffer_shm {role : Role} {i : Nat} (hstep : s.nextBuffer role i = some s') :
    s'.shm = s.shm := by
  simp only [RpmsgSystem.nextBuffer, Option.bind_eq_bind, Option.bind_eq_some_iff] at hstep
  obtain ⟨⟨vring, rvq, buffer⟩, -, hstep⟩ := hstep
  cases buffer <;> obtain rfl := Option.some.inj hstep <;> simp

theorem RpmsgSystem.rxCallback_shm {role : Role} (hstep : s.rxCallback role = some s') :
    s'.shm = s.shm := by
  simp only [RpmsgSystem.rxCallback, Option.bind_eq_bind, Option.bind_eq_some_iff] at hstep
  obtain ⟨⟨vring, rvq, buffer⟩, -, hstep⟩ := hstep
  cases buffer <;> obtain rfl := Option.some.inj hstep <;> simp

theorem RpmsgSystem.stepReceive_shm {role : Role} {i : Nat}
    (hstep : s.stepReceive role i = some s') : s'.shm = s.shm := by
  rw [RpmsgSystem.stepReceive] at hstep
  split at hstep
  · exact absurd hstep (Option.some_ne_none _).symm
  · obtain rfl := Option.some.inj hstep
    simp [RpmsgSystem.returnBuffer]
  · exact RpmsgSystem.nextBuffer_shm hstep

theorem RpmsgInv.stepSend_frame (h : RpmsgInv cfg content s view) {role : Role} {i : Nat}
    (hfits : ∀ call buffer, (s.device role).sends[i]? = some ⟨call, .header buffer⟩ →
      call.size ≤ capacity)
    (hstep : s.stepSend role i = some s') {n : Nat}
    (hother : ∀ send buffer, (s.device role).sends[i]? = some send →
      send.pc.buffer? = some buffer → cfg.number role buffer ≠ n) :
    ∀ k < RPMSG_BUFFER_SIZE, s'.shm (cfg.cell n + k) = s.shm (cfg.cell n + k) := by
  intro k hk
  rw [RpmsgSystem.stepSend] at hstep
  split at hstep
  · exact absurd hstep (Option.some_ne_none _).symm
  next call pc hsend =>
    cases pc with
    | loop tickCount =>
        obtain rfl := Option.some.inj hstep
        rw [h.testSize_eq]
        split_ifs <;> simp
    | tested tickCount availSize => rw [RpmsgSystem.takeBuffer_shm hstep]
    | taken buffer =>
        obtain rfl := Option.some.inj hstep
        have hne := hother _ buffer hsend rfl
        obtain ⟨buf, idx, rfl, hbuf⟩ := h.txBuffer_eq
          (List.mem_filterMap.mpr ⟨_, List.mem_of_getElem? hsend, rfl⟩)
        rw [cfg.number_buffer] at hne
        simp only [RpmsgSystem.writeHeader, RpmsgSystem.shm_setDevice, h.io role]
        exact cfg.header_frame role hbuf s.shm call hne.symm k hk
    | header buffer =>
        have hne := hother _ buffer hsend rfl
        obtain ⟨buf, idx, rfl, hbuf⟩ := h.txBuffer_eq
          (List.mem_filterMap.mpr ⟨_, List.mem_of_getElem? hsend, rfl⟩)
        rw [cfg.number_buffer] at hne
        simp only [RpmsgSystem.writePayload, h.io role] at hstep
        split_ifs at hstep
        obtain rfl := Option.some.inj hstep
        simp only [RpmsgSystem.shm_setDevice]
        exact cfg.payload_frame role hbuf s.shm (hfits call _ hsend) hne.symm k hk
    | payload buffer =>
        simp only [RpmsgSystem.enqueue] at hstep
        split_ifs at hstep
        obtain rfl := Option.some.inj hstep
        simp
    | enqueued =>
        obtain rfl := Option.some.inj hstep
        simp [RpmsgSystem.kick]

/-- A step changes no byte of a buffer unless it is taken by the send that owns the buffer. -/
theorem RpmsgInv.step_frame (h : RpmsgInv cfg True s view) {action : RpmsgAction}
    (hstep : s.step action = some s') {n : Nat}
    (hother : ∀ role i send buffer, action = .stepSend role i →
      (s.device role).sends[i]? = some send → send.pc.buffer? = some buffer →
        cfg.number role buffer ≠ n) :
    ∀ k < RPMSG_BUFFER_SIZE, s'.shm (cfg.cell n + k) = s.shm (cfg.cell n + k) := by
  cases action with
  | send role call =>
      obtain rfl := Option.some.inj hstep
      intro k _
      rw [RpmsgSystem.startSend]
      split_ifs <;> simp
  | stepSend role i =>
      refine h.stepSend_frame (fun call buffer hsend => ?_) hstep fun send buffer =>
        hother role i send buffer rfl
      exact ((h.contents trivial).sends role _ (List.mem_of_getElem? hsend)).fits
  | rxCallback role =>
      rw [RpmsgSystem.rxCallback_shm hstep]
      exact fun _ _ => rfl
  | stepReceive role i =>
      rw [RpmsgSystem.stepReceive_shm hstep]
      exact fun _ _ => rfl

end Ownership

section Runs

variable {cfg : RpmsgConfig} {s s' : RpmsgSystem} {view : RpmsgView}

theorem RpmsgConfig.load_congr (cfg : RpmsgConfig) (role : Role) {buf idx : Nat}
    (hbuf : buf < cfg.buffers) {shm shm' : Nat → UInt8}
    (hsame : ∀ k < RPMSG_BUFFER_SIZE, shm' (cfg.cell buf + k) = shm (cfg.cell buf + k)) :
    (cfg.io role).load shm' (cfg.buffer role buf idx).addr RPMSG_BUFFER_SIZE =
      (cfg.io role).load shm (cfg.buffer role buf idx).addr RPMSG_BUFFER_SIZE := by
  have hload := fun shm => cfg.load_addr role hbuf shm 0 RPMSG_BUFFER_SIZE
    (Nat.zero_add _).le
  simp only [Nat.add_zero] at hload
  rw [RpmsgConfig.buffer, hload, hload]
  exact readBytes_congr hsame

theorem RpmsgInv.txBuffer_unchanged (h : RpmsgInv cfg True s view) {action : RpmsgAction}
    (hstep : s.step action = some s') {role : Role} {i : Nat} {send : Send} {buffer : RpmsgBuffer}
    (hsend : (s.device role).sends[i]? = some send) (hbuffer : send.pc.buffer? = some buffer)
    (hnotOwn : action ≠ .stepSend role i) :
    (s.device role).shbufIo.load s'.shm buffer.addr RPMSG_BUFFER_SIZE =
      (s.device role).shbufIo.load s.shm buffer.addr RPMSG_BUFFER_SIZE := by
  obtain ⟨buf, idx, rfl, hbuf⟩ := h.txBuffer_eq
    (List.mem_filterMap.mpr ⟨_, List.mem_of_getElem? hsend, hbuffer⟩)
  rw [h.io role]
  refine cfg.load_congr role hbuf (h.step_frame hstep ?_)
  intro role' j acting buffer' haction hacting hbuffer'
  obtain ⟨front, back, hsends, -, herase⟩ := exists_around hacting
  have hexclusive := h.exclusive hsends hbuffer'
  by_cases hrole : role = role'
  · subst hrole
    have hindex : i ≠ j := by
      rintro rfl
      exact hnotOwn haction
    have hmem : send ∈ front ++ back := by
      rw [← herase, List.mem_eraseIdx_iff_getElem?]
      exact ⟨i, hindex, hsend⟩
    have hne := hexclusive.sends send hmem _ hbuffer
    rw [cfg.number_buffer] at hne
    exact hne.symm
  · have hpeer : role = role'.peer := by
      cases role <;> cases role' <;> first | rfl | exact absurd rfl hrole
    subst hpeer
    have hne := hexclusive.peerSends _
      (List.mem_filterMap.mpr ⟨_, List.mem_of_getElem? hsend, hbuffer⟩)
    rw [cfg.number_buffer] at hne
    exact hne.symm

theorem RpmsgInv.rxBuffer_unchanged (h : RpmsgInv cfg True s view) {action : RpmsgAction}
    (hstep : s.step action = some s') {role : Role} {buffer : RpmsgBuffer}
    (hbuffer : buffer ∈ (s.device role).rxBuffers) :
    (s.device role).shbufIo.load s'.shm buffer.addr RPMSG_BUFFER_SIZE =
      (s.device role).shbufIo.load s.shm buffer.addr RPMSG_BUFFER_SIZE := by
  obtain ⟨buf, idx, rfl, hbuf⟩ := h.rxBuffer_eq hbuffer
  rw [h.io role]
  refine cfg.load_congr role hbuf (h.step_frame hstep ?_)
  intro role' j acting buffer' _ hacting hbuffer'
  obtain ⟨front, back, hsends, -, -⟩ := exists_around hacting
  have hne := (h.exclusive hsends hbuffer').receives role _ hbuffer
  rw [cfg.number_buffer] at hne
  exact hne.symm

/-- No call gets stuck. -/
theorem RpmsgInv.step_isSome (h : RpmsgInv cfg True s view)
    (hpool : cfg.buffers ≤ cfg.num0 + cfg.num1) {action : RpmsgAction}
    (hready : s.Ready action) : (s.step action).isSome := by
  cases action with
  | send role call => rfl
  | stepSend role i =>
      obtain ⟨⟨call, pc⟩, hsend, -⟩ := hready
      simp only [RpmsgSystem.step, RpmsgSystem.stepSend, hsend]
      cases pc with
      | loop tickCount => rfl
      | tested tickCount availSize =>
          cases role with
          | master =>
              obtain ⟨s', view', htake, -⟩ := h.takeBuffer_master hsend
              exact Option.isSome_of_eq_some htake
          | slave =>
              obtain ⟨s', view', htake, -⟩ := h.takeBuffer_slave hsend
              exact Option.isSome_of_eq_some htake
      | taken buffer => rfl
      | header buffer =>
          have hnonneg := ((h.contents trivial).sends role _ (List.mem_of_getElem? hsend)).nonneg
          simp only [RpmsgSystem.writePayload]
          rw [if_neg (not_lt.mpr hnonneg)]
          rfl
      | payload buffer =>
          cases role with
          | master =>
              obtain ⟨s', head, henqueue, -⟩ := h.enqueue_master hsend
                (h.ring1_free_ne_nil hpool
                  (List.mem_filterMap.mpr ⟨_, List.mem_of_getElem? hsend, rfl⟩))
              exact Option.isSome_of_eq_some henqueue
          | slave =>
              obtain ⟨s', head, held, henqueue, -⟩ := h.enqueue_slave hsend
              exact Option.isSome_of_eq_some henqueue
      | enqueued => rfl
  | rxCallback role =>
      obtain ⟨s', view', hrx, -⟩ := h.rxCallback role
      exact Option.isSome_of_eq_some hrx
  | stepReceive role i =>
      obtain ⟨pc, hreceive, -⟩ := hready
      simp only [RpmsgSystem.step, RpmsgSystem.stepReceive, hreceive]
      cases pc with
      | handling buffer position => rfl
      | returned =>
          obtain ⟨s', view', hnext, -⟩ := h.nextBuffer hreceive
          exact Option.isSome_of_eq_some hnext

/-- Unless the pool has more buffers than both rings have entries, the master enqueues with room. -/
theorem RpmsgInv.enqueuesWithRoom {content : Prop} (h : RpmsgInv cfg content s view)
    (hpool : cfg.buffers ≤ cfg.num0 + cfg.num1) (i : Nat) : s.EnqueuesWithRoom i := by
  intro call buffer hsend
  have hmem : buffer ∈ s.master.txBuffers :=
    List.mem_filterMap.mpr ⟨_, List.mem_of_getElem? hsend, rfl⟩
  rw [h.svqFreeCnt]
  exact List.length_pos_iff.mpr (h.ring1_free_ne_nil hpool hmem)

/-- The invariant holds in every run in which the master always enqueues with room, as it does when
the rings have entries for all buffers of the pool. -/
theorem exists_rpmsgInv (content : Prop) {allowed : RpmsgSystem → RpmsgAction → Prop}
    (hsizes : content → ∀ s action, allowed s action → ∀ role call, action = .send role call →
      0 ≤ call.size ∧ call.size ≤ capacity)
    (hroom : cfg.buffers ≤ cfg.num0 + cfg.num1 ∨ ∀ s action, allowed s action →
      ∀ i, action = .stepSend .master i → s.EnqueuesWithRoom i)
    {masterFeatures slaveFeatures : Nat} {shm : Nat → UInt8} {s₀ : RpmsgSystem}
    (hinit : rpmsgInitVdev cfg.num0 cfg.num1 masterFeatures slaveFeatures cfg.masterIo cfg.slaveIo
      (rpmsgVirtioInitShmPool cfg.base cfg.size) shm = .ok s₀)
    (hs : Run.Reachable allowed RpmsgSystem.step s₀ s) : ∃ view, RpmsgInv cfg content s view := by
  refine hs.invariant (P := fun s => ∃ view, RpmsgInv cfg content s view) ?_ ?_
  · obtain ⟨ring0, hinv, -⟩ := rpmsgInitVdev_ok hinit
    exact ⟨_, { hinv with contents := fun _ => hinv.contents trivial }⟩
  · rintro s action s' ⟨view, h⟩ hallowed hstep
    refine h.step ?_ (fun hcontent => hsizes hcontent s action hallowed) hstep
    rcases hroom with hpool | hroom
    · exact fun i _ => h.enqueuesWithRoom hpool i
    · exact hroom s action hallowed

/-- Messages of up to 496 bytes between two devices over a pool that the two rings have entries for
are delivered: a side has taken, in order, a first part of what the other has enqueued, and stops only
when it has taken all; each message is read, at any time it is handled, as it was sent; and the bytes
of a buffer in the hands of a call are those of no other call's buffer and change only by steps of
that call. No step gets stuck. -/
theorem rpmsg_delivers (cfg : RpmsgConfig)
    (hpool : cfg.size ≤ (cfg.num0 + cfg.num1) * RPMSG_BUFFER_SIZE)
    (masterFeatures slaveFeatures : Nat) (shm : Nat → UInt8) {s₀ s : RpmsgSystem}
    (hinit : rpmsgInitVdev cfg.num0 cfg.num1 masterFeatures slaveFeatures cfg.masterIo cfg.slaveIo
      (rpmsgVirtioInitShmPool cfg.base cfg.size) shm = .ok s₀)
    (hs : Run.Reachable RpmsgSystem.Allowed RpmsgSystem.step s₀ s) :
    (∀ role, (s.device role).received <+: (s.device role.peer).sent.map SendCall.message) ∧
      (∀ role vr vq, rpmsgVirtioGetRxBuffer role (s.receiveRing role) (s.device role).rvq =
          some (vr, vq, none) →
        (s.device role).received.length = (s.device role.peer).sent.length) ∧
      (∀ role (i : Nat) buffer position,
        (s.device role).receives[i]? = some (RxPc.handling buffer position) →
          ∃ call, (s.device role.peer).sent[position]? = some call ∧
            rpmsgRead (s.device role).shbufIo s.shm buffer.addr = call.message) ∧
      s.holdings.Pairwise List.Disjoint ∧
      (∀ action s', s.step action = some s' → ∀ role,
        (∀ (i : Nat) send buffer, (s.device role).sends[i]? = some send →
          send.pc.buffer? = some buffer → action ≠ .stepSend role i →
            (s.device role).shbufIo.load s'.shm buffer.addr RPMSG_BUFFER_SIZE =
              (s.device role).shbufIo.load s.shm buffer.addr RPMSG_BUFFER_SIZE) ∧
        (∀ buffer ∈ (s.device role).rxBuffers,
          (s.device role).shbufIo.load s'.shm buffer.addr RPMSG_BUFFER_SIZE =
            (s.device role).shbufIo.load s.shm buffer.addr RPMSG_BUFFER_SIZE)) ∧
      ∀ action, s.Allowed action → (s.step action).isSome := by
  have hbuffers : cfg.buffers ≤ cfg.num0 + cfg.num1 :=
    Nat.div_le_of_le_mul (by rwa [Nat.mul_comm] at hpool)
  obtain ⟨view, h⟩ := exists_rpmsgInv True (fun _ _ _ hallowed => hallowed.2)
    (.inl hbuffers) hinit hs
  refine ⟨(h.contents trivial).received_isPrefix, fun role vr vq => h.received_all,
    fun role i buffer position => h.reads_message, h.holdings_pairwise, ?_, ?_⟩
  · intro action s' hstep role
    exact ⟨fun i send buffer hsend hbuffer hnotOwn =>
      h.txBuffer_unchanged hstep hsend hbuffer hnotOwn,
      fun buffer hbuffer => h.rxBuffer_unchanged hstep hbuffer⟩
  · intro action hallowed
    exact h.step_isSome hbuffers hallowed.1

end Runs

theorem except_toOption {ε α : Type*} {result : Except ε α} {value : α}
    (h : result.toOption = some value) : result = .ok value := by
  cases result with
  | error err => exact absurd h (by simp [Except.toOption])
  | ok other => exact congrArg Except.ok (Option.some.inj h)

/-- A byte each way through rings of one entry, the buffer of the first message used again. -/
theorem rpmsg_delivers_one_entry :
    ∃ s : RpmsgSystem,
      s.slave.received = [⟨1, 2, 1, [7]⟩, ⟨1, 2, 0, []⟩] ∧ s.master.received = [⟨3, 4, 2, [8, 9]⟩] ∧
      s.slave.received <+: s.master.sent.map SendCall.message ∧
      s.master.received <+: s.slave.sent.map SendCall.message := by
  let cfg := RpmsgConfig.linear 0 0 1024 (by decide) (by decide) (by decide)
  let send (role : Role) (call : SendCall) : List RpmsgAction :=
    .send role call :: List.replicate 6 (.stepSend role 0)
  let receive (role : Role) : List RpmsgAction :=
    [.rxCallback role, .stepReceive role 0, .stepReceive role 0]
  obtain ⟨s₀, s, hinit, hs, hreceived⟩ := Run.exists_reachable_of_ok
    RpmsgSystem.Allowed RpmsgSystem.step
    (rpmsgInitVdev cfg.num0 cfg.num1 0 0 cfg.masterIo cfg.slaveIo
      (rpmsgVirtioInitShmPool cfg.base cfg.size) fun _ => 0)
    (send .master ⟨1, 2, fun _ => 7, 1, false, 0⟩ ++ receive .slave ++
      send .slave ⟨3, 4, fun i => UInt8.ofNat (8 + i), 2, true, 0⟩ ++ receive .master ++
      send .master ⟨1, 2, fun _ => 7, 0, false, 0⟩ ++ receive .slave)
    (fun s => (s.slave.received, s.master.received))
    ([⟨1, 2, 1, [7]⟩, ⟨1, 2, 0, []⟩], [⟨3, 4, 2, [8, 9]⟩]) (by decide +kernel)
  obtain ⟨hslave, hmaster⟩ := Prod.mk.inj hreceived
  have h := rpmsg_delivers cfg (by decide) 0 0 (fun _ => 0) hinit hs
  exact ⟨s, hslave, hmaster, h.1 .slave, h.1 .master⟩

end OpenAmp
