import OpenAmp.Proof.RpmsgDelivery

/-!
# When there is room

Two limits that `rpmsg_virtio.c` does not check: whether the send ring has an entry for every buffer
of the pool, and whether the buffer a send gets is the one its size was tested against.
-/

namespace OpenAmp

open ListCuts

/-! ### How sends move -/

/-- The retries a call starts with. -/
def SendCall.ticks (call : SendCall) : Nat :=
  if call.wait then RPMSG_TICK_COUNT / RPMSG_TICKS_PER_INTERVAL else 0

/-- A step of a send after which it is still under way. -/
inductive SendPc.Next (s : RpmsgSystem) (role : Role) (call : SendCall) :
    SendPc → SendPc → Prop where
  | test {tickCount : Nat} {availSize : Int}
      (hsize : (rpmsgVirtioGetBufferSize role (s.sendRing role) (s.device role).svq).2 = availSize)
      (hroom : availSize = 0 ∨ call.size ≤ availSize) :
      Next s role call (.loop tickCount) (.tested tickCount availSize)
  | take {tickCount : Nat} {availSize : Int} {vring : Vring} {svq : Virtqueue}
      {shpool : RpmsgVirtioShmPool} {buffer : RpmsgBuffer}
      (hget : rpmsgVirtioGetTxBuffer role (s.sendRing role) (s.device role).svq s.shpool =
        some (vring, svq, shpool, some buffer)) :
      Next s role call (.tested tickCount availSize) (.taken buffer)
  | retry {tickCount : Nat} : Next s role call (.tested tickCount 0) (.loop (tickCount - 1))
  | header {buffer : RpmsgBuffer} : Next s role call (.taken buffer) (.header buffer)
  | payload {buffer : RpmsgBuffer} : Next s role call (.header buffer) (.payload buffer)
  | enqueue {buffer : RpmsgBuffer} : Next s role call (.payload buffer) .enqueued

section Moves

variable {s s' : RpmsgSystem}

@[simp] theorem RpmsgSystem.device_setSendRing (s : RpmsgSystem) (vring : Vring)
    (role role' : Role) : (s.setSendRing vring role).device role' = s.device role' := by
  cases role <;> cases role' <;> rfl

@[simp] theorem RpmsgSystem.device_setReceiveRing (s : RpmsgSystem) (vring : Vring)
    (role role' : Role) : (s.setReceiveRing vring role).device role' = s.device role' := by
  cases role <;> cases role' <;> rfl

@[simp] theorem RpmsgSystem.device_withShpool (s : RpmsgSystem) (shpool : RpmsgVirtioShmPool)
    (role : Role) : { s with shpool }.device role = s.device role := by
  cases role <;> rfl

@[simp] theorem RpmsgSystem.device_withShm (s : RpmsgSystem) (shm : Nat → UInt8) (role : Role) :
    { s with shm }.device role = s.device role := by
  cases role <;> rfl

/-- What becomes of the sends of a device when its `i`th send takes a step. -/
def RpmsgSystem.SendsMove (s s' : RpmsgSystem) (role : Role) (i : Nat) (call : SendCall)
    (pc : SendPc) : Prop :=
  (s'.device role.peer).sends = (s.device role.peer).sends ∧
    ((s'.device role).sends = (s.device role).sends.eraseIdx i ∨
      ∃ pc', pc.Next s role call pc' ∧
        (s'.device role).sends = (s.device role).sends.set i ⟨call, pc'⟩)

theorem RpmsgSystem.sendsMove_testSize (role : Role) (i : Nat) (call : SendCall)
    (tickCount : Nat) :
    s.SendsMove (s.testSize role i call tickCount) role i call (.loop tickCount) := by
  rw [RpmsgSystem.testSize]
  simp only
  split_ifs with hlarge
  · exact ⟨by simp, .inl (by simp [RpmsgDevice.finish])⟩
  · refine ⟨by simp, .inr ⟨_, .test rfl ?_, by simp [RpmsgDevice.setSend]⟩⟩
    rw [not_and_or, not_not, not_lt] at hlarge
    exact hlarge

theorem RpmsgSystem.sendsMove_takeBuffer {role : Role} {i : Nat} {call : SendCall}
    {tickCount : Nat} {availSize : Int}
    (hstep : s.takeBuffer role i call tickCount availSize = some s') :
    s.SendsMove s' role i call (.tested tickCount availSize) := by
  simp only [RpmsgSystem.takeBuffer, Option.bind_eq_bind, Option.bind_eq_some_iff] at hstep
  obtain ⟨⟨vring, svq, shpool, buffer⟩, hget, hstep⟩ := hstep
  cases buffer with
  | some buffer =>
      obtain rfl := Option.some.inj hstep
      exact ⟨by simp, .inr ⟨_, .take hget, by simp [RpmsgDevice.setSend]⟩⟩
  | none =>
      simp only at hstep
      split_ifs at hstep with hlast hroom <;> obtain rfl := Option.some.inj hstep
      · exact ⟨by simp, .inl (by simp [RpmsgDevice.finish])⟩
      · exact ⟨by simp, .inl (by simp [RpmsgDevice.finish])⟩
      · obtain rfl := not_not.mp hroom
        exact ⟨by simp, .inr ⟨_, .retry, by simp [RpmsgDevice.setSend]⟩⟩

theorem RpmsgSystem.sendsMove_stepSend {role : Role} {i : Nat}
    (hstep : s.stepSend role i = some s') :
    ∃ call pc, (s.device role).sends[i]? = some ⟨call, pc⟩ ∧ s.SendsMove s' role i call pc := by
  rw [RpmsgSystem.stepSend] at hstep
  split at hstep
  · exact absurd hstep (Option.some_ne_none _).symm
  · next call pc hsend =>
      refine ⟨call, pc, hsend, ?_⟩
      cases pc with
      | loop tickCount =>
          obtain rfl := Option.some.inj hstep
          exact RpmsgSystem.sendsMove_testSize role i call tickCount
      | tested tickCount availSize => exact RpmsgSystem.sendsMove_takeBuffer hstep
      | taken buffer =>
          obtain rfl := Option.some.inj hstep
          exact ⟨by simp [RpmsgSystem.writeHeader],
            .inr ⟨_, .header, by simp [RpmsgSystem.writeHeader, RpmsgDevice.setSend]⟩⟩
      | header buffer =>
          simp only [RpmsgSystem.writePayload] at hstep
          split_ifs at hstep
          obtain rfl := Option.some.inj hstep
          exact ⟨by simp, .inr ⟨_, .payload, by simp [RpmsgDevice.setSend]⟩⟩
      | payload buffer =>
          simp only [RpmsgSystem.enqueue] at hstep
          split_ifs at hstep
          obtain rfl := Option.some.inj hstep
          exact ⟨by simp, .inr ⟨_, .enqueue, by simp [RpmsgDevice.setSend]⟩⟩
      | enqueued =>
          obtain rfl := Option.some.inj hstep
          exact ⟨by simp [RpmsgSystem.kick],
            .inl (by simp [RpmsgSystem.kick, RpmsgDevice.finish])⟩

/-- Receiving leaves the sends alone. -/
theorem RpmsgSystem.sends_setDevice (s : RpmsgSystem) {device : RpmsgDevice} {role : Role}
    (hsame : device.sends = (s.device role).sends) (role' : Role) :
    ((s.setDevice device role).device role').sends = (s.device role').sends := by
  rcases role.eq_or_eq_peer role' with rfl | rfl
  · rw [RpmsgSystem.device_setDevice_self, hsame]
  · rw [RpmsgSystem.device_setDevice_peer]

theorem RpmsgSystem.sends_rxCallback {role : Role} (hstep : s.rxCallback role = some s')
    (role' : Role) : (s'.device role').sends = (s.device role').sends := by
  simp only [RpmsgSystem.rxCallback, Option.bind_eq_bind, Option.bind_eq_some_iff] at hstep
  obtain ⟨⟨vring, rvq, buffer⟩, -, hstep⟩ := hstep
  cases buffer <;> obtain rfl := Option.some.inj hstep <;>
    exact (RpmsgSystem.sends_setDevice _ (by simp [RpmsgDevice.receive]) role').trans (by simp)

theorem RpmsgSystem.sends_stepReceive {role : Role} {i : Nat}
    (hstep : s.stepReceive role i = some s') (role' : Role) :
    (s'.device role').sends = (s.device role').sends := by
  rw [RpmsgSystem.stepReceive] at hstep
  split at hstep
  · exact absurd hstep (Option.some_ne_none _).symm
  · obtain rfl := Option.some.inj hstep
    exact (RpmsgSystem.sends_setDevice _ (by simp) role').trans (by simp)
  · simp only [RpmsgSystem.nextBuffer, Option.bind_eq_bind, Option.bind_eq_some_iff] at hstep
    obtain ⟨⟨vring, rvq, buffer⟩, -, hstep⟩ := hstep
    cases buffer <;> obtain rfl := Option.some.inj hstep <;>
      exact (RpmsgSystem.sends_setDevice _ (by simp [RpmsgDevice.receive]) role').trans (by simp)

/-- What holds of every send survives a step if it holds of the sends that start and of each state
a send can move to. -/
theorem RpmsgSystem.forall_sends_step {P : Role → Send → Prop} {action : RpmsgAction}
    (hall : ∀ role, ∀ send ∈ (s.device role).sends, P role send)
    (hstart : ∀ role call, action = .send role call → P role ⟨call, .loop call.ticks⟩)
    (hnext : ∀ role (i : Nat) call pc pc', action = .stepSend role i →
      (s.device role).sends[i]? = some ⟨call, pc⟩ → pc.Next s role call pc' → P role ⟨call, pc'⟩)
    (hstep : s.step action = some s') :
    ∀ role, ∀ send ∈ (s'.device role).sends, P role send := by
  intro role send hsend
  cases action with
  | send role' call =>
      obtain rfl := Option.some.inj hstep
      rw [RpmsgSystem.startSend] at hsend
      by_cases hstatus : s.status &&& VIRTIO_CONFIG_STATUS_DRIVER_OK = 0
      · rw [if_pos hstatus, RpmsgSystem.sends_setDevice] at hsend
        · exact hall role send hsend
        · rfl
      · rw [if_neg hstatus] at hsend
        rcases role'.eq_or_eq_peer role with rfl | rfl
        · rw [RpmsgSystem.device_setDevice_self] at hsend
          rcases List.mem_append.mp hsend with hold | hnew
          · exact hall _ send hold
          · obtain rfl := List.mem_singleton.mp hnew
            exact hstart _ call rfl
        · rw [RpmsgSystem.device_setDevice_peer] at hsend
          exact hall _ send hsend
  | stepSend role' i =>
      obtain ⟨call, pc, hacting, hpeer, hself⟩ := RpmsgSystem.sendsMove_stepSend hstep
      rcases role'.eq_or_eq_peer role with rfl | rfl
      · rcases hself with herase | ⟨pc', hpc, hset⟩
        · rw [herase] at hsend
          exact hall _ send (List.mem_of_mem_eraseIdx hsend)
        · rw [hset] at hsend
          rcases List.mem_or_eq_of_mem_set hsend with hold | rfl
          · exact hall _ send hold
          · exact hnext _ i call pc pc' rfl hacting hpc
      · rw [hpeer] at hsend
        exact hall _ send hsend
  | rxCallback role' =>
      rw [RpmsgSystem.sends_rxCallback hstep] at hsend
      exact hall role send hsend
  | stepReceive role' i =>
      rw [RpmsgSystem.sends_stepReceive hstep] at hsend
      exact hall role send hsend

end Moves

/-! ### The send ring of the master -/

/-- Whenever a send of the master enqueues, the send ring has a free descriptor to start from. -/
def RpmsgSystem.PostsWithRoom (s : RpmsgSystem) : Prop :=
  ∀ (i : Nat) call buffer, s.Ready (.stepSend .master i) →
    s.master.sends[i]? = some ⟨call, SendPc.payload buffer⟩ →
      1 ≤ s.master.svq.vqFreeCnt ∧ s.master.svq.vqDescHeadIdx < s.master.svq.vqNentries

/-- The `i`th send of the master is about to look for a buffer, and there is none. -/
def RpmsgSystem.FindsNoBuffer (s : RpmsgSystem) (i : Nat) (call : SendCall) : Prop :=
  (∃ tickCount availSize, s.master.sends[i]? = some ⟨call, SendPc.tested tickCount availSize⟩) ∧
    s.master.svq.vqUsedConsIdx = s.vring1.used.idx ∧ s.shpool.avail < RPMSG_BUFFER_SIZE

/-- The next step of the `i`th send of the master makes it return `result`. -/
def RpmsgSystem.Returns (s : RpmsgSystem) (i : Nat) (call : SendCall) (result : Int) : Prop :=
  ∃ s', s.step (.stepSend .master i) = some s' ∧
    s'.master.results = s.master.results ++ [(call, result)]

section SendRing

variable {cfg : RpmsgConfig} {content : Prop} {s s₀ s' : RpmsgSystem} {view : RpmsgView}

theorem RpmsgInv.svqHead_lt (h : RpmsgInv cfg content s view) (hfree : 1 ≤ s.master.svq.vqFreeCnt) :
    s.master.svq.vqDescHeadIdx < s.master.svq.vqNentries := by
  rw [h.svqFreeCnt] at hfree
  have hhead : s.master.svq.vqDescHeadIdx ∈ view.ring1.free := by
    obtain ⟨rest, stop, -, hsplit, -⟩ := h.ring1.free_split 1 (by decide) hfree
    have hlist : view.ring1.free = _ := hsplit
    rw [hlist]
    exact List.mem_append_left _ (List.mem_cons_self ..)
  rw [h.ring1.masterEntries]
  exact h.ring1.free_lt hhead

theorem RpmsgInv.postsWithRoom (h : RpmsgInv cfg content s view)
    (hpool : cfg.buffers ≤ cfg.num0 + cfg.num1) : s.PostsWithRoom := by
  intro i call buffer _ hsend
  have hfree := h.enqueuesWithRoom hpool i call buffer hsend
  exact ⟨hfree, h.svqHead_lt hfree⟩

/-- A master that waits is left with all its retries, and with the size it was told. -/
def Send.Untried (role : Role) (send : Send) : Prop :=
  role = .master →
    match send.pc with
    | .loop tickCount => tickCount = send.call.ticks
    | .tested tickCount availSize => tickCount = send.call.ticks ∧ availSize = capacity
    | .taken _ | .header _ | .payload _ | .enqueued => True

theorem Send.untried_run {allowed : RpmsgSystem → RpmsgAction → Prop}
    (hstart : ∀ role, ∀ send ∈ (s₀.device role).sends, send.Untried role)
    (hs : Run.Reachable allowed RpmsgSystem.step s₀ s) :
    ∀ role, ∀ send ∈ (s.device role).sends, send.Untried role := by
  refine hs.invariant
    (P := fun s => ∀ role, ∀ send ∈ (s.device role).sends, send.Untried role) hstart ?_
  intro s action s' hall _ hstep
  refine RpmsgSystem.forall_sends_step hall (fun role call _ _ => rfl) ?_ hstep
  rintro role i call pc pc' - hacting hnext rfl
  have hold := hall .master _ (List.mem_of_getElem? hacting) rfl
  cases hnext with
  | test hsize _ => exact ⟨hold, hsize.symm⟩
  | retry => exact absurd hold.2 (by decide)
  | take _ => trivial
  | header => trivial
  | payload => trivial
  | enqueue => trivial

theorem SendCall.ticks_eq_zero_iff (call : SendCall) : call.ticks = 0 ↔ call.wait = false := by
  cases hwait : call.wait <;> simp [SendCall.ticks, hwait, RPMSG_TICK_COUNT,
    RPMSG_TICKS_PER_INTERVAL]

/-- A send of the master that finds no buffer fails, with the right error if it does not wait. -/
theorem RpmsgInv.returns_iff (h : RpmsgInv cfg content s view)
    (huntried : ∀ role, ∀ send ∈ (s.device role).sends, send.Untried role) {i : Nat}
    {call : SendCall} (hnone : s.FindsNoBuffer i call) :
    s.Returns i call RPMSG_ERR_NO_BUFF ↔ call.wait = false := by
  obtain ⟨⟨tickCount, availSize, hsend⟩, hused, hpool⟩ := hnone
  obtain ⟨rfl, rfl⟩ : tickCount = call.ticks ∧ availSize = capacity :=
    huntried .master _ (List.mem_of_getElem? hsend) rfl
  have hview : view.ring1.used = [] := by
    have hring := h.ring1.usedConsIdx_eq_iff.mp hused
    exact List.map_eq_nil_iff.mp hring
  have hleft : ¬ view.allocated < cfg.buffers := by
    have hget := h.poolGetBuffer
    rw [rpmsgVirtioShmPoolGetBuffer, if_pos hpool] at hget
    intro hlt
    rw [if_pos hlt] at hget
    exact cfg.addr_ne_null .master view.allocated (congrArg Prod.snd hget).symm
  have hstep : s.step (.stepSend .master i) = s.takeBuffer .master i call call.ticks capacity := by
    simp only [RpmsgSystem.step, RpmsgSystem.stepSend, RpmsgSystem.device, hsend]
  rw [RpmsgSystem.Returns, hstep, h.takeNone hview hleft, ← call.ticks_eq_zero_iff]
  constructor
  · rintro ⟨s', heq, hresults⟩
    obtain rfl := Option.some.inj heq
    by_contra hticks
    have hcapacity : ((capacity : Nat) : Int) ≠ 0 := by decide
    rw [if_neg hticks, if_pos hcapacity] at hresults
    have hlast := List.append_cancel_left hresults
    simp [RPMSG_ERR_NO_BUFF, RPMSG_ERR_BUFF_SIZE] at hlast
  · intro hticks
    exact ⟨_, rfl, by rw [if_pos hticks]; rfl⟩

/-- An empty message, sent without waiting. -/
def SendCall.empty : SendCall := ⟨0, 0, fun _ => 0, 0, false, 0⟩

/-- A run after which the master has at most one send under way, of an empty message, and the slave
has returned nothing. -/
structure MasterAt (cfg : RpmsgConfig) (s₀ s : RpmsgSystem) (view : RpmsgView) (pc : Option SendPc)
    (lock : Bool) : Prop where
  run : Run.Reachable RpmsgSystem.Ready RpmsgSystem.step s₀ s
  inv : RpmsgInv cfg False s view
  used : view.ring1.used = []
  sends : s.master.sends = pc.toList.map (Send.mk .empty)
  lock : s.master.lock = lock

theorem MasterAt.getElem?_sends {pc : SendPc} {lock : Bool}
    (h : MasterAt cfg s₀ s view (some pc) lock) :
    (s.device .master).sends[0]? = some ⟨.empty, pc⟩ := by
  rw [RpmsgSystem.device, h.sends]
  rfl

theorem MasterAt.set_sends {pc : SendPc} {lock : Bool} (h : MasterAt cfg s₀ s view (some pc) lock)
    (pc' : SendPc) :
    s.master.sends.set 0 ⟨.empty, pc'⟩ = (some pc').toList.map (Send.mk .empty) := by
  rw [h.sends]
  rfl

theorem MasterAt.txBuffers_length {buffer : RpmsgBuffer} {lock : Bool}
    (h : MasterAt cfg s₀ s view (some (.payload buffer)) lock) :
    s.master.txBuffers.length = 1 := by
  rw [RpmsgDevice.txBuffers, h.sends]
  rfl

/-- The step of the only send. -/
theorem RpmsgSystem.step_first {pc : SendPc} :
    s.master.sends[0]? = some ⟨.empty, pc⟩ → s.step (.stepSend .master 0) =
      match pc with
      | .loop tickCount => some (s.testSize .master 0 .empty tickCount)
      | .tested tickCount availSize => s.takeBuffer .master 0 .empty tickCount availSize
      | .taken buffer => some (s.writeHeader .master 0 .empty buffer)
      | .header buffer => s.writePayload .master 0 .empty buffer
      | .payload buffer => s.enqueue .master 0 .empty buffer
      | .enqueued => some (s.kick .master 0 .empty) := by
  intro hsend
  cases pc <;> simp only [RpmsgSystem.step, RpmsgSystem.stepSend, RpmsgSystem.device, hsend]

theorem MasterAt.next {pc : SendPc} {pc' : Option SendPc} {lock lock' : Bool} {view' : RpmsgView}
    (h : MasterAt cfg s₀ s view (some pc) lock) (hready : pc.acquires = true → lock = false)
    (hstep : s.step (.stepSend .master 0) = some s') (hinv : RpmsgInv cfg False s' view')
    (hused : view'.ring1.used = []) (hsends : s'.master.sends = pc'.toList.map (Send.mk .empty))
    (hlock : s'.master.lock = lock') : MasterAt cfg s₀ s' view' pc' lock' := by
  refine ⟨.next (.stepSend .master 0) h.run ?_ hstep, hinv, hused, hsends, hlock⟩
  exact ⟨⟨.empty, pc⟩, h.getElem?_sends, fun hacquires => h.lock.trans (hready hacquires)⟩

theorem MasterAt.start (h : MasterAt cfg s₀ s view none false) :
    ∃ s', MasterAt cfg s₀ s' view (some (.loop 0)) false := by
  have hready : ¬ s.status &&& VIRTIO_CONFIG_STATUS_DRIVER_OK = 0 := by
    rw [h.inv.status]
    decide
  refine ⟨s.startSend .master .empty, .next (.send .master .empty) h.run trivial rfl,
    h.inv.startSend .master False.elim, h.used, ?_, ?_⟩
  · rw [RpmsgSystem.startSend, if_neg hready]
    exact congrArg (· ++ [_]) h.sends
  · rw [RpmsgSystem.startSend, if_neg hready]
    exact h.lock

theorem MasterAt.fill (h : MasterAt cfg s₀ s view (some (.loop 0)) false)
    (hleft : view.allocated < cfg.buffers) :
    ∃ s' buffer, MasterAt cfg s₀ s' { view with allocated := view.allocated + 1 }
      (some (.payload buffer)) false := by
  -- the size is tested
  have hfits : ¬ (view.room .master ≠ 0 ∧ SendCall.empty.size > view.room .master) :=
    fun hlarge => absurd hlarge.2 (not_lt.mpr (Int.natCast_nonneg capacity))
  have htested : MasterAt cfg s₀ (s.testSize .master 0 .empty 0) view
      (some (.tested 0 (view.room .master))) true := by
    refine h.next (fun _ => rfl) (RpmsgSystem.step_first h.getElem?_sends)
      (h.inv.testSize h.getElem?_sends) h.used ?_ ?_
    · rw [h.inv.testSize_eq, if_neg hfits]
      exact h.set_sends _
    · rw [h.inv.testSize_eq, if_neg hfits]
      rfl
  -- a buffer is taken from the pool
  obtain ⟨s₂, htake, hsends, hlock, hinv⟩ :=
    htested.inv.takeFresh htested.getElem?_sends h.used hleft
  have htaken : MasterAt cfg s₀ s₂ { view with allocated := view.allocated + 1 }
      (some (.taken (cfg.buffer .master view.allocated 0))) false :=
    htested.next nofun ((RpmsgSystem.step_first htested.getElem?_sends).trans htake) hinv h.used
      (hsends.trans (htested.set_sends _)) hlock
  have hheader : MasterAt cfg s₀ (s₂.writeHeader .master 0 .empty _)
      { view with allocated := view.allocated + 1 }
      (some (.header (cfg.buffer .master view.allocated 0))) false :=
    htaken.next nofun (RpmsgSystem.step_first htaken.getElem?_sends)
      (htaken.inv.writeHeader htaken.getElem?_sends) h.used
      (htaken.set_sends _) htaken.lock
  refine ⟨_, cfg.buffer .master view.allocated 0, hheader.next nofun
    ((RpmsgSystem.step_first hheader.getElem?_sends).trans rfl)
    (hheader.inv.writePayload hheader.getElem?_sends rfl) h.used
    (hheader.set_sends _) hheader.lock⟩

theorem MasterAt.post {buffer : RpmsgBuffer}
    (h : MasterAt cfg s₀ s view (some (.payload buffer)) false) (hroom : view.ring1.free ≠ []) :
    ∃ s' view', MasterAt cfg s₀ s' view' none false ∧ view'.allocated = view.allocated := by
  obtain ⟨s₁, head, henqueue, hsends, hinv⟩ := h.inv.enqueue_master h.getElem?_sends hroom
  have henqueued : MasterAt cfg s₀ s₁ { view with ring1 := view.ring1.post ⟨head, _⟩ }
      (some .enqueued) s₁.master.lock :=
    h.next (fun _ => rfl) ((RpmsgSystem.step_first h.getElem?_sends).trans henqueue) hinv h.used
      (hsends.trans (h.set_sends _)) rfl
  refine ⟨s₁.kick .master 0 .empty, _, henqueued.next nofun
    (RpmsgSystem.step_first henqueued.getElem?_sends)
    (henqueued.inv.kick henqueued.getElem?_sends) henqueued.used ?_ rfl, rfl⟩
  exact congrArg (fun sends : List Send => sends.eraseIdx 0) henqueued.sends

/-- The master posts a buffer of the pool for each entry of its send ring. -/
theorem MasterAt.fillRing (h : MasterAt cfg s₀ s view none false)
    (hnum0 : view.allocated = cfg.num0) (hpool : cfg.num0 + cfg.num1 < cfg.buffers) {k : Nat}
    (hk : k ≤ cfg.num1) :
    ∃ s' view', MasterAt cfg s₀ s' view' none false ∧ view'.allocated = cfg.num0 + k := by
  induction k with
  | zero => exact ⟨s, view, h, hnum0⟩
  | succ k ih =>
      obtain ⟨s₁, view₁, h₁, hallocated⟩ := ih (by omega)
      obtain ⟨s₂, h₂⟩ := h₁.start
      obtain ⟨s₃, buffer, h₃⟩ := h₂.fill (by omega)
      have hcount := h₃.inv.ring1_count
      rw [h₃.txBuffers_length] at hcount
      simp only at hcount
      have hroom : view₁.ring1.free ≠ [] := List.length_pos_iff.mp (by omega)
      obtain ⟨s₄, view₄, h₄, hsame⟩ := h₃.post hroom
      refine ⟨s₄, view₄, h₄, ?_⟩
      simp only at hsame
      omega

/-- With a pool of more buffers than the rings have entries, the master comes to post to a full
ring. -/
theorem MasterAt.overfills (h : MasterAt cfg s₀ s view none false)
    (hnum0 : view.allocated = cfg.num0) (hpool : cfg.num0 + cfg.num1 < cfg.buffers) :
    ∃ s', Run.Reachable RpmsgSystem.Ready RpmsgSystem.step s₀ s' ∧ ¬ s'.PostsWithRoom := by
  obtain ⟨s₁, view₁, h₁, hallocated⟩ := h.fillRing hnum0 hpool le_rfl
  obtain ⟨s₂, h₂⟩ := h₁.start
  obtain ⟨s₃, buffer, h₃⟩ := h₂.fill (by omega)
  refine ⟨s₃, h₃.run, fun hposts => ?_⟩
  have hsend := h₃.getElem?_sends
  have hfree := (hposts 0 .empty buffer ⟨_, hsend, fun _ => h₃.lock⟩ hsend).1
  have hcount := h₃.inv.ring1_count
  rw [h₃.txBuffers_length] at hcount
  rw [h₃.inv.svqFreeCnt] at hfree
  simp only at hfree hcount
  omega

/-- The master never posts to a full ring exactly when the pool has at most as many buffers as the
two rings have entries; and then a send that finds no buffer returns `RPMSG_ERR_NO_BUFF` exactly when
it does not wait. -/
theorem send_ring_has_room (cfg : RpmsgConfig) (masterFeatures slaveFeatures : Nat)
    (shm : Nat → UInt8) {s₀ : RpmsgSystem}
    (hinit : rpmsgInitVdev cfg.num0 cfg.num1 masterFeatures slaveFeatures cfg.masterIo cfg.slaveIo
      (rpmsgVirtioInitShmPool cfg.base cfg.size) shm = .ok s₀) :
    ((∀ s, Run.Reachable RpmsgSystem.Ready RpmsgSystem.step s₀ s → s.PostsWithRoom) ↔
        cfg.size / RPMSG_BUFFER_SIZE ≤ cfg.num0 + cfg.num1) ∧
      (cfg.size / RPMSG_BUFFER_SIZE ≤ cfg.num0 + cfg.num1 →
        ∀ s, Run.Reachable RpmsgSystem.Ready RpmsgSystem.step s₀ s →
          ∀ i call, s.FindsNoBuffer i call →
            (s.Returns i call RPMSG_ERR_NO_BUFF ↔ call.wait = false)) := by
  obtain ⟨ring0, hinv, hsends, hlock⟩ := rpmsgInitVdev_ok hinit
  refine ⟨⟨fun hposts => ?_, fun hpool s hs => ?_⟩, fun hpool s hs i call hnone => ?_⟩
  · by_contra hlarge
    have hstart : MasterAt cfg s₀ s₀ ⟨ring0, SlotView.fresh cfg.num1, cfg.num0⟩ none false :=
      ⟨.start, { hinv with contents := False.elim }, rfl, hsends .master, hlock⟩
    obtain ⟨s, hs, hfull⟩ := hstart.overfills rfl (not_le.mp hlarge)
    exact hfull (hposts s hs)
  · obtain ⟨view, h⟩ := exists_rpmsgInv False False.elim (.inl hpool) hinit hs
    exact h.postsWithRoom hpool
  · obtain ⟨view, h⟩ := exists_rpmsgInv False False.elim (.inl hpool) hinit hs
    refine h.returns_iff (Send.untried_run (fun role send hsend => ?_) hs) hnone
    rw [hsends role] at hsend
    exact absurd hsend List.not_mem_nil

end SendRing

theorem send_ring_has_room_one_entry :
    ∃ s₀ : RpmsgSystem, ∀ s, Run.Reachable RpmsgSystem.Ready RpmsgSystem.step s₀ s →
      s.PostsWithRoom := by
  let cfg := RpmsgConfig.linear 0 0 1024 (by decide) (by decide) (by decide)
  have hinit : ((rpmsgInitVdev cfg.num0 cfg.num1 0 0 cfg.masterIo cfg.slaveIo
      (rpmsgVirtioInitShmPool cfg.base cfg.size) fun _ => 0).toOption.isSome) = true := by
    decide +kernel
  obtain ⟨s₀, hinit⟩ := Option.isSome_iff_exists.mp hinit
  exact ⟨s₀, (send_ring_has_room cfg 0 0 (fun _ => 0) (except_toOption hinit)).1.mpr (by decide)⟩

/-- Rings of one entry each and a pool of three buffers: while the slave consumes nothing, the second
message of the master is posted to a full ring. -/
theorem send_ring_overfilled :
    ∃ (cfg : RpmsgConfig) (s₀ s : RpmsgSystem), cfg.num0 = 1 ∧ cfg.num1 = 1 ∧ cfg.size = 1536 ∧
      rpmsgInitVdev cfg.num0 cfg.num1 0 0 cfg.masterIo cfg.slaveIo
        (rpmsgVirtioInitShmPool cfg.base cfg.size) (fun _ => 0) = .ok s₀ ∧
      Run.Reachable RpmsgSystem.Ready RpmsgSystem.step s₀ s ∧ ¬ s.PostsWithRoom := by
  let cfg := RpmsgConfig.linear 0 0 1536 (by decide) (by decide) (by decide)
  let send (steps : Nat) : List RpmsgAction :=
    .send .master .empty :: List.replicate steps (.stepSend .master 0)
  obtain ⟨s₀, s, hinit, hs, hseen⟩ := Run.exists_reachable_of_ok RpmsgSystem.Ready RpmsgSystem.step
    (rpmsgInitVdev cfg.num0 cfg.num1 0 0 cfg.masterIo cfg.slaveIo
      (rpmsgVirtioInitShmPool cfg.base cfg.size) fun _ => 0)
    (send 6 ++ send 4)
    (fun s => (s.master.sends.map Send.pc, s.master.lock, s.master.svq.vqFreeCnt))
    ([.payload ⟨5120, 512, 0, 512⟩], false, 0) (by decide +kernel)
  simp only [Prod.mk.injEq] at hseen
  obtain ⟨hpcs, hlock, hfree⟩ := hseen
  refine ⟨cfg, s₀, s, rfl, rfl, rfl, hinit, hs, ?_⟩
  intro hposts
  obtain ⟨⟨call, pc⟩, hsends, rfl⟩ := List.map_eq_singleton_iff.mp hpcs
  have hsend : s.master.sends[0]? = some ⟨call, .payload ⟨5120, 512, 0, 512⟩⟩ := by
    rw [hsends]
    rfl
  have hroom := (hposts 0 call _ ⟨_, hsend, fun _ => hlock⟩ hsend).1
  rw [hfree] at hroom
  exact absurd hroom (by decide)

/-! ### The size of a message -/

/-- Whenever a send is about to write its header or its payload, both fit the descriptor that its
buffer came from. -/
def RpmsgSystem.Fits (s : RpmsgSystem) : Prop :=
  ∀ role (i : Nat) call buffer,
    (s.device role).sends[i]? = some ⟨call, SendPc.taken buffer⟩ ∨
      (s.device role).sends[i]? = some ⟨call, SendPc.header buffer⟩ →
    call.size + RPMSG_HDR_SIZE ≤ buffer.descLen

/-- A send of the slave that is too large for the buffers of the pool, and so has been tested while
no buffer was published, still finds none published when it takes one. -/
def RpmsgSystem.TakesWhatFits (s : RpmsgSystem) (action : RpmsgAction) : Prop :=
  ∀ (i : Nat) call tickCount availSize, action = .stepSend .slave i →
    s.slave.sends[i]? = some ⟨call, SendPc.tested tickCount availSize⟩ → capacity < call.size →
      s.slave.svq.vqAvailableIdx = s.vring0.avail.idx

/-- A step that can be taken and does not post to a full ring. -/
def RpmsgSystem.ReadyWithRoom (s : RpmsgSystem) (action : RpmsgAction) : Prop :=
  s.Ready action ∧ ∀ i, action = .stepSend .master i → s.EnqueuesWithRoom i

section Size

variable {cfg : RpmsgConfig} {s s₀ s' : RpmsgSystem} {view : RpmsgView}

/-- Past the test, a send of the master fits; past the take, every send does. -/
def Send.Small (role : Role) (send : Send) : Prop :=
  match send.pc with
  | .tested _ _ => role = .master → send.call.size ≤ capacity
  | .taken _ | .header _ | .payload _ => send.call.size ≤ capacity
  | .loop _ | .enqueued => True

theorem RpmsgInv.small_step (h : RpmsgInv cfg False s view)
    (hall : ∀ role, ∀ send ∈ (s.device role).sends, send.Small role) {action : RpmsgAction}
    (htakes : s.TakesWhatFits action) (hstep : s.step action = some s') :
    ∀ role, ∀ send ∈ (s'.device role).sends, send.Small role := by
  refine RpmsgSystem.forall_sends_step hall (fun _ _ _ => trivial) ?_ hstep
  intro role i call pc pc' haction hacting hnext
  have hold := hall role _ (List.mem_of_getElem? hacting)
  cases hnext with
  | test hsize hroom =>
      rintro rfl
      rw [h.bufferSize] at hsize
      obtain rfl : ((capacity : Nat) : Int) = _ := hsize
      exact hroom.resolve_left (by decide)
  | @take tickCount availSize vring svq shpool buffer hget =>
      cases role with
      | master => exact hold rfl
      | slave =>
          by_contra hlarge
          have hempty := htakes i call tickCount availSize haction hacting (not_le.mp hlarge)
          have havail : view.ring0.avail = [] :=
            List.map_eq_nil_iff.mp (h.ring0.availableIdx_eq_iff.mp hempty)
          simp [rpmsgVirtioGetTxBuffer, RpmsgSystem.sendRing, RpmsgSystem.device,
            h.ring0.slaveGetBuffer_nil havail] at hget
  | retry => trivial
  | header => exact hold
  | payload => exact hold
  | enqueue => trivial

theorem RpmsgInv.fits (h : RpmsgInv cfg False s view)
    (hall : ∀ role, ∀ send ∈ (s.device role).sends, send.Small role) : s.Fits := by
  have hfits : ∀ role send buffer, send ∈ (s.device role).sends → send.pc.buffer? = some buffer →
      send.call.size ≤ capacity → send.call.size + RPMSG_HDR_SIZE ≤ buffer.descLen := by
    intro role send buffer hmem hbuffer hsmall
    obtain ⟨buf, idx, rfl, -⟩ := h.txBuffer_eq (List.mem_filterMap.mpr ⟨send, hmem, hbuffer⟩)
    simp only [capacity, RpmsgConfig.buffer, RPMSG_BUFFER_SIZE, RPMSG_HDR_SIZE] at *
    omega
  rintro role i call buffer (hsend | hsend)
  · have hmem := List.mem_of_getElem? hsend
    exact hfits role _ buffer hmem rfl (hall role _ hmem)
  · have hmem := List.mem_of_getElem? hsend
    exact hfits role _ buffer hmem rfl (hall role _ hmem)

/-- A step that takes what does not fit ends in a state that shows it. -/
theorem RpmsgInv.takesWhatFits_of_fits (h : RpmsgInv cfg False s view) {action : RpmsgAction}
    (hstep : s.step action = some s') (hfits : s'.Fits) : s.TakesWhatFits action := by
  rintro i call tickCount availSize rfl hsend hlarge
  by_contra hpublished
  have havail : view.ring0.avail ≠ [] := fun hempty =>
    hpublished (h.ring0.availableIdx_eq_iff.mpr (List.map_eq_nil_iff.mpr hempty))
  obtain ⟨s₁, view', slot, htake, hsends, -⟩ := h.takeAvail hsend havail
  have hstep₁ : s.step (.stepSend .slave i) = some s₁ := by
    simp only [RpmsgSystem.step, RpmsgSystem.stepSend, RpmsgSystem.device, hsend]
    exact htake
  obtain rfl := Option.some.inj (hstep₁.symm.trans hstep)
  have htaken : s₁.slave.sends[i]? =
      some ⟨call, .taken (cfg.buffer .slave slot.buf slot.head)⟩ := by
    obtain ⟨hi, -⟩ := List.getElem?_eq_some_iff.mp hsend
    rw [hsends, List.getElem?_set_self hi]
  have hle := hfits .slave i call _ (.inl htaken)
  simp only [capacity, RpmsgConfig.buffer, RPMSG_BUFFER_SIZE, RPMSG_HDR_SIZE] at hle hlarge
  omega

/-- In a run that never posts to a full ring, every message fits its buffer as long as no send of the
slave that is too large takes a buffer published after its size was tested; and the first such take
ends it. -/
theorem message_fits_buffer (cfg : RpmsgConfig) (masterFeatures slaveFeatures : Nat)
    (shm : Nat → UInt8) {s₀ s : RpmsgSystem}
    (hinit : rpmsgInitVdev cfg.num0 cfg.num1 masterFeatures slaveFeatures cfg.masterIo cfg.slaveIo
      (rpmsgVirtioInitShmPool cfg.base cfg.size) shm = .ok s₀)
    (hs : Run.Reachable (fun s action => s.ReadyWithRoom action ∧ s.TakesWhatFits action)
      RpmsgSystem.step s₀ s) :
    s.Fits ∧ ∀ action s', s.ReadyWithRoom action → s.step action = some s' →
      (s'.Fits ↔ s.TakesWhatFits action) := by
  obtain ⟨ring0, -, hsends, -⟩ := rpmsgInitVdev_ok hinit
  have hinv : ∀ {s}, Run.Reachable (fun s action => s.ReadyWithRoom action ∧ s.TakesWhatFits action)
      RpmsgSystem.step s₀ s → ∃ view, RpmsgInv cfg False s view := fun hs =>
    exists_rpmsgInv False False.elim (.inr fun _ _ hallowed => hallowed.1.2) hinit hs
  have hsmall : ∀ role, ∀ send ∈ (s.device role).sends, send.Small role := by
    induction hs with
    | start =>
        intro role send hsend
        rw [hsends role] at hsend
        exact absurd hsend List.not_mem_nil
    | next action hs hallowed hstep ih =>
        obtain ⟨view, h⟩ := hinv hs
        exact h.small_step ih hallowed.2 hstep
  obtain ⟨view, h⟩ := hinv hs
  refine ⟨h.fits hsmall, fun action s' hready hstep =>
    ⟨h.takesWhatFits_of_fits hstep, fun htakes => ?_⟩⟩
  obtain ⟨view', h'⟩ := hinv (.next action hs ⟨hready, htakes⟩ hstep)
  exact h'.fits (h.small_step hsmall htakes hstep)

end Size

/-- The master has sent 496 bytes, the slave is about to write 496, and a send of 600 bytes, which
was tested while nothing was on offer, has found no buffer. -/
theorem message_fits_buffer_one_entry :
    ∃ s : RpmsgSystem, s.master.results.map Prod.snd = [496] ∧
      s.slave.sends.map (fun send => (send.call.size, send.pc)) =
        [(496, .taken ⟨69632, 512, 0, 512⟩)] ∧
      s.slave.results.map Prod.snd = [RPMSG_ERR_NO_BUFF] ∧ s.Fits := by
  let cfg := RpmsgConfig.linear 0 0 1024 (by decide) (by decide) (by decide)
  let allowed (s : RpmsgSystem) (action : RpmsgAction) : Prop :=
    s.Ready action ∧
      (∀ send ∈ s.master.sends, send.pc = .enqueued ∨ 1 ≤ s.master.svq.vqFreeCnt) ∧
      ∀ send ∈ s.slave.sends,
        send.call.size ≤ capacity ∨ s.slave.svq.vqAvailableIdx = s.vring0.avail.idx
  let send (role : Role) (i : Nat) (size : Int) (steps : Nat) : List RpmsgAction :=
    .send role ⟨0, 0, fun _ => 0, size, false, 0⟩ :: List.replicate steps (.stepSend role i)
  obtain ⟨s₀, s, hinit, hs, hseen⟩ := Run.exists_reachable_of_ok allowed RpmsgSystem.step
    (rpmsgInitVdev cfg.num0 cfg.num1 0 0 cfg.masterIo cfg.slaveIo
      (rpmsgVirtioInitShmPool cfg.base cfg.size) fun _ => 0)
    (send .master 0 496 6 ++ send .slave 0 496 2 ++ send .slave 1 600 2)
    (fun s => (s.master.results.map Prod.snd,
      s.slave.sends.map fun send => (send.call.size, send.pc), s.slave.results.map Prod.snd))
    ([496], [(496, .taken ⟨69632, 512, 0, 512⟩)], [RPMSG_ERR_NO_BUFF]) (by decide +kernel)
  obtain ⟨hmaster, hslave⟩ := Prod.mk.inj hseen
  obtain ⟨hpcs, hresults⟩ := Prod.mk.inj hslave
  refine ⟨s, hmaster, hpcs, hresults,
    (message_fits_buffer cfg 0 0 (fun _ => 0) hinit (hs.mono ?_)).1⟩
  rintro s action ⟨hready, hroom, hempty⟩
  refine ⟨⟨hready, ?_⟩, ?_⟩
  · rintro i - call buffer hsend
    exact (hroom _ (List.mem_of_getElem? hsend)).resolve_left nofun
  · rintro i call tickCount availSize - hsend hlarge
    exact (hempty _ (List.mem_of_getElem? hsend)).resolve_left (not_le.mpr hlarge)

/-- A message of 500 bytes is tested while the slave waits for a buffer, and written into the buffer
of 512 bytes that the master then returns. -/
theorem message_overflows_buffer :
    ∃ (cfg : RpmsgConfig) (s₀ s : RpmsgSystem),
      cfg.size = (cfg.num0 + cfg.num1) * RPMSG_BUFFER_SIZE ∧
      rpmsgInitVdev cfg.num0 cfg.num1 0 0 cfg.masterIo cfg.slaveIo
        (rpmsgVirtioInitShmPool cfg.base cfg.size) (fun _ => 0) = .ok s₀ ∧
      Run.Reachable RpmsgSystem.Ready RpmsgSystem.step s₀ s ∧ ¬ s.Fits := by
  let cfg := RpmsgConfig.linear 0 0 1024 (by decide) (by decide) (by decide)
  let first : List RpmsgAction := .send .slave .empty :: List.replicate 6 (.stepSend .slave 0)
  let second : List RpmsgAction :=
    [.rxCallback .master, .send .slave ⟨0, 0, fun _ => 0, 500, false, 0⟩, .stepSend .slave 0,
      .stepReceive .master 0, .stepReceive .master 0, .stepSend .slave 0]
  obtain ⟨s₀, s, hinit, hs, hseen⟩ := Run.exists_reachable_of_ok RpmsgSystem.Ready RpmsgSystem.step
    (rpmsgInitVdev cfg.num0 cfg.num1 0 0 cfg.masterIo cfg.slaveIo
      (rpmsgVirtioInitShmPool cfg.base cfg.size) fun _ => 0)
    (first ++ second)
    (fun s => s.slave.sends.map fun send => (send.call.size, send.pc))
    [(500, .taken ⟨69632, 512, 0, 512⟩)] (by decide +kernel)
  refine ⟨cfg, s₀, s, by decide, hinit, hs, ?_⟩
  intro hfits
  obtain ⟨⟨call, pc⟩, hsends, heq⟩ := List.map_eq_singleton_iff.mp hseen
  obtain ⟨hsize, rfl⟩ := Prod.mk.inj heq
  have hsend : (s.device .slave).sends[0]? = some ⟨call, .taken ⟨69632, 512, 0, 512⟩⟩ := by
    rw [RpmsgSystem.device, hsends]
    rfl
  have hle := hfits .slave 0 call _ (.inl hsend)
  simp only [RPMSG_HDR_SIZE] at hsize hle
  omega

end OpenAmp
