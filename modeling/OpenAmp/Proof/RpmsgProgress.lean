import OpenAmp.Proof.RpmsgCapacity
import OpenAmp.Proof.RpmsgNotify

/-!
# Every call returns

A send retries so many times and no more, a receive callback takes as many messages as there are, and a
call that holds the lock of its device can always go on. So whatever the order of steps, the calls under
way return once no new ones start, and what has been sent can all be received.
-/

namespace OpenAmp

open ListCuts

/-! ### The work left -/

/-- The steps that a send takes at most, and those that its message costs the receiver. -/
def SendPc.work : SendPc → Nat
  | .loop tickCount => 2 * tickCount + 9
  | .tested tickCount _ => 2 * tickCount + 8
  | .taken _ => 7
  | .header _ => 6
  | .payload _ => 5
  | .enqueued => 1

/-- The steps that a receive callback takes for the message in its hands. -/
def RxPc.work : RxPc → Nat
  | .handling _ _ => 2
  | .returned => 1

def RpmsgDevice.work (device : RpmsgDevice) : Nat :=
  (device.sends.map fun send => send.pc.work).sum + (device.receives.map RxPc.work).sum

/-- How many messages wait for a side to take them. -/
def RpmsgSystem.waiting (s : RpmsgSystem) (role : Role) : Nat :=
  (s.device role.peer).sent.length - (s.device role).received.length

/-- A message that waits costs a step of the callback that takes it, and two of its own. -/
def RpmsgSystem.work (s : RpmsgSystem) : Nat :=
  s.master.work + s.slave.work + 3 * (s.waiting .master + s.waiting .slave)

/-- No side has taken more than the other has sent. -/
def RpmsgSystem.Ordered (s : RpmsgSystem) : Prop :=
  ∀ role, (s.device role).received.length ≤ (s.device role.peer).sent.length

section Device

variable {device device' : RpmsgDevice} {i : Nat} {call : SendCall} {pc pc' : SendPc} {rx rx' : RxPc}

theorem RpmsgDevice.work_setSend (hsend : device.sends[i]? = some ⟨call, pc⟩)
    (hsends : device'.sends = device.sends.set i ⟨call, pc'⟩)
    (hreceives : device'.receives = device.receives) :
    device'.work + pc.work = device.work + pc'.work := by
  have hsum := sum_map_set (f := fun send : Send => send.pc.work) hsend ⟨call, pc'⟩
  unfold RpmsgDevice.work
  rw [hsends, hreceives]
  dsimp only at hsum
  omega

theorem RpmsgDevice.work_finish (hsend : device.sends[i]? = some ⟨call, pc⟩)
    (hsends : device'.sends = device.sends.eraseIdx i)
    (hreceives : device'.receives = device.receives) : device'.work + pc.work = device.work := by
  have hsum := sum_map_eraseIdx (f := fun send : Send => send.pc.work) hsend
  unfold RpmsgDevice.work
  rw [hsends, hreceives]
  dsimp only at hsum
  omega

theorem RpmsgDevice.work_setReceive (hreceive : device.receives[i]? = some rx)
    (hsends : device'.sends = device.sends) (hreceives : device'.receives = device.receives.set i rx') :
    device'.work + rx.work = device.work + rx'.work := by
  have hsum := sum_map_set (f := RxPc.work) hreceive rx'
  unfold RpmsgDevice.work
  rw [hsends, hreceives]
  omega

theorem RpmsgDevice.work_endReceive (hreceive : device.receives[i]? = some rx)
    (hsends : device'.sends = device.sends) (hreceives : device'.receives = device.receives.eraseIdx i) :
    device'.work + rx.work = device.work := by
  have hsum := sum_map_eraseIdx (f := RxPc.work) hreceive
  unfold RpmsgDevice.work
  rw [hsends, hreceives]
  omega

end Device

/-! ### Every step takes of it -/

section Steps

variable {s s' : RpmsgSystem} {role : Role} {i : Nat}

theorem RpmsgSystem.work_eq (s : RpmsgSystem) (role : Role) :
    s.work = (s.device role).work + (s.device role.peer).work +
      3 * (s.waiting role + s.waiting role.peer) := by
  unfold RpmsgSystem.work
  cases role
  · rfl
  · simp only [RpmsgSystem.device, Role.peer]
    omega

/-- A step of one device that sends and receives so much. -/
theorem RpmsgSystem.work_step (hs : s.Ordered) (hs' : s'.Ordered)
    (hpeer : s'.device role.peer = s.device role.peer)
    (hsent : (s.device role).sent.length ≤ (s'.device role).sent.length) :
    s'.work + 3 * (s.device role).sent.length + 3 * (s'.device role).received.length +
        (s.device role).work =
      s.work + 3 * (s'.device role).sent.length + 3 * (s.device role).received.length +
        (s'.device role).work := by
  have hown := hs role
  have hother := hs role.peer
  have hown' := hs' role
  rw [Role.peer_peer] at hother
  rw [hpeer] at hown'
  rw [s.work_eq role, s'.work_eq role]
  unfold RpmsgSystem.waiting
  rw [Role.peer_peer, hpeer]
  omega

/-- A step of one device, on whatever else is shared. -/
theorem RpmsgSystem.work_setDevice {base : RpmsgSystem} {device : RpmsgDevice} (hs : s.Ordered)
    (hs' : (base.setDevice device role).Ordered) (hbase : ∀ role, base.device role = s.device role)
    (hsent : (s.device role).sent.length ≤ device.sent.length)
    (hlt : device.work + 3 * device.sent.length + 3 * (s.device role).received.length <
      (s.device role).work + 3 * (s.device role).sent.length + 3 * device.received.length) :
    (base.setDevice device role).work < s.work := by
  have hself := base.device_setDevice_self device role
  have hpeer := base.device_setDevice_peer device role
  rw [hbase] at hpeer
  have hstep := RpmsgSystem.work_step hs hs' hpeer (by rwa [hself])
  rw [hself] at hstep
  omega

/-- A step that only moves a call on. -/
theorem RpmsgSystem.work_move {base : RpmsgSystem} {device : RpmsgDevice} (hs : s.Ordered)
    (hs' : (base.setDevice device role).Ordered) (hbase : ∀ role, base.device role = s.device role)
    (hsent : device.sent = (s.device role).sent) (hreceived : device.received = (s.device role).received)
    (hlt : device.work < (s.device role).work) : (base.setDevice device role).work < s.work := by
  refine RpmsgSystem.work_setDevice hs hs' hbase (by rw [hsent]) ?_
  rw [hsent, hreceived]
  omega

theorem RpmsgSystem.stepSend_work (hs : s.Ordered) (hs' : s'.Ordered)
    (hstep : s.stepSend role i = some s') : s'.work < s.work := by
  rw [RpmsgSystem.stepSend] at hstep
  split at hstep
  next => cases hstep
  next call pc hsend =>
    have hfinish {device : RpmsgDevice} (hsends : device.sends = (s.device role).sends.eraseIdx i)
        (hreceives : device.receives = (s.device role).receives) (hpos : 0 < pc.work) :
        device.work < (s.device role).work := by
      have hwork := RpmsgDevice.work_finish hsend hsends hreceives
      omega
    have hmove {device : RpmsgDevice} {pc' : SendPc}
        (hsends : device.sends = (s.device role).sends.set i ⟨call, pc'⟩)
        (hreceives : device.receives = (s.device role).receives) (hlt : pc'.work < pc.work) :
        device.work < (s.device role).work := by
      have hwork := RpmsgDevice.work_setSend hsend hsends hreceives
      omega
    cases pc with
    | loop tickCount =>
        obtain rfl := Option.some.inj hstep
        unfold RpmsgSystem.testSize at hs' ⊢
        dsimp only at hs' ⊢
        split_ifs at hs' ⊢
        · exact RpmsgSystem.work_move hs hs' (fun _ => rfl) rfl rfl
            (hfinish rfl rfl (Nat.succ_pos _))
        · exact RpmsgSystem.work_move hs hs' (fun _ => rfl) rfl rfl
            (hmove rfl rfl (Nat.lt_succ_self _))
    | tested tickCount availSize =>
        obtain ⟨⟨vring, svq, shpool, buffer⟩, hget, hrest⟩ := Option.bind_eq_some_iff.mp hstep
        have hbase (role' : Role) : ({ s with shpool }.setSendRing vring role).device role' =
            s.device role' := by simp
        cases buffer with
        | some buffer =>
            obtain rfl := Option.some.inj hrest
            refine RpmsgSystem.work_move hs hs' hbase rfl rfl (hmove rfl rfl ?_)
            simp only [SendPc.work]
            omega
        | none =>
            dsimp only at hrest
            split_ifs at hrest
            · obtain rfl := Option.some.inj hrest
              exact RpmsgSystem.work_move hs hs' hbase rfl rfl (hfinish rfl rfl (Nat.succ_pos _))
            · obtain rfl := Option.some.inj hrest
              exact RpmsgSystem.work_move hs hs' hbase rfl rfl (hfinish rfl rfl (Nat.succ_pos _))
            · obtain rfl := Option.some.inj hrest
              refine RpmsgSystem.work_move hs hs' hbase rfl rfl (hmove rfl rfl ?_)
              simp only [SendPc.work]
              omega
    | taken buffer =>
        obtain rfl := Option.some.inj hstep
        exact RpmsgSystem.work_move hs hs' (fun _ => by simp) rfl rfl
          (hmove rfl rfl (Nat.lt_succ_self _))
    | header buffer =>
        dsimp only [RpmsgSystem.writePayload] at hstep
        split_ifs at hstep
        obtain rfl := Option.some.inj hstep
        exact RpmsgSystem.work_move hs hs' (fun _ => by simp) rfl rfl
          (hmove rfl rfl (Nat.lt_succ_self _))
    | payload buffer =>
        dsimp only [RpmsgSystem.enqueue] at hstep
        split_ifs at hstep
        obtain rfl := Option.some.inj hstep
        -- the message that now waits was part of the work of its send
        have hpublish {device : RpmsgDevice}
            (hsends : device.sends = (s.device role).sends.set i ⟨call, .enqueued⟩)
            (hreceives : device.receives = (s.device role).receives)
            (hsent : device.sent = (s.device role).sent ++ [call])
            (hreceived : device.received = (s.device role).received) :
            device.work + 3 * device.sent.length + 3 * (s.device role).received.length <
              (s.device role).work + 3 * (s.device role).sent.length +
                3 * device.received.length := by
          have hwork := RpmsgDevice.work_setSend hsend hsends hreceives
          simp only [SendPc.work] at hwork
          rw [hsent, hreceived, List.length_append, List.length_singleton]
          omega
        refine RpmsgSystem.work_setDevice hs hs' (fun _ => by simp) ?_ ?_
        · change _ ≤ ((s.device role).sent ++ [call]).length
          rw [List.length_append]
          exact Nat.le_add_right _ _
        · exact hpublish rfl rfl rfl rfl
    | enqueued =>
        obtain rfl := Option.some.inj hstep
        exact RpmsgSystem.work_move hs hs' (fun _ => rfl) rfl rfl
          (hfinish rfl rfl (Nat.succ_pos 0))

/-- A message is taken. -/
theorem RpmsgSystem.work_receive {base : RpmsgSystem} {device : RpmsgDevice} (hs : s.Ordered)
    (hs' : (base.setDevice device role).Ordered) (hbase : ∀ role, base.device role = s.device role)
    (hsent : device.sent = (s.device role).sent)
    (hreceived : device.received.length = (s.device role).received.length + 1)
    (hlt : device.work < (s.device role).work + 3) : (base.setDevice device role).work < s.work := by
  refine RpmsgSystem.work_setDevice hs hs' hbase (by rw [hsent]) ?_
  rw [hsent, hreceived]
  omega

theorem RpmsgSystem.stepReceive_work (hs : s.Ordered) (hs' : s'.Ordered)
    (hstep : s.stepReceive role i = some s') : s'.work < s.work := by
  rw [RpmsgSystem.stepReceive] at hstep
  split at hstep
  next => cases hstep
  next buffer position hreceive =>
    have hmove {device : RpmsgDevice} (hsends : device.sends = (s.device role).sends)
        (hreceives : device.receives = (s.device role).receives.set i .returned) :
        device.work < (s.device role).work := by
      have hwork := RpmsgDevice.work_setReceive hreceive hsends hreceives
      simp only [RxPc.work] at hwork
      omega
    obtain rfl := Option.some.inj hstep
    exact RpmsgSystem.work_move hs hs' (fun _ => by simp) rfl rfl (hmove rfl rfl)
  next hreceive =>
    obtain ⟨⟨vring, rvq, buffer⟩, hget, hrest⟩ := Option.bind_eq_some_iff.mp hstep
    cases buffer with
    | some buffer =>
        have hmove {device : RpmsgDevice} {rx : RxPc} (hrx : rx.work = 2)
            (hsends : device.sends = (s.device role).sends)
            (hreceives : device.receives = (s.device role).receives.set i rx) :
            device.work < (s.device role).work + 3 := by
          have hwork := RpmsgDevice.work_setReceive hreceive hsends hreceives
          rw [hrx] at hwork
          omega
        obtain rfl := Option.some.inj hrest
        refine RpmsgSystem.work_receive hs hs' (fun _ => by simp) rfl ?_ (hmove rfl rfl rfl)
        exact List.length_append
    | none =>
        have hend {device : RpmsgDevice} (hsends : device.sends = (s.device role).sends)
            (hreceives : device.receives = (s.device role).receives.eraseIdx i) :
            device.work < (s.device role).work := by
          have hwork := RpmsgDevice.work_endReceive hreceive hsends hreceives
          simp only [RxPc.work] at hwork
          omega
        obtain rfl := Option.some.inj hrest
        exact RpmsgSystem.work_move hs hs' (fun _ => by simp) rfl rfl (hend rfl rfl)

/-- A step that only adds to the work of a device. -/
theorem RpmsgSystem.work_add {base : RpmsgSystem} {device : RpmsgDevice} {n : Nat} (hs : s.Ordered)
    (hs' : (base.setDevice device role).Ordered) (hbase : ∀ role, base.device role = s.device role)
    (hsent : device.sent = (s.device role).sent) (hreceived : device.received = (s.device role).received)
    (hle : device.work ≤ (s.device role).work + n) : (base.setDevice device role).work ≤ s.work + n := by
  have hself := base.device_setDevice_self device role
  have hpeer := base.device_setDevice_peer device role
  rw [hbase] at hpeer
  have hstep := RpmsgSystem.work_step hs hs' hpeer (by rw [hself, hsent])
  rw [hself, hsent, hreceived] at hstep
  omega

/-- The first message that a callback takes was waiting for it. -/
theorem RpmsgSystem.rxCallback_work (hs : s.Ordered) (hs' : s'.Ordered)
    (hstep : s.rxCallback role = some s') :
    s'.work < s.work ∨ s'.work ≤ s.work ∧ ∃ vring rvq,
      rpmsgVirtioGetRxBuffer role (s.receiveRing role) (s.device role).rvq =
        some (vring, rvq, none) := by
  obtain ⟨⟨vring, rvq, buffer⟩, hget, hrest⟩ := Option.bind_eq_some_iff.mp hstep
  cases buffer with
  | some buffer =>
      have hmove {device : RpmsgDevice} {rx : RxPc} (hrx : rx.work = 2)
          (hsends : device.sends = (s.device role).sends)
          (hreceives : device.receives = (s.device role).receives ++ [rx]) :
          device.work < (s.device role).work + 3 := by
        unfold RpmsgDevice.work
        rw [hsends, hreceives, List.map_append, List.sum_append, List.map_singleton,
          List.sum_singleton, hrx]
        omega
      obtain rfl := Option.some.inj hrest
      exact .inl (RpmsgSystem.work_receive hs hs' (fun _ => by simp) rfl List.length_append
        (hmove rfl rfl rfl))
  | none =>
      obtain rfl := Option.some.inj hrest
      refine .inr ⟨?_, vring, rvq, hget⟩
      exact RpmsgSystem.work_add (n := 0) hs hs' (fun _ => by simp) rfl rfl le_rfl

/-- What the message of a new send costs at most, retries included. -/
def SEND_WORK : Nat :=
  2 * (RPMSG_TICK_COUNT / RPMSG_TICKS_PER_INTERVAL) + 9

theorem RpmsgSystem.startSend_work (hs : s.Ordered) {call : SendCall}
    (hs' : (s.startSend role call).Ordered) : (s.startSend role call).work ≤ s.work + SEND_WORK := by
  unfold RpmsgSystem.startSend at hs' ⊢
  dsimp only at hs' ⊢
  split_ifs at hs' ⊢
  · exact RpmsgSystem.work_add hs hs' (fun _ => rfl) rfl rfl (Nat.le_add_right _ _)
  all_goals
    refine RpmsgSystem.work_add hs hs' (fun _ => rfl) rfl rfl ?_
    simp only [RpmsgDevice.work, List.map_append, List.sum_append, List.map_singleton,
      List.sum_singleton, SendPc.work, SEND_WORK]
    omega

end Steps

/-! ### Runs -/

/-- The action is a step of a call under way. -/
def RpmsgAction.continues : RpmsgAction → Bool
  | .stepSend _ _ | .stepReceive _ _ => true
  | .send _ _ | .rxCallback _ => false

/-- The action starts a send. -/
def RpmsgAction.sends : RpmsgAction → Bool
  | .send _ _ => true
  | .stepSend _ _ | .rxCallback _ | .stepReceive _ _ => false

/-- No call is under way. -/
def RpmsgSystem.AllReturned (s : RpmsgSystem) : Prop :=
  ∀ role, (s.device role).sends = [] ∧ (s.device role).receives = []

/-- What the steps of a run keep: who owns which buffer, and who holds which lock. -/
structure RpmsgSystem.Kept (cfg : RpmsgConfig) (features quietOf : Role → Nat) (s : RpmsgSystem) :
    Prop where
  inv : ∃ view, RpmsgInv cfg True s view
  words : NotifyWords features (Role.pick cfg.num1 cfg.num0) quietOf s

section Runs

variable {cfg : RpmsgConfig} {features quietOf : Role → Nat} {s s' : RpmsgSystem} {role : Role}

theorem RpmsgSystem.Kept.ordered (h : s.Kept cfg features quietOf) : s.Ordered := by
  obtain ⟨view, hinv⟩ := h.inv
  exact (hinv.contents trivial).received_le

theorem RpmsgConfig.sizes (cfg : RpmsgConfig) : Sizes (Role.pick cfg.num1 cfg.num0) := by
  have hsize {order : Nat} (hle : order ≤ 15) : 0 < 2 ^ order ∧ 2 ^ order < 2 ^ 16 :=
    ⟨Nat.two_pow_pos order, Nat.pow_lt_pow_right (by decide) (Nat.lt_succ_of_le hle)⟩
  rintro (_ | _)
  · exact hsize cfg.order1_le
  · exact hsize cfg.order0_le

theorem RpmsgSystem.Kept.step (h : s.Kept cfg features quietOf)
    (hpool : cfg.buffers ≤ cfg.num0 + cfg.num1) {action : RpmsgAction} (hallowed : s.Allowed action)
    (hstep : s.step action = some s') : s'.Kept cfg features quietOf := by
  obtain ⟨view, hinv⟩ := h.inv
  refine ⟨?_, h.words.action cfg.sizes hallowed.1 hstep⟩
  exact hinv.step (fun i _ => hinv.enqueuesWithRoom hpool i) (fun _ => hallowed.2) hstep

theorem RpmsgSystem.Kept.continues_work (h : s.Kept cfg features quietOf)
    (h' : s'.Kept cfg features quietOf) {action : RpmsgAction} (hcontinues : action.continues = true)
    (hstep : s.step action = some s') : s'.work < s.work := by
  cases action with
  | send role call => cases hcontinues
  | rxCallback role => cases hcontinues
  | stepSend role i => exact RpmsgSystem.stepSend_work h.ordered h'.ordered hstep
  | stepReceive role i => exact RpmsgSystem.stepReceive_work h.ordered h'.ordered hstep

theorem RpmsgSystem.Kept.starts_work (h : s.Kept cfg features quietOf)
    (h' : s'.Kept cfg features quietOf) {action : RpmsgAction} (hstarts : action.continues = false)
    (hstep : s.step action = some s') : s'.work ≤ s.work + SEND_WORK * action.sends.toNat := by
  cases action with
  | send role call =>
      obtain rfl := Option.some.inj hstep
      exact RpmsgSystem.startSend_work h.ordered h'.ordered
  | rxCallback role =>
      obtain hlt | ⟨hle, -⟩ := RpmsgSystem.rxCallback_work h.ordered h'.ordered hstep
      · exact hlt.le
      · exact hle
  | stepSend role i => cases hstarts
  | stepReceive role i => cases hstarts

/-- A call that holds the lock waits for nobody. -/
theorem SendPc.acquires_of_holds {pc : SendPc} (h : pc.holds = true) : pc.acquires = false := by
  cases pc <;> first | rfl | cases h

theorem RxPc.acquires_of_holds {pc : RxPc} (h : pc.holds = true) : pc.acquires = false := by
  cases pc <;> first | rfl | cases h

/-- A lock that is held is held by a call, which can go on. -/
theorem RpmsgSystem.Kept.holder_ready (h : s.Kept cfg features quietOf)
    (hlock : (s.device role).lock = true) :
    ∃ action : RpmsgAction, action.continues = true ∧ s.Ready action := by
  have hheld := (h.words.device role).held
  rw [hlock, Bool.toNat_true] at hheld
  by_cases hsends : 0 < (s.device role).sends.countP (·.pc.holds)
  · obtain ⟨send, hmem, hholds⟩ := List.countP_pos_iff.mp hsends
    obtain ⟨i, hsend⟩ := List.getElem?_of_mem hmem
    refine ⟨.stepSend role i, rfl, send, hsend, fun hacquires => ?_⟩
    rw [SendPc.acquires_of_holds hholds] at hacquires
    cases hacquires
  · have hreceives : 0 < (s.device role).receives.countP RxPc.holds := by omega
    obtain ⟨pc, hmem, hholds⟩ := List.countP_pos_iff.mp hreceives
    obtain ⟨i, hreceive⟩ := List.getElem?_of_mem hmem
    refine ⟨.stepReceive role i, rfl, pc, hreceive, fun hacquires => ?_⟩
    rw [RxPc.acquires_of_holds hholds] at hacquires
    cases hacquires

/-- As long as a call is under way, one can go on. -/
theorem RpmsgSystem.Kept.exists_ready (h : s.Kept cfg features quietOf) (hbusy : ¬ s.AllReturned) :
    ∃ action : RpmsgAction, action.continues = true ∧ s.Ready action := by
  obtain ⟨role, hcalls⟩ := not_forall.mp hbusy
  cases hlock : (s.device role).lock with
  | true => exact h.holder_ready hlock
  | false =>
      obtain hsends | hreceives := not_and_or.mp hcalls
      · obtain ⟨send, hmem⟩ := List.exists_mem_of_ne_nil _ hsends
        obtain ⟨i, hsend⟩ := List.getElem?_of_mem hmem
        exact ⟨.stepSend role i, rfl, send, hsend, fun _ => hlock⟩
      · obtain ⟨pc, hmem⟩ := List.exists_mem_of_ne_nil _ hreceives
        obtain ⟨i, hreceive⟩ := List.getElem?_of_mem hmem
        exact ⟨.stepReceive role i, rfl, pc, hreceive, fun _ => hlock⟩

theorem RpmsgSystem.Kept.lock_of_allReturned (h : s.Kept cfg features quietOf) (hreturned : s.AllReturned)
    (role : Role) : (s.device role).lock = false := by
  have hheld := (h.words.device role).held
  rw [(hreturned role).1, (hreturned role).2] at hheld
  cases hlock : (s.device role).lock with
  | false => rfl
  | true =>
      rw [hlock] at hheld
      cases hheld

/-- Nothing is under way and nothing waits. -/
def RpmsgSystem.Settled (s : RpmsgSystem) : Prop :=
  s.AllReturned ∧ ∀ role, (s.device role).received = (s.device role.peer).sent.map SendCall.message

/-- What waits when no call is under way is there for a receive callback to take. -/
theorem RpmsgSystem.Kept.exists_rxCallback (h : s.Kept cfg features quietOf) (hreturned : s.AllReturned)
    (hsettled : ¬ s.Settled) : ∃ role, s.Ready (.rxCallback role) ∧ ∀ vring rvq,
      rpmsgVirtioGetRxBuffer role (s.receiveRing role) (s.device role).rvq ≠
        some (vring, rvq, none) := by
  obtain ⟨role, hbehind⟩ := not_forall.mp fun hall => hsettled ⟨hreturned, hall⟩
  refine ⟨role, h.lock_of_allReturned hreturned role, fun vring rvq hnone => hbehind ?_⟩
  obtain ⟨view, hinv⟩ := h.inv
  have hprefix := (hinv.contents trivial).received_isPrefix role
  refine hprefix.eq_of_length ?_
  rw [List.length_map]
  exact hinv.received_all hnone

/-- A step that takes of the work, as long as there is something to do. -/
theorem RpmsgSystem.Kept.exists_step (h : s.Kept cfg features quietOf)
    (hpool : cfg.buffers ≤ cfg.num0 + cfg.num1) (hsettled : ¬ s.Settled) :
    ∃ action s', action.sends = false ∧ s.Allowed action ∧ s.step action = some s' ∧
      s'.work < s.work := by
  obtain ⟨view, hinv⟩ := h.inv
  by_cases hreturned : s.AllReturned
  · obtain ⟨role, hready, hwaits⟩ := h.exists_rxCallback hreturned hsettled
    have hallowed : s.Allowed (.rxCallback role) := ⟨hready, by simp⟩
    obtain ⟨s', hstep⟩ := Option.isSome_iff_exists.mp (hinv.step_isSome hpool hready)
    refine ⟨.rxCallback role, s', rfl, hallowed, hstep, ?_⟩
    obtain hlt | ⟨-, vring, rvq, hnone⟩ :=
      RpmsgSystem.rxCallback_work h.ordered (h.step hpool hallowed hstep).ordered hstep
    · exact hlt
    · exact absurd hnone (hwaits vring rvq)
  · obtain ⟨action, hcontinues, hready⟩ := h.exists_ready hreturned
    have hsends : action.sends = false := by
      cases action <;> first | rfl | cases hcontinues
    have hallowed : s.Allowed action := by
      refine ⟨hready, fun role call heq => ?_⟩
      rw [heq] at hsends
      cases hsends
    obtain ⟨s', hstep⟩ := Option.isSome_iff_exists.mp (hinv.step_isSome hpool hready)
    exact ⟨action, s', hsends, hallowed, hstep,
      h.continues_work (h.step hpool hallowed hstep) hcontinues hstep⟩

theorem RpmsgSystem.Kept.of_reachable (hpool : cfg.buffers ≤ cfg.num0 + cfg.num1)
    {masterFeatures slaveFeatures : Nat} {shm : Nat → UInt8} {s₀ : RpmsgSystem}
    (hinit : rpmsgInitVdev cfg.num0 cfg.num1 masterFeatures slaveFeatures cfg.masterIo cfg.slaveIo
      (rpmsgVirtioInitShmPool cfg.base cfg.size) shm = .ok s₀)
    (hs : Run.Reachable RpmsgSystem.Allowed RpmsgSystem.step s₀ s) :
    s.Kept cfg (Role.pick masterFeatures slaveFeatures)
      fun role => quietFlag (Role.pick masterFeatures slaveFeatures role) :=
  ⟨exists_rpmsgInv True (fun _ _ _ hallowed => hallowed.2) (.inl hpool) hinit hs,
    notifyWords_of_reachable (cfg.sizes .slave) (cfg.sizes .master) hinit
      (hs.mono fun _ _ hallowed => hallowed.1)⟩

end Runs

/-- Calls never wait for each other in a circle and never go round in one. In any run the calls take
no more steps than the work of the state it starts in and of the sends it starts; as long as a call is
under way, one of them can go on; and without new sends there is always a way to a state where all
calls have returned and each side has taken everything the other has sent. -/
theorem rpmsg_settles (cfg : RpmsgConfig)
    (hpool : cfg.size ≤ (cfg.num0 + cfg.num1) * RPMSG_BUFFER_SIZE)
    (masterFeatures slaveFeatures : Nat) (shm : Nat → UInt8) {s₀ s : RpmsgSystem}
    (hinit : rpmsgInitVdev cfg.num0 cfg.num1 masterFeatures slaveFeatures cfg.masterIo cfg.slaveIo
      (rpmsgVirtioInitShmPool cfg.base cfg.size) shm = .ok s₀)
    (hs : Run.Reachable RpmsgSystem.Allowed RpmsgSystem.step s₀ s) :
    let next := Run.guarded RpmsgSystem.Allowed RpmsgSystem.step
    (∀ actions s', Run.exec next s actions = some s' →
        actions.countP RpmsgAction.continues ≤
          s.work + SEND_WORK * actions.countP RpmsgAction.sends) ∧
      (¬ s.AllReturned → ∃ action : RpmsgAction, action.continues = true ∧ s.Ready action ∧
        (s.step action).isSome) ∧
      ∃ actions s', actions.length ≤ s.work ∧ (∀ action ∈ actions, action.sends = false) ∧
        Run.exec next s actions = some s' ∧ s'.AllReturned ∧
        ∀ role, (s'.device role).received = (s'.device role.peer).sent.map SendCall.message := by
  intro next
  have hbuffers : cfg.buffers ≤ cfg.num0 + cfg.num1 :=
    Nat.div_le_of_le_mul (by rwa [Nat.mul_comm] at hpool)
  have hkept := RpmsgSystem.Kept.of_reachable hbuffers hinit hs
  let kept := RpmsgSystem.Kept cfg (Role.pick masterFeatures slaveFeatures)
    fun role => quietFlag (Role.pick masterFeatures slaveFeatures role)
  have hnext {s s' : RpmsgSystem} {action : RpmsgAction} (h : kept s)
      (hstep : next s action = some s') : kept s' ∧ s.step action = some s' := by
    unfold next Run.guarded at hstep
    split_ifs at hstep with hallowed
    exact ⟨h.step hbuffers hallowed hstep, hstep⟩
  refine ⟨fun actions s' hexec => ?_, fun hbusy => ?_, ?_⟩
  · refine Run.countP_le_of_exec kept RpmsgAction.continues RpmsgAction.sends RpmsgSystem.work
      SEND_WORK ?_ ?_ hkept hexec
    · intro s action s' h hcontinues hstep
      obtain ⟨h', hstep⟩ := hnext h hstep
      exact ⟨h', h.continues_work h' hcontinues hstep⟩
    · intro s action s' h hstarts hstep
      obtain ⟨h', hstep⟩ := hnext h hstep
      exact ⟨h', h.starts_work h' hstarts hstep⟩
  · obtain ⟨action, hcontinues, hready⟩ := hkept.exists_ready hbusy
    obtain ⟨view, hinv⟩ := hkept.inv
    exact ⟨action, hcontinues, hready, hinv.step_isSome hbuffers hready⟩
  · have hrun := Run.exists_exec_of_measure next kept RpmsgSystem.Settled
      (fun action => action.sends = false) RpmsgSystem.work ?_ hkept
    · obtain ⟨actions, s', hlen, hkind, hexec, -, hreturned, hreceived⟩ := hrun
      exact ⟨actions, s', hlen, hkind, hexec, hreturned, hreceived⟩
    · intro s h hsettled
      obtain ⟨action, s', hsends, hallowed, hstep, hlt⟩ := h.exists_step hbuffers hsettled
      have hguarded : next s action = some s' := by
        unfold next Run.guarded
        rw [if_pos hallowed, hstep]
      exact ⟨action, s', hsends, hguarded, (hnext h hguarded).1, hlt⟩

/-- A send of the slave that waits, while the only buffer it could have holds a message that the master
has not taken, can return. -/
theorem rpmsg_settles_waiting :
    ∃ s s' : RpmsgSystem, ∃ actions,
      s.slave.sends.map Send.pc = [.loop 14999] ∧ s.slave.sent.length = 1 ∧ s.master.received = [] ∧
      Run.exec (Run.guarded RpmsgSystem.Allowed RpmsgSystem.step) s actions = some s' ∧
      s'.slave.sends = [] ∧ s'.master.received = s'.slave.sent.map SendCall.message := by
  let cfg := RpmsgConfig.linear 0 0 1024 (by decide) (by decide) (by decide)
  let send (steps : Nat) : List RpmsgAction :=
    .send .slave ⟨1, 2, fun _ => 7, 1, true, 0⟩ :: List.replicate steps (.stepSend .slave 0)
  obtain ⟨s₀, s, hinit, hs, hseen⟩ := Run.exists_reachable_of_ok
    RpmsgSystem.Allowed RpmsgSystem.step
    (rpmsgInitVdev cfg.num0 cfg.num1 0 0 cfg.masterIo cfg.slaveIo
      (rpmsgVirtioInitShmPool cfg.base cfg.size) fun _ => 0)
    (send 6 ++ send 2)
    (fun s => (s.slave.sends.map Send.pc, s.slave.sent.length, s.master.received))
    ([.loop 14999], 1, []) (by decide +kernel)
  obtain ⟨hpcs, hrest⟩ := Prod.mk.inj hseen
  obtain ⟨hsent, hreceived⟩ := Prod.mk.inj hrest
  obtain ⟨-, -, actions, s', -, -, hexec, hreturned, hall⟩ :=
    rpmsg_settles cfg (by decide) 0 0 (fun _ => 0) hinit hs
  exact ⟨s, s', actions, hpcs, hsent, hreceived, hexec, (hreturned .slave).1, hall .master⟩

end OpenAmp
