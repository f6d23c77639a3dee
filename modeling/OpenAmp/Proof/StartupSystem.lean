import OpenAmp.StartupSystem
import OpenAmp.Proof.QueueFrames
import OpenAmp.Proof.SendTrace

/-!
# The two devices come up together

The slave leaves its waiting loop only when the master is done, so its initialisation never meets that
of the master. It does meet the master's first sends. These commute with what is left of it: they do
not touch what it writes, and the master's receive ring is idle until the slave is in use. So every
run ends up in a state that the two initialisations one after the other lead to.
-/

namespace OpenAmp

variable {cfg : StartupConfig} {t t' : StartupSystem} {s s' : RpmsgSystem}

/-! ### Sends of the master -/

theorem rpmsgVirtioGetTxBuffer_num {vr vr' : Vring} {svq svq' : Virtqueue}
    {shpool shpool' : RpmsgVirtioShmPool} {buffer : Option RpmsgBuffer}
    (h : rpmsgVirtioGetTxBuffer .master vr svq shpool = some (vr', svq', shpool', buffer)) :
    vr'.num = vr.num := by
  obtain ⟨⟨vring, vq, data⟩, hget, hrest⟩ := Option.bind_eq_some_iff.mp h
  obtain ⟨⟨freed, vq', used⟩, hused, hpair⟩ := Option.bind_eq_some_iff.mp hget
  have hnum : vring.num = vr.num := by
    obtain ⟨desc, cons, rfl, -⟩ := virtqueueGetBuffer_frame hused
    obtain rfl := congrArg Prod.fst (Option.some.inj hpair)
    rfl
  have hvring : vr' = vring := by
    cases data with
    | some data => exact (congrArg Prod.fst (Option.some.inj hrest)).symm
    | none =>
        dsimp only at hrest
        split_ifs at hrest
        · exact (congrArg Prod.fst (Option.some.inj hrest)).symm
        · exact (congrArg Prod.fst (Option.some.inj hrest)).symm
  rw [hvring, hnum]

/-- What a send of the master leaves alone. -/
structure RpmsgSystem.SendFrame (s s' : RpmsgSystem) : Prop where
  vring0 : s'.vring0 = s.vring0
  num1 : s'.vring1.num = s.vring1.num
  rvq : s'.master.rvq = s.master.rvq
  receives : s'.master.receives = s.master.receives

theorem RpmsgSystem.sendFrame_takeBuffer {i : Nat} {call : SendCall} {tickCount : Nat}
    {availSize : Int} (hstep : s.takeBuffer .master i call tickCount availSize = some s') :
    s.SendFrame s' := by
  obtain ⟨⟨vring, svq, shpool, buffer⟩, hget, hrest⟩ := Option.bind_eq_some_iff.mp hstep
  have hnum := rpmsgVirtioGetTxBuffer_num hget
  cases buffer with
  | some buffer =>
      obtain rfl := Option.some.inj hrest
      exact ⟨rfl, hnum, rfl, rfl⟩
  | none =>
      dsimp only at hrest
      split_ifs at hrest
      all_goals
        obtain rfl := Option.some.inj hrest
        exact ⟨rfl, hnum, rfl, rfl⟩

theorem RpmsgSystem.sendFrame_stepSend {i : Nat} (hstep : s.stepSend .master i = some s') :
    s.SendFrame s' := by
  unfold RpmsgSystem.stepSend at hstep
  split at hstep
  · cases hstep
  · next call pc hsend =>
      cases pc with
      | loop tickCount =>
          obtain rfl := Option.some.inj hstep
          unfold RpmsgSystem.testSize
          dsimp only
          split_ifs
          · exact ⟨rfl, rfl, rfl, rfl⟩
          · exact ⟨rfl, rfl, rfl, rfl⟩
      | tested tickCount availSize => exact RpmsgSystem.sendFrame_takeBuffer hstep
      | taken buffer =>
          obtain rfl := Option.some.inj hstep
          exact ⟨rfl, rfl, rfl, rfl⟩
      | header buffer =>
          dsimp only [RpmsgSystem.writePayload] at hstep
          split_ifs at hstep
          obtain rfl := Option.some.inj hstep
          exact ⟨rfl, rfl, rfl, rfl⟩
      | payload buffer =>
          dsimp only [RpmsgSystem.enqueue] at hstep
          split_ifs at hstep
          obtain rfl := Option.some.inj hstep
          exact ⟨rfl, rfl, rfl, rfl⟩
      | enqueued =>
          obtain rfl := Option.some.inj hstep
          exact ⟨rfl, rfl, rfl, rfl⟩

/-! ### The status -/

/-- No device in use writes the status byte. -/
theorem RpmsgSystem.step_status {action : RpmsgAction} (hstep : s.step action = some s') :
    s'.status = s.status := by
  have hmapped : ∀ {r : Option RpmsgSystem}, r = r.map (·.withStatus s.status) → r = some s' →
      s'.status = s.status := by
    intro r hmap hr
    rw [hr, Option.map_some] at hmap
    have hsame : s' = s'.withStatus s.status := Option.some.inj hmap
    rw [hsame]
    rfl
  cases action with
  | send role call =>
      obtain rfl := Option.some.inj hstep
      unfold RpmsgSystem.startSend
      dsimp only
      split_ifs <;> cases role <;> rfl
  | stepSend role i => exact hmapped (s.stepSend_withStatus s.status role i) hstep
  | rxCallback role => exact hmapped (s.rxCallback_withStatus s.status role) hstep
  | stepReceive role i => exact hmapped (s.stepReceive_withStatus s.status role i) hstep

/-! ### The slave waits for the master -/

theorem StartupSystem.stepMaster_frame (hstep : t.stepMaster cfg = some t') :
    t'.dfeatures = t.dfeatures ∧ t'.slave = t.slave ∧ t.master ≠ .done ∧
      (t'.master ≠ .done ∧ t'.sys.status = t.sys.status ∨
        t'.master = .done ∧ t'.sys.status = VIRTIO_CONFIG_STATUS_DRIVER_OK) := by
  obtain ⟨dfeatures, gfeatures, sys, master, slave⟩ := t
  cases master with
  | fill device left =>
      cases left with
      | zero =>
          obtain rfl := Option.some.inj hstep
          exact ⟨rfl, rfl, MasterPc.noConfusion, .inr ⟨rfl, rfl⟩⟩
      | succ left =>
          obtain rfl := Option.some.inj hstep
          refine ⟨?_, ?_, MasterPc.noConfusion, .inl ?_⟩
          all_goals
            unfold StartupSystem.fillRound
            cases rpmsgInitBuffers cfg.masterIo 1 sys.vring0 device.rvq sys.shpool sys.shm with
            | error status => first | rfl | exact ⟨MasterPc.noConfusion, rfl⟩
            | ok filled => first | rfl | exact ⟨MasterPc.noConfusion, rfl⟩
  | checkPool features =>
      dsimp only [StartupSystem.stepMaster] at hstep
      split_ifs at hstep
      all_goals
        obtain rfl := Option.some.inj hstep
        exact ⟨rfl, rfl, MasterPc.noConfusion, .inl ⟨MasterPc.noConfusion, rfl⟩⟩
  | done | failed status => cases hstep
  | _ =>
      obtain rfl := Option.some.inj hstep
      exact ⟨rfl, rfl, MasterPc.noConfusion, .inl ⟨MasterPc.noConfusion, rfl⟩⟩

theorem StartupSystem.stepSlave_frame (hstep : t.stepSlave cfg = some t') :
    t'.dfeatures = t.dfeatures ∧ t'.gfeatures = t.gfeatures ∧ t'.master = t.master := by
  obtain ⟨dfeatures, gfeatures, sys, master, slave⟩ := t
  cases slave with
  | rprocWait | rpmsgWait =>
      dsimp only [StartupSystem.stepSlave] at hstep
      split_ifs at hstep
      all_goals
        obtain rfl := Option.some.inj hstep
        exact ⟨rfl, rfl, rfl⟩
  | done => cases hstep
  | _ =>
      obtain rfl := Option.some.inj hstep
      exact ⟨rfl, rfl, rfl⟩

section Wait

variable (cfg : StartupConfig)

theorem StartupSystem.rprocWait_leaves (hslave : t.slave = .rprocWait)
    (hready : t.sys.status &&& VIRTIO_CONFIG_STATUS_DRIVER_OK ≠ 0) :
    t.step cfg .slave = some { t with slave := .rpmsgWait } := by
  rw [StartupSystem.step, StartupSystem.stepSlave, hslave]
  exact if_pos hready

theorem StartupSystem.rpmsgWait_resets (hslave : t.slave = .rpmsgWait)
    (hreset : t.sys.status &&& VIRTIO_CONFIG_STATUS_NEEDS_RESET ≠ 0) :
    t.step cfg .slave = some { t with slave := .clearStatus } := by
  rw [StartupSystem.step, StartupSystem.stepSlave, hslave]
  exact if_pos hreset

theorem StartupSystem.rpmsgWait_leaves (hslave : t.slave = .rpmsgWait)
    (hready : t.sys.status &&& VIRTIO_CONFIG_STATUS_DRIVER_OK ≠ 0)
    (hreset : t.sys.status &&& VIRTIO_CONFIG_STATUS_NEEDS_RESET = 0) :
    t.step cfg .slave = some { t with slave := .getFeatures } := by
  rw [StartupSystem.step, StartupSystem.stepSlave, hslave]
  exact (if_neg (not_not.mpr hreset)).trans (if_pos hready)

theorem StartupSystem.rpmsgWait_stays (hslave : t.slave = .rpmsgWait) (hstatus : t.sys.status = 0) :
    t.step cfg .slave = some t := by
  rw [StartupSystem.step, StartupSystem.stepSlave, hslave]
  dsimp only
  rw [hstatus, Nat.zero_and, Nat.zero_and, if_neg (not_not.mpr rfl), if_neg (not_not.mpr rfl)]

end Wait

/-- A status byte from which the slave concludes that the master is ready. -/
def ReadyStatus (status : Nat) : Prop :=
  status &&& VIRTIO_CONFIG_STATUS_DRIVER_OK ≠ 0 ∧ status &&& VIRTIO_CONFIG_STATUS_NEEDS_RESET = 0

/-- Only a master that is done lets the slave through. -/
structure StartupSystem.Barrier (t : StartupSystem) : Prop where
  status : ReadyStatus t.sys.status → t.master = .done
  slave : t.slave.Waited → t.master = .done

theorem StartupSystem.Barrier.stepSlave (h : t.Barrier) (hstep : t.stepSlave cfg = some t') :
    t'.Barrier := by
  have hmaster := (StartupSystem.stepSlave_frame hstep).2.2
  obtain ⟨dfeatures, gfeatures, sys, master, slave⟩ := t
  cases slave with
  | rprocWait =>
      dsimp only [StartupSystem.stepSlave] at hstep
      split_ifs at hstep
      all_goals
        obtain rfl := Option.some.inj hstep
        exact ⟨h.status, False.elim⟩
  | rpmsgWait =>
      dsimp only [StartupSystem.stepSlave] at hstep
      split_ifs at hstep with hreset hready
      · obtain rfl := Option.some.inj hstep
        exact ⟨h.status, False.elim⟩
      · obtain rfl := Option.some.inj hstep
        exact ⟨h.status, fun _ => h.status ⟨hready, not_not.mp hreset⟩⟩
      · obtain rfl := Option.some.inj hstep
        exact h
  | clearStatus =>
      obtain rfl := Option.some.inj hstep
      exact ⟨fun hready => absurd (Nat.zero_and _) hready.1, False.elim⟩
  | done => cases hstep
  | _ =>
      have hdone := h.slave trivial
      exact ⟨fun _ => hmaster.trans hdone, fun _ => hmaster.trans hdone⟩

theorem StartupSystem.Barrier.step (h : t.Barrier) {action : StartupAction}
    (hstep : t.step cfg action = some t') : t'.Barrier := by
  cases action with
  | master =>
      obtain ⟨-, hslave, hbefore, hafter⟩ := StartupSystem.stepMaster_frame hstep
      obtain ⟨-, hstatus⟩ | ⟨hdone, -⟩ := hafter
      · exact ⟨fun hready => absurd (h.status (hstatus ▸ hready)) hbefore,
          fun hwaited => absurd (h.slave (hslave ▸ hwaited)) hbefore⟩
      · exact ⟨fun _ => hdone, fun _ => hdone⟩
  | slave => exact h.stepSlave hstep
  | rpmsg action =>
      obtain ⟨sys, hsys, hrest⟩ := Option.bind_eq_some_iff.mp hstep
      obtain rfl := Option.some.inj hrest
      have hstatus := RpmsgSystem.step_status hsys
      exact ⟨fun hready => h.status (hstatus ▸ hready), h.slave⟩

/-! ### What the master has done -/

/-- The result of the master's initialisation, if nobody interferes. -/
def StartupSystem.masterResult (cfg : StartupConfig) (t : StartupSystem) :
    Except Int (Vring × Vring × RpmsgDevice × RpmsgVirtioShmPool × (Nat → UInt8)) :=
  rpmsgInitVdevMaster cfg.num0 cfg.num1 t.dfeatures cfg.masterIo t.sys.shpool t.sys.shm

/-- The same from inside the loop that fills the receive ring. -/
def StartupSystem.fillResult (cfg : StartupConfig) (t : StartupSystem) (device : RpmsgDevice)
    (left : Nat) :
    Except Int (Vring × Vring × RpmsgDevice × RpmsgVirtioShmPool × (Nat → UInt8)) :=
  match rpmsgInitBuffers cfg.masterIo left t.sys.vring0 device.rvq t.sys.shpool t.sys.shm with
  | .error status => .error status
  | .ok (vring0, rvq, shpool, shm) => .ok (vring0, t.sys.vring1, { device with rvq }, shpool, shm)

/-- The master's receive ring holds nothing for it, and the rings have their size. -/
structure RpmsgSystem.Idle (cfg : StartupConfig) (s : RpmsgSystem) (device : RpmsgDevice) : Prop where
  used : device.rvq.vqUsedConsIdx = s.vring0.used.idx
  receives : device.receives = []
  num0 : s.vring0.num = cfg.num0
  num1 : s.vring1.num = cfg.num1

/-- The pool and the memory are as they were at the start. -/
def StartupSystem.PoolKept (start t : StartupSystem) : Prop :=
  t.sys.shpool = start.sys.shpool ∧ t.sys.shm = start.sys.shm

def StartupConfig.createVq0 (cfg : StartupConfig) (features : Nat) : Vring × Virtqueue :=
  virtqueueCreate .master features 0 cfg.num0 true (Vring.zeroed cfg.num0) virtqueueAllocate

def StartupConfig.createVq1 (cfg : StartupConfig) (features : Nat) : Vring × Virtqueue :=
  virtqueueCreate .master features 1 cfg.num1 true (Vring.zeroed cfg.num1) virtqueueAllocate

/-- Both sides have agreed on the features the slave offers. -/
structure StartupSystem.Negotiated (start t : StartupSystem) (features : Nat) : Prop where
  pool : start.PoolKept t
  gfeatures : t.gfeatures = start.dfeatures
  features : features = start.dfeatures

/-- What the master has left behind at each point of its initialisation, and right after it. -/
def StartupSystem.MasterOk (cfg : StartupConfig) (start t : StartupSystem) : Prop :=
  match t.master with
  | .createVdev => start.PoolKept t
  | .negotiateFeatures features | .setFeatures features =>
      start.PoolKept t ∧ features = start.dfeatures
  | .getFeatures => start.Negotiated t start.dfeatures
  | .getDfeatures features | .checkPool features => start.Negotiated t features
  | .clearVring0 features => start.Negotiated t features ∧ start.sys.shpool.size ≠ 0
  | .createVq0 features =>
      start.Negotiated t features ∧ start.sys.shpool.size ≠ 0 ∧
        t.sys.vring0 = Vring.zeroed cfg.num0
  | .clearVring1 features rvq =>
      start.Negotiated t features ∧ start.sys.shpool.size ≠ 0 ∧
        cfg.createVq0 start.dfeatures = (t.sys.vring0, rvq)
  | .createVq1 features rvq =>
      start.Negotiated t features ∧ start.sys.shpool.size ≠ 0 ∧
        cfg.createVq0 start.dfeatures = (t.sys.vring0, rvq) ∧ t.sys.vring1 = Vring.zeroed cfg.num1
  | .disableCb rvq svq =>
      start.Negotiated t start.dfeatures ∧ start.sys.shpool.size ≠ 0 ∧
        cfg.createVq0 start.dfeatures = (t.sys.vring0, rvq) ∧
        cfg.createVq1 start.dfeatures = (t.sys.vring1, svq)
  | .fill device left =>
      t.gfeatures = start.dfeatures ∧ t.fillResult cfg device left = start.masterResult cfg ∧
        t.sys.Idle cfg device ∧ left ≤ cfg.num0
  | .done =>
      t.gfeatures = start.dfeatures ∧
        start.masterResult cfg =
          .ok (t.sys.vring0, t.sys.vring1, t.sys.master, t.sys.shpool, t.sys.shm) ∧
        t.sys.Idle cfg t.sys.master
  | .failed status => start.masterResult cfg = .error status

theorem rpmsgInitBuffers_succ (io : ShmIo) (left : Nat) (vr : Vring) (rvq : Virtqueue)
    (shpool : RpmsgVirtioShmPool) (shm : Nat → UInt8) :
    rpmsgInitBuffers io (left + 1) vr rvq shpool shm =
      match rpmsgInitBuffers io 1 vr rvq shpool shm with
      | .error status => .error status
      | .ok (vr, rvq, shpool, shm) => rpmsgInitBuffers io left vr rvq shpool shm := by
  simp only [rpmsgInitBuffers]
  split_ifs <;> rfl

/-- A round of the loop posts a buffer: the used ring stays as it is. -/
theorem rpmsgInitBuffers_one {io : ShmIo} {vr vr' : Vring} {rvq rvq' : Virtqueue}
    {shpool shpool' : RpmsgVirtioShmPool} {shm shm' : Nat → UInt8}
    (h : rpmsgInitBuffers io 1 vr rvq shpool shm = .ok (vr', rvq', shpool', shm')) :
    vr'.num = vr.num ∧ vr'.used = vr.used ∧ rvq'.vqUsedConsIdx = rvq.vqUsedConsIdx := by
  unfold rpmsgInitBuffers at h
  generalize rpmsgVirtioShmPoolGetBuffer shpool RPMSG_BUFFER_SIZE = got at h
  obtain ⟨shpool₁, buffer⟩ := got
  dsimp only at h
  split_ifs at h
  obtain ⟨hvr, hrest⟩ := Prod.mk.inj (Except.ok.inj h)
  obtain ⟨hrvq, -⟩ := Prod.mk.inj hrest
  subst hvr hrvq
  have hcontrol := virtqueueAddBuffer_control vr rvq (fun _ => ⟨buffer, RPMSG_BUFFER_SIZE⟩) 0 1 buffer
  exact ⟨rfl, rfl, congrArg VqControl.vqUsedConsIdx hcontrol⟩

theorem virtqueueDisableCb_num (vr : Vring) (vq : Virtqueue) :
    (virtqueueDisableCb vr vq).1.num = vr.num := by
  unfold virtqueueDisableCb
  dsimp only
  split_ifs
  · cases vq.busy.role <;> rfl
  · cases vq.busy.role <;> rfl

theorem StartupSystem.fillResult_start {start : StartupSystem} {rvq svq : Virtqueue}
    (hpool : start.PoolKept t) (hsize : start.sys.shpool.size ≠ 0)
    (hring0 : cfg.createVq0 start.dfeatures = (t.sys.vring0, rvq))
    (hring1 : cfg.createVq1 start.dfeatures = (t.sys.vring1, svq)) :
    let device := RpmsgDevice.create rvq (virtqueueDisableCb t.sys.vring1 svq).2 cfg.masterIo
    { t with sys := { t.sys with vring1 := (virtqueueDisableCb t.sys.vring1 svq).1 } }.fillResult cfg
      device device.rvq.vqNentries = start.masterResult cfg := by
  have hvring0 : t.sys.vring0 = (cfg.createVq0 start.dfeatures).1 := by rw [hring0]
  have hvring1 : t.sys.vring1 = (cfg.createVq1 start.dfeatures).1 := by rw [hring1]
  obtain rfl : (cfg.createVq0 start.dfeatures).2 = rvq := by rw [hring0]
  obtain rfl : (cfg.createVq1 start.dfeatures).2 = svq := by rw [hring1]
  intro device
  have hfill : ({ t with sys := { t.sys with
        vring1 := (virtqueueDisableCb t.sys.vring1 (cfg.createVq1 start.dfeatures).2).1 } } :
      StartupSystem).fillResult cfg device device.rvq.vqNentries =
      match rpmsgInitBuffers cfg.masterIo cfg.num0 (cfg.createVq0 start.dfeatures).1
        (createdQueue .master start.dfeatures 0 cfg.num0 cfg.masterIo.toMetalIo)
        start.sys.shpool start.sys.shm with
      | .error status => .error status
      | .ok (vring0, rvq, shpool, shm) =>
          .ok (vring0, (virtqueueDisableCb t.sys.vring1 (cfg.createVq1 start.dfeatures).2).1,
            { device with rvq }, shpool, shm) := by
    rw [← hvring0, ← hpool.1, ← hpool.2]
    rfl
  rw [hfill, StartupSystem.masterResult, rpmsgInitVdevMaster_eq hsize]
  simp only [device, hvring1]
  rfl

/-- A round that succeeds leaves the result of the loop as it was. -/
theorem StartupSystem.MasterOk.fillRound {start : StartupSystem} {device : RpmsgDevice} {left : Nat}
    (hgfeatures : t.gfeatures = start.dfeatures)
    (hresult : t.fillResult cfg device (left + 1) = start.masterResult cfg)
    (hidle : t.sys.Idle cfg device) (hleft : left + 1 ≤ cfg.num0) :
    start.MasterOk cfg (t.fillRound cfg device left) := by
  rw [StartupSystem.fillResult, rpmsgInitBuffers_succ] at hresult
  unfold StartupSystem.fillRound
  cases hround : rpmsgInitBuffers cfg.masterIo 1 t.sys.vring0 device.rvq t.sys.shpool t.sys.shm with
  | error status =>
      rw [hround] at hresult
      exact hresult.symm
  | ok filled =>
      obtain ⟨vring0, rvq, shpool, shm⟩ := filled
      rw [hround] at hresult
      obtain ⟨hnum, hused, hcons⟩ := rpmsgInitBuffers_one hround
      refine ⟨hgfeatures, hresult, ?_, Nat.le_of_succ_le hleft⟩
      constructor
      case used => exact hcons.trans (hidle.used.trans (congrArg VringUsed.idx hused.symm))
      case receives => exact hidle.receives
      case num0 => exact hnum.trans hidle.num0
      case num1 => exact hidle.num1

theorem StartupSystem.MasterOk.step {start : StartupSystem} (h : start.MasterOk cfg t)
    (hd : t.dfeatures = start.dfeatures) (hstep : t.stepMaster cfg = some t') :
    start.MasterOk cfg t' := by
  obtain ⟨dfeatures, gfeatures, sys, master, slave⟩ := t
  obtain rfl : dfeatures = start.dfeatures := hd
  cases master with
  | createVdev =>
      obtain rfl := Option.some.inj hstep
      exact ⟨h, rfl⟩
  | negotiateFeatures features =>
      obtain rfl := Option.some.inj hstep
      obtain ⟨hpool, rfl⟩ := h
      exact ⟨hpool, Nat.and_self _⟩
  | setFeatures features =>
      obtain rfl := Option.some.inj hstep
      exact ⟨h.1, h.2, rfl⟩
  | getFeatures =>
      obtain rfl := Option.some.inj hstep
      exact ⟨h.pool, h.gfeatures, h.gfeatures⟩
  | getDfeatures features =>
      obtain rfl := Option.some.inj hstep
      obtain ⟨hpool, hgfeatures, rfl⟩ := h
      exact ⟨hpool, hgfeatures, Nat.and_self _⟩
  | checkPool features =>
      obtain ⟨hpool, hgfeatures, hfeatures⟩ := h
      dsimp only [StartupSystem.stepMaster] at hstep
      rw [hpool.1] at hstep
      split_ifs at hstep with hsize
      · obtain rfl := Option.some.inj hstep
        exact if_pos hsize
      · obtain rfl := Option.some.inj hstep
        exact ⟨⟨hpool, hgfeatures, hfeatures⟩, hsize⟩
  | clearVring0 features =>
      obtain rfl := Option.some.inj hstep
      obtain ⟨⟨hpool, hgfeatures, hfeatures⟩, hsize⟩ := h
      exact ⟨⟨hpool, hgfeatures, hfeatures⟩, hsize, rfl⟩
  | createVq0 features =>
      obtain rfl := Option.some.inj hstep
      obtain ⟨⟨hpool, hgfeatures, hfeatures⟩, hsize, hzero⟩ := h
      have hvring0 : sys.vring0 = Vring.zeroed cfg.num0 := hzero
      refine ⟨⟨hpool, hgfeatures, hfeatures⟩, hsize, ?_⟩
      rw [hfeatures, hvring0]
      rfl
  | clearVring1 features rvq =>
      obtain rfl := Option.some.inj hstep
      obtain ⟨⟨hpool, hgfeatures, hfeatures⟩, hsize, hring0⟩ := h
      exact ⟨⟨hpool, hgfeatures, hfeatures⟩, hsize, hring0, rfl⟩
  | createVq1 features rvq =>
      obtain rfl := Option.some.inj hstep
      obtain ⟨⟨hpool, hgfeatures, hfeatures⟩, hsize, hring0, hzero⟩ := h
      have hvring1 : sys.vring1 = Vring.zeroed cfg.num1 := hzero
      refine ⟨⟨hpool, hgfeatures, rfl⟩, hsize, hring0, ?_⟩
      rw [hfeatures, hvring1]
      rfl
  | disableCb rvq svq =>
      obtain rfl := Option.some.inj hstep
      obtain ⟨⟨hpool, hgfeatures, -⟩, hsize, hring0, hring1⟩ := h
      have hvring0 : (cfg.createVq0 start.dfeatures).1 = sys.vring0 := congrArg Prod.fst hring0
      have hvring1 : (cfg.createVq1 start.dfeatures).1 = sys.vring1 := congrArg Prod.fst hring1
      have hrvq : (cfg.createVq0 start.dfeatures).2 = rvq := congrArg Prod.snd hring0
      refine ⟨hgfeatures, StartupSystem.fillResult_start hpool hsize hring0 hring1, ?_, ?_⟩
      · constructor
        case used =>
          change rvq.vqUsedConsIdx = sys.vring0.used.idx
          rw [← hrvq, ← hvring0]
          rfl
        case receives => rfl
        case num0 =>
          change sys.vring0.num = cfg.num0
          rw [← hvring0]
          rfl
        case num1 =>
          change (virtqueueDisableCb sys.vring1 svq).1.num = cfg.num1
          rw [virtqueueDisableCb_num, ← hvring1]
          rfl
      · change rvq.vqNentries ≤ cfg.num0
        rw [← hrvq]
        exact le_rfl
  | fill device left =>
      obtain ⟨hgfeatures, hresult, hidle, hleft⟩ := h
      cases left with
      | zero =>
          obtain rfl := Option.some.inj hstep
          exact ⟨hgfeatures, hresult.symm, hidle.used, hidle.receives, hidle.num0, hidle.num1⟩
      | succ left =>
          obtain rfl := Option.some.inj hstep
          exact StartupSystem.MasterOk.fillRound hgfeatures hresult hidle hleft
  | done | failed status => cases hstep

/-! ### What is left of the slave's initialisation -/

/-- A slave whose callbacks for transmitted buffers are about to be switched off, in use. -/
def RpmsgSystem.withSlave (s : RpmsgSystem) (svq : Virtqueue) (slave : RpmsgDevice) : RpmsgSystem :=
  { s with vring0 := (virtqueueDisableCb s.vring0 svq).1, slave }

/-- The system when the slave has executed what is left of its initialisation. -/
def RpmsgSystem.finishSlave (cfg : StartupConfig) (features : Nat) (s : RpmsgSystem) :
    SlavePc → RpmsgSystem
  | .rprocWait | .rpmsgWait | .clearStatus | .getFeatures | .getDfeatures _ | .createVq0 _ =>
      let (vring0, vring1, slave) :=
        rpmsgInitVdevSlave cfg.num0 cfg.num1 features cfg.slaveIo s.vring0 s.vring1
      { s with vring0, vring1, slave }
  | .createVq1 _ svq =>
      let (vring1, rvq) :=
        virtqueueCreate .slave features 1 cfg.num1 true s.vring1 virtqueueAllocate
      let (vring0, svq) := virtqueueDisableCb s.vring0 svq
      { s with vring0, vring1, slave := RpmsgDevice.create rvq svq cfg.slaveIo }
  | .disableCb rvq svq =>
      let (vring0, svq) := virtqueueDisableCb s.vring0 svq
      { s with vring0, slave := RpmsgDevice.create rvq svq cfg.slaveIo }
  | .done => s

/-- What the slave has found out and made by each point, given that no reset is requested. -/
def SlavePc.Ok (features : Nat) : SlavePc → Prop
  | .rprocWait | .rpmsgWait | .getFeatures | .done => True
  | .clearStatus => False
  | .getDfeatures found | .createVq0 found => found = features
  | .createVq1 found svq => found = features ∧ svq.role = .slave
  | .disableCb _ svq => svq.role = .slave

/-- Nothing the master can touch decides what the slave's remaining steps make. -/
theorem RpmsgSystem.finishSlave_eq (cfg : StartupConfig) {features : Nat} {pc : SlavePc} (hpc : pc ≠ .done)
    (hok : pc.Ok features) :
    ∃ svq slave, svq.role = .slave ∧
      ∀ s : RpmsgSystem, s.vring0.num = cfg.num0 → s.vring1.num = cfg.num1 →
        s.finishSlave cfg features pc = s.withSlave svq slave := by
  cases pc with
  | done => exact absurd rfl hpc
  | disableCb rvq svq =>
      exact ⟨svq, RpmsgDevice.create rvq svq.busy.idle cfg.slaveIo, hok, fun _ _ _ => rfl⟩
  | createVq1 found svq =>
      refine ⟨svq, RpmsgDevice.create (virtqueueCreate .slave features 1 cfg.num1 true
        (Vring.zeroed cfg.num1) virtqueueAllocate).2 svq.busy.idle cfg.slaveIo, hok.2,
        fun s _ hnum1 => ?_⟩
      unfold RpmsgSystem.finishSlave virtqueueCreate RpmsgSystem.withSlave
      dsimp only
      rw [Vring.setNum_self hnum1]
      rfl
  | _ =>
      let create (id num : Nat) : Virtqueue :=
        (virtqueueCreate .slave features id num true (Vring.zeroed num) virtqueueAllocate).2
      refine ⟨create 0 cfg.num0,
        RpmsgDevice.create (create 1 cfg.num1) (create 0 cfg.num0).busy.idle cfg.slaveIo, rfl,
        fun s hnum0 hnum1 => ?_⟩
      unfold RpmsgSystem.finishSlave rpmsgInitVdevSlave rpmsgInitVdevSlaveOn virtqueueCreate
        RpmsgSystem.withSlave
      dsimp only
      rw [Vring.setNum_self hnum0, Vring.setNum_self hnum1]
      rfl

theorem virtqueueDisableCb_slave_used (vr : Vring) {vq : Virtqueue} (hrole : vq.role = .slave) :
    (virtqueueDisableCb vr vq).1.used.idx = vr.used.idx := by
  have hbusy : vq.busy.role = .slave := hrole
  unfold virtqueueDisableCb
  dsimp only
  rw [hbusy]
  split_ifs <;> rfl

theorem rpmsgVirtioGetRxBuffer_none {vr : Vring} {rvq : Virtqueue}
    (hused : rvq.vqUsedConsIdx = vr.used.idx) :
    rpmsgVirtioGetRxBuffer .master vr rvq = some (vr, rvq, none) := by
  simp only [rpmsgVirtioGetRxBuffer, masterGetBuffer, virtqueueGetBuffer, if_pos hused]
  rfl

section WithSlave

variable (s : RpmsgSystem) (svq : Virtqueue) (slave : RpmsgDevice)

theorem RpmsgSystem.stepSend_withSlave (i : Nat) :
    (s.withSlave svq slave).stepSend .master i =
      (s.stepSend .master i).map (·.withSlave svq slave) := by
  have hdevice : (s.withSlave svq slave).device .master = s.device .master := rfl
  have hring : (s.withSlave svq slave).sendRing .master = s.sendRing .master := rfl
  have hshpool : (s.withSlave svq slave).shpool = s.shpool := rfl
  simp only [RpmsgSystem.stepSend, hdevice]
  split
  · rfl
  · next call pc hsend =>
      cases pc with
      | loop tickCount =>
          simp only [RpmsgSystem.testSize, hdevice, hring, Option.map_some]
          split_ifs <;> rfl
      | tested tickCount availSize =>
          simp only [RpmsgSystem.takeBuffer, hdevice, hring, hshpool, Option.bind_eq_bind,
            Option.map_bind]
          congr 1
          funext taken
          obtain ⟨vring, svq, shpool, buffer⟩ := taken
          cases buffer with
          | some buffer => rfl
          | none =>
              simp only [Function.comp_apply]
              split_ifs <;> rfl
      | taken buffer => rfl
      | header buffer =>
          simp only [RpmsgSystem.writePayload, hdevice]
          split_ifs <;> rfl
      | payload buffer =>
          simp only [RpmsgSystem.enqueue, hdevice, hring]
          split_ifs <;> rfl
      | enqueued => rfl

theorem RpmsgSystem.ready_withSlave {action : RpmsgAction} (hrole : action.role = .master)
    (hready : s.Ready action) : (s.withSlave svq slave).Ready action := by
  cases action with
  | send role call => trivial
  | stepSend role i =>
      obtain rfl : role = .master := hrole
      exact hready
  | rxCallback role =>
      obtain rfl : role = .master := hrole
      exact hready
  | stepReceive role i =>
      obtain rfl : role = .master := hrole
      exact hready

/-- A step of the master, taken before or after the slave's last steps. -/
theorem RpmsgSystem.step_withSlave (hsvq : svq.role = .slave) {action : RpmsgAction}
    (hrole : action.role = .master) (hidle : s.Idle cfg s.master) :
    (s.withSlave svq slave).step action = (s.step action).map (·.withSlave svq slave) := by
  cases action with
  | send role call =>
      obtain rfl : role = .master := hrole
      have hstatus : (s.withSlave svq slave).status = s.status := rfl
      simp only [RpmsgSystem.step, RpmsgSystem.startSend, hstatus, Option.map_some]
      split_ifs <;> rfl
  | stepSend role i =>
      obtain rfl : role = .master := hrole
      exact s.stepSend_withSlave svq slave i
  | rxCallback role =>
      obtain rfl : role = .master := hrole
      have hother := rpmsgVirtioGetRxBuffer_none
        (hidle.used.trans (virtqueueDisableCb_slave_used s.vring0 hsvq).symm)
      simp only [RpmsgSystem.step, RpmsgSystem.rxCallback]
      change ((rpmsgVirtioGetRxBuffer .master (virtqueueDisableCb s.vring0 svq).1
        s.master.rvq).bind _) = ((rpmsgVirtioGetRxBuffer .master s.vring0 s.master.rvq).bind _).map _
      rw [rpmsgVirtioGetRxBuffer_none hidle.used, hother]
      rfl
  | stepReceive role i =>
      obtain rfl : role = .master := hrole
      have hnone : (s.device .master).receives[i]? = none := by
        rw [show (s.device .master).receives = [] from hidle.receives]
        rfl
      have hdevice : (s.withSlave svq slave).device .master = s.device .master := rfl
      simp only [RpmsgSystem.step, RpmsgSystem.stepReceive, hdevice, hnone, Option.map_none]

/-- The master's receive ring stays idle until the slave uses it. -/
theorem RpmsgSystem.Idle.step {s s' : RpmsgSystem} (hidle : s.Idle cfg s.master)
    {action : RpmsgAction} (hrole : action.role = .master) (hstep : s.step action = some s') :
    s'.Idle cfg s'.master := by
  cases action with
  | send role call =>
      obtain rfl : role = .master := hrole
      obtain rfl := Option.some.inj hstep
      unfold RpmsgSystem.startSend
      dsimp only
      split_ifs
      all_goals exact ⟨hidle.used, hidle.receives, hidle.num0, hidle.num1⟩
  | stepSend role i =>
      obtain rfl : role = .master := hrole
      have hframe := RpmsgSystem.sendFrame_stepSend hstep
      constructor
      case used => rw [hframe.rvq, hframe.vring0, hidle.used]
      case receives => rw [hframe.receives, hidle.receives]
      case num0 => rw [hframe.vring0, hidle.num0]
      case num1 => rw [hframe.num1, hidle.num1]
  | rxCallback role =>
      obtain rfl : role = .master := hrole
      change ((rpmsgVirtioGetRxBuffer .master s.vring0 s.master.rvq).bind _) = some s' at hstep
      rw [rpmsgVirtioGetRxBuffer_none hidle.used] at hstep
      obtain rfl := Option.some.inj hstep
      exact ⟨hidle.used, hidle.receives, hidle.num0, hidle.num1⟩
  | stepReceive role i =>
      obtain rfl : role = .master := hrole
      have hnone : (s.device .master).receives[i]? = none := by
        rw [show (s.device .master).receives = [] from hidle.receives]
        rfl
      simp only [RpmsgSystem.step, RpmsgSystem.stepReceive, hnone] at hstep
      cases hstep

end WithSlave

/-! ### Every run -/

/-- The two initialisations one after the other. -/
def StartupSystem.initialised (cfg : StartupConfig) (t : StartupSystem) : Except Int RpmsgSystem :=
  rpmsgInitVdev cfg.num0 cfg.num1 t.dfeatures t.dfeatures cfg.masterIo cfg.slaveIo t.sys.shpool
    t.sys.shm

/-- The master is under way, and the slave waits for it. -/
structure StartupSystem.Waiting (cfg : StartupConfig) (start t : StartupSystem) : Prop where
  master : t.master ≠ .done
  status : t.sys.status &&& VIRTIO_CONFIG_STATUS_DRIVER_OK = 0
  slave : t.slave = .rprocWait
  masterOk : start.MasterOk cfg t

/-- The master is in use, and finishing the slave leads to a state of the two devices. -/
structure StartupSystem.Ready (cfg : StartupConfig) (start t : StartupSystem) : Prop where
  master : t.master = .done
  status : t.sys.status = VIRTIO_CONFIG_STATUS_DRIVER_OK
  gfeatures : t.gfeatures = start.dfeatures
  slaveOk : t.slave.Ok start.dfeatures
  idle : t.slave ≠ .done → t.sys.Idle cfg t.sys.master
  run : ∃ s₀, start.initialised cfg = .ok s₀ ∧
    Run.Reachable RpmsgSystem.Ready RpmsgSystem.step s₀
      (t.sys.finishSlave cfg start.dfeatures t.slave)

structure StartupSystem.Inv (cfg : StartupConfig) (start t : StartupSystem) : Prop where
  dfeatures : t.dfeatures = start.dfeatures
  stage : start.Waiting cfg t ∨ start.Ready cfg t

variable {start : StartupSystem}

theorem StartupSystem.Waiting.stepMaster (h : start.Waiting cfg t)
    (hd : t.dfeatures = start.dfeatures) (hstep : t.stepMaster cfg = some t') :
    start.Waiting cfg t' ∨ start.Ready cfg t' := by
  have hok := h.masterOk.step hd hstep
  obtain ⟨-, hslave, -, ⟨hmaster, hstatus⟩ | ⟨hmaster, hstatus⟩⟩ :=
    StartupSystem.stepMaster_frame hstep
  · exact .inl ⟨hmaster, by rw [hstatus, h.status], by rw [hslave, h.slave], hok⟩
  · rw [StartupSystem.MasterOk, hmaster] at hok
    obtain ⟨hgfeatures, hresult, hidle⟩ := hok
    rw [h.slave] at hslave
    refine .inr ⟨hmaster, hstatus, hgfeatures, ?_, fun _ => hidle,
      t'.sys.finishSlave cfg start.dfeatures t'.slave, ?_, .start⟩
    · rw [hslave]
      trivial
    · have hresult' : rpmsgInitVdevMaster cfg.num0 cfg.num1 start.dfeatures cfg.masterIo
          start.sys.shpool start.sys.shm = _ := hresult
      rw [StartupSystem.initialised, rpmsgInitVdev_eq, hresult', hslave, ← hstatus]
      rfl

theorem StartupSystem.Waiting.stepSlave (h : start.Waiting cfg t)
    (hstep : t.stepSlave cfg = some t') : t' = t := by
  rw [StartupSystem.stepSlave, h.slave] at hstep
  dsimp only at hstep
  rw [if_neg (not_not.mpr h.status)] at hstep
  exact (Option.some.inj hstep).symm

theorem StartupSystem.Ready.stepSlave (h : start.Ready cfg t) (hd : t.dfeatures = start.dfeatures)
    (hstep : t.stepSlave cfg = some t') : start.Ready cfg t' := by
  obtain ⟨dfeatures, gfeatures, sys, master, slave⟩ := t
  obtain rfl : dfeatures = start.dfeatures := hd
  obtain ⟨hmaster, hstatus, hgfeatures, hok, hidle, hrun⟩ := h
  have hready : sys.status &&& VIRTIO_CONFIG_STATUS_DRIVER_OK ≠ 0 := by
    rw [show sys.status = _ from hstatus]
    decide
  have hreset : sys.status &&& VIRTIO_CONFIG_STATUS_NEEDS_RESET = 0 := by
    rw [show sys.status = _ from hstatus]
    decide
  cases slave with
  | rprocWait =>
      dsimp only [StartupSystem.stepSlave] at hstep
      rw [if_pos hready] at hstep
      obtain rfl := Option.some.inj hstep
      exact ⟨hmaster, hstatus, hgfeatures, trivial, fun _ => hidle SlavePc.noConfusion, hrun⟩
  | rpmsgWait =>
      dsimp only [StartupSystem.stepSlave] at hstep
      rw [if_neg (not_not.mpr hreset), if_pos hready] at hstep
      obtain rfl := Option.some.inj hstep
      exact ⟨hmaster, hstatus, hgfeatures, trivial, fun _ => hidle SlavePc.noConfusion, hrun⟩
  | clearStatus => exact hok.elim
  | getFeatures =>
      obtain rfl := Option.some.inj hstep
      exact ⟨hmaster, hstatus, hgfeatures, hgfeatures, fun _ => hidle SlavePc.noConfusion, hrun⟩
  | getDfeatures found =>
      obtain rfl : found = start.dfeatures := hok
      obtain rfl := Option.some.inj hstep
      exact ⟨hmaster, hstatus, hgfeatures, Nat.and_self _, fun _ => hidle SlavePc.noConfusion, hrun⟩
  | createVq0 found =>
      obtain rfl : found = start.dfeatures := hok
      obtain rfl := Option.some.inj hstep
      refine ⟨hmaster, hstatus, hgfeatures, ⟨rfl, rfl⟩, fun _ => ?_, hrun⟩
      obtain ⟨hused, hreceives, -, hnum1⟩ := hidle SlavePc.noConfusion
      exact ⟨hused, hreceives, rfl, hnum1⟩
  | createVq1 found svq =>
      obtain ⟨hfound, hrole⟩ := hok
      obtain rfl : found = start.dfeatures := hfound
      obtain rfl := Option.some.inj hstep
      refine ⟨hmaster, hstatus, hgfeatures, hrole, fun _ => ?_, hrun⟩
      obtain ⟨hused, hreceives, hnum0, -⟩ := hidle SlavePc.noConfusion
      exact ⟨hused, hreceives, hnum0, rfl⟩
  | disableCb rvq svq =>
      obtain rfl := Option.some.inj hstep
      exact ⟨hmaster, hstatus, hgfeatures, trivial, fun hdone => absurd rfl hdone, hrun⟩
  | done => cases hstep

theorem StartupSystem.eq_master_of_initialised {role : Role} (hdevice : t.Initialised role)
    (hslave : t.slave ≠ .done) : role = .master := by
  cases role with
  | master => rfl
  | slave => exact absurd hdevice hslave

/-- A device in use takes the step that it takes in the run of the two devices. -/
theorem StartupSystem.Ready.stepRpmsg (h : start.Ready cfg t) {action : RpmsgAction}
    (hdevice : t.Initialised action.role) (hready : t.sys.Ready action) {sys : RpmsgSystem}
    (hstep : t.sys.step action = some sys) : start.Ready cfg { t with sys } := by
  obtain ⟨hmaster, hstatus, hgfeatures, hok, hidle, s₀, hinit, hrun⟩ := h
  refine ⟨hmaster, (RpmsgSystem.step_status hstep).trans hstatus, hgfeatures, hok, ?_, s₀, hinit, ?_⟩
  · intro hslave
    exact (hidle hslave).step (StartupSystem.eq_master_of_initialised hdevice hslave) hstep
  by_cases hslave : t.slave = .done
  · rw [hslave] at hrun ⊢
    exact .next action hrun hready hstep
  · have hrole := StartupSystem.eq_master_of_initialised hdevice hslave
    have hidle' := (hidle hslave).step hrole hstep
    obtain ⟨svq, slave, hsvq, hfinish⟩ := RpmsgSystem.finishSlave_eq cfg hslave hok
    rw [hfinish _ (hidle hslave).num0 (hidle hslave).num1] at hrun
    change Run.Reachable _ _ _ (sys.finishSlave cfg start.dfeatures t.slave)
    rw [hfinish _ hidle'.num0 hidle'.num1]
    refine .next action hrun (t.sys.ready_withSlave svq slave hrole hready) ?_
    rw [t.sys.step_withSlave svq slave hsvq hrole (hidle hslave), hstep, Option.map_some]

theorem StartupSystem.Inv.step (h : start.Inv cfg t) {action : StartupAction}
    (hallowed : t.Allowed action) (hstep : t.step cfg action = some t') : start.Inv cfg t' := by
  cases action with
  | master =>
      obtain ⟨hd, -, hbefore, -⟩ := StartupSystem.stepMaster_frame hstep
      refine ⟨hd.trans h.dfeatures, ?_⟩
      obtain hwaiting | hready := h.stage
      · exact hwaiting.stepMaster h.dfeatures hstep
      · exact absurd hready.master hbefore
  | slave =>
      obtain ⟨hd, -, -⟩ := StartupSystem.stepSlave_frame hstep
      refine ⟨hd.trans h.dfeatures, ?_⟩
      obtain hwaiting | hready := h.stage
      · obtain rfl := hwaiting.stepSlave hstep
        exact .inl hwaiting
      · exact .inr (hready.stepSlave h.dfeatures hstep)
  | rpmsg action =>
      obtain ⟨sys, hsys, hrest⟩ := Option.bind_eq_some_iff.mp hstep
      obtain rfl := Option.some.inj hrest
      refine ⟨h.dfeatures, ?_⟩
      obtain hwaiting | hready := h.stage
      · -- before the master is done, neither device is in use
        have hslave : t.slave ≠ .done := by
          rw [hwaiting.slave]
          exact SlavePc.noConfusion
        have hrole := StartupSystem.eq_master_of_initialised hallowed.1 hslave
        have hmaster : t.Initialised .master := hrole ▸ hallowed.1
        exact absurd hmaster hwaiting.master
      · exact .inr (hready.stepRpmsg hallowed.1 hallowed.2 hsys)

section Runs

variable {dfeatures gfeatures : Nat} {sys : RpmsgSystem}

theorem StartupSystem.inv_start (hstatus : sys.status &&& VIRTIO_CONFIG_STATUS_DRIVER_OK = 0) :
    (StartupSystem.start dfeatures gfeatures sys).Inv cfg
      (StartupSystem.start dfeatures gfeatures sys) :=
  ⟨rfl, .inl ⟨MasterPc.noConfusion, hstatus, rfl, rfl, rfl⟩⟩

theorem StartupSystem.Reaches.inv (hstatus : sys.status &&& VIRTIO_CONFIG_STATUS_DRIVER_OK = 0)
    (ht : (StartupSystem.start dfeatures gfeatures sys).Reaches cfg t) :
    (StartupSystem.start dfeatures gfeatures sys).Inv cfg t :=
  Run.Reachable.invariant ht (StartupSystem.inv_start hstatus)
    fun _ _ _ h hallowed hstep => h.step hallowed hstep

/-- However the two sides take turns, the slave does not read the features or touch a ring before the
master has filled its receive ring and set the status, exactly when the status byte does not start
out with `DRIVER_OK` set and `NEEDS_RESET` clear. -/
theorem slave_waits_iff (cfg : StartupConfig) (dfeatures gfeatures : Nat) (sys : RpmsgSystem) :
    (∀ t, (StartupSystem.start dfeatures gfeatures sys).Reaches cfg t → t.slave.Waited →
        t.master = .done) ↔
      ¬ ReadyStatus sys.status := by
  constructor
  · intro hall hstatus
    let waited : StartupSystem :=
      { StartupSystem.start dfeatures gfeatures sys with slave := .rpmsgWait }
    have hfirst : Run.Reachable StartupSystem.Allowed (StartupSystem.step cfg) _ waited :=
      .next .slave .start trivial (StartupSystem.rprocWait_leaves cfg rfl hstatus.1)
    have hreach : Run.Reachable StartupSystem.Allowed (StartupSystem.step cfg) _
        { waited with slave := .getFeatures } :=
      .next .slave hfirst trivial (StartupSystem.rpmsgWait_leaves cfg rfl hstatus.1 hstatus.2)
    exact absurd (hall _ hreach trivial) MasterPc.noConfusion
  · intro hstatus t ht hwaited
    have hbarrier : t.Barrier := Run.Reachable.invariant ht
      ⟨fun hready => absurd hready hstatus, False.elim⟩ fun _ _ _ h _ hstep => h.step hstep
    exact hbarrier.slave hwaited

/-- Once both sides are up, the devices are in a state that they reach from the two initialisations
done one after the other, with the features the slave offers: nothing a side does while the other
initialises its device makes a difference. -/
theorem startup_refines (cfg : StartupConfig) (dfeatures gfeatures : Nat) {sys : RpmsgSystem}
    (hstatus : sys.status &&& VIRTIO_CONFIG_STATUS_DRIVER_OK = 0) {t : StartupSystem}
    (ht : (StartupSystem.start dfeatures gfeatures sys).Reaches cfg t) (hslave : t.slave = .done) :
    ∃ s₀, rpmsgInitVdev cfg.num0 cfg.num1 dfeatures dfeatures cfg.masterIo cfg.slaveIo sys.shpool
        sys.shm = .ok s₀ ∧
      Run.Reachable RpmsgSystem.Ready RpmsgSystem.step s₀ t.sys := by
  obtain hwaiting | hready := (StartupSystem.Reaches.inv hstatus ht).stage
  · rw [hwaiting.slave] at hslave
    cases hslave
  · obtain ⟨s₀, hinit, hrun⟩ := hready.run
    rw [hslave] at hrun
    exact ⟨s₀, hinit, hrun⟩

def RpmsgConfig.startup (cfg : RpmsgConfig) : StartupConfig :=
  ⟨cfg.num0, cfg.num1, cfg.masterIo, cfg.slaveIo⟩

/-- Rings, devices and features that mean nothing yet, over a pool of a config. -/
def RpmsgConfig.blank (cfg : RpmsgConfig) (status : Nat) : RpmsgSystem where
  vring0 := { Vring.zeroed 7 with avail := ⟨3, 4, fun _ => 5⟩ }
  vring1 := Vring.zeroed 0
  shm := fun _ => 7
  shpool := rpmsgVirtioInitShmPool cfg.base cfg.size
  status := status
  master := RpmsgDevice.create virtqueueAllocate virtqueueAllocate cfg.slaveIo
  slave := RpmsgDevice.create virtqueueAllocate virtqueueAllocate cfg.masterIo

/-- The master sends while the slave is between its two rings. -/
theorem startup_refines_sending :
    let cfg := RpmsgConfig.linear 0 0 1024 (by decide) (by decide) (by decide)
    ∃ s₀ s, rpmsgInitVdev cfg.num0 cfg.num1 1 1 cfg.masterIo cfg.slaveIo
        (rpmsgVirtioInitShmPool cfg.base cfg.size) (fun _ => 7) = .ok s₀ ∧
      Run.Reachable RpmsgSystem.Ready RpmsgSystem.step s₀ s ∧
      s.slave.received = [⟨1, 2, 1, [7]⟩] := by
  intro cfg
  let send (steps : Nat) : List StartupAction :=
    List.replicate steps (.rpmsg (.stepSend .master 0))
  obtain ⟨t, ht, hvalue⟩ := Run.exists_reachable StartupSystem.Allowed
    (StartupSystem.step cfg.startup) (StartupSystem.start 1 0 (cfg.blank 0))
    ([.slave] ++ List.replicate 13 .master ++ List.replicate 5 .slave ++
      [.rpmsg (.send .master ⟨1, 2, fun _ => 7, 1, false, 0⟩)] ++ send 3 ++ [.slave] ++ send 2 ++
      [.slave] ++ send 1 ++ [.rpmsg (.rxCallback .slave)])
    (fun t => (t.slave.isDone, t.sys.slave.received)) (true, [⟨1, 2, 1, [7]⟩]) (by decide +kernel)
  obtain ⟨hdone, hreceived⟩ := Prod.mk.inj hvalue
  obtain ⟨s₀, hinit, hrun⟩ := startup_refines cfg.startup 1 0 (Nat.zero_and _) ht (t.slave.isDone_iff.mp hdone)
  exact ⟨s₀, t.sys, hinit, hrun, hreceived⟩

end Runs

end OpenAmp
