import OpenAmp.Proof.StartupSystem

/-!
# Whether the two devices ever come up

Each step of the master's initialisation brings it closer to its end, and once it is there each step of
the slave does the same for the slave, as long as nobody clears the status byte. A slave that finds a
reset requested clears it, and this write can come after the one it waits for.
-/

namespace OpenAmp

variable {cfg : StartupConfig} {start t t' : StartupSystem}

/-- How many steps of its initialisation the master has left at most. -/
def MasterPc.left (num0 : Nat) : MasterPc → Nat
  | .createVdev => num0 + 12
  | .negotiateFeatures _ => num0 + 11
  | .setFeatures _ => num0 + 10
  | .getFeatures => num0 + 9
  | .getDfeatures _ => num0 + 8
  | .checkPool _ => num0 + 7
  | .clearVring0 _ => num0 + 6
  | .createVq0 _ => num0 + 5
  | .clearVring1 _ _ => num0 + 4
  | .createVq1 _ _ => num0 + 3
  | .disableCb _ _ => num0 + 2
  | .fill _ left => left + 1
  | .done | .failed _ => 0

/-- The same for the slave once the master is done and no reset is requested. -/
def SlavePc.left : SlavePc → Nat
  | .rprocWait => 7
  | .rpmsgWait => 6
  | .clearStatus | .getFeatures => 5
  | .getDfeatures _ => 4
  | .createVq0 _ => 3
  | .createVq1 _ _ => 2
  | .disableCb _ _ => 1
  | .done => 0

/-- A master that will not fail takes a step and gets closer to its end. -/
theorem StartupSystem.MasterOk.progress (h : start.MasterOk cfg t)
    (hd : t.dfeatures = start.dfeatures) (hmaster : t.master ≠ .done)
    {result : Vring × Vring × RpmsgDevice × RpmsgVirtioShmPool × (Nat → UInt8)}
    (hresult : start.masterResult cfg = .ok result) :
    ∃ t', t.stepMaster cfg = some t' ∧ start.MasterOk cfg t' ∧ t'.slave = t.slave ∧
      t'.dfeatures = start.dfeatures ∧ t'.master.left cfg.num0 < t.master.left cfg.num0 := by
  suffices hnext : ∃ t', t.stepMaster cfg = some t' ∧
      t'.master.left cfg.num0 < t.master.left cfg.num0 by
    obtain ⟨t', hstep, hlt⟩ := hnext
    obtain ⟨hd', hslave, -⟩ := StartupSystem.stepMaster_frame hstep
    exact ⟨t', hstep, h.step hd hstep, hslave, hd'.trans hd, hlt⟩
  obtain ⟨dfeatures, gfeatures, sys, master, slave⟩ := t
  cases master with
  | done => exact absurd rfl hmaster
  | failed status =>
      have hfailed : start.masterResult cfg = .error status := h
      rw [hfailed] at hresult
      cases hresult
  | checkPool features =>
      unfold StartupSystem.stepMaster
      dsimp only
      split_ifs
      · exact ⟨_, rfl, Nat.succ_pos _⟩
      · exact ⟨_, rfl, Nat.lt_succ_self _⟩
  | disableCb rvq svq =>
      refine ⟨_, rfl, ?_⟩
      have hrvq : (cfg.createVq0 start.dfeatures).2 = rvq := congrArg Prod.snd h.2.2.1
      have hentries : rvq.vqNentries = cfg.num0 := by
        rw [← hrvq]
        rfl
      change rvq.vqNentries + 1 < cfg.num0 + 2
      omega
  | fill device left =>
      cases left with
      | zero => exact ⟨_, rfl, Nat.succ_pos _⟩
      | succ left =>
          refine ⟨_, rfl, ?_⟩
          unfold StartupSystem.fillRound
          split
          · exact Nat.succ_pos _
          · exact Nat.lt_succ_self _
  | _ => exact ⟨_, rfl, Nat.lt_succ_self _⟩

theorem StartupSystem.Ready.progress (h : start.Ready cfg t) (hslave : t.slave ≠ .done) :
    ∃ t', t.stepSlave cfg = some t' ∧ t'.slave.left < t.slave.left := by
  have hready : t.sys.status &&& VIRTIO_CONFIG_STATUS_DRIVER_OK ≠ 0 := by
    rw [h.status]
    decide
  have hreset : t.sys.status &&& VIRTIO_CONFIG_STATUS_NEEDS_RESET = 0 := by
    rw [h.status]
    decide
  have hok := h.slaveOk
  cases hpc : t.slave with
  | rprocWait =>
      exact ⟨_, StartupSystem.rprocWait_leaves cfg hpc hready, Nat.lt_succ_self _⟩
  | rpmsgWait =>
      exact ⟨_, StartupSystem.rpmsgWait_leaves cfg hpc hready hreset, Nat.lt_succ_self _⟩
  | clearStatus =>
      rw [hpc] at hok
      exact hok.elim
  | done => exact absurd hpc hslave
  | _ =>
      rw [StartupSystem.stepSlave, hpc]
      exact ⟨_, rfl, Nat.lt_succ_self _⟩

/-- Both devices are in use. -/
def StartupSystem.Up (t : StartupSystem) : Prop := t.master = .done ∧ t.slave = .done

/-- A step of an initialisation. -/
def StartupAction.Initialises : StartupAction → Prop
  | .master | .slave => True
  | .rpmsg _ => False

theorem StartupAction.Initialises.allowed {action : StartupAction} (h : action.Initialises)
    (t : StartupSystem) : t.Allowed action := by
  cases action with
  | master | slave => trivial
  | rpmsg action => exact h.elim

/-- Both sides can get to the end, by a bounded number of steps of their initialisations alone. -/
def StartupSystem.Completes (cfg : StartupConfig) (t : StartupSystem) : Prop :=
  ∃ actions t', actions.length ≤ cfg.num0 + 19 ∧
    (∀ action ∈ actions, StartupAction.Initialises action) ∧
    Run.exec (StartupSystem.step cfg) t actions = some t' ∧ t'.Up

theorem StartupSystem.MasterOk.left_le (h : start.MasterOk cfg t) :
    t.master.left cfg.num0 ≤ cfg.num0 + 12 := by
  obtain ⟨dfeatures, gfeatures, sys, master, slave⟩ := t
  cases master with
  | fill device left => exact Nat.add_le_add h.2.2.2 (by decide)
  | done | failed _ => exact Nat.zero_le _
  | _ => exact Nat.add_le_add_left (by decide) _

theorem SlavePc.left_le (pc : SlavePc) : pc.left ≤ 7 := by
  cases pc <;> exact Nat.le_of_ble_eq_true rfl

theorem StartupSystem.Inv.completes (h : start.Inv cfg t)
    {result : Vring × Vring × RpmsgDevice × RpmsgVirtioShmPool × (Nat → UInt8)}
    (hresult : start.masterResult cfg = .ok result) : t.Completes cfg := by
  have hrun := Run.exists_exec_of_measure (StartupSystem.step cfg) (start.Inv cfg)
    StartupSystem.Up StartupAction.Initialises (fun t => t.master.left cfg.num0 + t.slave.left) ?_ h
  · obtain ⟨actions, t', hlen, hkind, hexec, -, hup⟩ := hrun
    refine ⟨actions, t', ?_, hkind, hexec, hup⟩
    have hslave := t.slave.left_le
    have hmaster : t.master.left cfg.num0 ≤ cfg.num0 + 12 := by
      obtain hwaiting | hready := h.stage
      · exact hwaiting.masterOk.left_le
      · rw [hready.master]
        exact Nat.zero_le _
    omega
  · intro t h hup
    obtain hwaiting | hready := h.stage
    · obtain ⟨t', hstep, -, hslave, -, hlt⟩ :=
        hwaiting.masterOk.progress h.dfeatures hwaiting.master hresult
      have hallowed : t.Allowed .master := trivial
      refine ⟨.master, t', trivial, hstep, h.step hallowed hstep, ?_⟩
      rw [hslave]
      omega
    · have hslave : t.slave ≠ .done := fun hdone => hup ⟨hready.master, hdone⟩
      obtain ⟨t', hstep, hlt⟩ := hready.progress hslave
      have hallowed : t.Allowed .slave := trivial
      refine ⟨.slave, t', trivial, hstep, h.step hallowed hstep, ?_⟩
      rw [(StartupSystem.stepSlave_frame hstep).2.2]
      omega

/-- The slave has wiped the status of a master that is done, and waits for it to be set. -/
def StartupSystem.Lost (t : StartupSystem) : Prop :=
  t.master = .done ∧ t.slave = .rpmsgWait ∧ t.sys.status = 0

theorem StartupSystem.Lost.step (h : t.Lost) {action : StartupAction}
    (hstep : t.step cfg action = some t') : t'.Lost := by
  obtain ⟨hmaster, hslave, hstatus⟩ := h
  cases action with
  | master =>
      rw [StartupSystem.step, StartupSystem.stepMaster, hmaster] at hstep
      cases hstep
  | slave =>
      rw [StartupSystem.rpmsgWait_stays cfg hslave hstatus] at hstep
      obtain rfl := Option.some.inj hstep
      exact ⟨hmaster, hslave, hstatus⟩
  | rpmsg action =>
      obtain ⟨sys, hsys, hrest⟩ := Option.bind_eq_some_iff.mp hstep
      obtain rfl := Option.some.inj hrest
      exact ⟨hmaster, hslave, (RpmsgSystem.step_status hsys).trans hstatus⟩

/-- The slave reads a status that asks for a reset, and clears it after the master has set it. -/
theorem exists_lost {dfeatures gfeatures : Nat} {sys : RpmsgSystem}
    (hready : sys.status &&& VIRTIO_CONFIG_STATUS_DRIVER_OK ≠ 0)
    (hreset : sys.status &&& VIRTIO_CONFIG_STATUS_NEEDS_RESET ≠ 0)
    {result : Vring × Vring × RpmsgDevice × RpmsgVirtioShmPool × (Nat → UInt8)}
    (hresult : (StartupSystem.start dfeatures gfeatures sys).masterResult cfg = .ok result) :
    ∃ t, (StartupSystem.start dfeatures gfeatures sys).Reaches cfg t ∧ t.Lost := by
  set start := StartupSystem.start dfeatures gfeatures sys
  let reading (pc : SlavePc) : StartupSystem := { start with slave := pc }
  have hwait : start.Reaches cfg (reading .rpmsgWait) :=
    .next .slave .start trivial (StartupSystem.rprocWait_leaves cfg rfl hready)
  have hclear : start.Reaches cfg (reading .clearStatus) :=
    .next .slave hwait trivial (StartupSystem.rpmsgWait_resets cfg rfl hreset)
  -- the master runs to its end while the slave is about to write
  let held (t : StartupSystem) : Prop :=
    t.dfeatures = start.dfeatures ∧ t.slave = .clearStatus ∧ start.MasterOk cfg t
  have hheld : held (reading .clearStatus) := ⟨rfl, rfl, rfl, rfl⟩
  have hrun := Run.exists_exec_of_measure (StartupSystem.step cfg) held
    (fun t => t.master = .done) (· = .master) (fun t => t.master.left cfg.num0) (fun t hheld hmaster => ?_) hheld
  · obtain ⟨actions, t, -, hkind, hexec, ⟨-, hslave, -⟩, hmaster⟩ := hrun
    have hreach : start.Reaches cfg t := Run.Reachable.exec hclear
      (fun action haction t => by rw [hkind action haction]; trivial) hexec
    refine ⟨{ t with sys := { t.sys with status := 0 }, slave := .rpmsgWait }, ?_, hmaster, rfl, rfl⟩
    refine .next .slave hreach trivial ?_
    rw [StartupSystem.step, StartupSystem.stepSlave, hslave]
  · obtain ⟨hd, hslave, hok⟩ := hheld
    obtain ⟨t', hstep, hok', hslave', hd', hlt⟩ := hok.progress hd hmaster hresult
    exact ⟨.master, t', rfl, hstep, ⟨hd', hslave'.trans hslave, hok'⟩, hlt⟩

/-- What holds in every run in which only a master that is done lets the slave through. -/
structure StartupSystem.Attempt (cfg : StartupConfig) (start t : StartupSystem) : Prop where
  dfeatures : t.dfeatures = start.dfeatures
  barrier : t.Barrier
  masterOk : t.master ≠ .done → start.MasterOk cfg t
  result : t.master = .done → ∃ result, start.masterResult cfg = .ok result

theorem StartupSystem.MasterOk.setStatus (h : start.MasterOk cfg t) (status : Nat) (slave : SlavePc) :
    start.MasterOk cfg { t with sys := { t.sys with status }, slave } := by
  obtain ⟨dfeatures, gfeatures, sys, master, slave'⟩ := t
  cases master with
  | createVdev | negotiateFeatures _ | setFeatures _ | failed _ => exact h
  | getFeatures | getDfeatures _ | checkPool _ => exact ⟨h.pool, h.gfeatures, h.features⟩
  | fill device left =>
      obtain ⟨hgfeatures, hresult, hidle, hleft⟩ := h
      exact ⟨hgfeatures, hresult, ⟨hidle.used, hidle.receives, hidle.num0, hidle.num1⟩, hleft⟩
  | done =>
      obtain ⟨hgfeatures, hresult, hidle⟩ := h
      exact ⟨hgfeatures, hresult, hidle.used, hidle.receives, hidle.num0, hidle.num1⟩
  | _ =>
      obtain ⟨hnegotiated, hrest⟩ := h
      exact ⟨⟨hnegotiated.pool, hnegotiated.gfeatures, hnegotiated.features⟩, hrest⟩

/-- A slave that still waits touches nothing but the status. -/
theorem StartupSystem.MasterOk.stepSlave (h : start.MasterOk cfg t) (hslave : ¬ t.slave.Waited)
    (hstep : t.stepSlave cfg = some t') : start.MasterOk cfg t' := by
  unfold StartupSystem.stepSlave at hstep
  cases hpc : t.slave with
  | rprocWait | rpmsgWait =>
      rw [hpc] at hstep
      dsimp only at hstep
      split_ifs at hstep
      all_goals
        obtain rfl := Option.some.inj hstep
        exact h.setStatus t.sys.status _
  | clearStatus =>
      rw [hpc] at hstep
      obtain rfl := Option.some.inj hstep
      exact h.setStatus 0 _
  | _ =>
      rw [hpc] at hslave
      exact absurd trivial hslave

theorem StartupSystem.Attempt.step (h : start.Attempt cfg t) {action : StartupAction}
    (hallowed : t.Allowed action) (hstep : t.step cfg action = some t') : start.Attempt cfg t' := by
  have hbarrier := h.barrier.step hstep
  cases action with
  | master =>
      obtain ⟨hd, -, hbefore, -⟩ := StartupSystem.stepMaster_frame hstep
      have hok := (h.masterOk hbefore).step h.dfeatures hstep
      refine ⟨hd.trans h.dfeatures, hbarrier, fun _ => hok, fun hdone => ?_⟩
      rw [StartupSystem.MasterOk, hdone] at hok
      exact ⟨_, hok.2.1⟩
  | slave =>
      obtain ⟨hd, -, hmaster⟩ := StartupSystem.stepSlave_frame hstep
      refine ⟨hd.trans h.dfeatures, hbarrier, fun hbefore => ?_, hmaster ▸ h.result⟩
      rw [hmaster] at hbefore
      exact (h.masterOk hbefore).stepSlave (fun hwaited => hbefore (h.barrier.slave hwaited)) hstep
  | rpmsg action =>
      obtain ⟨sys, hsys, hrest⟩ := Option.bind_eq_some_iff.mp hstep
      obtain rfl := Option.some.inj hrest
      refine ⟨h.dfeatures, hbarrier, fun hbefore => ?_, h.result⟩
      have hslave : t.slave ≠ .done := fun hdone =>
        hbefore (h.barrier.slave (hdone ▸ trivial))
      have hrole := StartupSystem.eq_master_of_initialised hallowed.1 hslave
      have hmaster : t.Initialised .master := hrole ▸ hallowed.1
      exact absurd hmaster hbefore

theorem masterResult_ok_iff (cfg : RpmsgConfig) (t : StartupSystem)
    (hpool : t.sys.shpool = rpmsgVirtioInitShmPool cfg.base cfg.size) :
    (∃ result, t.masterResult cfg.startup = .ok result) ↔ cfg.num0 ≤ cfg.buffers := by
  have hspec := rpmsgInitVdevMaster_spec cfg t.dfeatures 0 t.sys.shm
  have hresult : t.masterResult cfg.startup =
      rpmsgInitVdevMaster cfg.num0 cfg.num1 t.dfeatures cfg.masterIo
        (rpmsgVirtioInitShmPool cfg.base cfg.size) t.sys.shm := by
    rw [← hpool]
    rfl
  split_ifs at hspec with hbuffers
  · obtain ⟨vr0, vr1, rvq, shm', view0, hinit, -⟩ := hspec
    exact iff_of_true ⟨_, hresult.trans hinit⟩ hbuffers
  · refine iff_of_false ?_ hbuffers
    rintro ⟨result, hok⟩
    rw [hresult, hspec] at hok
    cases hok

/-- With a status byte that does not let the slave through at once: whatever the two sides have done
so far, they can still come up, within a number of steps known beforehand and without a message being
sent, exactly when the byte starts out without `DRIVER_OK` and the pool fills the receive ring. A byte
that starts out with `DRIVER_OK` and `NEEDS_RESET` may be cleared just after the master has set it, and
then the slave waits for ever. -/
theorem startup_completes_iff (cfg : RpmsgConfig) (dfeatures gfeatures : Nat) (sys : RpmsgSystem)
    (hstatus : ¬ ReadyStatus sys.status)
    (hpool : sys.shpool = rpmsgVirtioInitShmPool cfg.base cfg.size) :
    (∀ t, (StartupSystem.start dfeatures gfeatures sys).Reaches cfg.startup t →
        t.Completes cfg.startup) ↔
      sys.status &&& VIRTIO_CONFIG_STATUS_DRIVER_OK = 0 ∧ cfg.num0 ≤ cfg.buffers := by
  have hmaster := masterResult_ok_iff cfg (StartupSystem.start dfeatures gfeatures sys) hpool
  constructor
  · intro hall
    have hbuffers : cfg.num0 ≤ cfg.buffers := by
      obtain ⟨actions, t, -, hkind, hexec, hdone, -⟩ := hall _ .start
      have ht := Run.Reachable.exec .start (fun action haction => (hkind action haction).allowed) hexec
      have hattempt : (StartupSystem.start dfeatures gfeatures sys).Attempt cfg.startup t :=
        Run.Reachable.invariant ht
          ⟨rfl, ⟨fun hready => absurd hready hstatus, False.elim⟩, fun _ => ⟨rfl, rfl⟩,
            MasterPc.noConfusion⟩
          fun _ _ _ h hallowed hstep => h.step hallowed hstep
      exact hmaster.mp (hattempt.result hdone)
    refine ⟨by_contra fun hready => ?_, hbuffers⟩
    have hreset : sys.status &&& VIRTIO_CONFIG_STATUS_NEEDS_RESET ≠ 0 :=
      fun hreset => hstatus ⟨hready, hreset⟩
    obtain ⟨result, hresult⟩ := hmaster.mpr hbuffers
    obtain ⟨lost, hlost, hwaits⟩ := exists_lost hready hreset hresult
    obtain ⟨actions, t, -, -, hexec, -, hslave⟩ := hall lost hlost
    have hstays : t.Lost := Run.exec_invariant hexec hwaits fun _ _ _ _ h hstep => h.step hstep
    rw [hstays.2.1] at hslave
    cases hslave
  · rintro ⟨hclear, hbuffers⟩ t ht
    obtain ⟨result, hresult⟩ := hmaster.mpr hbuffers
    exact (StartupSystem.Reaches.inv hclear ht).completes hresult

/-- A pool of two buffers, with a clear status byte and with a stale one. -/
theorem startup_completes_two_buffers :
    let cfg := RpmsgConfig.linear 0 0 1024 (by decide) (by decide) (by decide)
    (StartupSystem.start 1 0 (cfg.blank 0)).Completes cfg.startup ∧
      ¬ ∀ t, (StartupSystem.start 1 0 (cfg.blank 0x44)).Reaches cfg.startup t →
        t.Completes cfg.startup := by
  intro cfg
  have hclear := startup_completes_iff cfg 1 0 (cfg.blank 0) (fun h => h.1 (Nat.zero_and _)) rfl
  have hstale := startup_completes_iff cfg 1 0 (cfg.blank 0x44) (fun h => absurd h.2 (by decide)) rfl
  refine ⟨hclear.mpr ⟨Nat.zero_and _, by decide⟩ _ .start, fun hall => ?_⟩
  exact absurd (hstale.mp hall).1 (by decide)

end OpenAmp
