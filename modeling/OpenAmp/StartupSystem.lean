import OpenAmp.RpmsgSystem

/-!
# Bringing up the two devices

A master and a slave from `remoteproc_create_virtio` to the end of `rpmsg_init_vdev`, and from then on
in use. What they share before the rings are there is the vdev entry of the resource table: its two
feature words and its status byte. The slave polls the byte, the master sets it when its rings are
filled, and between any two steps of one side the other side may take any number of its own. The
rings, the status byte and the memory hold anything at the start. Statements that touch nothing shared
are part of the step before them.
-/

namespace OpenAmp

def VIRTIO_CONFIG_STATUS_NEEDS_RESET : Nat := 0x40

/-- What the two applications pass to `rpmsg_init_vdev` besides the pool. -/
structure StartupConfig where
  num0 : Nat
  num1 : Nat
  masterIo : ShmIo
  slaveIo : ShmIo

/-- Where the master stands. -/
inductive MasterPc where
  -- in `rproc_virtio_create_vdev`, about to read the features it will ask for
  | createVdev
  -- in `rproc_virtio_negotiate_features`, about to read `dfeatures`
  | negotiateFeatures (features : Nat)
  | setFeatures (features : Nat)
  -- in `rproc_virtio_get_features`, called by `rpmsg_init_vdev`
  | getFeatures
  | getDfeatures (gfeatures : Nat)
  -- about to look at the size of the pool
  | checkPool (features : Nat)
  -- in `virtio_create_virtqueues`: clear and create the vrings one after the other
  | clearVring0 (features : Nat)
  | createVq0 (features : Nat)
  | clearVring1 (features : Nat) (rvq : Virtqueue)
  | createVq1 (features : Nat) (rvq : Virtqueue)
  | disableCb (rvq svq : Virtqueue)
  -- in the loop that fills the receive ring, with so many rounds to go
  | fill (device : RpmsgDevice) (left : Nat)
  | done
  | failed (status : Int)

/-- Where the slave stands. -/
inductive SlavePc where
  -- in `rproc_virtio_wait_remote_ready`, called by `remoteproc_create_virtio`
  | rprocWait
  -- in `rpmsg_virtio_wait_remote_ready`, called by `rpmsg_init_vdev`
  | rpmsgWait
  -- there, about to clear the status
  | clearStatus
  | getFeatures
  | getDfeatures (gfeatures : Nat)
  | createVq0 (features : Nat)
  | createVq1 (features : Nat) (svq : Virtqueue)
  | disableCb (rvq svq : Virtqueue)
  | done

/-- The slave has left the loops in which it waits for the master. -/
def SlavePc.Waited : SlavePc → Prop
  | .rprocWait | .rpmsgWait | .clearStatus => False
  | .getFeatures | .getDfeatures _ | .createVq0 _ | .createVq1 _ _ | .disableCb _ _ | .done => True

/-- `sys.status` is the status byte of the vdev entry. The devices in `sys` mean something from the
moment on at which their side is done. -/
structure StartupSystem where
  dfeatures : Nat
  gfeatures : Nat
  sys : RpmsgSystem
  master : MasterPc
  slave : SlavePc

def StartupSystem.start (dfeatures gfeatures : Nat) (sys : RpmsgSystem) : StartupSystem where
  dfeatures := dfeatures
  gfeatures := gfeatures
  sys := sys
  master := .createVdev
  slave := .rprocWait

/-! ### The master -/

/-- One round of the loop that fills the receive ring. -/
def StartupSystem.fillRound (cfg : StartupConfig) (t : StartupSystem) (device : RpmsgDevice)
    (left : Nat) : StartupSystem :=
  match rpmsgInitBuffers cfg.masterIo 1 t.sys.vring0 device.rvq t.sys.shpool t.sys.shm with
  | .error status => { t with master := .failed status }
  | .ok (vring0, rvq, shpool, shm) =>
      { t with
        sys := { t.sys with vring0, shpool, shm }
        master := .fill { device with rvq } left }

def StartupSystem.stepMaster (cfg : StartupConfig) (t : StartupSystem) : Option StartupSystem :=
  match t.master with
  | .createVdev => some { t with master := .negotiateFeatures t.dfeatures }
  | .negotiateFeatures features => some { t with master := .setFeatures (t.dfeatures &&& features) }
  | .setFeatures features => some { t with gfeatures := features, master := .getFeatures }
  | .getFeatures => some { t with master := .getDfeatures t.gfeatures }
  | .getDfeatures gfeatures => some { t with master := .checkPool (t.dfeatures &&& gfeatures) }
  | .checkPool features =>
      if t.sys.shpool.size = 0 then some { t with master := .failed RPMSG_ERR_NO_BUFF }
      else some { t with master := .clearVring0 features }
  | .clearVring0 features =>
      some { t with
        sys := { t.sys with vring0 := Vring.zeroed cfg.num0 }
        master := .createVq0 features }
  | .createVq0 features =>
      let (vring0, rvq) :=
        virtqueueCreate .master features 0 cfg.num0 true t.sys.vring0 virtqueueAllocate
      some { t with sys := { t.sys with vring0 }, master := .clearVring1 features rvq }
  | .clearVring1 features rvq =>
      some { t with
        sys := { t.sys with vring1 := Vring.zeroed cfg.num1 }
        master := .createVq1 features rvq }
  | .createVq1 features rvq =>
      let (vring1, svq) :=
        virtqueueCreate .master features 1 cfg.num1 true t.sys.vring1 virtqueueAllocate
      some { t with sys := { t.sys with vring1 }, master := .disableCb rvq svq }
  | .disableCb rvq svq =>
      let (vring1, svq) := virtqueueDisableCb t.sys.vring1 svq
      let device := RpmsgDevice.create rvq svq cfg.masterIo
      some { t with
        sys := { t.sys with vring1 }
        master := .fill device device.rvq.vqNentries }
  | .fill device (left + 1) => some (t.fillRound cfg device left)
  | .fill device 0 =>
      some { t with
        sys := { t.sys with master := device, status := VIRTIO_CONFIG_STATUS_DRIVER_OK }
        master := .done }
  | .done | .failed _ => none

/-! ### The slave -/

def StartupSystem.stepSlave (cfg : StartupConfig) (t : StartupSystem) : Option StartupSystem :=
  match t.slave with
  | .rprocWait =>
      if t.sys.status &&& VIRTIO_CONFIG_STATUS_DRIVER_OK ≠ 0 then
        some { t with slave := .rpmsgWait }
      else some t
  | .rpmsgWait =>
      if t.sys.status &&& VIRTIO_CONFIG_STATUS_NEEDS_RESET ≠ 0 then
        some { t with slave := .clearStatus }
      else if t.sys.status &&& VIRTIO_CONFIG_STATUS_DRIVER_OK ≠ 0 then
        some { t with slave := .getFeatures }
      else some t
  | .clearStatus => some { t with sys := { t.sys with status := 0 }, slave := .rpmsgWait }
  | .getFeatures => some { t with slave := .getDfeatures t.gfeatures }
  | .getDfeatures gfeatures => some { t with slave := .createVq0 (t.dfeatures &&& gfeatures) }
  | .createVq0 features =>
      let (vring0, svq) :=
        virtqueueCreate .slave features 0 cfg.num0 true t.sys.vring0 virtqueueAllocate
      some { t with sys := { t.sys with vring0 }, slave := .createVq1 features svq }
  | .createVq1 features svq =>
      let (vring1, rvq) :=
        virtqueueCreate .slave features 1 cfg.num1 true t.sys.vring1 virtqueueAllocate
      some { t with sys := { t.sys with vring1 }, slave := .disableCb rvq svq }
  | .disableCb rvq svq =>
      let (vring0, svq) := virtqueueDisableCb t.sys.vring0 svq
      some { t with
        sys := { t.sys with vring0, slave := RpmsgDevice.create rvq svq cfg.slaveIo }
        slave := .done }
  | .done => none

/-! ### Runs -/

inductive StartupAction where
  -- a step of the initialisation of a side
  | master
  | slave
  -- a step of a device in use
  | rpmsg (action : RpmsgAction)

/-- The side whose device takes a step. -/
def RpmsgAction.role : RpmsgAction → Role
  | .send role _ | .stepSend role _ | .rxCallback role | .stepReceive role _ => role

def StartupSystem.step (cfg : StartupConfig) (t : StartupSystem) :
    StartupAction → Option StartupSystem
  | .master => t.stepMaster cfg
  | .slave => t.stepSlave cfg
  | .rpmsg action => do some { t with sys := (← t.sys.step action) }

/-- The initialisation of a side has succeeded. -/
def StartupSystem.Initialised (t : StartupSystem) : Role → Prop
  | .master => t.master = .done
  | .slave => t.slave = .done

def MasterPc.isDone : MasterPc → Bool
  | .done => true
  | _ => false

def SlavePc.isDone : SlavePc → Bool
  | .done => true
  | _ => false

theorem MasterPc.isDone_iff (pc : MasterPc) : pc.isDone = true ↔ pc = .done := by
  cases pc <;> simp [MasterPc.isDone]

theorem SlavePc.isDone_iff (pc : SlavePc) : pc.isDone = true ↔ pc = .done := by
  cases pc <;> simp [SlavePc.isDone]

instance StartupSystem.decidableInitialised (t : StartupSystem) (role : Role) :
    Decidable (t.Initialised role) :=
  match role with
  | .master => decidable_of_iff _ t.master.isDone_iff
  | .slave => decidable_of_iff _ t.slave.isDone_iff

/-- A device is used once it is initialised. -/
def StartupSystem.Allowed (t : StartupSystem) : StartupAction → Prop
  | .master | .slave => True
  | .rpmsg action => t.Initialised action.role ∧ t.sys.Ready action

instance StartupSystem.decidableAllowed (t : StartupSystem) (action : StartupAction) :
    Decidable (t.Allowed action) :=
  match action with
  | .master | .slave => .isTrue trivial
  | .rpmsg action => inferInstanceAs (Decidable (t.Initialised action.role ∧ t.sys.Ready action))

/-- Every state a run can reach from `t`. -/
def StartupSystem.Reaches (cfg : StartupConfig) (t : StartupSystem) : StartupSystem → Prop :=
  Run.Reachable StartupSystem.Allowed (StartupSystem.step cfg) t

end OpenAmp
