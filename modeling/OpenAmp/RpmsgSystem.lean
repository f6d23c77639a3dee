import OpenAmp.Library.Run
import OpenAmp.RpmsgVirtio

/-!
# A master and a slave exchanging messages

Both devices over two vrings and one pool of buffers: any number of sends and of receive callbacks
are under way on each side, and every step is one of theirs. The lock of a device keeps its own calls
apart; nothing keeps the two processors apart.
-/

namespace OpenAmp

/-- Where a call of `rpmsg_virtio_send_offchannel_raw` stands. -/
inductive SendPc where
  -- about to acquire the lock, with so many retries left
  | loop (tickCount : Nat)
  -- the size has been tested; the lock is held
  | tested (tickCount : Nat) (availSize : Int)
  -- about to write the header
  | taken (buffer : RpmsgBuffer)
  -- about to write the payload
  | header (buffer : RpmsgBuffer)
  -- about to acquire the lock and enqueue
  | payload (buffer : RpmsgBuffer)
  -- about to kick; the lock is held
  | enqueued
deriving DecidableEq, Repr

structure Send where
  call : SendCall
  pc : SendPc

/-- The buffer a send owns: from taking it until it is enqueued. -/
def SendPc.buffer? : SendPc → Option RpmsgBuffer
  | .taken buffer | .header buffer | .payload buffer => some buffer
  | .loop _ | .tested _ _ | .enqueued => none

/-- Where a run of `rpmsg_virtio_rx_callback` stands. -/
inductive RxPc where
  -- the endpoint handles the message; `position` counts the messages this side took before it
  | handling (buffer : RpmsgBuffer) (position : Nat)
  -- the buffer has been returned; the lock is held
  | returned
deriving DecidableEq, Repr

/-- The buffer a receive callback owns: from taking it until it is returned. -/
def RxPc.buffer? : RxPc → Option RpmsgBuffer
  | .handling buffer _ => some buffer
  | .returned => none

structure RpmsgDevice where
  rvq : Virtqueue
  svq : Virtqueue
  shbufIo : ShmIo
  lock : Bool
  sends : List Send
  receives : List RxPc
  -- the messages enqueued, oldest first
  sent : List SendCall
  -- the messages taken, as they were read, oldest first
  received : List RpmsgMessage
  -- the sends that have returned, with their results
  results : List (SendCall × Int)

def RpmsgDevice.txBuffers (device : RpmsgDevice) : List RpmsgBuffer :=
  device.sends.filterMap fun send => send.pc.buffer?

def RpmsgDevice.rxBuffers (device : RpmsgDevice) : List RpmsgBuffer :=
  device.receives.filterMap RxPc.buffer?

/-- The bytes of the shared memory that a buffer in the hands of a call occupies. -/
def RpmsgBuffer.cells (io : ShmIo) (buffer : RpmsgBuffer) : List Nat :=
  (List.range RPMSG_BUFFER_SIZE).map fun i => io.cell (io.virtToOffset (buffer.addr + i))

structure RpmsgSystem where
  -- the receive ring of the master
  vring0 : Vring
  -- the receive ring of the slave
  vring1 : Vring
  shm : Nat → UInt8
  shpool : RpmsgVirtioShmPool
  -- the status byte of the virtio device
  status : Nat
  master : RpmsgDevice
  slave : RpmsgDevice

def RpmsgSystem.device (s : RpmsgSystem) : Role → RpmsgDevice
  | .master => s.master
  | .slave => s.slave

def RpmsgSystem.setDevice (s : RpmsgSystem) (device : RpmsgDevice) : Role → RpmsgSystem
  | .master => { s with master := device }
  | .slave => { s with slave := device }

def RpmsgSystem.sendRing (s : RpmsgSystem) : Role → Vring
  | .master => s.vring1
  | .slave => s.vring0

def RpmsgSystem.setSendRing (s : RpmsgSystem) (vring : Vring) : Role → RpmsgSystem
  | .master => { s with vring1 := vring }
  | .slave => { s with vring0 := vring }

def RpmsgSystem.receiveRing (s : RpmsgSystem) : Role → Vring
  | .master => s.vring0
  | .slave => s.vring1

def RpmsgSystem.setReceiveRing (s : RpmsgSystem) (vring : Vring) : Role → RpmsgSystem
  | .master => { s with vring0 := vring }
  | .slave => { s with vring1 := vring }

/-- The bytes each call under way owns, one list for each call that owns a buffer. -/
def RpmsgSystem.holdings (s : RpmsgSystem) : List (List Nat) :=
  [.master, .slave].flatMap fun role =>
    ((s.device role).txBuffers ++ (s.device role).rxBuffers).map
      (RpmsgBuffer.cells (s.device role).shbufIo)

/-! ### The steps of a send -/

def RpmsgDevice.setSend (device : RpmsgDevice) (i : Nat) (send : Send) : RpmsgDevice :=
  { device with sends := device.sends.set i send }

/-- The call returns. -/
def RpmsgDevice.finish (device : RpmsgDevice) (i : Nat) (call : SendCall) (result : Int) :
    RpmsgDevice :=
  { device with
    sends := device.sends.eraseIdx i
    results := device.results ++ [(call, result)] }

/-- Up to the first round of the loop. -/
def RpmsgSystem.startSend (s : RpmsgSystem) (role : Role) (call : SendCall) : RpmsgSystem :=
  let device := s.device role
  if s.status &&& VIRTIO_CONFIG_STATUS_DRIVER_OK = 0 then
    s.setDevice { device with results := device.results ++ [(call, RPMSG_ERR_DEV_STATE)] } role
  else
    let tickCount := if call.wait then RPMSG_TICK_COUNT / RPMSG_TICKS_PER_INTERVAL else 0
    s.setDevice { device with sends := device.sends ++ [⟨call, .loop tickCount⟩] } role

/-- Acquire the lock and test the size. -/
def RpmsgSystem.testSize (s : RpmsgSystem) (role : Role) (i : Nat) (call : SendCall)
    (tickCount : Nat) : RpmsgSystem :=
  let device := s.device role
  let (svq, availSize) := rpmsgVirtioGetBufferSize role (s.sendRing role) device.svq
  let device := { device with svq }
  if availSize ≠ 0 ∧ call.size > availSize then
    s.setDevice (device.finish i call RPMSG_ERR_BUFF_SIZE) role
  else
    s.setDevice ({ device with lock := true }.setSend i ⟨call, .tested tickCount availSize⟩) role

/-- Take a buffer, release the lock, and go on, retry or give up. -/
def RpmsgSystem.takeBuffer (s : RpmsgSystem) (role : Role) (i : Nat) (call : SendCall)
    (tickCount : Nat) (availSize : Int) : Option RpmsgSystem := do
  let device := s.device role
  let (vring, svq, shpool, buffer) ←
    rpmsgVirtioGetTxBuffer role (s.sendRing role) device.svq s.shpool
  let s := { s with shpool }.setSendRing vring role
  let device := { device with svq, lock := false }
  match buffer with
  | some buffer => some (s.setDevice (device.setSend i ⟨call, .taken buffer⟩) role)
  | none =>
      if tickCount = 0 then
        some (s.setDevice (device.finish i call RPMSG_ERR_NO_BUFF) role)
      else if availSize ≠ 0 then
        some (s.setDevice (device.finish i call RPMSG_ERR_BUFF_SIZE) role)
      else
        some (s.setDevice (device.setSend i ⟨call, .loop (tickCount - 1)⟩) role)

def RpmsgSystem.writeHeader (s : RpmsgSystem) (role : Role) (i : Nat) (call : SendCall)
    (buffer : RpmsgBuffer) : RpmsgSystem :=
  let device := s.device role
  let io := device.shbufIo
  { s with shm := metalIoBlockWrite io s.shm (io.virtToOffset buffer.addr) call.rpHdr }.setDevice
    (device.setSend i ⟨call, .header buffer⟩) role

/-- libmetal gives a block of negative length no meaning, so the step has no outcome then. -/
def RpmsgSystem.writePayload (s : RpmsgSystem) (role : Role) (i : Nat) (call : SendCall)
    (buffer : RpmsgBuffer) : Option RpmsgSystem :=
  let device := s.device role
  let io := device.shbufIo
  if call.size < 0 then
    none
  else
    some ({ s with
      shm := metalIoBlockWrite io s.shm (io.virtToOffset (buffer.addr + RPMSG_HDR_SIZE))
        call.payload }.setDevice
      (device.setSend i ⟨call, .payload buffer⟩) role)

/-- Acquire the lock and enqueue. A failure runs into an assertion that never returns. -/
def RpmsgSystem.enqueue (s : RpmsgSystem) (role : Role) (i : Nat) (call : SendCall)
    (buffer : RpmsgBuffer) : Option RpmsgSystem :=
  let device := s.device role
  let (vring, svq, status) := rpmsgVirtioEnqueueBuffer role (s.sendRing role) device.svq buffer
  if status ≠ VQUEUE_SUCCESS then
    none
  else
    some ((s.setSendRing vring role).setDevice
      ({ device with svq, lock := true, sent := device.sent ++ [call] }.setSend i
        ⟨call, .enqueued⟩) role)

/-- Kick, release the lock and return. -/
def RpmsgSystem.kick (s : RpmsgSystem) (role : Role) (i : Nat) (call : SendCall) : RpmsgSystem :=
  let device := s.device role
  let svq := (virtqueueKick (s.sendRing role) device.svq).1
  s.setDevice ({ device with svq, lock := false }.finish i call call.size) role

def RpmsgSystem.stepSend (s : RpmsgSystem) (role : Role) (i : Nat) : Option RpmsgSystem :=
  match (s.device role).sends[i]? with
  | none => none
  | some ⟨call, pc⟩ =>
      match pc with
      | .loop tickCount => some (s.testSize role i call tickCount)
      | .tested tickCount availSize => s.takeBuffer role i call tickCount availSize
      | .taken buffer => some (s.writeHeader role i call buffer)
      | .header buffer => s.writePayload role i call buffer
      | .payload buffer => s.enqueue role i call buffer
      | .enqueued => some (s.kick role i call)

/-! ### The steps of a receive callback -/

/-- What a device records of a buffer it has received. -/
def RpmsgDevice.receive (device : RpmsgDevice) (shm : Nat → UInt8) (buffer : RpmsgBuffer) :
    RpmsgDevice :=
  { device with received := device.received ++ [rpmsgRead device.shbufIo shm buffer.addr] }

/-- Take the first buffer under the lock. -/
def RpmsgSystem.rxCallback (s : RpmsgSystem) (role : Role) : Option RpmsgSystem := do
  let device := s.device role
  let (vring, rvq, buffer) ← rpmsgVirtioGetRxBuffer role (s.receiveRing role) device.rvq
  let s := s.setReceiveRing vring role
  let device := { device with rvq }
  match buffer with
  | some buffer =>
      let receives := device.receives ++ [.handling buffer device.received.length]
      some (s.setDevice ({ device with receives }.receive s.shm buffer) role)
  | none => some (s.setDevice device role)

/-- Acquire the lock and return the buffer. -/
def RpmsgSystem.returnBuffer (s : RpmsgSystem) (role : Role) (i : Nat) (buffer : RpmsgBuffer) :
    RpmsgSystem :=
  let device := s.device role
  let (vring, rvq) := rpmsgVirtioReturnBuffer role (s.receiveRing role) device.rvq buffer
  (s.setReceiveRing vring role).setDevice
    { device with rvq, lock := true, receives := device.receives.set i .returned } role

/-- Take the next buffer, or kick if there is none, and release the lock. -/
def RpmsgSystem.nextBuffer (s : RpmsgSystem) (role : Role) (i : Nat) : Option RpmsgSystem := do
  let device := s.device role
  let (vring, rvq, buffer) ← rpmsgVirtioGetRxBuffer role (s.receiveRing role) device.rvq
  let s := s.setReceiveRing vring role
  match buffer with
  | some buffer =>
      let receives := device.receives.set i (.handling buffer device.received.length)
      some (s.setDevice ({ device with rvq, lock := false, receives }.receive s.shm buffer) role)
  | none =>
      some (s.setDevice
        { device with
          rvq := (virtqueueKick vring rvq).1
          lock := false
          receives := device.receives.eraseIdx i } role)

def RpmsgSystem.stepReceive (s : RpmsgSystem) (role : Role) (i : Nat) : Option RpmsgSystem :=
  match (s.device role).receives[i]? with
  | none => none
  | some (.handling buffer _) => some (s.returnBuffer role i buffer)
  | some .returned => s.nextBuffer role i

/-! ### Runs -/

inductive RpmsgAction where
  | send (role : Role) (call : SendCall)
  | stepSend (role : Role) (i : Nat)
  | rxCallback (role : Role)
  | stepReceive (role : Role) (i : Nat)

def RpmsgSystem.step (s : RpmsgSystem) : RpmsgAction → Option RpmsgSystem
  | .send role call => some (s.startSend role call)
  | .stepSend role i => s.stepSend role i
  | .rxCallback role => s.rxCallback role
  | .stepReceive role i => s.stepReceive role i

/-- Whether the next step of a send acquires the lock. -/
def SendPc.acquires : SendPc → Bool
  | .loop _ | .payload _ => true
  | .tested _ _ | .taken _ | .header _ | .enqueued => false

def RxPc.acquires : RxPc → Bool
  | .handling _ _ => true
  | .returned => false

/-- A step that acquires the lock waits until it is free. -/
def RpmsgSystem.Ready (s : RpmsgSystem) : RpmsgAction → Prop
  | .send _ _ => True
  | .stepSend role i =>
      ∃ send, (s.device role).sends[i]? = some send ∧
        (send.pc.acquires = true → (s.device role).lock = false)
  | .rxCallback role => (s.device role).lock = false
  | .stepReceive role i =>
      ∃ receive, (s.device role).receives[i]? = some receive ∧
        (receive.acquires = true → (s.device role).lock = false)

instance (s : RpmsgSystem) (action : RpmsgAction) : Decidable (s.Ready action) :=
  match action with
  | .send _ _ => inferInstanceAs (Decidable True)
  | .stepSend role i =>
      match hsend : (s.device role).sends[i]? with
      | none => isFalse fun ⟨_, hsome, _⟩ => nomatch hsend.symm.trans hsome
      | some send =>
          decidable_of_iff (send.pc.acquires = true → (s.device role).lock = false)
            ⟨fun hlock => ⟨send, hsend, hlock⟩, fun ⟨_, hsome, hlock⟩ => by
              obtain rfl := Option.some.inj (hsend.symm.trans hsome)
              exact hlock⟩
  | .rxCallback role => inferInstanceAs (Decidable ((s.device role).lock = false))
  | .stepReceive role i =>
      match hreceive : (s.device role).receives[i]? with
      | none => isFalse fun ⟨_, hsome, _⟩ => nomatch hreceive.symm.trans hsome
      | some receive =>
          decidable_of_iff (receive.acquires = true → (s.device role).lock = false)
            ⟨fun hlock => ⟨receive, hreceive, hlock⟩, fun ⟨_, hsome, hlock⟩ => by
              obtain rfl := Option.some.inj (hreceive.symm.trans hsome)
              exact hlock⟩

/-! ### Initialisation -/

/-- A device whose two queues exist. Callbacks for transmitted buffers are switched off. -/
def RpmsgDevice.create (rvq svq : Virtqueue) (shmIo : ShmIo) : RpmsgDevice :=
  { rvq := { rvq with shmIo := shmIo.toMetalIo }
    svq := { svq with shmIo := shmIo.toMetalIo }
    shbufIo := shmIo
    lock := false
    sends := []
    receives := []
    sent := []
    received := []
    results := [] }

/-- The virtqueues of the two sides, by the vring they belong to. -/
structure VdevQueues where
  master0 : Virtqueue
  master1 : Virtqueue
  slave0 : Virtqueue
  slave1 : Virtqueue

/-- The virtqueues as `rproc_virtio_create_vdev` allocates them. -/
def VdevQueues.allocated : VdevQueues :=
  ⟨virtqueueAllocate, virtqueueAllocate, virtqueueAllocate, virtqueueAllocate⟩

/-- `rpmsg_init_vdev` on a master with the virtqueues `vq0` and `vq1`. The two vrings have `num0` and
`num1` entries. -/
def rpmsgInitVdevMasterOn (vq0 vq1 : Virtqueue) (num0 num1 features : Nat) (shmIo : ShmIo)
    (shpool : RpmsgVirtioShmPool) (shm : Nat → UInt8) :
    Except Int (Vring × Vring × RpmsgDevice × RpmsgVirtioShmPool × (Nat → UInt8)) :=
  if shpool.size = 0 then
    .error RPMSG_ERR_NO_BUFF
  else
    let (vring0, rvq) := virtqueueCreate .master features 0 num0 true (Vring.zeroed num0) vq0
    let (vring1, svq) := virtqueueCreate .master features 1 num1 true (Vring.zeroed num1) vq1
    let (vring1, svq) := virtqueueDisableCb vring1 svq
    let device := RpmsgDevice.create rvq svq shmIo
    match rpmsgInitBuffers shmIo device.rvq.vqNentries vring0 device.rvq shpool shm with
    | .error status => .error status
    | .ok (vring0, rvq, shpool, shm) => .ok (vring0, vring1, { device with rvq }, shpool, shm)

/-- `rpmsg_init_vdev` on a slave with the virtqueues `vq0` and `vq1`, which has waited for the master. -/
def rpmsgInitVdevSlaveOn (vq0 vq1 : Virtqueue) (num0 num1 features : Nat) (shmIo : ShmIo)
    (vring0 vring1 : Vring) : Vring × Vring × RpmsgDevice :=
  let (vring0, svq) := virtqueueCreate .slave features 0 num0 true vring0 vq0
  let (vring1, rvq) := virtqueueCreate .slave features 1 num1 true vring1 vq1
  let (vring0, svq) := virtqueueDisableCb vring0 svq
  (vring0, vring1, RpmsgDevice.create rvq svq shmIo)

/-- Both devices, once the slave has found the master ready. -/
def rpmsgInitVdevOn (vqs : VdevQueues) (num0 num1 masterFeatures slaveFeatures : Nat)
    (masterIo slaveIo : ShmIo) (shpool : RpmsgVirtioShmPool) (shm : Nat → UInt8) :
    Except Int RpmsgSystem :=
  match rpmsgInitVdevMasterOn vqs.master0 vqs.master1 num0 num1 masterFeatures masterIo shpool
      shm with
  | .error status => .error status
  | .ok (vring0, vring1, master, shpool, shm) =>
      let (vring0, vring1, slave) := rpmsgInitVdevSlaveOn vqs.slave0 vqs.slave1 num0 num1
        slaveFeatures slaveIo vring0 vring1
      .ok {
        vring0, vring1, shm, shpool, master, slave
        status := VIRTIO_CONFIG_STATUS_DRIVER_OK }

/-! ### The first session of a device -/

def rpmsgInitVdevMaster (num0 num1 features : Nat) (shmIo : ShmIo) (shpool : RpmsgVirtioShmPool)
    (shm : Nat → UInt8) :
    Except Int (Vring × Vring × RpmsgDevice × RpmsgVirtioShmPool × (Nat → UInt8)) :=
  rpmsgInitVdevMasterOn virtqueueAllocate virtqueueAllocate num0 num1 features shmIo shpool shm

def rpmsgInitVdevSlave (num0 num1 features : Nat) (shmIo : ShmIo) (vring0 vring1 : Vring) :
    Vring × Vring × RpmsgDevice :=
  rpmsgInitVdevSlaveOn virtqueueAllocate virtqueueAllocate num0 num1 features shmIo vring0 vring1

def rpmsgInitVdev (num0 num1 masterFeatures slaveFeatures : Nat) (masterIo slaveIo : ShmIo)
    (shpool : RpmsgVirtioShmPool) (shm : Nat → UInt8) : Except Int RpmsgSystem :=
  rpmsgInitVdevOn .allocated num0 num1 masterFeatures slaveFeatures masterIo slaveIo shpool shm

theorem rpmsgInitVdev_eq (num0 num1 masterFeatures slaveFeatures : Nat) (masterIo slaveIo : ShmIo)
    (shpool : RpmsgVirtioShmPool) (shm : Nat → UInt8) :
    rpmsgInitVdev num0 num1 masterFeatures slaveFeatures masterIo slaveIo shpool shm =
      match rpmsgInitVdevMaster num0 num1 masterFeatures masterIo shpool shm with
      | .error status => .error status
      | .ok (vring0, vring1, master, shpool, shm) =>
          let (vring0, vring1, slave) :=
            rpmsgInitVdevSlave num0 num1 slaveFeatures slaveIo vring0 vring1
          .ok {
            vring0, vring1, shm, shpool, master, slave
            status := VIRTIO_CONFIG_STATUS_DRIVER_OK } :=
  rfl

end OpenAmp
