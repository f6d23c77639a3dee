import OpenAmp.Library.Run
import OpenAmp.RpmsgEndpoint
import OpenAmp.RprocVirtio

/-!
# A slave that is notified while it initialises its device

`rpmsg_init_vdev` of a slave one statement at a time, those of `virtqueue_create` among them, and
calls of `rproc_virtio_notified` in other execution contexts, which run between any two of them. A
statement that writes nothing a notification reads is left out, and so are the vrings and the pointers
that are set before the callback of a queue. What the master has sent and the slave has not taken is a
list of addresses.
-/

namespace OpenAmp

inductive VqCallback where
  | rpmsgVirtioTxCallback
  | rpmsgVirtioRxCallback
deriving DecidableEq, Repr

/-- A virtqueue: its callback, and whether `shm_io` has been set. -/
structure InitVq where
  callback : Option VqCallback
  shmIo : Bool
deriving DecidableEq, Repr

structure InitDevice where
  -- whether `rdev->lock` is initialised
  lock : Bool
  -- the addresses of the endpoints, if `rdev->endpoints` is initialised
  endpoints : Option (List UInt32)
  supportNs : Bool
  -- the vring of the receive virtqueue
  rvq : Option Nat
  -- the virtqueue of each vring, which the device keeps from one session to the next
  vqs : Nat → InitVq

def InitDevice.setVq (device : InitDevice) (i : Nat) (vq : InitVq) : InitDevice :=
  { device with vqs := Function.update device.vqs i vq }

/-- The statements of `rpmsg_init_vdev`; those with a number are about the virtqueue of a vring. -/
inductive InitStmt where
  | memset
  | mutexInit
  | waitRemoteReady
  | setSupportNs
  | setRvq
  | vqCallback (i : Nat) (callback : VqCallback)
  | vqShmIo (i : Nat)
  | metalListInit
  | registerNsEpt
deriving DecidableEq, Repr

/-- `rpmsg_init_vdev` of a slave. -/
def slaveInitStmts : List InitStmt :=
  [.memset, .mutexInit, .waitRemoteReady, .setSupportNs, .setRvq,
    .vqCallback 0 .rpmsgVirtioTxCallback, .vqCallback 1 .rpmsgVirtioRxCallback,
    .vqShmIo 0, .vqShmIo 1, .metalListInit, .registerNsEpt]

/-- `ns` is the name service feature of the device. -/
def InitStmt.exec (ns : Bool) (device : InitDevice) : InitStmt → InitDevice
  | .memset => { device with lock := false, endpoints := none, supportNs := false }
  | .mutexInit => { device with lock := true }
  | .waitRemoteReady => device
  | .setSupportNs => { device with supportNs := ns }
  | .setRvq => { device with rvq := some 1 }
  | .vqCallback i callback => device.setVq i { device.vqs i with callback := some callback }
  | .vqShmIo i => device.setVq i { device.vqs i with shmIo := true }
  | .metalListInit => { device with endpoints := some [] }
  | .registerNsEpt =>
      if device.supportNs then
        { device with endpoints := device.endpoints.map (· ++ [RPMSG_NS_EPT_ADDR]) }
      else device

/-! ### Notifications -/

/-- Where a call of `rproc_virtio_notified` is. -/
inductive NotifyPc where
  -- at the vring `i` of its loop
  | vring (i : Nat)
  -- in `rpmsg_virtio_rx_callback` of the vring `i`, before it gets a buffer
  | getRxBuffer (i : Nat)
  -- in the callback with a message, before it looks for the endpoint
  | getEpt (i : Nat) (dst : UInt32)
  | returned
deriving DecidableEq, Repr

structure NotifyCall where
  notifyid : Nat
  pc : NotifyPc
deriving DecidableEq, Repr

def rprocVirtioNotifiedCall (rpvdev : RemoteprocVirtio) (notifyid : Nat) : NotifyCall :=
  ⟨notifyid, if rpvdev.notifyid = notifyid then .returned else .vring 0⟩

/-- The next thing the call does is to run `rpmsg_virtio_rx_callback`. -/
def NotifyCall.runsRxCallback (rpvdev : RemoteprocVirtio) (device : InitDevice) (call : NotifyCall) :
    Bool :=
  match call.pc with
  | .vring i =>
      (rpvdev.vringsInfo[i]? = some call.notifyid ∨
        i < rpvdev.vringsInfo.length ∧ call.notifyid = RSC_NOTIFY_ID_ANY) ∧
      (device.vqs i).callback = some .rpmsgVirtioRxCallback
  | _ => false

structure SlaveInit where
  device : InitDevice
  -- how many statements have been executed
  pc : Nat
  -- whether the master has set `VIRTIO_CONFIG_STATUS_DRIVER_OK`
  driverOk : Bool
  -- where the messages go that wait in the receive ring
  inbox : List UInt32
  calls : List NotifyCall
  -- the messages that were looked at, and whether there was an endpoint for them
  received : List (UInt32 × Bool)

inductive SlaveInitAction where
  -- the next statement
  | init
  | driverOk
  | send (dst : UInt32)
  | notified (notifyid : Nat)
  -- the next step of a call of `rproc_virtio_notified`
  | run (k : Nat)
deriving DecidableEq, Repr

/-- A step of a call. A pointer that is not set has no outcome. The callbacks of the endpoints are
left out. -/
def SlaveInit.runCall (rpvdev : RemoteprocVirtio) (s : SlaveInit) (k : Nat) (call : NotifyCall) :
    Option SlaveInit :=
  let goto (s : SlaveInit) (pc : NotifyPc) := { s with calls := s.calls.set k { call with pc } }
  match call.pc with
  | .vring i =>
      if call.runsRxCallback rpvdev s.device then some (goto s (.getRxBuffer i))
      else if i < rpvdev.vringsInfo.length then some (goto s (.vring (i + 1)))
      else some (goto s .returned)
  | .getRxBuffer i => do
      let rvq ← s.device.rvq
      match s.inbox with
      | [] => some (goto s (.vring (i + 1)))
      | dst :: inbox =>
          if (s.device.vqs rvq).shmIo then some (goto { s with inbox } (.getEpt i dst)) else none
  | .getEpt i dst => do
      let endpoints ← s.device.endpoints
      some (goto { s with received := s.received ++ [(dst, endpoints.contains dst)] }
        (.getRxBuffer i))
  | .returned => none

/-- Whether a statement can be executed: the slave waits for the master, and both vrings must be
there. -/
def SlaveInit.ready (rpvdev : RemoteprocVirtio) (s : SlaveInit) : InitStmt → Bool
  | .waitRemoteReady => s.driverOk
  | .setRvq => 1 < rpvdev.vringsInfo.length
  | _ => true

def SlaveInit.step (rpvdev : RemoteprocVirtio) (ns : Bool) (s : SlaveInit) :
    SlaveInitAction → Option SlaveInit
  | .init => do
      let stmt ← slaveInitStmts[s.pc]?
      if s.ready rpvdev stmt then some { s with device := stmt.exec ns s.device, pc := s.pc + 1 }
      else none
  | .driverOk => some { s with driverOk := true }
  | .send dst => some { s with inbox := s.inbox ++ [dst] }
  | .notified notifyid =>
      some { s with calls := s.calls ++ [rprocVirtioNotifiedCall rpvdev notifyid] }
  | .run k => do s.runCall rpvdev k (← s.calls[k]?)

/-- The call of `rpmsg_init_vdev` on any device, new or used before. -/
def SlaveInit.start (device : InitDevice) (driverOk : Bool) (inbox : List UInt32) : SlaveInit :=
  ⟨device, 0, driverOk, inbox, [], []⟩

/-! ### Reception -/

def SlaveInit.executed (s : SlaveInit) : List InitStmt := slaveInitStmts.take s.pc

/-- What reception needs: the lock, the list of endpoints and the region of the receive virtqueue. -/
structure InitDevice.Initialised (device : InitDevice) : Prop where
  lock : device.lock = true
  endpoints : device.endpoints ≠ none
  shmIo : (device.vqs 1).shmIo = true

/-- The callback runs on an initialised device only, and no message is looked up in a list of
endpoints that is not initialised. -/
def SlaveInit.ReceivesInitialised (rpvdev : RemoteprocVirtio) (s : SlaveInit) :
    SlaveInitAction → Prop
  | .run k => ∀ call ∈ s.calls[k]?,
      (call.runsRxCallback rpvdev s.device = true → s.device.Initialised) ∧
        ∀ i dst, call.pc = .getEpt i dst → s.device.endpoints ≠ none
  | _ => True

/-- No notification gets to a virtqueue with the receive callback before the list of endpoints has
been initialised. -/
def SlaveInit.NotifiedLate (rpvdev : RemoteprocVirtio) (s : SlaveInit) : SlaveInitAction → Prop
  | .run k => ∀ call ∈ s.calls[k]?,
      call.runsRxCallback rpvdev s.device = true → .metalListInit ∈ s.executed
  | _ => True

instance (rpvdev : RemoteprocVirtio) (s : SlaveInit) (action : SlaveInitAction) :
    Decidable (s.NotifiedLate rpvdev action) :=
  match action with
  | .run k => inferInstanceAs (Decidable (∀ call ∈ s.calls[k]?,
      call.runsRxCallback rpvdev s.device = true → .metalListInit ∈ s.executed))
  | .init | .driverOk | .send _ | .notified _ => .isTrue trivial

end OpenAmp
