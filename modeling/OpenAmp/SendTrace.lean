import OpenAmp.RpmsgEndpoint
import OpenAmp.RpmsgSystem

/-!
# What a send does until it returns

`rpmsg_send_offchannel_raw` over two devices that exchange messages, with a record of what the steps
of each call have done. No step reads the record. What a step has published is read off the ring and
the shared memory after it. libmetal says nothing of a block of negative length, so what
`metal_io_block_write` does with one is a parameter: the shared memory after it, where it returns that
length.
-/

namespace OpenAmp

/-- The arguments of `rpmsg_send_offchannel_raw`. -/
structure RawCall where
  -- whether there is an endpoint with a device, and whether there is data
  ept : Bool
  data : Bool
  call : SendCall

/-- A step of a device has taken, written, published and counted nothing. -/
structure RpmsgSystem.Unchanged (s s' : RpmsgSystem) (role : Role) : Prop where
  shm : s'.shm = s.shm
  shpool : s'.shpool = s.shpool
  vring0 : s'.vring0 = s.vring0
  vring1 : s'.vring1 = s.vring1
  svq : (s'.device role).svq = (s.device role).svq
  rvq : (s'.device role).rvq = (s.device role).rvq

/-! ### What a side has published -/

/-- The slots of a ring that its index has passed from `before` to `after`, oldest first. -/
def newSlots (num before after : Nat) : List Nat :=
  (List.range (u16 (after + 2 ^ 16 - before))).map fun k => u16 (before + k) &&& ringMask num

/-- The index by which a side publishes chains on its send ring. -/
def RpmsgSystem.publishIdx (s : RpmsgSystem) : Role → Nat
  | .master => s.vring1.avail.idx
  | .slave => s.vring0.used.idx

/-- Where the peer of a side finds the buffer in a slot of that side's send ring: the slave translates
the address in the descriptor, and the master has kept its own pointer. -/
def RpmsgSystem.publishedAddr (s : RpmsgSystem) (role : Role) (slot : Nat) : Nat :=
  match role with
  | .master => s.slave.rvq.shmIo.physToVirt (s.vring1.desc (s.vring1.avail.ring slot)).addr
  | .slave => (s.master.rvq.vqDescx (u16 (s.vring0.used.ring slot).id)).cookie

/-- The messages a side has published from state `s` to state `s'`, as its peer reads them in `s'`. -/
def RpmsgSystem.published (s s' : RpmsgSystem) (role : Role) : List RpmsgMessage :=
  (newSlots (s'.sendRing role).num (s.publishIdx role) (s'.publishIdx role)).map fun slot =>
    rpmsgRead (s'.device role.peer).shbufIo s'.shm (s'.publishedAddr role slot)

/-- What the steps of a call have done. -/
structure SendTrace where
  -- all of them have left everything unchanged
  silent : Prop
  -- the messages they have published
  published : List RpmsgMessage
  -- how often the send queue was kicked
  kicks : Nat

structure TracedSystem where
  sys : RpmsgSystem
  -- of the sends under way, in their order
  traces : Role → List SendTrace
  -- the calls that have returned
  returned : Role → List (SendCall × Int × SendTrace)

def TracedSystem.start (sys : RpmsgSystem) : TracedSystem := ⟨sys, fun _ => [], fun _ => []⟩

def TracedSystem.setTraces (t : TracedSystem) (role : Role) (traces : List SendTrace) :
    TracedSystem :=
  { t with traces := Function.update t.traces role traces }

def TracedSystem.record (t : TracedSystem) (role : Role) (call : SendCall) (ret : Int)
    (trace : SendTrace) : TracedSystem :=
  { t with returned := Function.update t.returned role (t.returned role ++ [(call, ret, trace)]) }

def rpmsgSendOffchannelRaw (t : TracedSystem) (role : Role) (raw : RawCall) : TracedSystem :=
  if raw.ept = false ∨ raw.data = false ∨ raw.call.dst = RPMSG_ADDR_ANY then
    t.record role raw.call RPMSG_ERR_PARAM ⟨True, [], 0⟩
  else
    let sys := t.sys.startSend role raw.call
    let trace : SendTrace := ⟨t.sys.Unchanged sys role, [], 0⟩
    if t.sys.status &&& VIRTIO_CONFIG_STATUS_DRIVER_OK = 0 then
      { t with sys }.record role raw.call RPMSG_ERR_DEV_STATE trace
    else
      { t with sys }.setTraces role (t.traces role ++ [trace])

section Step

variable (negative : Int → (Nat → UInt8) → Option (Nat → UInt8))

/-- A step of a send, also of one that writes a block of negative length. -/
def RpmsgSystem.stepSendRaw (s : RpmsgSystem) (role : Role) (i : Nat) : Option RpmsgSystem :=
  match (s.device role).sends[i]? with
  | some ⟨call, .header buffer⟩ =>
      if call.size < 0 then do
        let shm ← negative call.size s.shm
        some ({ s with shm }.setDevice ((s.device role).setSend i ⟨call, .payload buffer⟩) role)
      else s.stepSend role i
  | _ => s.stepSend role i

/-- The record of a call after one more step, from `s` to `s'`. The kick follows the enqueueing. -/
def SendTrace.next (trace : SendTrace) (role : Role) (s s' : RpmsgSystem) (send : Send) :
    SendTrace where
  silent := trace.silent ∧ s.Unchanged s' role
  published := trace.published ++ s.published s' role
  kicks := match send.pc with
    | .enqueued => trace.kicks + 1
    | _ => trace.kicks

/-- A step of the `i`th send of a device. It returns if there is a result. -/
def TracedSystem.stepSend (t : TracedSystem) (role : Role) (i : Nat) : Option TracedSystem := do
  let send ← (t.sys.device role).sends[i]?
  let trace ← (t.traces role)[i]?
  let sys ← t.sys.stepSendRaw negative role i
  let trace := trace.next role t.sys sys send
  match (sys.device role).results[(t.sys.device role).results.length]? with
  | some (call, ret) =>
      some (({ t with sys }.setTraces role ((t.traces role).eraseIdx i)).record role call ret trace)
  | none => some ({ t with sys }.setTraces role ((t.traces role).set i trace))

inductive RawAction where
  | send (role : Role) (raw : RawCall)
  | stepSend (role : Role) (i : Nat)
  | rxCallback (role : Role)
  | stepReceive (role : Role) (i : Nat)
  -- the status byte of the virtio device is written
  | setStatus (status : Nat)

def TracedSystem.step (t : TracedSystem) : RawAction → Option TracedSystem
  | .send role raw => some (rpmsgSendOffchannelRaw t role raw)
  | .stepSend role i => t.stepSend negative role i
  | .rxCallback role => do some { t with sys := ← t.sys.rxCallback role }
  | .stepReceive role i => do some { t with sys := ← t.sys.stepReceive role i }
  | .setStatus status => some { t with sys := { t.sys with status } }

end Step

/-- A call that has returned an error has done nothing, and any other has returned its size and
published one message of that many bytes. -/
structure SendSound (call : SendCall) (ret : Int) (trace : SendTrace) : Prop where
  failed : ret < 0 → trace.silent ∧ trace.published = [] ∧ trace.kicks = 0
  sent : 0 ≤ ret → ret = call.size ∧
    ∃ message, trace.published = [message] ∧ (message.len : Int) = call.size

/-- The actions of the two devices: a step that acquires a lock waits until it is free. -/
def TracedSystem.Ready (t : TracedSystem) : RawAction → Prop
  | .send _ _ => True
  | .stepSend role i => t.sys.Ready (.stepSend role i)
  | .rxCallback role => t.sys.Ready (.rxCallback role)
  | .stepReceive role i => t.sys.Ready (.stepReceive role i)
  | .setStatus _ => True

/-- A send that finds a buffer has a size that the buffer has room for. -/
def TracedSystem.TakesSendable (t : TracedSystem) : RawAction → Prop
  | .stepSend role i => ∀ call tickCount availSize vring svq shpool buffer,
      (t.sys.device role).sends[i]? = some ⟨call, .tested tickCount availSize⟩ →
      rpmsgVirtioGetTxBuffer role (t.sys.sendRing role) (t.sys.device role).svq t.sys.shpool =
        some (vring, svq, shpool, some buffer) →
      0 ≤ call.size ∧ call.size + RPMSG_HDR_SIZE ≤ RPMSG_BUFFER_SIZE
  | _ => True

/-- The master does not enqueue on a full ring. -/
def TracedSystem.EnqueuesWithRoom (t : TracedSystem) : RawAction → Prop
  | .stepSend .master i => ∀ call buffer,
      t.sys.master.sends[i]? = some ⟨call, SendPc.payload buffer⟩ →
        1 ≤ t.sys.master.svq.vqFreeCnt
  | _ => True

end OpenAmp
