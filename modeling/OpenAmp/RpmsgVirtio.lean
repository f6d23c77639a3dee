import OpenAmp.Library.ByteMemory
import OpenAmp.Virtqueue

/-!
# rpmsg over virtio

The functions of `lib/rpmsg/rpmsg_virtio.c` that move buffers: the pool the master hands out, the
two ends of the send and the receive ring for either role, the header in front of a message, and the
initialisation of a device. The devices run against each other in `OpenAmp.RpmsgSystem`.
-/

namespace OpenAmp

open ByteMemory

def RPMSG_BUFFER_SIZE : Nat := 512

/-- `sizeof(struct rpmsg_hdr)`. -/
def RPMSG_HDR_SIZE : Nat := 16

def RPMSG_TICK_COUNT : Nat := 15000000
def RPMSG_TICKS_PER_INTERVAL : Nat := 1000

def RPMSG_SUCCESS : Int := 0
def RPMSG_ERROR_BASE : Int := -2000
def RPMSG_ERR_NO_BUFF : Int := RPMSG_ERROR_BASE - 2
def RPMSG_ERR_PARAM : Int := RPMSG_ERROR_BASE - 3
def RPMSG_ERR_DEV_STATE : Int := RPMSG_ERROR_BASE - 4
def RPMSG_ERR_BUFF_SIZE : Int := RPMSG_ERROR_BASE - 5

def VIRTIO_CONFIG_STATUS_DRIVER_OK : Nat := 4

/-- What a device uses of its shared-buffer region: the translations of the queues, the offset of an
address, and the byte of the shared memory found at an offset. -/
structure ShmIo extends MetalIo where
  virtToOffset : Nat → Nat
  cell : Nat → Nat

/-- `metal_io_block_write` inside the region. -/
def metalIoBlockWrite (io : ShmIo) (shm : Nat → UInt8) (offset : Nat) :
    List UInt8 → Nat → UInt8
  | [] => shm
  | byte :: bytes =>
      metalIoBlockWrite io (Function.update shm (io.cell offset) byte) (offset + 1) bytes

/-- The bytes a pointer into the region points at. -/
def ShmIo.load (io : ShmIo) (shm : Nat → UInt8) (virt len : Nat) : List UInt8 :=
  readBytes (fun virt => shm (io.cell (io.virtToOffset virt))) virt len

/-! ### The pool -/

structure RpmsgVirtioShmPool where
  base : Nat
  avail : Nat
  size : Nat
deriving DecidableEq, Repr

def rpmsgVirtioInitShmPool (shb size : Nat) : RpmsgVirtioShmPool := ⟨shb, size, size⟩

def rpmsgVirtioShmPoolGetBuffer (shpool : RpmsgVirtioShmPool) (size : Nat) :
    RpmsgVirtioShmPool × Nat :=
  if shpool.avail < size then
    (shpool, NULL)
  else
    ({ shpool with avail := shpool.avail - size }, shpool.base + shpool.size - shpool.avail)

/-! ### Buffers -/

/-- A buffer in the hands of a call: its address on that side, the length and the index that came
with it, and the length of the descriptor it was taken from. -/
structure RpmsgBuffer where
  addr : Nat
  len : Nat
  idx : Nat
  descLen : Nat
deriving DecidableEq, Repr

/-- The descriptor length of the oldest used chain, which `virtqueue_get_buffer` is about to take. -/
def usedDescLen (vr : Vring) (vq : Virtqueue) : Nat :=
  (vr.desc (u16 (vr.used.ring (vq.vqUsedConsIdx &&& ringMask vq.vqNentries)).id)).len

/-- `virtqueue_get_buffer` as the master uses it for both rings, `NULL` included. -/
def masterGetBuffer (vr : Vring) (vq : Virtqueue) :
    Option (Vring × Virtqueue × Option RpmsgBuffer) := do
  let (vr', vq', used) ← virtqueueGetBuffer vr vq
  some (vr', vq', (used.filter fun used => used.cookie ≠ NULL).map fun used =>
    ⟨used.cookie, used.len, used.idx, usedDescLen vr vq⟩)

/-- `virtqueue_get_available_buffer` as the slave uses it for both rings, `NULL` included. -/
def slaveGetBuffer (vr : Vring) (vq : Virtqueue) : Virtqueue × Option RpmsgBuffer :=
  let (vq, avail) := virtqueueGetAvailableBuffer vr vq
  (vq, (avail.filter fun avail => avail.buffer ≠ NULL).map fun avail =>
    ⟨avail.buffer, avail.len, avail.availIdx, avail.len⟩)

def rpmsgVirtioReturnBuffer (role : Role) (vr : Vring) (rvq : Virtqueue) (buffer : RpmsgBuffer) :
    Vring × Virtqueue :=
  match role with
  | .master =>
      let (vr, rvq, _) :=
        virtqueueAddBuffer vr rvq (fun _ => ⟨buffer.addr, toInt32 buffer.len⟩) 0 1 buffer.addr
      (vr, rvq)
  | .slave =>
      let (vr, rvq, _) := virtqueueAddConsumedBuffer vr rvq buffer.idx buffer.len
      (vr, rvq)

def rpmsgVirtioEnqueueBuffer (role : Role) (vr : Vring) (svq : Virtqueue) (buffer : RpmsgBuffer) :
    Vring × Virtqueue × Int :=
  match role with
  | .master =>
      virtqueueAddBuffer vr svq (fun _ => ⟨buffer.addr, toInt32 buffer.len⟩) 1 0 buffer.addr
  | .slave => virtqueueAddConsumedBuffer vr svq buffer.idx buffer.len

/-- The master takes back a buffer the peer has consumed, or else a fresh one of the pool. -/
def rpmsgVirtioGetTxBuffer (role : Role) (vr : Vring) (svq : Virtqueue)
    (shpool : RpmsgVirtioShmPool) :
    Option (Vring × Virtqueue × RpmsgVirtioShmPool × Option RpmsgBuffer) :=
  match role with
  | .master => do
      let (vr, svq, buffer) ← masterGetBuffer vr svq
      match buffer with
      | some buffer => some (vr, svq, shpool, some buffer)
      | none =>
          let (shpool, data) := rpmsgVirtioShmPoolGetBuffer shpool RPMSG_BUFFER_SIZE
          if data = NULL then
            some (vr, svq, shpool, none)
          else
            -- `idx` is left unset and the master never reads it
            some (vr, svq, shpool, some ⟨data, RPMSG_BUFFER_SIZE, 0, RPMSG_BUFFER_SIZE⟩)
  | .slave =>
      let (svq, buffer) := slaveGetBuffer vr svq
      some (vr, svq, shpool, buffer)

def rpmsgVirtioGetRxBuffer (role : Role) (vr : Vring) (rvq : Virtqueue) :
    Option (Vring × Virtqueue × Option RpmsgBuffer) :=
  match role with
  | .master => masterGetBuffer vr rvq
  | .slave =>
      let (rvq, buffer) := slaveGetBuffer vr rvq
      some (vr, rvq, buffer)

/-- `_rpmsg_virtio_get_buffer_size`. The slave asks the ring, and a ring without a buffer and a
buffer without room both give 0. -/
def rpmsgVirtioGetBufferSize (role : Role) (vr : Vring) (svq : Virtqueue) : Virtqueue × Int :=
  match role with
  | .master => (svq, RPMSG_BUFFER_SIZE - RPMSG_HDR_SIZE)
  | .slave =>
      let (svq, size) := virtqueueGetDescSize vr svq
      let length := toInt32 ((size : Int) - RPMSG_HDR_SIZE)
      (svq, if length < 0 then 0 else length)

/-! ### Messages -/

/-- The arguments of `rpmsg_virtio_send_offchannel_raw`. `flags` is what the uninitialised field of
the header on the stack happens to hold. -/
structure SendCall where
  src : UInt32
  dst : UInt32
  data : Nat → UInt8
  size : Int
  wait : Bool
  flags : UInt16

/-- The bytes of the payload. -/
def SendCall.payload (call : SendCall) : List UInt8 :=
  (List.range call.size.toNat).map call.data

/-- The bytes of `rp_hdr`. -/
def SendCall.rpHdr (call : SendCall) : List UInt8 :=
  leBytes 4 call.src.toNat ++ leBytes 4 call.dst.toNat ++ leBytes 4 0 ++
    leBytes 2 (ofInt 16 call.size) ++ leBytes 2 call.flags.toNat

/-- What a receiver reads in a buffer: the header fields it uses and the payload. -/
structure RpmsgMessage where
  src : Nat
  dst : Nat
  len : Nat
  payload : List UInt8
deriving DecidableEq, Repr

def rpmsgRead (io : ShmIo) (shm : Nat → UInt8) (rpHdr : Nat) : RpmsgMessage :=
  let len := leValue (io.load shm (rpHdr + 12) 2)
  { src := leValue (io.load shm rpHdr 4)
    dst := leValue (io.load shm (rpHdr + 4) 4)
    len
    payload := io.load shm (rpHdr + RPMSG_HDR_SIZE) len }

/-- The message a sender means. -/
def SendCall.message (call : SendCall) : RpmsgMessage :=
  { src := call.src.toNat
    dst := call.dst.toNat
    len := call.size.toNat
    payload := call.payload }

/-! ### Waiting for a buffer -/

/-- What one round of the loop in `rpmsg_virtio_send_offchannel_raw` finds: the send ring when the
size is asked for and when a buffer is taken, and the queue and the pool of this side. The lock is held
in between, so only the peer can have moved. -/
structure SendRound where
  peeked : Vring
  vring : Vring
  svq : Virtqueue
  shpool : RpmsgVirtioShmPool

def SendRound.availSize (round : SendRound) (role : Role) : Int :=
  (rpmsgVirtioGetBufferSize role round.peeked round.svq).2

/-- The buffer of a round, where the outer `none` is a call that does not return. -/
def SendRound.txBuffer (round : SendRound) (role : Role) : Option (Option RpmsgBuffer) := do
  let svq := (rpmsgVirtioGetBufferSize role round.peeked round.svq).1
  let (_, _, _, buffer) ← rpmsgVirtioGetTxBuffer role round.vring svq round.shpool
  some buffer

/-- How a call leaves the loop: with a buffer to write and enqueue, or returning a status. -/
inductive SendExit where
  | buffer (buffer : RpmsgBuffer)
  | status (status : Int)
deriving DecidableEq, Repr

/-- One round with `tickCount` retries left; the inner `none` is a retry. -/
def SendRound.attempt (round : SendRound) (role : Role) (size : Int) (tickCount : Nat) :
    Option (Option SendExit) :=
  let availSize := round.availSize role
  if availSize ≠ 0 ∧ size > availSize then
    some (some (.status RPMSG_ERR_BUFF_SIZE))
  else do
    let buffer ← round.txBuffer role
    match buffer with
    | some buffer => some (some (.buffer buffer))
    | none =>
        if tickCount = 0 then
          some (some (.status RPMSG_ERR_NO_BUFF))
        else if availSize ≠ 0 then
          some (some (.status RPMSG_ERR_BUFF_SIZE))
        else
          some none

/-- The loop from round `k` on, with the round it is left in. -/
def rpmsgVirtioSendLoop (role : Role) (size : Int) (rounds : Nat → SendRound) :
    Nat → Nat → Option (Nat × SendExit)
  | tickCount, k => do
      match ← (rounds k).attempt role size tickCount with
      | some exit => some (k, exit)
      | none =>
          match tickCount with
          | 0 => none
          | tickCount + 1 => rpmsgVirtioSendLoop role size rounds tickCount (k + 1)

/-- `rpmsg_virtio_send_offchannel_raw` up to the end of its loop. -/
def rpmsgVirtioSendOffchannelRaw (role : Role) (status : Nat) (size : Int) (wait : Bool)
    (rounds : Nat → SendRound) : Option (Nat × SendExit) :=
  if status &&& VIRTIO_CONFIG_STATUS_DRIVER_OK = 0 then
    some (0, .status RPMSG_ERR_DEV_STATE)
  else
    rpmsgVirtioSendLoop role size rounds
      (if wait then RPMSG_TICK_COUNT / RPMSG_TICKS_PER_INTERVAL else 0) 0

/-! ### Initialisation -/

/-- The loop of `rpmsg_init_vdev` that fills the receive ring, with `left` rounds to go. -/
def rpmsgInitBuffers (io : ShmIo) :
    Nat → Vring → Virtqueue → RpmsgVirtioShmPool → (Nat → UInt8) →
      Except Int (Vring × Virtqueue × RpmsgVirtioShmPool × (Nat → UInt8))
  | 0, vr, rvq, shpool, shm => .ok (vr, rvq, shpool, shm)
  | left + 1, vr, rvq, shpool, shm =>
      let (shpool, buffer) := rpmsgVirtioShmPoolGetBuffer shpool RPMSG_BUFFER_SIZE
      if buffer = NULL then
        .error RPMSG_ERR_NO_BUFF
      else
        let shm := metalIoBlockWrite io shm (io.virtToOffset buffer)
          (List.replicate RPMSG_BUFFER_SIZE 0)
        let (vr, rvq, status) :=
          virtqueueAddBuffer vr rvq (fun _ => ⟨buffer, RPMSG_BUFFER_SIZE⟩) 0 1 buffer
        if status ≠ RPMSG_SUCCESS then
          .error status
        else
          rpmsgInitBuffers io left vr rvq shpool shm

end OpenAmp
