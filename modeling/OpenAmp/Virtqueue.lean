import OpenAmp.Vring

/-!
# Virtqueues

`lib/virtio/virtqueue.c`, statement by statement, in its default build. A queue is the private
control block of one side; the vring it points at is shared, so every operation takes and returns
both. The assertions of the debug build are kept: each one that would fail is recorded in the
control block, and nothing else depends on that record.
-/

namespace OpenAmp

/-- `VQ_RING_DESC_CHAIN_END`, an index no descriptor has. -/
def VQ_RING_DESC_CHAIN_END : Nat := 32768

def VIRTIO_RING_F_EVENT_IDX : Nat := 2 ^ 29

def VQUEUE_SUCCESS : Int := 0
def VQ_ERROR_BASE : Int := -3000
def ERROR_VRING_NO_BUFF : Int := VQ_ERROR_BASE - 7

structure VirtqueueBuf where
  buf : Nat
  len : Int

structure VqDescExtra where
  cookie : Nat
  ndescs : Nat
deriving DecidableEq, Repr

/-- What `VQUEUE_DEBUG` adds to a control block, and the messages of the assertions that failed. -/
structure VqDebug where
  inuse : Bool
  failed : List String
deriving DecidableEq, Repr

def VqDebug.clean : VqDebug := ⟨false, []⟩

def VqDebug.check (debug : VqDebug) (exp : Bool) (msg : String) : VqDebug :=
  if exp then debug else { debug with failed := debug.failed ++ [msg] }

/-- The control block of one side. `role` and `features` are the two fields of `vq_dev` it reads;
`notify` tells whether the notify callback is set. -/
structure Virtqueue where
  role : Role
  features : Nat
  vqQueueIndex : Nat
  vqNentries : Nat
  notify : Bool
  vqFreeCnt : Nat
  vqQueuedCnt : Nat
  shmIo : MetalIo
  vqDescHeadIdx : Nat
  vqUsedConsIdx : Nat
  vqAvailableIdx : Nat
  vqDescx : Nat → VqDescExtra
  vqDebug : VqDebug

/-- `virtqueue_allocate` clears the block, so the queue has no region, role or callback yet. -/
def virtqueueAllocate : Virtqueue :=
  { role := .master
    features := 0
    vqQueueIndex := 0
    vqNentries := 0
    notify := false
    vqFreeCnt := 0
    vqQueuedCnt := 0
    shmIo := ⟨fun _ => NULL, fun _ => NULL⟩
    vqDescHeadIdx := 0
    vqUsedConsIdx := 0
    vqAvailableIdx := 0
    vqDescx := fun _ => ⟨NULL, 0⟩
    vqDebug := VqDebug.clean }

/-- `VQASSERT`. -/
def Virtqueue.vqassert (vq : Virtqueue) (exp : Bool) (msg : String) : Virtqueue :=
  { vq with vqDebug := vq.vqDebug.check exp msg }

/-- `VQUEUE_BUSY`. -/
def Virtqueue.busy (vq : Virtqueue) : Virtqueue :=
  { vq with vqDebug := { vq.vqDebug.check (!vq.vqDebug.inuse) "VirtQueue already in use" with
      inuse := true } }

/-- `VQUEUE_IDLE`. -/
def Virtqueue.idle (vq : Virtqueue) : Virtqueue :=
  { vq with vqDebug := { vq.vqDebug with inuse := false } }

def Virtqueue.assertValidIdx (vq : Virtqueue) (idx : Nat) : Virtqueue :=
  vq.vqassert (idx < vq.vqNentries) "invalid ring index"

def Virtqueue.assertChainTerm (vq : Virtqueue) : Virtqueue :=
  vq.vqassert (vq.vqDescHeadIdx = VQ_RING_DESC_CHAIN_END)
    "full ring terminated incorrectly: invalid head"

/-- `vq_nentries - 1`, an `int`, as the operand of a mask. -/
def ringMask (nentries : Nat) : Nat := u32 (nentries + 2 ^ 32 - 1)

def setNext (desc : Nat → VringDesc) (idx next : Nat) : Nat → VringDesc :=
  Function.update desc idx { desc idx with next }

/-- `vq_ring_init` for the master: link the descriptors into one free chain. -/
def vqRingInit (desc : Nat → VringDesc) (size : Nat) : Nat → VringDesc :=
  setNext ((List.range (size - 1)).foldl (fun desc i => setNext desc i (i + 1)) desc)
    (size - 1) VQ_RING_DESC_CHAIN_END

/-- `virtqueue_create` on an allocated control block, for a ring of `numDescs` entries. -/
def virtqueueCreate (role : Role) (features id numDescs : Nat) (notify : Bool)
    (vr : Vring) (vq : Virtqueue) : Vring × Virtqueue :=
  let vq := { vq with
    role, features, notify
    vqQueueIndex := id
    vqNentries := numDescs
    vqFreeCnt := numDescs }
  match role with
  | .master => ({ vr with num := numDescs, desc := vqRingInit vr.desc numDescs }, vq)
  | .slave => ({ vr with num := numDescs }, vq)

/-! ### Posting buffers -/

/-- The loop of `vq_ring_add_buffer` from iteration `i` on, with `left` iterations to go. -/
def vqRingAddBufferLoop (bufList : Nat → VirtqueueBuf) (readable needed : Int) :
    Nat → Nat → (Nat → VringDesc) → Virtqueue → Nat → (Nat → VringDesc) × Virtqueue × Nat
  | 0, _, desc, vq, idx => (desc, vq, idx)
  | left + 1, i, desc, vq, idx =>
      let vq := vq.vqassert (idx ≠ VQ_RING_DESC_CHAIN_END) "premature end of free desc chain"
      -- readable buffers are inserted into the vring before the writable ones
      let dp : VringDesc :=
        { addr := u64 (vq.shmIo.virtToPhys (bufList i).buf)
          len := ofInt 32 (bufList i).len
          flags := (if (i : Int) < needed - 1 then VRING_DESC_F_NEXT else 0) |||
            (if readable ≤ (i : Int) then VRING_DESC_F_WRITE else 0)
          next := (desc idx).next }
      vqRingAddBufferLoop bufList readable needed left (i + 1) (Function.update desc idx dp) vq
        dp.next

def vqRingUpdateAvail (vr : Vring) (vq : Virtqueue) (descIdx : Nat) : Vring × Virtqueue :=
  let availIdx := vr.avail.idx &&& ringMask vq.vqNentries
  ({ vr with avail := { vr.avail with
      ring := Function.update vr.avail.ring availIdx descIdx
      idx := u16 (vr.avail.idx + 1) } },
    { vq with vqQueuedCnt := u16 (vq.vqQueuedCnt + 1) })

/-- `virtqueue_add_buffer`. The parameter checks expand to nothing in the default build. -/
def virtqueueAddBuffer (vr : Vring) (vq : Virtqueue) (bufList : Nat → VirtqueueBuf)
    (readable writable : Int) (cookie : Nat) : Vring × Virtqueue × Int :=
  let needed := readable + writable
  let vq := vq.busy.vqassert (cookie ≠ NULL) "enqueuing with no cookie"
  let headIdx := vq.vqDescHeadIdx
  let vq := vq.assertValidIdx headIdx
  let vq := vq.vqassert ((vq.vqDescx headIdx).cookie = NULL) "cookie already exists for index"
  let vq := { vq with vqDescx := Function.update vq.vqDescx headIdx ⟨cookie, ofInt 16 needed⟩ }
  let (desc, vq, idx) :=
    vqRingAddBufferLoop bufList readable needed needed.toNat 0 vr.desc vq headIdx
  let vq := { vq with
    vqDescHeadIdx := idx
    vqFreeCnt := ofInt 16 (vq.vqFreeCnt - needed) }
  let vq := if vq.vqFreeCnt = 0 then vq.assertChainTerm else vq.assertValidIdx idx
  let (vr, vq) := vqRingUpdateAvail { vr with desc } vq headIdx
  (vr, vq.idle, VQUEUE_SUCCESS)

/-! ### Taking back used buffers -/

/-- The loop of `vq_ring_free_chain`: from descriptor `dp`, with `ndescs` left to count. An index has
16 bits, so more than `2 ^ 16` rounds visit a descriptor twice and never end; `none` stands for
that. -/
def vqRingFreeChainLoop (desc : Nat → VringDesc) :
    Nat → Nat → Nat → Virtqueue → Option (Nat × Nat × Virtqueue)
  | 0, _, _, _ => none
  | fuel + 1, dp, ndescs, vq =>
      if (desc dp).flags &&& VRING_DESC_F_NEXT = 0 then
        some (dp, ndescs, vq)
      else
        vqRingFreeChainLoop desc fuel (desc dp).next (ofInt 16 (ndescs - 1))
          (vq.assertValidIdx (desc dp).next)

def vqRingFreeChain (vr : Vring) (vq : Virtqueue) (descIdx : Nat) : Option (Vring × Virtqueue) := do
  let vq := vq.assertValidIdx descIdx
  let dxp := vq.vqDescx descIdx
  let vq := if vq.vqFreeCnt = 0 then vq.assertChainTerm else vq
  let vq := { vq with vqFreeCnt := u16 (vq.vqFreeCnt + dxp.ndescs) }
  let ndescs := ofInt 16 (dxp.ndescs - 1)
  let (dp, ndescs, vq) ←
    if (vr.desc descIdx).flags &&& VRING_DESC_F_INDIRECT = 0 then
      vqRingFreeChainLoop vr.desc (2 ^ 16) descIdx ndescs vq
    else
      some (descIdx, ndescs, vq)
  let vq := vq.vqassert (ndescs = 0) "failed to free entire desc chain, remaining"
  -- the free chain is appended to the end of the newly freed one
  some ({ vr with desc := setNext vr.desc dp vq.vqDescHeadIdx },
    { vq with
      vqDescx := Function.update vq.vqDescx descIdx { dxp with ndescs }
      vqDescHeadIdx := descIdx })

/-- What `virtqueue_get_buffer` returns, its two out-parameters included. -/
structure UsedBuffer where
  cookie : Nat
  len : Nat
  idx : Nat
deriving DecidableEq, Repr

/-- `virtqueue_get_buffer`. The outer `none` is a call that does not return, the inner one `NULL`. -/
def virtqueueGetBuffer (vr : Vring) (vq : Virtqueue) :
    Option (Vring × Virtqueue × Option UsedBuffer) :=
  if vq.vqUsedConsIdx = vr.used.idx then
    some (vr, vq, none)
  else do
    let vq := vq.busy
    let usedIdx := vq.vqUsedConsIdx &&& ringMask vq.vqNentries
    let vq := { vq with vqUsedConsIdx := u16 (vq.vqUsedConsIdx + 1) }
    let uep := vr.used.ring usedIdx
    let descIdx := u16 uep.id
    let (vr, vq) ← vqRingFreeChain vr vq descIdx
    let cookie := (vq.vqDescx descIdx).cookie
    let vq := { vq with
      vqDescx := Function.update vq.vqDescx descIdx
        { vq.vqDescx descIdx with cookie := NULL } }
    some (vr, vq.idle, some ⟨cookie, uep.len, usedIdx⟩)

/-! ### The consumer's side -/

/-- What `virtqueue_get_available_buffer` returns, its two out-parameters included. -/
structure AvailableBuffer where
  buffer : Nat
  availIdx : Nat
  len : Nat
deriving DecidableEq, Repr

def virtqueueGetAvailableBuffer (vr : Vring) (vq : Virtqueue) :
    Virtqueue × Option AvailableBuffer :=
  if vq.vqAvailableIdx = vr.avail.idx then
    (vq, none)
  else
    let vq := vq.busy
    let headIdx := vq.vqAvailableIdx &&& ringMask vq.vqNentries
    let vq := { vq with vqAvailableIdx := u16 (vq.vqAvailableIdx + 1) }
    let availIdx := vr.avail.ring headIdx
    (vq.idle, some
      { buffer := vq.shmIo.physToVirt (vr.desc availIdx).addr
        availIdx
        len := (vr.desc availIdx).len })

def virtqueueAddConsumedBuffer (vr : Vring) (vq : Virtqueue) (headIdx len : Nat) :
    Vring × Virtqueue × Int :=
  if headIdx > vq.vqNentries then
    (vr, vq, ERROR_VRING_NO_BUFF)
  else
    let vq := vq.busy
    let usedIdx := vr.used.idx &&& ringMask vq.vqNentries
    let vr := { vr with used := { vr.used with
      ring := Function.update vr.used.ring usedIdx ⟨headIdx, len⟩
      idx := u16 (vr.used.idx + 1) } }
    (vr, { vq with vqQueuedCnt := u16 (vq.vqQueuedCnt + 1) }.idle, VQUEUE_SUCCESS)

/-- `virtqueue_get_desc_size`: the length of the next available buffer, without taking it. -/
def virtqueueGetDescSize (vr : Vring) (vq : Virtqueue) : Virtqueue × Nat :=
  if vq.vqAvailableIdx = vr.avail.idx then
    (vq, 0)
  else
    let vq := vq.busy
    let headIdx := vq.vqAvailableIdx &&& ringMask vq.vqNentries
    let availIdx := vr.avail.ring headIdx
    (vq.idle, (vr.desc availIdx).len)

/-! ### Notifications -/

def virtqueueNused (vr : Vring) (vq : Virtqueue) : Virtqueue × Nat :=
  let nused := ofInt 16 ((vr.used.idx : Int) - vq.vqUsedConsIdx)
  (vq.vqassert (nused ≤ vq.vqNentries) "used more than available", nused)

def virtqueueNavail (vr : Vring) (vq : Virtqueue) : Virtqueue × Nat :=
  let navail := ofInt 16 ((vr.avail.idx : Int) - vq.vqAvailableIdx)
  (vq.vqassert (navail ≤ vq.vqNentries) "avail more than available", navail)

def Virtqueue.eventIdx (vq : Virtqueue) : Bool := vq.features &&& VIRTIO_RING_F_EVENT_IDX ≠ 0

/-- `flags | bit` and `flags & ~bit` on a 16-bit word, for the one flag each side uses. -/
def setFlag (flags : Nat) : Nat := flags ||| 1

def clearFlag (flags : Nat) : Nat := flags / 2 * 2

def vqRingEnableInterrupt (vr : Vring) (vq : Virtqueue) (ndesc : Nat) : Vring × Virtqueue × Int :=
  let vr :=
    if vq.eventIdx then
      match vq.role with
      | .master => setVringUsedEvent vr (vq.vqUsedConsIdx + ndesc)
      | .slave => setVringAvailEvent vr (vq.vqAvailableIdx + ndesc)
    else
      match vq.role with
      | .master => { vr with avail := { vr.avail with flags := clearFlag vr.avail.flags } }
      | .slave => { vr with used := { vr.used with flags := clearFlag vr.used.flags } }
  let (vq, pending) :=
    match vq.role with
    | .master => virtqueueNused vr vq
    | .slave => virtqueueNavail vr vq
  (vr, vq, if pending > ndesc then 1 else 0)

def virtqueueEnableCb (vr : Vring) (vq : Virtqueue) : Vring × Virtqueue × Int :=
  vqRingEnableInterrupt vr vq 0

def virtqueueDisableCb (vr : Vring) (vq : Virtqueue) : Vring × Virtqueue :=
  let vq := vq.busy
  let vr :=
    if vq.eventIdx then
      match vq.role with
      | .master => setVringUsedEvent vr (ofInt 16 ((vq.vqUsedConsIdx : Int) - vq.vqNentries - 1))
      | .slave => setVringAvailEvent vr (ofInt 16 ((vq.vqAvailableIdx : Int) - vq.vqNentries - 1))
    else
      match vq.role with
      | .master => { vr with avail := { vr.avail with flags := setFlag vr.avail.flags } }
      | .slave => { vr with used := { vr.used with flags := setFlag vr.used.flags } }
  (vr, vq.idle)

def vqRingMustNotify (vr : Vring) (vq : Virtqueue) : Bool :=
  if vq.eventIdx then
    match vq.role with
    | .master =>
        vringNeedEvent (vringAvailEvent vr) vr.avail.idx
          (ofInt 16 ((vr.avail.idx : Int) - vq.vqQueuedCnt))
    | .slave =>
        vringNeedEvent (vringUsedEvent vr) vr.used.idx
          (ofInt 16 ((vr.used.idx : Int) - vq.vqQueuedCnt))
  else
    match vq.role with
    | .master => vr.used.flags &&& VRING_USED_F_NO_NOTIFY = 0
    | .slave => vr.avail.flags &&& VRING_AVAIL_F_NO_INTERRUPT = 0

/-- `virtqueue_kick`, with whether it called the notify callback. -/
def virtqueueKick (vr : Vring) (vq : Virtqueue) : Virtqueue × Bool :=
  let vq := vq.busy
  let notified := vqRingMustNotify vr vq && vq.notify
  ({ vq with vqQueuedCnt := 0 }.idle, notified)

end OpenAmp
