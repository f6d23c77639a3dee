import Mathlib.Order.Interval.Set.Defs
import OpenAmp.ResourceTable
import OpenAmp.Virtqueue

/-!
# Where the parts of a vring lie

The byte layout of `lib/include/openamp/virtio_ring.h`, and the way of a vring's size and alignment
from its resource entry to a virtqueue: `remoteproc_create_virtio` maps the ring,
`rproc_virtio_init_vring` keeps what describes it and `virtio_create_virtqueues` clears it and lays
it out.
-/

namespace OpenAmp

def ERROR_VQUEUE_INVLD_PARAM : Int := VQ_ERROR_BASE - 8

def sizeofUint16 : Nat := 2
def sizeofVringDesc : Nat := 16
def sizeofVringAvail : Nat := 4
def sizeofVringUsed : Nat := 4
def sizeofVringUsedElem : Nat := 8

/-! ### Layout -/

/-- `(value + align - 1) & ~(align - 1)` on `unsigned long`. -/
def alignUp (value align : Nat) : Nat :=
  ofInt 64 ((value : Int) + align - 1) &&& (2 ^ 64 - 1 - ofInt 64 ((align : Int) - 1))

/-- The values `vring_size` assigns to its `int size`, in order, before their conversion to `int`.
An `int` operand of an `unsigned long` sum is converted to that type first. -/
structure VringSizes where
  desc : Nat
  avail : Nat
  aligned : Nat
  used : Nat
deriving DecidableEq, Repr

def vringSizes (num align : Nat) : VringSizes :=
  let desc := u64 (num * sizeofVringDesc)
  let avail := u64 (ofInt 64 (toInt32 desc) +
    (sizeofVringAvail + num * sizeofUint16 + sizeofUint16))
  let aligned := alignUp (ofInt 64 (toInt32 avail)) align
  let used := u64 (ofInt 64 (toInt32 aligned) +
    (sizeofVringUsed + num * sizeofVringUsedElem + sizeofUint16))
  ⟨desc, avail, aligned, used⟩

def vringSize (num align : Nat) : Int := toInt32 (vringSizes num align).used

def VringSizes.toList (sizes : VringSizes) : List Nat :=
  [sizes.desc, sizes.avail, sizes.aligned, sizes.used]

/-- `struct vring`: the addresses of its three parts. -/
structure VringAddrs where
  num : Nat
  desc : Nat
  avail : Nat
  used : Nat
deriving DecidableEq, Repr

/-- `&avail->ring[i]`. -/
def availRingAddr (avail i : Nat) : Nat := avail + sizeofVringAvail + i * sizeofUint16

/-- `&used->ring[i]`. -/
def usedRingAddr (used i : Nat) : Nat := used + sizeofVringUsed + i * sizeofVringUsedElem

def vringInit (num p align : Nat) : VringAddrs :=
  let avail := u64 (p + num * sizeofVringDesc)
  { num
    desc := p
    avail
    used := alignUp (u64 (availRingAddr avail num + sizeofUint16)) align }

namespace VringAddrs

variable (vr : VringAddrs)

/-- The bytes of `desc[0]` to `desc[num - 1]`. -/
def descBytes : Set Nat := Set.Ico vr.desc (vr.desc + vr.num * sizeofVringDesc)

/-- The available ring up to and with `vring_used_event`, the slot after its last one. -/
def availBytes : Set Nat := Set.Ico vr.avail (availRingAddr vr.avail vr.num + sizeofUint16)

/-- The used ring up to and with `vring_avail_event`, the first half of the element after its
last one. -/
def usedBytes : Set Nat := Set.Ico vr.used (usedRingAddr vr.used vr.num + sizeofUint16)

def bytes : Set Nat := vr.descBytes ∪ vr.availBytes ∪ vr.usedBytes

end VringAddrs

/-! ### From the resource entry to the virtqueue -/

/-- `struct fw_rsc_vdev_vring` with what describes the ring. -/
structure FwRscVdevVringRing extends FwRscVdevVring where
  da : Nat
  align : Nat
  num : Nat
deriving DecidableEq, Repr

structure VringAllocInfo where
  vaddr : Nat
  align : Nat
  numDescs : Nat
deriving DecidableEq, Repr

structure VirtioVringInfo where
  notifyid : Nat
  info : VringAllocInfo
deriving DecidableEq, Repr

def rprocVirtioInitVring (vringsNum index notifyid va numDescs align : Nat) :
    Except Int VirtioVringInfo :=
  if index ≥ vringsNum then .error (-RPROC_EINVAL)
  else .ok { notifyid, info := { vaddr := va, align := u32 align, numDescs := u16 numDescs } }

/-- The `size_t` that `remoteproc_create_virtio` asks a mapping of a vring to have. -/
def vringMapSize (vring : FwRscVdevVringRing) : Nat := ofInt 64 (vringSize vring.num vring.align)

/-- What the platform answers while a device is created: whether `virtqueue_allocate` finds memory
for a control block with that many extra descriptors, and the address `remoteproc_mmap` returns for
a device address and a size. -/
structure VdevOps where
  allocate : Nat → Bool
  mmap : Nat → Nat → Nat

/-- `rproc_virtio_create_vdev` allocates a control block for each vring. -/
def rprocVirtioAllocateVqs (ops : VdevOps) (role : Role) (vrings : List FwRscVdevVringRing) : Bool :=
  vrings.all fun vring => ops.allocate (if role = .master then vring.num else 0)

/-- The loop of `remoteproc_create_virtio` over the vrings from `i` on. -/
def remoteprocCreateVirtioVrings (ops : VdevOps) (vringsNum : Nat) :
    Nat → List FwRscVdevVringRing → Option (List VirtioVringInfo)
  | _, [] => some []
  | i, vring :: vrings =>
      let va := ops.mmap vring.da (vringMapSize vring)
      if va = NULL then none
      else
        match rprocVirtioInitVring vringsNum i vring.notifyid va vring.num vring.align with
        | .error _ => none
        | .ok info => (remoteprocCreateVirtioVrings ops vringsNum (i + 1) vrings).map (info :: ·)

/-- What `remoteproc_create_virtio` leaves in `vrings_info` of a new device. -/
def remoteprocCreateVringsInfo (ops : VdevOps) (role : Role) (vrings : List FwRscVdevVringRing) :
    Option (List VirtioVringInfo) :=
  if rprocVirtioAllocateVqs ops role vrings then
    remoteprocCreateVirtioVrings ops vrings.length 0 vrings
  else none

/-- A virtqueue `virtio_create_virtqueues` has created: the block it cleared first, as an address
and a length, the layout of the vring and the control block. -/
structure CreatedVirtqueue where
  cleared : Option (Nat × Int)
  vring : VringAddrs
  vq : Virtqueue

/-- `vq_ring_init` converts the alignment to `int`, and `vring_init` that to `unsigned long`. -/
def vqRingInitAddrs (nentries ringMem align : Nat) : VringAddrs :=
  vringInit nentries ringMem (ofInt 64 (toInt32 align))

/-- One round of the loop. `content` is the vring found in the memory. -/
def virtioCreateVirtqueue (role : Role) (features id : Nat) (content : Vring)
    (info : VringAllocInfo) : CreatedVirtqueue :=
  let vq := (virtqueueCreate role features id info.numDescs true content virtqueueAllocate).2
  { cleared := if role = .master then some (info.vaddr, vringSize info.numDescs info.align) else none
    vring := vqRingInitAddrs vq.vqNentries info.vaddr info.align
    vq }

/-- In the default build `virtqueue_create` checks nothing and always succeeds. -/
def virtioCreateVirtqueues (role : Role) (features : Nat) (content : Nat → Vring)
    (vringsInfo : List VirtioVringInfo) (nvqs : Nat) : Except Int (List CreatedVirtqueue) :=
  if nvqs > vringsInfo.length then .error ERROR_VQUEUE_INVLD_PARAM
  else .ok ((vringsInfo.take nvqs).mapIdx fun i vringInfo =>
    virtioCreateVirtqueue role features i (content vringInfo.info.vaddr) vringInfo.info)

end OpenAmp
