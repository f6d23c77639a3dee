import OpenAmp.Library.Loop
import OpenAmp.LoadHistory

/-!
# The resource table where it lies

`handle_rsc_table`, its handlers and `find_rsc` over the memory from the start of the table on, with
every access they make to it. Nothing keeps an offset or an entry inside the table, so the memory goes
on behind the table. The bits of the instance start at its `bitmap`, and the fields after it follow.
-/

namespace OpenAmp

open ByteMemory

inductive RscPart where
  | header
  | offset
  | entry
deriving DecidableEq, Repr

structure RscAccess where
  part : RscPart
  offset : Nat
  len : Nat
deriving DecidableEq, Repr

def RscAccess.Inside (access : RscAccess) (size : Nat) : Prop := access.offset + access.len ≤ size

instance (access : RscAccess) (size : Nat) : Decidable (access.Inside size) :=
  inferInstanceAs (Decidable (_ ≤ _))

structure RscState where
  mem : Nat → UInt8
  bits : Nat → Bool
  accesses : List RscAccess

namespace RscState

def log (s : RscState) (part : RscPart) (offset len : Nat) : RscState :=
  { s with accesses := s.accesses ++ [⟨part, offset, len⟩] }

/-- The value of a field. -/
def field (s : RscState) (offset len : Nat) : Nat := leValue (readBytes s.mem offset len)

def read (s : RscState) (part : RscPart) (offset len : Nat) : RscState × Nat :=
  (s.log part offset len, s.field offset len)

/-- A 32-bit field is stored. -/
def write (s : RscState) (part : RscPart) (offset value : Nat) : RscState :=
  { s.log part offset 4 with mem := writeBytes s.mem offset (leBytes 4 value) }

def allocateId (s : RscState) (notifyid : Nat) : RscState × Nat :=
  let (bits, notifyid) := remoteprocAllocateId s.bits notifyid (u32 (notifyid + 1))
  ({ s with bits }, notifyid)

end RscState

/-! ### Handlers -/

def handleCarveOutRscAt (ops : RscOps) (s : RscState) (rsc : Nat) : RscState × Int :=
  let (s, reserved) := s.read .entry (rsc + 20) 4
  if reserved ≠ 0 then (s, -RPROC_ERR_RSC_TAB_RSVD)
  else
    let (s, pa) := s.read .entry (rsc + 8) 4
    let (s, da) := s.read .entry (rsc + 4) 4
    let (s, size) := s.read .entry (rsc + 12) 4
    let (s, flags) := s.read .entry (rsc + 16) 4
    (s, if ops.mmap ⟨da, pa, size, flags, reserved⟩ then 0 else -RPROC_EINVAL)

def handleVendorRscAt (ops : RscOps) (s : RscState) (rsc type : Nat) : RscState × Int :=
  match ops.handleRsc with
  | none => (s, -RPROC_ERR_RSC_TAB_NS)
  | some handle =>
      let (s, len) := s.read .entry (rsc + 4) 4
      (s, handle ⟨type, len⟩)

/-- The notify id of a vdev or of one of its vrings, at `field`: what is allocated for it is stored in
the entry of the vdev. -/
def handleNotifyIdAt (s : RscState) (rsc field : Nat) : RscState :=
  let (s, notifyid) := s.read .entry field 4
  let (s, notifyid) := s.allocateId notifyid
  if notifyid ≠ RSC_NOTIFY_ID_ANY then s.write .entry (rsc + 8) notifyid else s

/-- `&vdev_rsc->vring[i].notifyid`. -/
def vringNotifyId (rsc i : Nat) : Nat := rsc + 28 + 20 * i + 12

def handleVdevRscAt (s : RscState) (rsc : Nat) : RscState × Int :=
  let s := handleNotifyIdAt s rsc (rsc + 8)
  let (s, numVrings) := s.read .entry (rsc + 25) 1
  ((List.range numVrings).foldl (fun s i => handleNotifyIdAt s rsc (vringNotifyId rsc i)) s, 0)

def handleTraceRscAt (s : RscState) (rsc : Nat) : RscState × Int :=
  let (s, da) := s.read .entry (rsc + 4) 4
  if da = FW_RSC_U32_ADDR_ANY then (s, -RPROC_ERR_RSC_TAB_NS)
  else
    let (s, len) := s.read .entry (rsc + 8) 4
    (s, if len ≠ 0 then 0 else -RPROC_ERR_RSC_TAB_NS)

/-- The entry through the table of handlers, with the status of the entry before it. -/
def handleRscAt (ops : RscOps) (s : RscState) (status : Int) (rsc type : Nat) : RscState × Int :=
  if type = RSC_CARVEOUT then handleCarveOutRscAt ops s rsc
  else if type = RSC_DEVMEM then (s, handleDummyRsc)
  else if type = RSC_TRACE then handleTraceRscAt s rsc
  else if type = RSC_VDEV then handleVdevRscAt s rsc
  else if RSC_VENDOR_START ≤ type ∧ type ≤ RSC_VENDOR_END then handleVendorRscAt ops s rsc type
  else (s, status)

/-! ### The loops -/

structure RscLoop where
  idx : Nat
  status : Int
  s : RscState

/-- A round of the loop over the offsets. -/
def RscLoop.body (ops : RscOps) (io : Option (Nat → Bool)) (l : RscLoop) :
    RscLoop ⊕ (RscState × Int) :=
  let (s, num) := l.s.read .header 4 4
  if l.idx < num then
    let (s, offset) := s.read .offset (16 + 4 * l.idx) 4
    if io.any (fun inside => !inside offset) then .inr (s, -RPROC_ERR_RSC_TAB_TRUNC)
    else
      let (s, type) := s.read .entry offset 4
      let (s, status) := handleRscAt ops s l.status offset type
      if status = -RPROC_ERR_RSC_TAB_NS then .inl ⟨l.idx + 1, 0, s⟩
      else if status ≠ 0 then .inr (s, status)
      else .inl ⟨l.idx + 1, status, s⟩
  else .inr (s, l.status)

/-- `handle_rsc_table`. The count has 32 bits, and so has the number of rounds. -/
def handleRscTableAt (ops : RscOps) (io : Option (Nat → Bool)) (size : Nat) (s : RscState) :
    Option (RscState × Int) :=
  if 16 > size then some (s, -RPROC_ERR_RSC_TAB_TRUNC)
  else
    let (s, ver) := s.read .header 0 4
    if ver ≠ RSC_TAB_SUPPORTED_VERSION then some (s, -RPROC_ERR_RSC_TAB_VER)
    else
      let (s, num) := s.read .header 4 4
      if u32 (16 + num * 4) > size then some (s, -RPROC_ERR_RSC_TAB_TRUNC)
      else
        let (s, reserved) := s.read .header 8 4
        if reserved ≠ 0 then some (s, -RPROC_ERR_RSC_TAB_RSVD)
        else
          let (s, reserved) := s.read .header 12 4
          if reserved ≠ 0 then some (s, -RPROC_ERR_RSC_TAB_RSVD)
          else Loop.run (RscLoop.body ops io) (2 ^ 32) ⟨0, 0, s⟩

structure FindLoop where
  i : Nat
  rscIndex : Nat
  s : RscState

def FindLoop.body (rscType index : Nat) (l : FindLoop) : FindLoop ⊕ (RscState × Nat) :=
  let (s, num) := l.s.read .header 4 4
  if l.i < num then
    let (s, offset) := s.read .offset (16 + 4 * l.i) 4
    let (s, type) := s.read .entry offset 4
    if type = rscType then
      if l.rscIndex = index then
        let (s, offset) := s.read .offset (16 + 4 * l.i) 4
        .inr (s, offset)
      else .inl ⟨l.i + 1, l.rscIndex + 1, s⟩
    else .inl ⟨l.i + 1, l.rscIndex, s⟩
  else .inr (s, 0)

/-- `find_rsc`. -/
def findRscAt (rscType index : Nat) (s : RscState) : Option (RscState × Nat) :=
  Loop.run (FindLoop.body rscType index) (2 ^ 32) ⟨0, 0, s⟩

/-! ### Bounds -/

namespace RscState

/-- The table is looked at for the first time. -/
def fresh (mem : Nat → UInt8) (bits : Nat → Bool) : RscState := ⟨mem, bits, []⟩

/-- `num` of the table. -/
def num (s : RscState) : Nat := s.field 4 4

/-- The header checks let the table pass. -/
structure PassesHeader (s : RscState) (size : Nat) : Prop where
  min : 16 ≤ size
  ver : s.field 0 4 = RSC_TAB_SUPPORTED_VERSION
  offsets : u32 (16 + s.num * 4) ≤ size
  reserved : s.field 8 4 = 0 ∧ s.field 12 4 = 0

end RscState

/-- A table that passes the header checks has its offset array inside the table, and no offset is read
from anywhere else, neither by the parser nor in the table it accepts by `find_rsc`. -/
def HeaderValidates (ops : RscOps) (io : Option (Nat → Bool)) (size : Nat) (mem : Nat → UInt8)
    (bits : Nat → Bool) : Prop :=
  (RscState.fresh mem bits).PassesHeader size →
    16 + 4 * (RscState.fresh mem bits).num ≤ size ∧
      ∃ s status, handleRscTableAt ops io size (.fresh mem bits) = some (s, status) ∧
        (∀ access ∈ s.accesses, access.part = .offset → access.Inside size) ∧
          (status = 0 → ∀ rscType index,
            ∃ s' offset, findRscAt rscType index (.fresh s.mem s.bits) = some (s', offset) ∧
              ∀ access ∈ s'.accesses, access.part = .offset → access.Inside size)

/-- How many bytes of an entry the handler of its type uses. -/
def RscState.extent (s : RscState) (ops : RscOps) (rsc : Nat) : Nat :=
  let type := s.field rsc 4
  if type = RSC_CARVEOUT then 24
  else if type = RSC_TRACE then if s.field (rsc + 4) 4 = FW_RSC_U32_ADDR_ANY then 8 else 12
  else if type = RSC_VDEV then max 26 (24 + 20 * s.field (rsc + 25) 1)
  else if RSC_VENDOR_START ≤ type ∧ type ≤ RSC_VENDOR_END ∧ ops.handleRsc.isSome then 8
  else 4

namespace RscLoop

/-- The entry that a round comes to. -/
def offset (l : RscLoop) : Nat := l.s.field (16 + 4 * l.idx) 4

def Fits (ops : RscOps) (size : Nat) (l : RscLoop) : Prop :=
  l.offset + l.s.extent ops l.offset ≤ size

/-- The entry starts in the region, or there is none. -/
def InRegion (io : Option (Nat → Bool)) (l : RscLoop) : Prop := ∀ inside ∈ io, inside l.offset = true

/-- The state in which the header has been checked. -/
def start (mem : Nat → UInt8) (bits : Nat → Bool) : RscLoop :=
  ⟨0, 0, mem, bits, [⟨.header, 0, 4⟩, ⟨.header, 4, 4⟩, ⟨.header, 8, 4⟩, ⟨.header, 12, 4⟩]⟩

/-- The rounds of the parser on a table that passes. -/
def Rounds (ops : RscOps) (io : Option (Nat → Bool)) (mem : Nat → UInt8) (bits : Nat → Bool)
    (l : RscLoop) : Prop :=
  Loop.Reaches (RscLoop.body ops io) (start mem bits) l

end RscLoop

/-- Everything that is read or written lies inside the table, and an entry that does not fit makes the
round it comes up in return an error and change nothing. -/
def ParsedInBounds (ops : RscOps) (io : Option (Nat → Bool)) (size : Nat) (mem : Nat → UInt8)
    (bits : Nat → Bool) : Prop :=
  (∃ s status, handleRscTableAt ops io size (.fresh mem bits) = some (s, status) ∧
      ∀ access ∈ s.accesses, access.Inside size) ∧
    ((RscState.fresh mem bits).PassesHeader size →
      ∀ l, RscLoop.Rounds ops io mem bits l → l.idx < l.s.num → ¬ l.Fits ops size →
        ∃ s status, RscLoop.body ops io l = .inr (s, status) ∧ status < 0 ∧ s.mem = l.s.mem)

/-! ### Allocation in the instance -/

/-- An allocation finds no id and changes nothing, or it takes an id of the range, one of the bitmap
that was free, and changes no other bit of the instance or behind it. -/
def AllocatesOwnBit (bits : Nat → Bool) (notifyid : Nat) : Prop :=
  let (bits', id) := remoteprocAllocateId bits notifyid (u32 (notifyid + 1))
  (id = RSC_NOTIFY_ID_ANY ∧ bits' = bits) ∨
    ((notifyid = RSC_NOTIFY_ID_ANY ∨ id = notifyid) ∧ id < METAL_BITS_PER_ULONG ∧
      bits id = false ∧ bits' = Bitmap.setBit bits id)

/-- The fields of `struct remoteproc` from `bitmap` on. -/
inductive RprocField where
  | bitmap
  | ops
  | bootaddr
  | loader
  | state
  | priv
deriving DecidableEq, Repr

def RprocField.index : RprocField → Nat
  | .bitmap => 0
  | .ops => 1
  | .bootaddr => 2
  | .loader => 3
  | .state => 4
  | .priv => 5

/-- The bits of a field, each of which takes up a word. -/
def RprocField.word (bits : Nat → Bool) (field : RprocField) (i : Fin 64) : Bool :=
  bits (64 * field.index + i)

end OpenAmp
