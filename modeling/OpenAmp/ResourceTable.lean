import OpenAmp.Library.Bitmap
import OpenAmp.ElfLoader

/-!
# The resource table and the notify ids in it

`lib/remoteproc/rsc_table_parser.c` over a table in memory, and `remoteproc_allocate_id`. The entries
lie apart from each other, so a table is the list of what its offsets point at. Mapping a carveout
and the vendor's handler belong to the platform; neither touches the table or the ids.
-/

namespace OpenAmp

def METAL_BITS_PER_ULONG : Nat := 64
def RSC_NOTIFY_ID_ANY : Nat := 0xFFFFFFFF
def RSC_TAB_SUPPORTED_VERSION : Nat := 1
def FW_RSC_U32_ADDR_ANY : Nat := 0xFFFFFFFF
def RPROC_ERR_RSC_TAB_TRUNC : Int := 5
def RPROC_ERR_RSC_TAB_VER : Int := 6
def RPROC_ERR_RSC_TAB_RSVD : Int := 7
def RPROC_ERR_RSC_TAB_NS : Int := 11

/-! ### Entries -/

structure FwRscCarveout where
  da : Nat
  pa : Nat
  len : Nat
  flags : Nat
  reserved : Nat
deriving DecidableEq, Repr

structure FwRscTrace where
  da : Nat
  len : Nat
deriving DecidableEq, Repr

structure FwRscVdevVring where
  notifyid : Nat
deriving DecidableEq, Repr

/-- `struct fw_rsc_vdev`: `num_of_vrings` is the length of `vring`. -/
structure FwRscVdev where
  notifyid : Nat
  vring : List FwRscVdevVring
deriving DecidableEq, Repr

structure FwRscVendor where
  type : Nat
  len : Nat
deriving DecidableEq, Repr

/-- An entry by its type: the four types below `RSC_LAST`, those from `RSC_VENDOR_START` to
`RSC_VENDOR_END`, and the rest. -/
inductive FwRsc where
  | carveout (rsc : FwRscCarveout)
  | devmem
  | trace (rsc : FwRscTrace)
  | vdev (rsc : FwRscVdev)
  | vendor (rsc : FwRscVendor)
  | other (type : Nat)
deriving DecidableEq, Repr

/-- `struct resource_table`, with each offset next to the entry found there. -/
structure ResourceTable where
  ver : Nat
  reserved : Nat × Nat
  entries : List (Nat × FwRsc)
deriving DecidableEq, Repr

def FwRsc.vdev? : FwRsc → Option FwRscVdev
  | .vdev rsc => some rsc
  | _ => none

/-- The vdev entries, in the order of the offsets. -/
def rscVdevs (entries : List (Nat × FwRsc)) : List FwRscVdev :=
  entries.filterMap fun entry => entry.2.vdev?

/-- The ids of a vdev entry: its own and those of its vrings. -/
def FwRscVdev.notifyIds (rsc : FwRscVdev) : List Nat :=
  rsc.notifyid :: rsc.vring.map FwRscVdevVring.notifyid

def ResourceTable.notifyIds (table : ResourceTable) : List Nat :=
  (rscVdevs table.entries).flatMap FwRscVdev.notifyIds

/-- What the platform answers while a table is parsed. -/
structure RscOps where
  -- whether `remoteproc_mmap` finds a mapping for a carveout
  mmap : FwRscCarveout → Bool
  handleRsc : Option (FwRscVendor → Int)

/-! ### Handlers -/

/-- The bit that libmetal's helpers go to, counted from the bitmap on. They take it as an `int`, and
divide that by `METAL_BITS_PER_ULONG` as an `unsigned long`. -/
def metalBit (x : Nat) : Nat := ofInt 64 (toInt32 x)

def remoteprocAllocateId (bitmap : Nat → Bool) (start last : Nat) : (Nat → Bool) × Nat :=
  let start := if start = RSC_NOTIFY_ID_ANY then 0 else start
  let last := if last = 0 then METAL_BITS_PER_ULONG else last
  let notifyid := Bitmap.nextClearBit (fun bit => bitmap (metalBit bit)) start last
  if notifyid ≠ last then
    (Bitmap.setBit bitmap (metalBit notifyid), notifyid)
  else
    (bitmap, RSC_NOTIFY_ID_ANY)

def handleCarveOutRsc (ops : RscOps) (rsc : FwRscCarveout) : Int :=
  if rsc.reserved ≠ 0 then -RPROC_ERR_RSC_TAB_RSVD
  else if ops.mmap rsc then 0 else -RPROC_EINVAL

def handleVendorRsc (ops : RscOps) (rsc : FwRscVendor) : Int :=
  match ops.handleRsc with
  | some handle => handle rsc
  | none => -RPROC_ERR_RSC_TAB_NS

/-- The loop over the vrings. The id of a vring is read from its own entry and the one allocated for
it is written to the entry of the vdev. -/
def handleVdevVrings : (Nat → Bool) → Nat → List FwRscVdevVring → (Nat → Bool) × Nat
  | bitmap, vdevId, [] => (bitmap, vdevId)
  | bitmap, vdevId, vring :: vrings =>
      let (bitmap, notifyid) :=
        remoteprocAllocateId bitmap vring.notifyid (u32 (vring.notifyid + 1))
      handleVdevVrings bitmap (if notifyid ≠ RSC_NOTIFY_ID_ANY then notifyid else vdevId) vrings

def handleVdevRsc (bitmap : Nat → Bool) (rsc : FwRscVdev) : (Nat → Bool) × FwRscVdev × Int :=
  let (bitmap, notifyid) := remoteprocAllocateId bitmap rsc.notifyid (u32 (rsc.notifyid + 1))
  let vdevId := if notifyid ≠ RSC_NOTIFY_ID_ANY then notifyid else rsc.notifyid
  let (bitmap, vdevId) := handleVdevVrings bitmap vdevId rsc.vring
  (bitmap, { rsc with notifyid := vdevId }, 0)

def handleTraceRsc (rsc : FwRscTrace) : Int :=
  if rsc.da ≠ FW_RSC_U32_ADDR_ANY ∧ rsc.len ≠ 0 then 0 else -RPROC_ERR_RSC_TAB_NS

def handleDummyRsc : Int := -RPROC_ERR_RSC_TAB_NS

/-- One entry through the table of handlers. A type that has no handler leaves the status of the
entry before it. -/
def handleRsc (ops : RscOps) (bitmap : Nat → Bool) (status : Int) :
    FwRsc → (Nat → Bool) × FwRsc × Int
  | .carveout rsc => (bitmap, .carveout rsc, handleCarveOutRsc ops rsc)
  | .devmem => (bitmap, .devmem, handleDummyRsc)
  | .trace rsc => (bitmap, .trace rsc, handleTraceRsc rsc)
  | .vdev rsc =>
      let (bitmap, rsc, status) := handleVdevRsc bitmap rsc
      (bitmap, .vdev rsc, status)
  | .vendor rsc => (bitmap, .vendor rsc, handleVendorRsc ops rsc)
  | .other type => (bitmap, .other type, status)

/-! ### The whole table -/

/-- The loop over the offsets. `io` tells whether an offset lies in the region of the table; there is
none for a table in local memory. -/
def handleRscs (ops : RscOps) (io : Option (Nat → Bool)) :
    (Nat → Bool) → Int → List (Nat × FwRsc) → (Nat → Bool) × List (Nat × FwRsc) × Int
  | bitmap, status, [] => (bitmap, [], status)
  | bitmap, status, (offset, rsc) :: entries =>
      if io.any (fun inside => !inside offset) then
        (bitmap, (offset, rsc) :: entries, -RPROC_ERR_RSC_TAB_TRUNC)
      else
        let (bitmap, rsc, status) := handleRsc ops bitmap status rsc
        if status = -RPROC_ERR_RSC_TAB_NS then
          let (bitmap, entries, status) := handleRscs ops io bitmap 0 entries
          (bitmap, (offset, rsc) :: entries, status)
        else if status ≠ 0 then
          (bitmap, (offset, rsc) :: entries, status)
        else
          let (bitmap, entries, status) := handleRscs ops io bitmap status entries
          (bitmap, (offset, rsc) :: entries, status)

def handleRscTable (ops : RscOps) (io : Option (Nat → Bool)) (size : Nat) (bitmap : Nat → Bool)
    (table : ResourceTable) : (Nat → Bool) × ResourceTable × Int :=
  if 16 > size then (bitmap, table, -RPROC_ERR_RSC_TAB_TRUNC)
  else if table.ver ≠ RSC_TAB_SUPPORTED_VERSION then (bitmap, table, -RPROC_ERR_RSC_TAB_VER)
  else if u32 (16 + table.entries.length * 4) > size then
    (bitmap, table, -RPROC_ERR_RSC_TAB_TRUNC)
  else if table.reserved.1 ≠ 0 ∨ table.reserved.2 ≠ 0 then
    (bitmap, table, -RPROC_ERR_RSC_TAB_RSVD)
  else
    let (bitmap, entries, status) := handleRscs ops io bitmap 0 table.entries
    (bitmap, { table with entries }, status)

/-- `find_rsc` for an entry of type `RSC_VDEV`. -/
def findRsc (index : Nat) : List (Nat × FwRsc) → Option FwRscVdev
  | [] => none
  | (_, .vdev rsc) :: entries =>
      match index with
      | 0 => some rsc
      | index + 1 => findRsc index entries
  | _ :: entries => findRsc index entries

end OpenAmp
