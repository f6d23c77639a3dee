import OpenAmp.Lifecycle
import OpenAmp.RscTableBytes

/-!
# The resource table an instance points at

`rsc_table`, `rsc_len` and `rsc_io` of a `struct remoteproc`, which `remoteproc_set_rsc_table` and the
two loaders set, the memory behind them by virtual addresses, and the vdev entry that
`remoteproc_create_virtio` takes from there. What the loaders do before they come to the resource table
is an argument of the call: which blocks are copied to the target, whether the load fails, and the table
that the headers show.
-/

namespace OpenAmp

open ByteMemory

def METAL_BAD_OFFSET : Nat := 2 ^ 64 - 1

/-- A libmetal region: one block of virtual memory, whose physical pages may lie anywhere. -/
structure IoRegion where
  virt : Nat
  size : Nat
  physToOffset : Nat → Nat

namespace IoRegion

variable (io : IoRegion)

def virtToOffset (va : Nat) : Nat :=
  let offset := ofInt 64 ((va : Int) - io.virt)
  if offset < io.size then offset else METAL_BAD_OFFSET

def physToVirt (pa : Nat) : Nat :=
  if io.physToOffset pa < io.size then io.virt + io.physToOffset pa else NULL

/-- `metal_io_block_read`: what the region has of the block, or nothing. -/
def blockRead (offset len : Nat) (ram : Nat → UInt8) : List UInt8 :=
  if offset < io.size then readBytes ram (io.virt + offset) (min len (io.size - offset)) else []

/-- `metal_io_block_write`: a block is cut at the end of the region. -/
def blockWrite (offset : Nat) (bytes : List UInt8) (ram : Nat → UInt8) : Nat → UInt8 :=
  if offset < io.size then writeBytes ram (io.virt + offset) (bytes.take (io.size - offset)) else ram

/-- The region contains the `len` bytes from `va` on. -/
def Contains (va len : Nat) : Prop := io.virt ≤ va ∧ va + len ≤ io.virt + io.size

end IoRegion

/-- `struct remoteproc_mem`. -/
structure VirtMem where
  da : Nat
  pa : Nat
  size : Nat
  io : IoRegion

/-- The memory lies in its region in one piece, and nothing reaches the end of an address space. -/
structure VirtMem.Covered (mem : VirtMem) : Prop where
  virt : 0 < mem.io.virt ∧ mem.io.virt + mem.io.size < 2 ^ 64
  da : mem.da + mem.size < 2 ^ 64
  pa : mem.pa + mem.size < 2 ^ 64
  offset : ∃ offset, offset + mem.size ≤ mem.io.size ∧
    ∀ i < mem.size, mem.io.physToOffset (mem.pa + i) = offset + i

/-- What the platform brings: the memories it has registered, its operations, and what the handlers of
the entries of a table ask it for. -/
structure RscPlatform where
  mems : List VirtMem
  ops : RemoteprocOps
  -- `ops->mmap`, if there is one: an address or NULL, and what it leaves in `*io`
  mmap : Option (Nat → Nat → Option IoRegion → Nat × Option IoRegion)
  rscOps : RscOps
  covered : ∀ mem ∈ mems, mem.Covered
  mmap_contains : ∀ map ∈ mmap, ∀ da size io va region, map da size io = (va, region) → va ≠ NULL →
    ∃ io', region = some io' ∧ io'.Contains va size ∧ io'.virt + io'.size < 2 ^ 64

structure RscProc where
  state : RemoteprocState
  ram : Nat → UInt8
  bits : Nat → Bool
  rscTable : Nat
  rscLen : Nat
  rscIo : Option IoRegion

section Lookup

variable (plat : RscPlatform)

def remoteprocGetIoWithVa (va : Nat) : Option IoRegion :=
  if va = NULL then none
  else (plat.mems.find? fun mem => mem.io.virtToOffset va ≠ METAL_BAD_OFFSET).map VirtMem.io

/-- `remoteproc_mmap` of a device address. -/
def remoteprocMmapVa (da size : Nat) (io : Option IoRegion) : Nat × Option IoRegion :=
  let found :=
    if da = METAL_BAD_PHYS then none
    else plat.mems.find? fun mem =>
      mem.da ≤ da ∧ u64 (da + size) ≤ u64 (mem.da + mem.size)
  match found, plat.mmap with
  | some mem, _ => (mem.io.physToVirt (ofInt 64 ((mem.pa : Int) + da - mem.da)), some mem.io)
  | none, some map => map da size io
  | none, none => (NULL, io)

/-- `handle_rsc_table` of a table at an address. -/
def RscPlatform.handle (io : Option IoRegion) (addr size : Nat) (table : RscState) :
    Option (RscState × Int) :=
  handleRscTableAt plat.rscOps
    (io.map fun io offset => decide (io.virtToOffset (addr + offset) ≠ METAL_BAD_OFFSET)) size table

end Lookup

/-! ### Calls -/

/-- A table that the headers of an image show. -/
structure LoadedTable where
  da : Nat
  size : Nat
  -- the local memory from the copy of the table on, if there is room for it and the store serves it
  copy : Option (Nat → UInt8)
  -- what lies at the error that otherwise takes the place of the address of the copy
  stray : Nat → UInt8

/-- What `remoteproc_load` comes to before it updates the resource table. -/
structure LoadRun where
  -- the blocks that have been copied to the target or padded
  writes : List (Nat × List UInt8)
  -- what the last mapping of a segment has left in `io`
  io : Option IoRegion
  result : Except Int (Option LoadedTable)

/-- What a call of `remoteproc_load_noblock` comes to before it updates the resource table: an error,
a request for more data, or the end of the load with the place of a table. -/
structure NoblockRun where
  -- the blocks its caller has copied to the target since the last call
  writes : List (Nat × List UInt8)
  io : Option IoRegion
  -- where the table is copied to, NULL if there is no memory, and what lies behind it there
  lrscTable : Nat
  behind : Nat → UInt8
  result : Except Int (Option (Option (Nat × Nat)))

inductive RscAction where
  | setRscTable (addr size : Nat)
  | load (run : LoadRun)
  | loadNoblock (run : NoblockRun)
  | lifecycle (action : LcmAction)

namespace RscProc

/-- After `remoteproc_init`. -/
def init (ram : Nat → UInt8) : RscProc := ⟨.offline, ram, fun _ => false, NULL, 0, none⟩

/-- The memory from an address on, as that of a table. -/
def tableAt (s : RscProc) (addr : Nat) : RscState := .fresh (fun i => s.ram (addr + i)) s.bits

/-- What `handle_rsc_table` leaves behind of the table at an address. -/
def parsed (s : RscProc) (addr : Nat) (table : RscState) : RscProc :=
  { s with
    ram := fun a => if a < addr then s.ram a else table.mem (a - addr)
    bits := table.bits }

def setRscTable (plat : RscPlatform) (s : RscProc) (addr size : Nat) : Option (Int × RscProc) :=
  match remoteprocGetIoWithVa plat addr with
  | none => some (-RPROC_EINVAL, s)
  | some io => do
      let (table, status) ← plat.handle (some io) addr size (s.tableAt addr)
      let s := s.parsed addr table
      if status = 0 then
        some (status, { s with rscTable := addr, rscLen := size, rscIo := some io })
      else some (status, s)

/-- `remoteproc_get_rsc_table`: what the loader then takes for the copy of the table. Where the table
could not be fetched or was not accepted, that is whatever lies at the error. -/
def getRscTable (plat : RscPlatform) (s : RscProc) (table : LoadedTable) :
    Option (RscProc × (Nat → UInt8)) :=
  match table.copy with
  | none => some (s, table.stray)
  | some mem => do
      let (copy, status) ← plat.handle none NULL table.size (.fresh mem s.bits)
      some ({ s with bits := copy.bits }, if status < 0 then table.stray else copy.mem)

/-- The end of `remoteproc_load`. -/
def loadTable (plat : RscPlatform) (s : RscProc) (io : Option IoRegion) (table : LoadedTable) :
    Option RscProc := do
  let (s, copy) ← s.getRscTable plat table
  match remoteprocMmapVa plat table.da table.size io with
  | (va, io) =>
      if va = NULL then some s
      else
        let io ← io
        some { s with
          ram := io.blockWrite (io.virtToOffset va) (readBytes copy 0 table.size) s.ram
          rscTable := va
          rscLen := table.size
          rscIo := some io }

def load (plat : RscPlatform) (s : RscProc) (run : LoadRun) : Option RscProc :=
  if s.state ≠ .ready ∧ s.state ≠ .configured then some s
  else
    let s := { s with ram := writeBlocks s.ram run.writes }
    match run.result with
    | .error _ => some s
    | .ok none => some { s with state := .ready }
    | .ok (some table) => (s.loadTable plat run.io table).map fun s => { s with state := .ready }

/-- The local copy of a table that has been loaded with the segments, and where it comes from, if there
is memory for it and it can be read. -/
def noblockCopy (plat : RscPlatform) (s : RscProc) (run : NoblockRun) (da size : Nat) :
    Option (IoRegion × Nat × RscState) :=
  if run.lrscTable = NULL then none
  else
    match remoteprocMmapVa plat da size run.io with
    | (_, none) => none
    | (va, some io) =>
        let table := io.blockRead (io.virtToOffset va) size s.ram
        if table.length ≠ size then none
        else some (io, va, .fresh (blockMem table run.behind) s.bits)

/-- The end of `remoteproc_load_noblock`. -/
def noblockTable (plat : RscPlatform) (s : RscProc) (run : NoblockRun) (da size : Nat) :
    Option RscProc :=
  match s.noblockCopy plat run da size with
  | none => some s
  | some (io, va, copy) => do
      let (copy, status) ←
        plat.handle (remoteprocGetIoWithVa plat run.lrscTable) run.lrscTable size copy
      let s := { s with bits := copy.bits }
      if status < 0 then some s
      else
        some { s with
          ram := io.blockWrite (io.virtToOffset va) (readBytes copy.mem 0 size) s.ram
          rscTable := va
          rscLen := size }

/-- The blocks that the caller has copied are there in every case. -/
def loadNoblock (plat : RscPlatform) (s : RscProc) (run : NoblockRun) : Option RscProc :=
  let s := { s with ram := writeBlocks s.ram run.writes }
  if s.state ≠ .ready then some s
  else
    match run.result with
    | .error _ => some s
    | .ok none => some s
    | .ok (some none) => some s
    | .ok (some (some (da, size))) => s.noblockTable plat run da size

def step (plat : RscPlatform) (s : RscProc) : RscAction → Option RscProc
  | .setRscTable addr size => (s.setRscTable plat addr size).map Prod.snd
  | .load run => s.load plat run
  | .loadNoblock run => s.loadNoblock plat run
  | .lifecycle (.load _ _) => none
  | .lifecycle (.loadNoblock _ _) => none
  | .lifecycle action =>
      some { s with state := (RemoteprocLcm.call plat.ops ⟨s.state, true, []⟩ action).2.state }

/-- The vdev entry of an id, with its vrings, as `remoteproc_create_virtio` finds it: its address and how
many bytes it takes. -/
def vdevRsc (s : RscProc) (vdevId : Nat) : Option (Nat × Nat) := do
  let (table, offset) ← findRscAt RSC_VDEV vdevId (s.tableAt s.rscTable)
  if offset = 0 then none
  else some (s.rscTable + offset, 28 + 20 * table.field (offset + 25) 1)

end RscProc

/-! ### Consistency -/

/-- `handle_rsc_table` has left these bytes behind and not refused them. -/
def RscPlatform.Accepted (plat : RscPlatform) (bytes : List UInt8) : Prop :=
  ∃ io addr size before after status, plat.handle io addr size before = some (after, status) ∧
    0 ≤ status ∧ readBytes after.mem 0 size = bytes

namespace RscState

variable (s : RscState)

/-- The offset of an entry. -/
def entry (i : Nat) : Nat := s.field (16 + 4 * i) 4

def IsVdev (i : Nat) : Prop := s.field (s.entry i) 4 = RSC_VDEV

/-- The offset array and the entries lie in the table, a vdev with its vrings. -/
structure EntriesInside (size : Nat) : Prop where
  offsets : 16 + 4 * s.num ≤ size
  types : ∀ i < s.num, s.entry i + 4 ≤ size
  vdevs : ∀ i < s.num, s.IsVdev i → s.entry i + 28 + 20 * s.field (s.entry i + 25) 1 ≤ size

/-- A byte of the offset array, of the type of an entry or of the number of its vrings. -/
def ShapeByte (a : Nat) : Prop :=
  (16 ≤ a ∧ a < 16 + 4 * s.num) ∨
    ∃ i < s.num, (s.entry i ≤ a ∧ a < s.entry i + 4) ∨ (s.IsVdev i ∧ a = s.entry i + 25)

/-- A byte of the notify id of a vdev. -/
def IdByte (a : Nat) : Prop :=
  ∃ i < s.num, s.IsVdev i ∧ s.entry i + 8 ≤ a ∧ a < s.entry i + 12

/-- None is a byte of both kinds. -/
def IdsApart : Prop := ∀ a, s.IdByte a → ¬ s.ShapeByte a

/-- Entries that lie in the table and do not overlap where the parser writes. -/
structure WellPlaced (size : Nat) : Prop extends s.EntriesInside size where
  apart : s.IdsApart

end RscState

namespace RscProc

/-- The block has no byte in common with the table pointed at. -/
def Apart (s : RscProc) (block : Nat × Nat) : Prop :=
  s.rscTable = NULL ∨ block.1 + block.2 ≤ s.rscTable ∨ s.rscTable + s.rscLen ≤ block.1

/-- No block is copied over the table pointed at. -/
def WritesApart (s : RscProc) (writes : List (Nat × List UInt8)) : Prop :=
  ∀ block ∈ writes, s.Apart (block.1, block.2.length)

/-- What keeps the table and its region in step when `remoteproc_set_rsc_table` comes to the entries of a
table: it lies in the region of its address, and is accepted or another one. -/
def CarefulSet (plat : RscPlatform) (s : RscProc) (addr size : Nat) : Prop :=
  ∀ io, remoteprocGetIoWithVa plat addr = some io → (s.tableAt addr).PassesHeader size →
    io.Contains addr size ∧ (s.tableAt addr).WellPlaced size ∧
      ((plat.handle (some io) addr size (s.tableAt addr)).map Prod.snd = some 0 ∨
        s.Apart (addr, size))

/-- What `remoteproc_load` has to bring for a table that it can map. -/
def CarefulTable (plat : RscPlatform) (s : RscProc) (table : LoadedTable) : Prop :=
  table.da + table.size < 2 ^ 64 ∧ ∃ mem, table.copy = some mem ∧
    (RscState.fresh mem s.bits).WellPlaced table.size ∧
      ∀ copy status, plat.handle none NULL table.size (.fresh mem s.bits) = some (copy, status) →
        0 ≤ status

/-- A load brings such a table, or copies nothing over the one pointed at. -/
def CarefulLoad (plat : RscPlatform) (s : RscProc) (run : LoadRun) : Prop :=
  match run.result with
  | .ok (some table) =>
      if (remoteprocMmapVa plat table.da table.size run.io).1 ≠ NULL then s.CarefulTable plat table
      else s.WritesApart run.writes
  | _ => s.WritesApart run.writes

/-- A call of `remoteproc_load_noblock` accepts a table of the region. -/
def AcceptsNoblock (plat : RscPlatform) (s : RscProc) (run : NoblockRun) (da size : Nat)
    (io : IoRegion) (copy : RscState) : Prop :=
  s.state = .ready ∧ run.result = .ok (some (some (da, size))) ∧ ∃ va after status,
    noblockCopy plat { s with ram := writeBlocks s.ram run.writes } run da size =
      some (io, va, copy) ∧
    plat.handle (remoteprocGetIoWithVa plat run.lrscTable) run.lrscTable size copy =
      some (after, status) ∧ 0 ≤ status

/-- The region of a table that it accepts is the one of the table before, and nothing else is copied over
that. -/
def CarefulNoblock (plat : RscPlatform) (s : RscProc) (run : NoblockRun) : Prop :=
  (s.WritesApart run.writes ∨ ∃ da size io copy, s.AcceptsNoblock plat run da size io copy) ∧
    ∀ da size io copy, s.AcceptsNoblock plat run da size io copy →
      da + size < 2 ^ 64 ∧ copy.WellPlaced size ∧ s.rscIo = some io

/-- What keeps the three fields in step. -/
def Careful (plat : RscPlatform) (s : RscProc) : RscAction → Prop
  | .setRscTable addr size => s.CarefulSet plat addr size
  | .load run => s.state = .ready ∨ s.state = .configured → s.CarefulLoad plat run
  | .loadNoblock run => s.CarefulNoblock plat run
  | .lifecycle _ => True

end RscProc

end OpenAmp
