import OpenAmp.ElfPointers
import OpenAmp.Library.FirstMatch
import OpenAmp.Library.FixedString
import OpenAmp.RscPointers

/-!
# The memories of a remote processor

`remoteproc_get_mem` of `lib/remoteproc/remoteproc.c` with each of its keys, and the functions that
look something up through it: the regions by name and by address, and `remoteproc_mmap`.
-/

namespace OpenAmp

def RPROC_MAX_NAME_LEN : Nat := 32

/-- `struct remoteproc_mem` with its name. -/
structure NamedMem extends VirtMem where
  name : List UInt8

/-- `remoteproc_init_mem`. Without a name only the first byte of the array is set. -/
def remoteprocInitMem (mem : NamedMem) (name : Option CString) (pa da size : Nat) (io : IoRegion) :
    NamedMem where
  da := da
  pa := pa
  size := size
  io := io
  name := match name with
    | some name => FixedString.copy RPROC_MAX_NAME_LEN name.1
    | none => mem.name.set 0 0

/-- The range test of `remoteproc_get_mem`, in 64-bit arithmetic. -/
def rangeTest (start : NamedMem → Nat) (addr size : Nat) (mem : NamedMem) : Prop :=
  start mem ≤ addr ∧ u64 (addr + size) ≤ u64 (start mem + mem.size)

instance (start : NamedMem → Nat) (addr size : Nat) : DecidablePred (rangeTest start addr size) :=
  fun _ => inferInstanceAs (Decidable (_ ∧ _))

/-- The key that decides: a physical address, or else a device address. -/
def memRequest (pa da : Nat) : Option ((NamedMem → Nat) × Nat) :=
  if pa ≠ METAL_BAD_PHYS then some (fun mem => mem.pa, pa)
  else if da ≠ METAL_BAD_PHYS then some (fun mem => mem.da, da)
  else none

/-- The test of one memory. -/
def memTest (name : Option CString) (pa da va size : Nat) (mem : NamedMem) : Bool :=
  match name, memRequest pa da with
  | some name, _ => FixedString.Agree name.1.length name.1 mem.name
  | none, some (start, addr) => rangeTest start addr size mem
  | none, none => va ≠ NULL ∧ mem.io.virtToOffset va ≠ METAL_BAD_OFFSET

def remoteprocFindMem (mems : List NamedMem) (name : Option CString) (pa da va size : Nat) :
    Option NamedMem :=
  if name.any fun name => name.1.length > RPROC_MAX_NAME_LEN then none
  else mems.find? (memTest name pa da va size)

def remoteprocMemDatopa (mem : NamedMem) (da : Nat) : Nat := ofInt 64 ((mem.pa : Int) + da - mem.da)

def remoteprocMemPatoda (mem : NamedMem) (pa : Nat) : Nat := ofInt 64 ((mem.da : Int) + pa - mem.pa)

/-! ### Regions -/

def remoteprocGetIoWithName (mems : List NamedMem) (name : CString) : Option IoRegion :=
  (remoteprocFindMem mems (some name) METAL_BAD_PHYS METAL_BAD_PHYS NULL 0).map fun mem => mem.io

def remoteprocGetIoWithPa (mems : List NamedMem) (pa : Nat) : Option IoRegion :=
  (remoteprocFindMem mems none pa METAL_BAD_PHYS NULL 0).map fun mem => mem.io

/-- The region, and what `*offset` is set to. -/
def remoteprocGetIoWithDa (mems : List NamedMem) (da : Nat) : Option (IoRegion × Nat) :=
  (remoteprocFindMem mems none METAL_BAD_PHYS da NULL 0).map fun mem =>
    (mem.io, mem.io.physToOffset (remoteprocMemDatopa mem da))

/-! ### Mappings -/

/-- What `ops->mmap` returns and leaves in its variables. -/
structure PlatformMap where
  va : Nat
  pa : Nat
  da : Nat
  io : Option IoRegion

/-- What `remoteproc_mmap` returns and stores through the pointers that are not NULL, and the registered
memory that has the range. -/
structure MmapOut where
  mem : Option NamedMem
  va : Nat
  pa : Nat
  da : Nat
  io : Option IoRegion

/-- The two addresses, once a memory has been found. -/
def mmapAddrs (mem : NamedMem) (pa da : Nat) : Nat × Nat :=
  if pa ≠ METAL_BAD_PHYS then (pa, remoteprocMemPatoda mem pa)
  else if da ≠ METAL_BAD_PHYS then (remoteprocMemDatopa mem da, da)
  else (pa, da)

/-- `remoteproc_mmap` for addresses behind pointers that may be NULL. -/
def remoteprocMmapMems (mems : List NamedMem)
    (map : Option (Nat → Nat → Nat → Nat → Option IoRegion → PlatformMap)) (pa da : Option Nat)
    (size attr : Nat) (io : Option IoRegion) : MmapOut :=
  let lpa := pa.getD METAL_BAD_PHYS
  let lda := da.getD METAL_BAD_PHYS
  if pa = none ∧ da = none then ⟨none, NULL, lpa, lda, io⟩
  else
    match remoteprocFindMem mems none lpa lda NULL size with
    | some mem =>
        let (lpa, lda) := mmapAddrs mem lpa lda
        ⟨some mem, mem.io.physToVirt lpa, lpa, lda, some mem.io⟩
    | none =>
        match map with
        | some map =>
            let out := map lpa lda size attr io
            ⟨none, out.va, out.pa, out.da, out.io⟩
        | none => ⟨none, NULL, lpa, lda, io⟩

/-! ### What is asked of the lookups -/

/-- A memory that does not wrap around the end of an address space. -/
structure NamedMem.NonWrapping (mem : NamedMem) : Prop where
  size : mem.size < 2 ^ 64
  pa : mem.pa + mem.size ≤ 2 ^ 64
  da : mem.da + mem.size ≤ 2 ^ 64

/-- The memory has the whole range, in one of its address spaces. -/
def RangeIn (start : NamedMem → Nat) (addr size : Nat) (mem : NamedMem) : Prop :=
  start mem ≤ addr ∧ addr + size ≤ start mem + mem.size

/-- The memory has the address, in one of its address spaces. -/
def AddrIn (start : NamedMem → Nat) (addr : Nat) (mem : NamedMem) : Prop :=
  start mem ≤ addr ∧ addr < start mem + mem.size

/-- Both views of a mapping lie in the memory, each byte at the same offset. -/
def MapsInside (mem : NamedMem) (pa da size : Nat) : Prop :=
  ∀ i < size, ∃ k < mem.size, pa + i = mem.pa + k ∧ da + i = mem.da + k

/-- The ranges that a call maps through a registered memory lie in that memory, and a range that some
memory has is mapped through one that has it. -/
structure MmapContained (mems : List NamedMem) (pa da : Option Nat) (size : Nat) (out : MmapOut) :
    Prop where
  inside : ∀ mem, out.mem = some mem → MapsInside mem out.pa out.da size
  resolved : ∀ start addr,
    memRequest (pa.getD METAL_BAD_PHYS) (da.getD METAL_BAD_PHYS) = some (start, addr) →
    (∃ mem ∈ mems, RangeIn start addr size mem) →
      ∃ mem, out.mem = some mem ∧ RangeIn start addr size mem

/-- Where the 64-bit sums of the range test mislead nobody: a range that ends below `2 ^ 64` lies in no
memory, or in one that ends there too; of the memories that start at or below a range that ends at
`2 ^ 64`, the first one does so too; and no memory that starts at or below a range that wraps around
ends, modulo `2 ^ 64`, where the range does or behind that. -/
structure RangeSums (mems : List NamedMem) (start : NamedMem → Nat) (addr size : Nat) : Prop where
  below : addr + size < 2 ^ 64 → (∃ mem ∈ mems, RangeIn start addr size mem) →
    ∃ mem ∈ mems, RangeIn start addr size mem ∧ start mem + mem.size < 2 ^ 64
  top : addr + size = 2 ^ 64 → ∀ mem, (mems.find? fun mem => start mem ≤ addr) = some mem →
    start mem + mem.size = 2 ^ 64
  beyond : 2 ^ 64 < addr + size → ∀ mem ∈ mems, start mem ≤ addr →
    u64 (start mem + mem.size) < u64 (addr + size)

/-- The fields have the width of their types. -/
structure NamedMem.Words (mem : NamedMem) : Prop where
  pa : mem.pa < 2 ^ 64
  da : mem.da < 2 ^ 64
  size : mem.size < 2 ^ 64

/-- The region of the memory has the device address at the offset that it has in the memory. A memory
may lie inside a larger region, and then the offsets differ. -/
def NamedMem.OffsetAt (mem : NamedMem) (da : Nat) : Prop :=
  mem.io.physToOffset (u64 (mem.pa + (da - mem.da))) = da - mem.da

/-- The memories are disjoint, in one of their address spaces. -/
def MemsApart (start : NamedMem → Nat) (mems : List NamedMem) : Prop :=
  mems.Pairwise fun mem mem' =>
    start mem + mem.size ≤ start mem' ∨ start mem' + mem'.size ≤ start mem

/-- The memory has the address or ends at it, and does not reach the end of the address space.
`METAL_BAD_PHYS` is no address. -/
def Touches (start : NamedMem → Nat) (addr : Nat) (mem : NamedMem) : Prop :=
  addr ≠ METAL_BAD_PHYS ∧ start mem ≤ addr ∧ addr ≤ start mem + mem.size ∧
    start mem + mem.size < 2 ^ 64

instance (start : NamedMem → Nat) (addr : Nat) : DecidablePred (Touches start addr) :=
  fun _ => inferInstanceAs (Decidable (_ ∧ _ ∧ _ ∧ _))

/-- The first memory that touches the address has it, and has its region in place, or looks as if it
had, and no memory touches an address that none has. -/
structure EndsAside {β : Type} (start : NamedMem → Nat) (addr : Nat) (inPlace : NamedMem → Prop)
    (value found : NamedMem → β) (mems : List NamedMem) : Prop where
  first : ∀ mem ∈ mems, AddrIn start addr mem →
    ∃ first, mems.find? (Touches start addr) = some first ∧
      (AddrIn start addr first ∧ inPlace first ∨ found first = value mem)
  none : (∀ mem ∈ mems, ¬ AddrIn start addr mem) → ∀ mem ∈ mems, ¬ Touches start addr mem

/-- The region of the memory that has the physical address. -/
def PaFound (mems : List NamedMem) (pa : Nat) : Prop :=
  FirstMatch.Exact (AddrIn (fun mem => mem.pa) pa) (fun mem => mem.io) mems
    (remoteprocGetIoWithPa mems pa)

/-- The region of the memory that has the device address, and the offset of the address there. -/
def DaFound (mems : List NamedMem) (da : Nat) : Prop :=
  FirstMatch.Exact (AddrIn (fun mem => mem.da) da) (fun mem => (mem.io, da - mem.da)) mems
    (remoteprocGetIoWithDa mems da)

/-- What `remoteproc_init_mem` is called with. -/
structure MemArgs where
  mem : NamedMem
  name : CString
  pa : Nat
  da : Nat
  size : Nat
  io : IoRegion

def MemArgs.init (args : MemArgs) : NamedMem :=
  remoteprocInitMem args.mem (some args.name) args.pa args.da args.size args.io

/-- The region of the memory that has been given this name. -/
def NameFound (args : List MemArgs) (name : CString) : Prop :=
  FirstMatch.Exact (fun entry => entry.name = name) MemArgs.io args
    (remoteprocGetIoWithName (args.map MemArgs.init) name)

end OpenAmp
