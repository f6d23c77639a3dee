import OpenAmp.Lifecycle
import OpenAmp.ResourceTable

/-!
# Histories of loads

An instance from `remoteproc_init` on: calls of the two loaders with any image, the calls of its life
cycle, and whatever else changes the target memory. The loaders parse the resource table of an image
in local memory, while the notify ids of earlier loads are in use.
-/

namespace OpenAmp

open ByteMemory Slice

/-! ### The resource table in bytes -/

def RSC_CARVEOUT : Nat := 0
def RSC_DEVMEM : Nat := 1
def RSC_TRACE : Nat := 2
def RSC_VDEV : Nat := 3
def RSC_VENDOR_START : Nat := 128
def RSC_VENDOR_END : Nat := 512

/-- The entry at an offset of the table. -/
def readRsc (bytes : List UInt8) (offset : Nat) : FwRsc :=
  let type := field bytes offset 4
  if type = RSC_CARVEOUT then
    .carveout ⟨field bytes (offset + 4) 4, field bytes (offset + 8) 4, field bytes (offset + 12) 4,
      field bytes (offset + 16) 4, field bytes (offset + 20) 4⟩
  else if type = RSC_DEVMEM then .devmem
  else if type = RSC_TRACE then
    .trace ⟨field bytes (offset + 4) 4, field bytes (offset + 8) 4⟩
  else if type = RSC_VDEV then
    .vdev ⟨field bytes (offset + 8) 4, (List.range (field bytes (offset + 25) 1)).map fun i =>
      ⟨field bytes (offset + 28 + 20 * i + 12) 4⟩⟩
  else if RSC_VENDOR_START ≤ type ∧ type ≤ RSC_VENDOR_END then
    .vendor ⟨type, field bytes (offset + 4) 4⟩
  else .other type

/-- The only field of an entry that is ever written is `notifyid` of a vdev. -/
def writeRsc (bytes : List UInt8) : Nat × FwRsc → List UInt8
  | (offset, .vdev rsc) =>
      bytes.take (offset + 8) ++ leBytes 4 rsc.notifyid ++ bytes.drop (offset + 12)
  | _ => bytes

/-- `struct resource_table` and the structures of its entries. -/
def ResourceTable.ofBytes (bytes : List UInt8) : ResourceTable :=
  ⟨field bytes 0 4, (field bytes 8 4, field bytes 12 4),
    (List.range (field bytes 4 4)).map fun i =>
      let offset := field bytes (16 + 4 * i) 4
      (offset, readRsc bytes offset)⟩

/-- The bytes of a table after what the parser has written to it. -/
def ResourceTable.toBytes (bytes : List UInt8) (table : ResourceTable) : List UInt8 :=
  table.entries.foldl writeRsc bytes

/-- What a load calls besides, while `ids` are in use. -/
def loaderEnv (allocate : Nat → Bool) (ops : RscOps) (ids : Nat → Bool) : LoaderEnv where
  allocate := allocate
  handleRscTable bytes :=
    let (_, table, status) := handleRscTable ops none bytes.length ids (.ofBytes bytes)
    (status, table.toBytes bytes)

def FwRsc.forgetId : FwRsc → FwRsc
  | .vdev rsc => .vdev { rsc with notifyid := 0 }
  | rsc => rsc

/-- The table but for the ids of its vdev entries. -/
def ResourceTable.forgetIds (table : ResourceTable) : ResourceTable :=
  { table with entries := table.entries.map fun entry => (entry.1, entry.2.forgetId) }

/-! ### Histories -/

inductive LoadAction where
  | config (ops : RemoteprocOps) (configRet : Int)
  | start (startRet : Int)
  | stop (ops : RemoteprocOps) (stopRet : Int)
  | shutdown (ops : RemoteprocOps) (stopRet shutdownRet : Int)
  | load (env : LoaderEnv) (rounds : Nat) (store : ImageStore)
  | loadNoblock (env : LoaderEnv) (imgData : Option (List UInt8)) (offset len : Nat)
      (imgInfo : Option ElfInfo) (vars : NoblockVars)
  -- others write the target memory: the caller of `remoteproc_load_noblock`, or the firmware
  | written (ram : Nat → UInt8)

/-- The instance after `remoteproc_init`, whose platform leaves `loader` alone, with the memories that
have been added to it. -/
def Target.init (mems : List RemoteprocMem) (mmap : Option (Nat → Nat → Option TargetMapping))
    (ram : Nat → UInt8) : Target :=
  ⟨⟨.offline, false, mems, mmap, 0⟩, ram, []⟩

/-- A call of the life cycle, which changes nothing that a load reads but the state. -/
def Target.lifecycle (call : RemoteprocLcm → Int × RemoteprocLcm) (target : Target) : Target :=
  { target with rproc := { target.rproc with state := (call ⟨target.rproc.state, true, []⟩).2.state } }

def Target.step (target : Target) : LoadAction → Option Target
  | .config ops configRet => some (target.lifecycle (remoteprocConfig ops configRet))
  | .start startRet => some (target.lifecycle (remoteprocStart startRet))
  | .stop ops stopRet => some (target.lifecycle (remoteprocStop ops stopRet))
  | .shutdown ops stopRet shutdownRet =>
      some (target.lifecycle (remoteprocShutdown ops stopRet shutdownRet))
  | .load env rounds store => (remoteprocLoad env rounds store target).map Prod.snd
  | .loadNoblock env imgData offset len imgInfo vars =>
      (remoteprocLoadNoblock env imgData offset len imgInfo vars target).map NoblockOut.target
  | .written ram => some { target with ram }

/-- The states in which `remoteproc_load` goes on. -/
def Target.LoadAllowed (target : Target) : Prop :=
  target.rproc.state = .ready ∨ target.rproc.state = .configured

/-- What `open` hands out of the image is identified as ELF. -/
def ImageStore.identified (store : ImageStore) : Bool :=
  remoteprocCheckFwFormat (some (slice store.image 0 store.openLen)) store.openLen

/-- The action shows a loader data that it can identify. -/
def LoadAction.identifies : LoadAction → Bool
  | .load _ _ store => store.identified
  | .loadNoblock _ imgData offset len _ _ => offset = 0 ∧ remoteprocCheckFwFormat imgData len
  | _ => false

/-! ### Two loads of one image -/

/-- The resource table that the second part of a load finds: with the headers, or once the segments
are there. -/
def remoteprocDataTable (env : LoaderEnv) (rounds : Nat) (store : ImageStore) (headers : HeaderLoop)
    (target : Target) : Option Shdr := do
  let info ← headers.imgInfo
  match locatedRscTable info with
  | some shdr => some shdr
  | none =>
      match ← Loop.run (DataLoop.body env store) rounds
          ⟨⟨headers.imgData, 0, 0, headers.imgInfo, headers.lastLoadState, none⟩, target⟩ with
      | (data, .leave) => locatedRscTable (← data.imgInfo)
      | _ => none

/-- The resource table that a load finds. -/
def remoteprocLoadTable (env : LoaderEnv) (rounds : Nat) (store : ImageStore) (target : Target) :
    Option Shdr := do
  match ← Loop.run (HeaderLoop.body env store) rounds
      ⟨some (slice store.image 0 store.openLen), 0, store.openLen, none, RPROC_LOADER_NOT_READY, 0,
        0⟩ with
  | (headers, .leave) =>
      let target := { target with rproc := { target.rproc with loader := true } }
      remoteprocDataTable env rounds store headers target
  | _ => none

/-- Where the notify ids of the vdevs are in the bytes of a resource table. -/
def vdevIds (bytes : List UInt8) : Set Nat :=
  { i | ∃ entry ∈ (ResourceTable.ofBytes bytes).entries, ∃ rsc, entry.2 = .vdev rsc ∧
    i ∈ Set.Ico (entry.1 + 8) (entry.1 + 12) }

/-- Where they are in the target memory, if the table of the image at `shdr` is mapped. -/
def mappedIds (store : ImageStore) (target : Target) (shdr : Shdr) : Set Nat :=
  { a | ∃ map, target.rproc.mapping shdr.shAddr shdr.shSize = some map ∧
    ∃ i ∈ vdevIds (slice store.image shdr.shOffset shdr.shSize), a = map.pa + i }

/-- `metal_io_block_write` stores the bytes where a range is mapped, as many of them as the region
has room for. -/
def Remoteproc.Stores (rproc : Remoteproc) : Prop :=
  ∀ da size map, rproc.mapping da size = some map → ∀ n : Nat, n < 2 ^ 31 →
    ∃ count ≤ n, ∀ bytes ram, map.io.blockWrite (map.io.virtToOffset map.va) bytes n ram =
      writeBytes ram map.pa (bytes.take count)

/-- Two loads, from `before₁` and from `before₂`, have the same outcome, but for the notify ids in the
table that they find. -/
structure SameLoad (store : ImageStore) (table : Option Shdr) (before₁ before₂ : Target)
    (after₁ after₂ : Int × Target) : Prop where
  ret : after₁.1 = after₂.1
  -- both come to their end, or both leave the instance with the boot address it had
  bootaddr : (after₁.1 = 0 ∧ after₁.2.rproc.bootaddr = after₂.2.rproc.bootaddr) ∨
    (after₁.2.rproc.bootaddr = before₁.rproc.bootaddr ∧
      after₂.2.rproc.bootaddr = before₂.rproc.bootaddr)
  mapped : ∃ mapped, after₁.2.mapped = before₁.mapped ++ mapped ∧
    after₂.2.mapped = before₂.mapped ++ mapped
  ram : before₁.ram = before₂.ram → ∀ a, (∀ shdr, table = some shdr →
    a ∉ mappedIds store before₁ shdr) → after₁.2.ram a = after₂.2.ram a

end OpenAmp
