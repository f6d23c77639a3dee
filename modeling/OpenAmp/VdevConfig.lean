import OpenAmp.Library.Run
import OpenAmp.RscPointers

/-!
# The config space of a virtio device

`rproc_virtio_read_config` and `rproc_virtio_write_config` over the memory that the resource of the
device lies in. The config space follows the vrings of the resource.
-/

namespace OpenAmp

open ByteMemory

/-! ### Blocks of a region -/

/-- The addresses of a block, as far as it lies in the region. -/
def IoRegion.blockRange (io : IoRegion) (offset len : Nat) : Set Nat :=
  if offset < io.size then
    Set.Ico (io.virt + offset) (io.virt + offset + min len (io.size - offset))
  else ∅

/-- The block that libmetal is asked for. -/
structure BlockCall where
  offset : Nat
  len : Int
deriving DecidableEq, Repr

/-- `metal_io_block_read` and `metal_io_block_write` of a region, and the addresses that they touch. A
block of negative length has no meaning: nothing is known of it but that an offset outside the region is
refused. -/
structure MetalBlocks (io : IoRegion) where
  read : BlockCall → (Nat → UInt8) → List UInt8
  write : BlockCall → (Nat → UInt8) → (Nat → UInt8) → Nat → UInt8
  touched : BlockCall → Set Nat
  read_nat : ∀ (offset len : Nat) ram, read ⟨offset, len⟩ ram = io.blockRead offset len ram
  write_nat : ∀ (offset len : Nat) src ram,
    write ⟨offset, len⟩ src ram = io.blockWrite offset (readBytes src 0 len) ram
  touched_nat : ∀ offset len : Nat, touched ⟨offset, len⟩ = io.blockRange offset len
  touched_outside : ∀ call, io.size ≤ call.offset → touched call = ∅
  write_frame : ∀ call src ram addr, addr ∉ touched call → write call src ram addr = ram addr

/-- What a call touches that may come to nothing. -/
def MetalBlocks.touchedBy {io : IoRegion} (blocks : MetalBlocks io) : Option BlockCall → Set Nat
  | none => ∅
  | some call => blocks.touched call

/-! ### The two operations -/

/-- The part of a `struct remoteproc_virtio` that they use. -/
structure ConfigVdev where
  vdevRsc : Nat
  vdevRscIo : IoRegion
  vringsNum : Nat
  notifyid : Nat

structure ConfigRead where
  block : Option BlockCall
  -- what is stored at `dst`
  dst : List UInt8

structure ConfigWrite where
  block : Option BlockCall
  ram : Nat → UInt8
  -- the id that `rpvdev->notify` is called with
  notified : Option Nat

namespace ConfigVdev

variable (v : ConfigVdev)

/-- The field `config_len`. -/
def configLen (ram : Nat → UInt8) : Nat := leValue (readBytes ram (v.vdevRsc + 20) 4)

/-- The address behind the last vring. -/
def config : Nat := v.vdevRsc + 28 + 20 * v.vringsNum

/-- The block that both operations ask for, if the guard lets them: its sum has 32 bits. -/
def configBlock (offset : Nat) (length : Int) (ram : Nat → UInt8) : Option BlockCall :=
  if ofInt 32 (offset + length) ≤ v.configLen ram then
    some ⟨v.vdevRscIo.virtToOffset (u64 (v.config + offset)), length⟩
  else none

variable (blocks : MetalBlocks v.vdevRscIo) (offset : Nat) (length : Int)

def rprocVirtioReadConfig (ram : Nat → UInt8) : ConfigRead :=
  match v.configBlock offset length ram with
  | some call => ⟨some call, blocks.read call ram⟩
  | none => ⟨none, []⟩

def rprocVirtioWriteConfig (src ram : Nat → UInt8) : ConfigWrite :=
  match v.configBlock offset length ram with
  | some call => ⟨some call, blocks.write call src ram, some v.notifyid⟩
  | none => ⟨none, ram, none⟩

/-! ### What is asked of them -/

/-- The bytes of a range of the config space, if there is such a range. -/
def range (ram : Nat → UInt8) : Set Nat :=
  {addr | 0 ≤ length ∧ offset + length ≤ v.configLen ram ∧
    addr ∈ Set.Ico (v.config + offset) (v.config + offset + length.toNat)}

/-- Both operations touch only bytes of the range that they are called with, a write changes no others,
and a read after it gets what has been written. -/
structure Confined (ram : Nat → UInt8) : Prop where
  read : blocks.touchedBy (v.rprocVirtioReadConfig blocks offset length ram).block ⊆
    v.range offset length ram
  write : ∀ src, blocks.touchedBy (v.rprocVirtioWriteConfig blocks offset length src ram).block ⊆
    v.range offset length ram
  roundTrip : 0 ≤ length → offset + length ≤ v.configLen ram → ∀ src,
    (v.rprocVirtioReadConfig blocks offset length
      (v.rprocVirtioWriteConfig blocks offset length src ram).ram).dst =
      readBytes src 0 length.toNat
  frame : ∀ src, ∀ addr ∉ v.range offset length ram,
    (v.rprocVirtioWriteConfig blocks offset length src ram).ram addr = ram addr

/-- The sum of the guard is that of the integers, or larger than `config_len` all the same, or the
address is outside the region. -/
def SumTells (ram : Nat → UInt8) : Prop :=
  0 ≤ length ∧ offset + length < 2 ^ 32 ∨ v.configLen ram < ofInt 32 (offset + length) ∨
    v.vdevRscIo.virtToOffset (u64 (v.config + offset)) = METAL_BAD_OFFSET

/-- The resource lies in its region, with the vrings and the config space. -/
structure Lies (ram : Nat → UInt8) : Prop where
  size : v.vdevRscIo.size < 2 ^ 64
  fits : v.vdevRscIo.virt + v.vdevRscIo.size ≤ 2 ^ 64
  contains : v.vdevRscIo.Contains v.vdevRsc (28 + 20 * v.vringsNum + v.configLen ram)

end ConfigVdev

end OpenAmp
