import Mathlib.Algebra.Group.Int.Defs
import Mathlib.Algebra.Group.Nat.Defs
import Mathlib.Logic.Function.Basic

/-!
# The vring and the libmetal regions its addresses go through

The three parts of a vring as they lie in shared memory: the descriptor table, the available ring the
master writes, and the used ring the slave writes. Fields of a fixed width are natural numbers that
every write truncates to that width.
-/

namespace OpenAmp

def u16 (value : Nat) : Nat := value % 2 ^ 16

def u32 (value : Nat) : Nat := value % 2 ^ 32

def u64 (value : Nat) : Nat := value % 2 ^ 64

/-- Conversion of an `int` to an unsigned type of `bits` bits. -/
def ofInt (bits : Nat) (value : Int) : Nat := (value % 2 ^ bits).toNat

/-- Conversion to a 32-bit `int`. -/
def toInt32 (value : Int) : Int := Int.bmod value (2 ^ 32)

section Conversions

variable {value : Nat}

theorem u64_of_lt (h : value < 2 ^ 64) : u64 value = value := Nat.mod_eq_of_lt h

theorem toInt32_of_lt (h : value < 2 ^ 31) : toInt32 value = value := by
  unfold toInt32
  rw [Int.bmod_eq_of_le] <;> omega

theorem toInt32_bounds (value : Int) : -2 ^ 31 ≤ toInt32 value ∧ toInt32 value < 2 ^ 31 :=
  ⟨Int.le_bmod (by decide), Int.bmod_lt (by decide)⟩

theorem toInt32_toNat_le (value : Nat) : (toInt32 value).toNat ≤ value := by
  rw [toInt32, Int.bmod_def]
  split <;> omega

theorem ofInt_natCast (h : value < 2 ^ 64) : ofInt 64 value = value := by
  unfold ofInt
  rw [Int.emod_eq_of_lt] <;> omega

theorem ofInt_toInt32 (h : value < 2 ^ 31) : ofInt 64 (toInt32 value) = value := by
  rw [toInt32_of_lt h, ofInt_natCast (by omega)]

end Conversions

/-- The null pointer. -/
abbrev NULL : Nat := 0

/-- The `errno` that applications and the proxy return. -/
def EINVAL : Int := 22

/-- Which end of the virtio device runs the code: `VIRTIO_DEV_MASTER` or `VIRTIO_DEV_SLAVE`. -/
inductive Role where
  | master
  | slave
deriving DecidableEq, Repr

def Role.peer : Role → Role
  | .master => .slave
  | .slave => .master

@[simp] theorem Role.peer_peer (role : Role) : role.peer.peer = role := by
  cases role <;> rfl

theorem Role.ne_peer (role : Role) : role ≠ role.peer := by
  cases role <;> exact Role.noConfusion

theorem Role.eq_or_eq_peer (role role' : Role) : role' = role ∨ role' = role.peer := by
  cases role <;> cases role' <;> simp [Role.peer]

theorem Role.forall_iff {P : Role → Prop} (role : Role) : (∀ r, P r) ↔ P role ∧ P role.peer := by
  constructor
  · exact fun h => ⟨h role, h role.peer⟩
  · rintro ⟨hself, hpeer⟩ r
    cases role <;> cases r <;> assumption

/-- The address translations of a libmetal I/O region that the queues use. The library itself is not
part of the repository: results that depend on how a region translates say so. -/
structure MetalIo where
  virtToPhys : Nat → Nat
  physToVirt : Nat → Nat

def VRING_DESC_F_NEXT : Nat := 1
def VRING_DESC_F_WRITE : Nat := 2
def VRING_DESC_F_INDIRECT : Nat := 4
def VRING_USED_F_NO_NOTIFY : Nat := 1
def VRING_AVAIL_F_NO_INTERRUPT : Nat := 1

structure VringDesc where
  addr : Nat
  len : Nat
  flags : Nat
  next : Nat
deriving DecidableEq, Repr

structure VringAvail where
  flags : Nat
  idx : Nat
  ring : Nat → Nat

structure VringUsedElem where
  id : Nat
  len : Nat
deriving DecidableEq, Repr

structure VringUsed where
  flags : Nat
  idx : Nat
  ring : Nat → VringUsedElem

structure Vring where
  num : Nat
  desc : Nat → VringDesc
  avail : VringAvail
  used : VringUsed

/-- A vring over memory that has been cleared, as `virtio_create_virtqueues` leaves it. -/
def Vring.zeroed (num : Nat) : Vring :=
  { num
    desc := fun _ => ⟨0, 0, 0, 0⟩
    avail := ⟨0, 0, fun _ => 0⟩
    used := ⟨0, 0, fun _ => ⟨0, 0⟩⟩ }

/-! The two event indices are published in the slot after the last one of the other party's ring. -/

def vringUsedEvent (vr : Vring) : Nat := vr.avail.ring vr.num

def setVringUsedEvent (vr : Vring) (event : Nat) : Vring :=
  { vr with avail := { vr.avail with ring := Function.update vr.avail.ring vr.num (u16 event) } }

/-- `event` is the low half of the `id` it shares a union with. -/
def vringAvailEvent (vr : Vring) : Nat := u16 (vr.used.ring vr.num).id

def setVringAvailEvent (vr : Vring) (event : Nat) : Vring :=
  let elem := vr.used.ring vr.num
  { vr with used := { vr.used with
      ring := Function.update vr.used.ring vr.num
        { elem with id := elem.id / 2 ^ 16 * 2 ^ 16 + u16 event } } }

/-- Whether moving the index from `old` to `newIdx` passes the event index, in 16-bit arithmetic. -/
def vringNeedEvent (eventIdx newIdx old : Nat) : Bool :=
  ofInt 16 ((newIdx : Int) - eventIdx - 1) < ofInt 16 ((newIdx : Int) - old)

end OpenAmp
