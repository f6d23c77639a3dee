import OpenAmp.Library.Run
import OpenAmp.RprocVirtio
import OpenAmp.VringLayout

/-!
# Creating and removing virtio devices

`remoteproc_create_virtio` and `remoteproc_remove_virtio` over `rproc_virtio_create_vdev`,
`rproc_virtio_init_vring` and `rproc_virtio_remove_vdev`, with every allocation and every mapping free
to fail, and with all that a call does to the allocator and to the lock of the instance.
-/

namespace OpenAmp

/-- `struct fw_rsc_vdev` with its vrings. -/
structure FwRscVdevRings where
  notifyid : Nat
  dfeatures : Nat
  vring : List FwRscVdevVringRing
deriving DecidableEq, Repr

/-- An entry of the resource table: a vdev, or one of another type. -/
inductive VdevRscEntry where
  | vdev (rsc : FwRscVdevRings)
  | other (type : Nat)
deriving DecidableEq, Repr

/-- The offset of a resource with the resource, as `find_rsc` finds it for `RSC_VDEV`. -/
def findVdevRsc (index : Nat) : List (Nat × VdevRscEntry) → Option (Nat × FwRscVdevRings)
  | [] => none
  | (offset, .vdev rsc) :: entries =>
      match index with
      | 0 => some (offset, rsc)
      | index + 1 => findVdevRsc index entries
  | (_, .other _) :: entries => findVdevRsc index entries

/-- The vdev resource that `remoteproc_create_virtio` goes on with: an offset of 0 stands for none. -/
def vdevRscAt (entries : List (Nat × VdevRscEntry)) (vdevId : Int) : Option FwRscVdevRings :=
  match findVdevRsc (ofInt 32 vdevId) entries with
  | none => none
  | some (offset, rsc) => if offset = 0 then none else some rsc

/-- `struct remoteproc_virtio` at its address, with the blocks it owns. `vringsInfo` is the address of
the array, `vqs` and `vrings` what is in it. -/
structure RpVdev where
  addr : Nat
  notifyid : Nat
  role : Role
  vdevId : Int
  vringsInfo : Nat
  vqs : List Nat
  vrings : List VirtioVringInfo
deriving DecidableEq, Repr

/-- What the platform answers during one call. An address that is NULL is a failure. -/
structure VdevEnv where
  -- `metal_allocate_memory` for the device and for its array of vrings
  rpvdev : Nat
  vringsInfo : Nat
  -- and for the virtqueue of a vring, with so many extra descriptors
  vq : Nat → Nat → Nat
  -- the `vq` fields that are found in the block of the array
  left : Nat → Nat
  -- `remoteproc_mmap` for the vring of an index, its device address and its size
  mmap : Nat → Nat → Nat → Nat
  -- whether the other side ever sets `VIRTIO_CONFIG_STATUS_DRIVER_OK`
  driverOk : Bool

inductive VdevEvent where
  | acquired
  | released
  | allocated (addr : Nat)
  | freed (addr : Nat)
  -- `rproc_virtio_negotiate_features`: what is written to `gfeatures`, and the id that is notified
  | negotiated (features notifyid : Nat)
deriving DecidableEq, Repr

/-! ### Devices -/

/-- The descriptors that only a master keeps track of. -/
def numExtraDesc (role : Role) (vring : FwRscVdevVringRing) : Nat :=
  match role with
  | .master => vring.num
  | .slave => 0

/-- The loop of `rproc_virtio_create_vdev` from vring `i` on: the virtqueues, and whether there is one
for each vring. -/
def allocateVqs (env : VdevEnv) (role : Role) : Nat → List FwRscVdevVringRing → List Nat × Bool
  | _, [] => ([], true)
  | i, vring :: vrings =>
      let vq := env.vq i (numExtraDesc role vring)
      if vq = NULL then ([], false)
      else
        let (vqs, complete) := allocateVqs env role (i + 1) vrings
        (vq :: vqs, complete)

/-- The `vq` field of entry `i`. Only the first entry of the array has been cleared. -/
def vqField (env : VdevEnv) (vqs : List Nat) (i : Nat) : Nat :=
  vqs[i]?.getD (if i = 0 then NULL else env.left i)

/-- What is freed at `err1`. -/
def freedVqs (env : VdevEnv) (vqs : List Nat) (numVrings : Nat) : List Nat :=
  ((List.range numVrings).map (vqField env vqs)).filter (· ≠ NULL)

def rprocVirtioCreateVdevWith (env : VdevEnv) (role : Role) (vdevId : Int) (rsc : FwRscVdevRings) :
    Option RpVdev × List VdevEvent :=
  if env.rpvdev = NULL then (none, [])
  else if env.vringsInfo = NULL then (none, [.allocated env.rpvdev, .freed env.rpvdev])
  else
    let (vqs, complete) := allocateVqs env role 0 rsc.vring
    let events := ([env.rpvdev, env.vringsInfo] ++ vqs).map .allocated
    if complete then
      (some
          { addr := env.rpvdev, notifyid := rsc.notifyid, role, vdevId
            vringsInfo := env.vringsInfo, vqs, vrings := [] },
        events ++
          -- the master supports all features of the slave
          match role with
          | .master => [.negotiated rsc.dfeatures rsc.notifyid]
          | .slave => [])
    else
      (none, events ++
        (freedVqs env vqs rsc.vring.length ++ [env.vringsInfo, env.rpvdev]).map .freed)

/-- `rproc_virtio_remove_vdev`. -/
def rprocVirtioRemoveVdev (vdev : RpVdev) : List VdevEvent :=
  (vdev.vqs.filter (· ≠ NULL) ++ [vdev.vringsInfo, vdev.addr]).map .freed

/-- `metal_list_del` of a device. -/
def vdevListDel (vdevs : List RpVdev) (addr : Nat) : List RpVdev :=
  vdevs.eraseP (·.addr = addr)

/-- `remoteproc_remove_virtio`: the list afterwards, and what is freed. -/
def remoteprocRemoveVirtio (vdevs : List RpVdev) (vdev : RpVdev) : List RpVdev × List VdevEvent :=
  (vdevListDel vdevs vdev.addr, rprocVirtioRemoveVdev vdev)

/-- The loop of `remoteproc_create_virtio` over the vrings from `i` on. -/
def mapVrings (env : VdevEnv) (vringsNum : Nat) :
    Nat → List FwRscVdevVringRing → Option (List VirtioVringInfo)
  | _, [] => some []
  | i, vring :: vrings =>
      let va := env.mmap i vring.da (vringMapSize vring)
      if va = NULL then none
      else
        match rprocVirtioInitVring vringsNum i vring.notifyid va vring.num vring.align with
        | .error _ => none
        | .ok info => (mapVrings env vringsNum (i + 1) vrings).map (info :: ·)

/-- What a call leaves: the list of devices, the device returned, and what it has done. -/
structure VdevCreated where
  vdevs : List RpVdev
  ret : Option RpVdev
  events : List VdevEvent
deriving DecidableEq, Repr

/-- `remoteproc_create_virtio`. Nothing where it waits for the other side for ever. -/
def remoteprocCreateVirtioWith (env : VdevEnv) (entries : List (Nat × VdevRscEntry))
    (vdevs : List RpVdev) (vdevId : Int) (role : Role) : Option VdevCreated :=
  let acquired : List VdevEvent := [.acquired]
  match vdevRscAt entries vdevId with
  | none => some ⟨vdevs, none, acquired ++ [.released]⟩
  | some rsc =>
      match vdevs.find? (·.notifyid = rsc.notifyid) with
      | some vdev => some ⟨vdevs, some vdev, acquired ++ [.released]⟩
      | none =>
          match rprocVirtioCreateVdevWith env role vdevId rsc with
          | (none, events) => some ⟨vdevs, none, acquired ++ events ++ [.released]⟩
          | (some vdev, events) =>
              if role = .slave ∧ env.driverOk = false then none
              else
                match mapVrings env rsc.vring.length 0 rsc.vring with
                | some vrings =>
                    some ⟨vdevs ++ [{ vdev with vrings }], some { vdev with vrings },
                      acquired ++ events ++ [.released]⟩
                | none =>
                    -- `err1`, with the device in the list
                    let (vdevs, removed) := remoteprocRemoveVirtio (vdevs ++ [vdev]) vdev
                    some ⟨vdevs, none, acquired ++ events ++ removed ++ [.released]⟩

/-! ### Runs -/

inductive VdevCall where
  | create (env : VdevEnv) (vdevId : Int) (role : Role)
  | remove (vdev : RpVdev)

/-- `rproc->vdevs`, over a resource table that does not change. -/
def vdevStep (entries : List (Nat × VdevRscEntry)) (vdevs : List RpVdev) :
    VdevCall → Option (List RpVdev)
  | .create env vdevId role =>
      (remoteprocCreateVirtioWith env entries vdevs vdevId role).map VdevCreated.vdevs
  | .remove vdev => some (remoteprocRemoveVirtio vdevs vdev).1

/-- The allocator hands out no block that is a device of the list, and only such devices are removed. -/
def VdevAllowed (vdevs : List RpVdev) : VdevCall → Prop
  | .create env _ _ => env.rpvdev ∉ vdevs.map RpVdev.addr
  | .remove vdev => vdev ∈ vdevs

instance (vdevs : List RpVdev) : (call : VdevCall) → Decidable (VdevAllowed vdevs call)
  | .create env _ _ => inferInstanceAs (Decidable (env.rpvdev ∉ vdevs.map RpVdev.addr))
  | .remove vdev => inferInstanceAs (Decidable (vdev ∈ vdevs))

/-! ### The devices as notifications see them -/

def FwRscVdevRings.ids (rsc : FwRscVdevRings) : FwRscVdev :=
  ⟨rsc.notifyid, rsc.vring.map FwRscVdevVringRing.toFwRscVdevVring⟩

def VdevRscEntry.vdev? : VdevRscEntry → Option FwRscVdevRings
  | .vdev rsc => some rsc
  | .other _ => none

def RpVdev.ids (vdev : RpVdev) : RemoteprocVirtio :=
  ⟨vdev.vdevId.toNat, vdev.notifyid, vdev.vrings.map VirtioVringInfo.notifyid⟩

/-- The vdev entries are those of the table, and none has offset 0. -/
structure EntriesOf (table : ResourceTable) (entries : List (Nat × VdevRscEntry)) : Prop where
  vdevs : rscVdevs table.entries =
    (entries.filterMap fun entry => entry.2.vdev?).map FwRscVdevRings.ids
  offsets : ∀ entry ∈ entries, entry.1 ≠ 0

/-! ### What is asked of a call -/

/-- The lock is left alone. -/
def Unlocked (events : List VdevEvent) : Prop := .acquired ∉ events ∧ .released ∉ events

/-- The lock is taken first and released last, and left alone in between. -/
def LockedOnce (events : List VdevEvent) : Prop :=
  ∃ middle, events = .acquired :: middle ++ [.released] ∧ Unlocked middle

/-- What a call of `remoteproc_create_virtio` may do to the list and to the lock. -/
structure VdevCreated.Sound (entries : List (Nat × VdevRscEntry)) (vdevs : List RpVdev) (vdevId : Int)
    (out : VdevCreated) : Prop where
  present : ∀ rsc, vdevRscAt entries vdevId = some rsc → ∀ vdev ∈ vdevs,
    vdev.notifyid = rsc.notifyid → out = ⟨vdevs, some vdev, [.acquired, .released]⟩
  null : out.ret = none → out.vdevs = vdevs
  locked : LockedOnce out.events

def VdevEvent.allocated? : VdevEvent → Option Nat
  | .allocated addr => some addr
  | _ => none

def VdevEvent.freed? : VdevEvent → Option Nat
  | .freed addr => some addr
  | _ => none

/-- The virtqueue of vring `i` cannot be allocated. -/
def VqFails (env : VdevEnv) (role : Role) (i : Nat) (vring : FwRscVdevVringRing) : Prop :=
  env.vq i (numExtraDesc role vring) = NULL

/-- Some allocation of `rproc_virtio_create_vdev` fails. -/
def AllocationFails (env : VdevEnv) (role : Role) (rsc : FwRscVdevRings) : Prop :=
  env.rpvdev = NULL ∨ env.vringsInfo = NULL ∨
    ∃ i vring, rsc.vring[i]? = some vring ∧ VqFails env role i vring

/-- The first virtqueue that cannot be allocated, of those for the vrings from `i` on, is the one with
`count` before it. -/
structure StopsAt (env : VdevEnv) (role : Role) (i : Nat) (vrings : List FwRscVdevVringRing)
    (count : Nat) : Prop where
  fails : ∃ vring, vrings[count]? = some vring ∧ VqFails env role (i + count) vring
  earlier : ∀ j < count, ∀ vring, vrings[j]? = some vring → ¬ VqFails env role (i + j) vring

/-- A failed call returns NULL and frees just the blocks it has allocated, each once. -/
def FailsClean (env : VdevEnv) (role : Role) (vdevId : Int) (rsc : FwRscVdevRings) : Prop :=
  AllocationFails env role rsc →
    (rprocVirtioCreateVdevWith env role vdevId rsc).1 = none ∧
      ((rprocVirtioCreateVdevWith env role vdevId rsc).2.filterMap VdevEvent.freed?).Perm
        ((rprocVirtioCreateVdevWith env role vdevId rsc).2.filterMap VdevEvent.allocated?)

/-- Where the first virtqueue that cannot be allocated is that of vring `k`, the fields of the vrings
from `k` on are found to be NULL, the first vring apart. -/
def FieldsNull (env : VdevEnv) (role : Role) (rsc : FwRscVdevRings) : Prop :=
  env.rpvdev ≠ NULL → env.vringsInfo ≠ NULL → ∀ k, StopsAt env role 0 rsc.vring k →
    ∀ i, k ≤ i → i < rsc.vring.length → i ≠ 0 → env.left i = NULL

end OpenAmp
