import OpenAmp.Library.Run
import OpenAmp.ResourceTable

/-!
# Virtio devices over a shared resource table

Master and slave parse one table, create virtio devices from its vdev entries and notify each other
of a vring by its id (`lib/remoteproc/remoteproc.c`, `lib/remoteproc/remoteproc_virtio.c`). A device
takes its ids from the table when it is created. The ids of vrings are never written to, so it does
not matter that a slave waits for the master between reading the id of the vdev and those of the
vrings, and a call is one step.
-/

namespace OpenAmp

/-- `struct remoteproc_virtio`: the number of the vdev entry it is for, its notify id and that of
each vring. -/
structure RemoteprocVirtio where
  vdevRsc : Nat
  notifyid : Nat
  vringsInfo : List Nat
deriving DecidableEq, Repr

/-- The part of a `struct remoteproc` that notifications go through. -/
structure RprocVdevs where
  bitmap : Nat → Bool
  vdevs : List RemoteprocVirtio

def rprocVirtioCreateVdev (vdevId : Nat) (rsc : FwRscVdev) : RemoteprocVirtio :=
  ⟨vdevId, rsc.notifyid, rsc.vring.map FwRscVdevVring.notifyid⟩

/-- The list of devices afterwards and the device returned. `memory` tells whether there is memory
for the device and a mapping for each of its vrings. -/
def remoteprocCreateVirtio (memory : Bool) (table : ResourceTable) (vdevs : List RemoteprocVirtio)
    (vdevId : Nat) : List RemoteprocVirtio × Option RemoteprocVirtio :=
  match findRsc vdevId table.entries with
  | none => (vdevs, none)
  | some rsc =>
      -- a device with the same id counts as already created
      match vdevs.find? (·.notifyid = rsc.notifyid) with
      | some rpvdev => (vdevs, some rpvdev)
      | none =>
          if memory then
            (vdevs ++ [rprocVirtioCreateVdev vdevId rsc], some (rprocVirtioCreateVdev vdevId rsc))
          else (vdevs, none)

/-- The id a kick of the virtqueue `vqId` hands to the platform. -/
def rprocVirtioVirtqueueNotify (rpvdev : RemoteprocVirtio) (vqId : Nat) : Option Nat :=
  rpvdev.vringsInfo[vqId]?

/-- The vrings whose callbacks run, each with the vdev entry of its device. -/
def rprocVirtioNotified (rpvdev : RemoteprocVirtio) (notifyid : Nat) : List (Nat × Nat) :=
  if rpvdev.notifyid = notifyid then
    []
  else
    ((List.range rpvdev.vringsInfo.length).filter fun i =>
      rpvdev.vringsInfo[i]? = some notifyid ∨ notifyid = RSC_NOTIFY_ID_ANY).map (rpvdev.vdevRsc, ·)

def remoteprocGetNotification (vdevs : List RemoteprocVirtio) (notifyid : Nat) : List (Nat × Nat) :=
  vdevs.flatMap (rprocVirtioNotified · notifyid)

/-! ### The two sides -/

inductive VdevAction where
  -- `remoteproc_set_rsc_table`
  | parse (role : Role)
  | create (role : Role) (vdevId : Nat)
deriving DecidableEq, Repr

structure VdevSystem where
  table : ResourceTable
  rproc : Role → RprocVdevs
  -- the steps taken, oldest first; no step reads it
  history : List VdevAction

/-- What each side passes to the parser besides the table. -/
structure ParseArgs where
  ops : RscOps
  io : Nat → Bool
  size : Nat

def VdevSystem.start (table : ResourceTable) : VdevSystem where
  table := table
  rproc := fun _ => ⟨Bitmap.empty, []⟩
  history := []

/-- Each side parses the table once and then creates each of its devices once. -/
def VdevSystem.Allowed (s : VdevSystem) : VdevAction → Prop
  | .parse role => .parse role ∉ s.history
  | .create role vdevId => .parse role ∈ s.history ∧ .create role vdevId ∉ s.history

/-- A step that succeeds; a call that fails is not one. -/
def VdevSystem.step (args : Role → ParseArgs) (s : VdevSystem) : VdevAction → Option VdevSystem
  | .parse role =>
      let (bitmap, table, status) := handleRscTable (args role).ops (some (args role).io)
        (args role).size (s.rproc role).bitmap s.table
      if status = 0 then
        some ⟨table, Function.update s.rproc role { s.rproc role with bitmap },
          s.history ++ [.parse role]⟩
      else none
  | .create role vdevId =>
      let (vdevs, rpvdev) := remoteprocCreateVirtio true s.table (s.rproc role).vdevs vdevId
      if rpvdev.isSome then
        some ⟨s.table, Function.update s.rproc role { s.rproc role with vdevs },
          s.history ++ [.create role vdevId]⟩
      else none

/-- Both sides have parsed the table and created all their devices. -/
def VdevSystem.Ready (s : VdevSystem) : Prop :=
  ∀ role, .parse role ∈ s.history ∧
    ∀ vdevId < (rscVdevs s.table.entries).length, .create role vdevId ∈ s.history

/-- A kick of vring `i` of vdev `d` by `sender` runs the callback of this vring on the other side,
once and no other. -/
def VdevSystem.Dispatched (s : VdevSystem) (sender : Role) (d i : Nat) : Prop :=
  ∃ rpvdev ∈ (s.rproc sender).vdevs, rpvdev.vdevRsc = d ∧
    ∃ notifyid, rprocVirtioVirtqueueNotify rpvdev i = some notifyid ∧
      remoteprocGetNotification (s.rproc sender.peer).vdevs notifyid = [(d, i)]

/-- The device was created while the other side had not yet parsed the table. -/
def CreatedEarly (history : List VdevAction) (role : Role) (d : Nat) : Prop :=
  ∃ before after, history = before ++ .create role d :: after ∧ .parse role.peer ∉ before

end OpenAmp
