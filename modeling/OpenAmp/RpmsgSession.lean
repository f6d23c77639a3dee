import OpenAmp.Library.LinkedChain
import OpenAmp.RpmsgSystem

/-!
# Sessions one after the other

A virtio device keeps its virtqueues for as long as it exists: `rpmsg_deinit_vdev` only forgets them,
and the next `rpmsg_init_vdev` over the device calls `virtqueue_create` on the same control blocks.
The messages that `rpmsg_deinit_vdev` sends for the endpoints it destroys are the last ones of the
session.
-/

namespace OpenAmp

open LinkedChain

/-- `rpmsg_deinit_vdev` on both sides: what is left of a session. -/
def rpmsgDeinitVdev (s : RpmsgSystem) : VdevQueues :=
  ⟨s.master.rvq, s.master.svq, s.slave.svq, s.slave.rvq⟩

/-! ### A session like the first one -/

/-- A virtqueue as `rpmsg_init_vdev` creates it over its zeroed ring, with the region it then sets. -/
def createdOn (role : Role) (features id num : Nat) (shmIo : ShmIo) (vq : Virtqueue) :
    Vring × Virtqueue :=
  let created := virtqueueCreate role features id num true (Vring.zeroed num) vq
  (created.1, { created.2 with shmIo := shmIo.toMetalIo })

/-- The virtqueue is created in the state of a newly allocated one: nothing in use, nothing counted,
no cookies, in agreement with the ring, and on a master with all descriptors in one free chain. -/
structure CreatedLikeNew (role : Role) (features id num : Nat) (shmIo : ShmIo) (vq : Virtqueue) :
    Prop where
  same : createdOn role features id num shmIo vq =
    createdOn role features id num shmIo virtqueueAllocate
  freeCnt : (createdOn role features id num shmIo vq).2.vqFreeCnt = num
  head : (createdOn role features id num shmIo vq).2.vqDescHeadIdx = 0
  freeChain : role = .master → 0 < num →
    Path (fun cell => ((createdOn role features id num shmIo vq).1.desc cell).next) 0
      (List.range num) VQ_RING_DESC_CHAIN_END
  usedConsIdx : (createdOn role features id num shmIo vq).2.vqUsedConsIdx = 0 ∧
    (createdOn role features id num shmIo vq).1.used.idx = 0
  availableIdx : (createdOn role features id num shmIo vq).2.vqAvailableIdx = 0 ∧
    (createdOn role features id num shmIo vq).1.avail.idx = 0
  queuedCnt : (createdOn role features id num shmIo vq).2.vqQueuedCnt = 0
  noCookie : ∀ cell, ((createdOn role features id num shmIo vq).2.vqDescx cell).cookie = NULL

/-- The next session over the virtqueues is like the first one. -/
structure FreshSession (vqs : VdevQueues) (num0 num1 masterFeatures slaveFeatures : Nat)
    (masterIo slaveIo : ShmIo) (shpool : RpmsgVirtioShmPool) (shm : Nat → UInt8) : Prop where
  master0 : CreatedLikeNew .master masterFeatures 0 num0 masterIo vqs.master0
  master1 : CreatedLikeNew .master masterFeatures 1 num1 masterIo vqs.master1
  slave0 : CreatedLikeNew .slave slaveFeatures 0 num0 slaveIo vqs.slave0
  slave1 : CreatedLikeNew .slave slaveFeatures 1 num1 slaveIo vqs.slave1
  session : rpmsgInitVdevOn vqs num0 num1 masterFeatures slaveFeatures masterIo slaveIo shpool shm =
    rpmsgInitVdev num0 num1 masterFeatures slaveFeatures masterIo slaveIo shpool shm

/-- The fields that `virtqueue_create` leaves alone are as `virtqueue_allocate` has set them. -/
structure Virtqueue.Untouched (vq : Virtqueue) : Prop where
  queuedCnt : vq.vqQueuedCnt = 0
  head : vq.vqDescHeadIdx = 0
  usedConsIdx : vq.vqUsedConsIdx = 0
  availableIdx : vq.vqAvailableIdx = 0
  descx : ∀ cell, vq.vqDescx cell = ⟨NULL, 0⟩
  debug : vq.vqDebug = VqDebug.clean

structure VdevQueues.Untouched (vqs : VdevQueues) : Prop where
  master0 : vqs.master0.Untouched
  master1 : vqs.master1.Untouched
  slave0 : vqs.slave0.Untouched
  slave1 : vqs.slave1.Untouched

end OpenAmp
