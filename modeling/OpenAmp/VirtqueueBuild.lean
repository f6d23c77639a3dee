import OpenAmp.Library.LinkedChain
import OpenAmp.VringLayout

/-!
# The two builds of `virtqueue_add_buffer`

With `VQUEUE_DEBUG` a call checks its parameters first, and an assertion that fails stops the program.
The default build has neither: it goes on where an assertion would fail.
-/

namespace OpenAmp

open LinkedChain

def ERROR_VRING_FULL : Int := VQ_ERROR_BASE - 1

inductive VqBuild where
  | default
  | debug
deriving DecidableEq, Repr

/-- `VQ_PARAM_CHK`. -/
def vqParamChk (condition : Bool) (status statusErr : Int) : Int :=
  if status = 0 ∧ condition then statusErr else status

/-- The sum of two `int`s, which has no outcome where it overflows. -/
def intAdd (first second : Int) : Option Int :=
  if -2 ^ 31 ≤ first + second ∧ first + second < 2 ^ 31 then some (first + second) else none

/-- `virtqueue_add_buffer` in either build, on a queue that is there. -/
def virtqueueAddBufferIn (build : VqBuild) (vr : Vring) (vq : Virtqueue)
    (bufList : Nat → VirtqueueBuf) (readable writable : Int) (cookie : Nat) :
    Option (Vring × Virtqueue × Int) := do
  let needed ← intAdd readable writable
  match build with
  | .default => some (virtqueueAddBuffer vr vq bufList readable writable cookie)
  | .debug =>
      let status := vqParamChk (needed < 1) VQUEUE_SUCCESS ERROR_VQUEUE_INVLD_PARAM
      let status := vqParamChk (vq.vqFreeCnt = 0) status ERROR_VRING_FULL
      let (vr, vq, status) :=
        if status = VQUEUE_SUCCESS then virtqueueAddBuffer vr vq bufList readable writable cookie
        else (vr, vq.busy.idle, status)
      -- the first assertion that fails does not return
      if vq.vqDebug.failed = [] then some (vr, vq, status) else none

/-- The free descriptors of a master's queue: a chain from `vq_desc_head_idx` to the end mark, as long
as `vq_free_cnt` says. -/
structure Virtqueue.FreeChain (vr : Vring) (vq : Virtqueue) (free : List Nat) : Prop where
  role : vq.role = .master
  chain : Path (fun cell => (vr.desc cell).next) vq.vqDescHeadIdx free VQ_RING_DESC_CHAIN_END
  nodup : free.Nodup
  index : ∀ cell ∈ free, cell < vq.vqNentries
  count : vq.vqFreeCnt = free.length
  debug : vq.vqDebug = VqDebug.clean

/-- The call returns an error, and the queue, the descriptors and the available ring are as before. -/
def RefusesUnchanged (build : VqBuild) (vr : Vring) (vq : Virtqueue) (bufList : Nat → VirtqueueBuf)
    (readable writable : Int) (cookie : Nat) : Prop :=
  ∃ status, status ≠ VQUEUE_SUCCESS ∧
    virtqueueAddBufferIn build vr vq bufList readable writable cookie = some (vr, vq, status)

end OpenAmp
