import OpenAmp.Library.Run
import OpenAmp.Virtqueue

/-!
# A vring between a master and a slave

The calls both sides make on one vring, in any order, with the history the two sides observe: what
was posted, what the slave took and handed back, and what came back to the master.
-/

namespace OpenAmp

/-- A call of `virtqueue_add_buffer`: the head it was given and what the caller passed. -/
structure AddCall where
  head : Nat
  buf : Nat
  len : Int
  cookie : Nat

structure RingSystem where
  vring : Vring
  master : Virtqueue
  slave : Virtqueue
  -- the posts, oldest first
  added : List AddCall
  -- what `virtqueue_get_available_buffer` returned, oldest first
  taken : List AvailableBuffer
  -- the positions in `taken` that the slave has not handed back
  held : List Nat
  -- the positions in `taken` and the lengths handed back, oldest first
  returned : List (Nat × Nat)
  -- the cookies and lengths `virtqueue_get_buffer` returned, oldest first
  got : List (Nat × Nat)

inductive RingAction where
  | addBuffer (bufList : Nat → VirtqueueBuf) (readable writable : Int) (cookie : Nat)
  | getBuffer
  | getAvailableBuffer
  | addConsumedBuffer (position len : Nat)
  | enableCb (role : Role)
  | disableCb (role : Role)
  | kick (role : Role)

/-- What the callers of the queue promise. `shared` are the addresses inside the shared region; the
slave hands back only what it holds. -/
def RingSystem.Allowed (shared : Nat → Prop) (s : RingSystem) : RingAction → Prop
  | .addBuffer bufList readable writable cookie =>
      1 ≤ readable + writable ∧ readable + writable ≤ s.master.vqFreeCnt ∧ cookie ≠ NULL ∧
        shared (bufList 0).buf
  | .addConsumedBuffer position _ => position ∈ s.held
  | _ => True

instance (shared : Nat → Prop) [DecidablePred shared] (s : RingSystem) (action : RingAction) :
    Decidable (s.Allowed shared action) :=
  match action with
  | .addBuffer .. => inferInstanceAs (Decidable (_ ∧ _ ∧ _ ∧ _))
  | .addConsumedBuffer .. => inferInstanceAs (Decidable (_ ∈ _))
  | .getBuffer | .getAvailableBuffer | .enableCb _ | .disableCb _ | .kick _ =>
      inferInstanceAs (Decidable True)

/-- One call. `none` is a call that does not return. -/
def RingSystem.step (s : RingSystem) : RingAction → Option RingSystem
  | .addBuffer bufList readable writable cookie =>
      let (vring, master, _) :=
        virtqueueAddBuffer s.vring s.master bufList readable writable cookie
      some { s with
        vring, master
        added := s.added ++
          [⟨s.master.vqDescHeadIdx, (bufList 0).buf, (bufList 0).len, cookie⟩] }
  | .getBuffer => do
      let (vring, master, buffer) ← virtqueueGetBuffer s.vring s.master
      some { s with
        vring, master
        got := s.got ++ (buffer.map fun buffer => (buffer.cookie, buffer.len)).toList }
  | .getAvailableBuffer =>
      let (slave, buffer) := virtqueueGetAvailableBuffer s.vring s.slave
      some { s with
        slave
        taken := s.taken ++ buffer.toList
        held := s.held ++ (buffer.map fun _ => s.taken.length).toList }
  | .addConsumedBuffer position len =>
      let head := (s.taken[position]?.map AvailableBuffer.availIdx).getD 0
      let (vring, slave, _) := virtqueueAddConsumedBuffer s.vring s.slave head len
      some { s with
        vring, slave
        held := s.held.erase position
        returned := s.returned ++ [(position, len)] }
  | .enableCb .master =>
      let (vring, master, _) := virtqueueEnableCb s.vring s.master
      some { s with vring, master }
  | .enableCb .slave =>
      let (vring, slave, _) := virtqueueEnableCb s.vring s.slave
      some { s with vring, slave }
  | .disableCb .master =>
      let (vring, master) := virtqueueDisableCb s.vring s.master
      some { s with vring, master }
  | .disableCb .slave =>
      let (vring, slave) := virtqueueDisableCb s.vring s.slave
      some { s with vring, slave }
  | .kick .master => some { s with master := (virtqueueKick s.vring s.master).1 }
  | .kick .slave => some { s with slave := (virtqueueKick s.vring s.slave).1 }

/-- Both sides have run `virtqueue_create` on cleared ring memory and set their regions. -/
def RingSystem.create (entries masterFeatures slaveFeatures : Nat) (masterIo slaveIo : MetalIo) :
    RingSystem :=
  let master := virtqueueCreate .master masterFeatures 0 entries true (Vring.zeroed entries)
    virtqueueAllocate
  let slave := virtqueueCreate .slave slaveFeatures 0 entries true master.1 virtqueueAllocate
  { vring := slave.1
    master := { master.2 with shmIo := masterIo }
    slave := { slave.2 with shmIo := slaveIo }
    added := []
    taken := []
    held := []
    returned := []
    got := [] }

/-- What the slave is to see of a post: the address of the first buffer in its own mapping, the head
and the length. -/
def AddCall.seen (masterIo slaveIo : MetalIo) (call : AddCall) : AvailableBuffer :=
  { buffer := slaveIo.physToVirt (u64 (masterIo.virtToPhys call.buf))
    availIdx := call.head
    len := ofInt 32 call.len }

/-- The cookie of the post at a position. -/
def RingSystem.cookieAt (s : RingSystem) (position : Nat) : Nat :=
  (s.added[position]?.map AddCall.cookie).getD NULL

/-- The posts that `virtqueue_get_buffer` has not given back yet. -/
def RingSystem.outstanding (s : RingSystem) : List Nat :=
  (List.range s.added.length).filter fun position =>
    position ∉ (s.returned.take s.got.length).map Prod.fst

/-! ### The index of a returned buffer -/

def virtqueueGetBufferLength (vr : Vring) (idx : Nat) : Nat := (vr.desc idx).len

/-- The post that `virtqueue_get_buffer` gives back next: that of the first hand-back not collected. -/
def RingSystem.nextPost (s : RingSystem) : Option AddCall := do
  let handed ← s.returned[s.got.length]?
  s.added[handed.1]?

/-- A call of `virtqueue_get_buffer` that returns a cookie returns the head of its post with it, and there
the length of the post is found. -/
def RingSystem.IndexIdentifies (s : RingSystem) : Prop :=
  ∀ vring master buffer, virtqueueGetBuffer s.vring s.master = some (vring, master, some buffer) →
    ∃ call, s.nextPost = some call ∧ buffer.cookie = call.cookie ∧ buffer.idx = call.head ∧
      virtqueueGetBufferLength vring buffer.idx = ofInt 32 call.len

/-! ### A slave that hands back anything -/

/-- A call of the system, or of `virtqueue_add_consumed_buffer` with any index. -/
inductive RingCall where
  | ring (action : RingAction)
  | addConsumedBuffer (headIdx : UInt16) (len : Nat)

/-- The status of such a call is ignored. -/
def RingSystem.stepCall (s : RingSystem) : RingCall → Option RingSystem
  | .ring action => s.step action
  | .addConsumedBuffer headIdx len =>
      let (vring, slave, _) := virtqueueAddConsumedBuffer s.vring s.slave headIdx.toNat len
      some { s with vring, slave }

/-- The head index a call hands to `virtqueue_add_consumed_buffer`. -/
def RingSystem.consumes (s : RingSystem) : RingCall → Option Nat
  | .ring (.addConsumedBuffer position _) =>
      some ((s.taken[position]?.map AvailableBuffer.availIdx).getD 0)
  | .ring _ => none
  | .addConsumedBuffer headIdx _ => some headIdx.toNat

end OpenAmp
