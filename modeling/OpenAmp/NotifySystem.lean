import OpenAmp.Library.Run
import OpenAmp.Virtqueue

/-!
# Publishing, kicking and arming, one shared access at a time

One direction of a vring: a producer that publishes and kicks, and a consumer that consumes and
switches its callbacks off and on. Either side can be the producer: the master publishes on the
available ring, the slave on the used ring. Every step is one access to a word of the vring or one
update of a private field, so the runs are all interleavings of the two sides' accesses.
-/

namespace OpenAmp

/-! ### The words of one direction

`role` is the role of the producer. The index and the slots belong to it; the event index and the
flags are the consumer's. -/

def Vring.producerIdx (role : Role) (vr : Vring) : Nat :=
  match role with
  | .master => vr.avail.idx
  | .slave => vr.used.idx

def Vring.setProducerIdx (role : Role) (vr : Vring) (idx : Nat) : Vring :=
  match role with
  | .master => { vr with avail := { vr.avail with idx } }
  | .slave => { vr with used := { vr.used with idx } }

def Vring.event (role : Role) (vr : Vring) : Nat :=
  match role with
  | .master => vringAvailEvent vr
  | .slave => vringUsedEvent vr

def Vring.setEvent (role : Role) (vr : Vring) (event : Nat) : Vring :=
  match role with
  | .master => setVringAvailEvent vr event
  | .slave => setVringUsedEvent vr event

def Vring.consumerFlags (role : Role) (vr : Vring) : Nat :=
  match role with
  | .master => vr.used.flags
  | .slave => vr.avail.flags

def Vring.setConsumerFlags (role : Role) (vr : Vring) (flags : Nat) : Vring :=
  match role with
  | .master => { vr with used := { vr.used with flags } }
  | .slave => { vr with avail := { vr.avail with flags } }

/-- The consumer's private position: `vq_available_idx` of a slave, `vq_used_cons_idx` of a master. -/
def Virtqueue.cursor (role : Role) (vq : Virtqueue) : Nat :=
  match role with
  | .master => vq.vqAvailableIdx
  | .slave => vq.vqUsedConsIdx

def Virtqueue.advance (role : Role) (vq : Virtqueue) : Virtqueue :=
  match role with
  | .master => { vq with vqAvailableIdx := u16 (vq.vqAvailableIdx + 1) }
  | .slave => { vq with vqUsedConsIdx := u16 (vq.vqUsedConsIdx + 1) }

/-! ### The machine -/

/-- The next access of the producer's current call. -/
inductive ProducerPc where
  | idle
  -- read the index to select the slot; the descriptors of the chain are written before
  | slotRead (head len : Nat)
  -- write the head into the slot
  | slotWrite (head len slot : Nat)
  -- write the length into the slot, on the used ring
  | slotLen (len slot : Nat)
  -- `idx++` reads
  | idxRead
  -- `idx++` writes
  | idxWrite (idx : Nat)
  -- `vq_queued_cnt++`
  | count
  -- `vq_ring_must_notify` reads the index, or the flags without event indices
  | mustNotify
  -- `vq_ring_must_notify` reads the event index
  | readEvent (newIdx : Nat)
  -- the notify callback, if it must be called
  | notify (must : Bool)
  -- `vq_queued_cnt = 0`
  | reset
deriving DecidableEq, Repr

/-- The next access of the consumer's current call. -/
inductive ConsumerPc where
  | idle
  -- compare the cursor with the producer's index
  | consume
  -- take the entry; the master frees its chain first
  | take
  -- write the event index out of reach, or read the flags to set one
  | disable
  | disableFlags (flags : Nat)
  -- write the event index, or read the flags to clear one
  | enable
  | enableFlags (flags : Nat)
  -- `virtqueue_nused` or `virtqueue_navail` reads the producer's index
  | check
deriving DecidableEq, Repr

structure NotifySystem where
  vring : Vring
  producer : Virtqueue
  consumer : Virtqueue
  producerPc : ProducerPc
  consumerPc : ConsumerPc
  -- how many entries the producer has published
  published : Nat
  -- how many of them the consumer has taken
  taken : Nat
  -- how many had been published when the last kick was completed
  kicked : Nat
  -- `virtqueue_enable_cb` returned 0 and the consumer has done nothing since
  armed : Bool
  -- the producer called its notify callback after the last write of `virtqueue_enable_cb`
  notified : Bool

inductive NotifyAction where
  | publish (head len : Nat)
  | writeDesc (idx : Nat) (dp : VringDesc)
  | kick
  | producer
  | consume
  | freeDesc (idx next : Nat)
  | disableCb
  | enableCb
  | consumer
deriving DecidableEq, Repr

/-- A side starts a call when it is idle. The ring is never over-filled, and fewer than `2 ^ 16`
entries are published after a kick, or after creation, before the next kick. -/
def NotifySystem.Allowed (s : NotifySystem) : NotifyAction → Prop
  | .publish _ _ =>
      s.producerPc = .idle ∧ s.published - s.taken < s.producer.vqNentries ∧
        s.published - s.kicked + 1 < 2 ^ 16
  | .writeDesc _ _ => ∃ head len, s.producerPc = .slotRead head len
  | .kick => s.producerPc = .idle
  | .freeDesc _ _ => s.consumerPc = .take
  | .consume | .disableCb | .enableCb => s.consumerPc = .idle
  | .producer | .consumer => True

instance (s : NotifySystem) : (action : NotifyAction) → Decidable (s.Allowed action)
  | .publish _ _ => inferInstanceAs (Decidable (_ ∧ _))
  | .writeDesc _ _ =>
      match hpc : s.producerPc with
      | .slotRead head len => isTrue ⟨head, len, hpc⟩
      | .idle | .slotWrite _ _ _ | .slotLen _ _ | .idxRead | .idxWrite _ | .count | .mustNotify
      | .readEvent _ | .notify _ | .reset =>
          isFalse fun ⟨_, _, hslot⟩ => ProducerPc.noConfusion (hpc.symm.trans hslot)
  | .kick => inferInstanceAs (Decidable (_ = _))
  | .freeDesc _ _ => inferInstanceAs (Decidable (_ = _))
  | .consume | .disableCb | .enableCb => inferInstanceAs (Decidable (_ = _))
  | .producer | .consumer => inferInstanceAs (Decidable True)

/-- The next access of the producer. -/
def NotifySystem.producerStep (s : NotifySystem) : NotifySystem :=
  let role := s.producer.role
  match s.producerPc with
  | .idle => s
  | .slotRead head len =>
      { s with producerPc :=
          .slotWrite head len (s.vring.producerIdx role &&& ringMask s.producer.vqNentries) }
  | .slotWrite head len slot =>
      match role with
      | .master =>
          { s with
            vring := { s.vring with avail := { s.vring.avail with
              ring := Function.update s.vring.avail.ring slot head } }
            producerPc := .idxRead }
      | .slave =>
          { s with
            vring := { s.vring with used := { s.vring.used with
              ring := Function.update s.vring.used.ring slot
                { s.vring.used.ring slot with id := head } } }
            producerPc := .slotLen len slot }
  | .slotLen len slot =>
      { s with
        vring := { s.vring with used := { s.vring.used with
          ring := Function.update s.vring.used.ring slot
            { s.vring.used.ring slot with len } } }
        producerPc := .idxRead }
  | .idxRead => { s with producerPc := .idxWrite (s.vring.producerIdx role) }
  | .idxWrite idx =>
      { s with
        vring := s.vring.setProducerIdx role (u16 (idx + 1))
        producerPc := .count
        published := s.published + 1 }
  | .count =>
      { s with
        producer := { s.producer with vqQueuedCnt := u16 (s.producer.vqQueuedCnt + 1) }
        producerPc := .idle }
  | .mustNotify =>
      if s.producer.eventIdx then
        { s with producerPc := .readEvent (s.vring.producerIdx role) }
      else
        { s with producerPc := .notify (s.vring.consumerFlags role &&& 1 = 0) }
  | .readEvent newIdx =>
      { s with producerPc :=
          .notify (vringNeedEvent (s.vring.event role) newIdx
            (ofInt 16 ((newIdx : Int) - s.producer.vqQueuedCnt))) }
  | .notify must =>
      { s with
        producerPc := .reset
        notified := s.notified || (must && s.producer.notify) }
  | .reset =>
      { s with
        producer := { s.producer with vqQueuedCnt := 0 }
        producerPc := .idle
        kicked := s.published }

/-- The next access of the consumer. `virtqueue_enable_cb` has taken effect with its write. -/
def NotifySystem.consumerStep (s : NotifySystem) : NotifySystem :=
  let role := s.producer.role
  match s.consumerPc with
  | .idle => s
  | .consume =>
      if s.consumer.cursor role = s.vring.producerIdx role then
        { s with consumerPc := .idle }
      else
        { s with consumerPc := .take }
  | .take =>
      { s with
        consumer := s.consumer.advance role
        consumerPc := .idle
        taken := s.taken + 1 }
  | .disable =>
      if s.consumer.eventIdx then
        { s with
          vring := s.vring.setEvent role
            (ofInt 16 ((s.consumer.cursor role : Int) - s.consumer.vqNentries - 1))
          consumerPc := .idle }
      else
        { s with consumerPc := .disableFlags (s.vring.consumerFlags role) }
  | .disableFlags flags =>
      { s with
        vring := s.vring.setConsumerFlags role (setFlag flags)
        consumerPc := .idle }
  | .enable =>
      if s.consumer.eventIdx then
        { s with
          vring := s.vring.setEvent role (s.consumer.cursor role)
          consumerPc := .check
          notified := false }
      else
        { s with consumerPc := .enableFlags (s.vring.consumerFlags role) }
  | .enableFlags flags =>
      { s with
        vring := s.vring.setConsumerFlags role (clearFlag flags)
        consumerPc := .check
        notified := false }
  | .check =>
      { s with
        consumerPc := .idle
        armed := ofInt 16 ((s.vring.producerIdx role : Int) - s.consumer.cursor role) = 0 }

def NotifySystem.step (s : NotifySystem) : NotifyAction → NotifySystem
  | .publish head len => { s with producerPc := .slotRead head len }
  | .writeDesc idx dp =>
      { s with vring := { s.vring with desc := Function.update s.vring.desc idx dp } }
  | .kick => { s with producerPc := .mustNotify }
  | .producer => s.producerStep
  | .consume => { s with consumerPc := .consume, armed := false }
  | .freeDesc idx next => { s with vring := { s.vring with desc := setNext s.vring.desc idx next } }
  | .disableCb => { s with consumerPc := .disable, armed := false }
  | .enableCb => { s with consumerPc := .enable, armed := false }
  | .consumer => s.consumerStep

/-- A vring both sides have created on cleared memory, each with its own feature word. -/
def NotifySystem.create (role : Role) (entries masterFeatures slaveFeatures : Nat) : NotifySystem :=
  let master := virtqueueCreate .master masterFeatures 0 entries true (Vring.zeroed entries)
    virtqueueAllocate
  let slave := virtqueueCreate .slave slaveFeatures 0 entries true master.1 virtqueueAllocate
  { vring := slave.1
    producer := match role with | .master => master.2 | .slave => slave.2
    consumer := match role with | .master => slave.2 | .slave => master.2
    producerPc := .idle
    consumerPc := .idle
    published := 0
    taken := 0
    kicked := 0
    armed := false
    notified := false }

end OpenAmp
