import OpenAmp.NotifySystem
import OpenAmp.Proof.RingOperations

/-!
# No wake-up is lost

The producer publishes, then looks at the consumer's event index or flag; the consumer writes its
event index or flag, then looks at what is published. The invariant says what each side knows at
each of its accesses; whichever of the two looks last sees the other's write.
-/

namespace OpenAmp

open RingBuffer

/-! ### The words of one direction are separate cells -/

section Words

variable (role : Role) (vr : Vring) (word : Nat)

@[simp] theorem Vring.producerIdx_setProducerIdx :
    (vr.setProducerIdx role word).producerIdx role = word := by
  cases role <;> rfl

@[simp] theorem Vring.event_setProducerIdx :
    (vr.setProducerIdx role word).event role = vr.event role := by
  cases role <;> rfl

@[simp] theorem Vring.consumerFlags_setProducerIdx :
    (vr.setProducerIdx role word).consumerFlags role = vr.consumerFlags role := by
  cases role <;> rfl

@[simp] theorem Vring.producerIdx_setEvent :
    (vr.setEvent role word).producerIdx role = vr.producerIdx role := by
  cases role <;> rfl

@[simp] theorem Vring.event_setEvent : (vr.setEvent role word).event role = u16 word := by
  cases role with
  | master =>
      simp only [Vring.event, Vring.setEvent, vringAvailEvent, setVringAvailEvent,
        Function.update_self, u16]
      omega
  | slave => simp [Vring.event, Vring.setEvent, vringUsedEvent, setVringUsedEvent]

@[simp] theorem Vring.producerIdx_setConsumerFlags :
    (vr.setConsumerFlags role word).producerIdx role = vr.producerIdx role := by
  cases role <;> rfl

@[simp] theorem Vring.consumerFlags_setConsumerFlags :
    (vr.setConsumerFlags role word).consumerFlags role = word := by
  cases role <;> rfl

end Words

@[simp] theorem Virtqueue.eventIdx_advance (role : Role) (vq : Virtqueue) :
    (vq.advance role).eventIdx = vq.eventIdx := by
  cases role <;> rfl

theorem Virtqueue.cursor_advance (role : Role) (vq : Virtqueue) :
    (vq.advance role).cursor role = u16 (vq.cursor role + 1) := by
  cases role <;> rfl

theorem clearFlag_and_one (flags : Nat) : clearFlag flags &&& 1 = 0 := by
  rw [Nat.and_one_is_mod, clearFlag]
  exact Nat.mul_mod_left _ _

/-! ### Calls that nothing interrupts

Taken one after the other, the accesses of a call are the call. -/

section Uninterrupted

variable {s : NotifySystem}

theorem NotifySystem.publish_master (hpc : s.producerPc = .idle)
    (hrole : s.producer.role = .master) (head len : Nat) :
    NotifySystem.producerStep^[5] (s.step (.publish head len)) =
      { s with
        vring := (vqRingUpdateAvail s.vring s.producer head).1
        producer := (vqRingUpdateAvail s.vring s.producer head).2
        published := s.published + 1 } := by
  simp [Function.iterate_succ, NotifySystem.step, NotifySystem.producerStep, hrole,
    vqRingUpdateAvail, Vring.producerIdx, Vring.setProducerIdx, hpc]

theorem NotifySystem.publish_slave (hpc : s.producerPc = .idle)
    (hrole : s.producer.role = .slave) (hdebug : s.producer.vqDebug = VqDebug.clean)
    {head : Nat} (hhead : head ≤ s.producer.vqNentries) (len : Nat) :
    NotifySystem.producerStep^[6] (s.step (.publish head len)) =
      { s with
        vring := (virtqueueAddConsumedBuffer s.vring s.producer head len).1
        producer := (virtqueueAddConsumedBuffer s.vring s.producer head len).2.1
        published := s.published + 1 } := by
  simp [Function.iterate_succ, NotifySystem.step, NotifySystem.producerStep, hrole,
    virtqueueAddConsumedBuffer, Vring.producerIdx, Vring.setProducerIdx, hpc, not_lt.mpr hhead,
    Virtqueue.busy, Virtqueue.idle, hdebug, VqDebug.clean, VqDebug.check]

/-- What `vq_ring_must_notify` decides, in the words of one direction. -/
theorem vqRingMustNotify_eq (vr : Vring) (vq : Virtqueue) :
    vqRingMustNotify vr vq =
      if vq.eventIdx then
        vringNeedEvent (vr.event vq.role) (vr.producerIdx vq.role)
          (ofInt 16 ((vr.producerIdx vq.role : Int) - vq.vqQueuedCnt))
      else decide (vr.consumerFlags vq.role &&& 1 = 0) := by
  cases hrole : vq.role <;>
    simp only [vqRingMustNotify, hrole] <;> rfl

theorem NotifySystem.kick_uninterrupted (hpc : s.producerPc = .idle)
    (hdebug : s.producer.vqDebug = VqDebug.clean) :
    NotifySystem.producerStep^[if s.producer.eventIdx then 4 else 3] (s.step .kick) =
      { s with
        producer := (virtqueueKick s.vring s.producer).1
        notified := s.notified || (virtqueueKick s.vring s.producer).2
        kicked := s.published } := by
  have hmust : (virtqueueKick s.vring s.producer).2 =
      (vqRingMustNotify s.vring s.producer && s.producer.notify) := rfl
  rw [Virtqueue.kick_eq hdebug, hmust, vqRingMustNotify_eq]
  cases hmode : s.producer.eventIdx <;>
    simp [Function.iterate_succ, NotifySystem.step, NotifySystem.producerStep, hmode, hpc]

theorem NotifySystem.disableCb_uninterrupted (hpc : s.consumerPc = .idle)
    (hroles : s.consumer.role ≠ s.producer.role) :
    NotifySystem.consumerStep^[if s.consumer.eventIdx then 1 else 2] (s.step .disableCb) =
      { s with vring := (virtqueueDisableCb s.vring s.consumer).1, armed := false } := by
  cases hproducer : s.producer.role <;> cases hconsumer : s.consumer.role <;>
    first | exact absurd (hconsumer.trans hproducer.symm) hroles | skip
  all_goals
    cases hmode : s.consumer.eventIdx <;>
      simp_all [Function.iterate_succ, NotifySystem.step, NotifySystem.consumerStep,
        virtqueueDisableCb, Virtqueue.busy, Virtqueue.eventIdx, Vring.setEvent,
        Vring.setConsumerFlags, Vring.consumerFlags, Virtqueue.cursor]

theorem NotifySystem.enableCb_uninterrupted (hpc : s.consumerPc = .idle)
    (hroles : s.consumer.role ≠ s.producer.role) :
    NotifySystem.consumerStep^[if s.consumer.eventIdx then 2 else 3] (s.step .enableCb) =
      { s with
        vring := (virtqueueEnableCb s.vring s.consumer).1
        armed := decide ((virtqueueEnableCb s.vring s.consumer).2.2 = 0)
        notified := false } := by
  cases hproducer : s.producer.role <;> cases hconsumer : s.consumer.role <;>
    first | exact absurd (hconsumer.trans hproducer.symm) hroles | skip
  all_goals
    cases hmode : s.consumer.eventIdx <;>
      simp [Function.iterate_succ, NotifySystem.step, NotifySystem.consumerStep, hproducer,
        hconsumer, hmode, hpc, virtqueueEnableCb, vqRingEnableInterrupt, virtqueueNused,
        virtqueueNavail, Vring.setEvent, Vring.setConsumerFlags, Vring.consumerFlags,
        Vring.producerIdx, Virtqueue.cursor, setVringAvailEvent, setVringUsedEvent]

theorem NotifySystem.consume_slave (hpc : s.consumerPc = .idle) (hrole : s.producer.role = .master)
    (hdebug : s.consumer.vqDebug = VqDebug.clean) :
    NotifySystem.consumerStep^[2] (s.step .consume) =
      { s with
        consumer := (virtqueueGetAvailableBuffer s.vring s.consumer).1
        taken := s.taken + (virtqueueGetAvailableBuffer s.vring s.consumer).2.toList.length
        armed := false } := by
  by_cases hempty : s.consumer.vqAvailableIdx = s.vring.avail.idx <;>
    simp [Function.iterate_succ, NotifySystem.step, NotifySystem.consumerStep, hrole, hpc,
      virtqueueGetAvailableBuffer, Virtqueue.cursor, Vring.producerIdx, Virtqueue.advance,
      Virtqueue.busy, Virtqueue.idle, hempty, hdebug, VqDebug.clean, VqDebug.check]

end Uninterrupted

/-! ### Positions modulo the word -/

theorem ofInt_u16_sub {a b : Nat} (hle : b ≤ a) (hlt : a - b < 2 ^ 16) :
    ofInt 16 ((u16 a : Int) - u16 b) = a - b := by
  unfold ofInt u16
  omega

/-- The event index is passed exactly when the consumer's position lies among what was published
since the last kick. -/
theorem vringNeedEvent_of_kicked_le {kicked taken published : Nat} (hkicked : kicked ≤ taken)
    (htaken : taken < published) (hlt : published - kicked < 2 ^ 16) :
    vringNeedEvent (u16 taken) (u16 published)
      (ofInt 16 ((u16 published : Int) - (published - kicked : Nat))) = true := by
  unfold vringNeedEvent ofInt u16
  rw [decide_eq_true_iff]
  omega

/-! ### The invariant -/

/-- The consumer's event index, or its flag, asks for a notification of the next entry. -/
def NotifySystem.Listening (s : NotifySystem) : Prop :=
  if s.consumer.eventIdx then s.vring.event s.producer.role = u16 s.taken
  else s.vring.consumerFlags s.producer.role &&& 1 = 0

/-- Everything published has been taken, or the consumer does not rely on a notification. -/
def NotifySystem.Settled (s : NotifySystem) : Prop :=
  s.armed = true → s.notified = false → s.published ≤ s.taken

/-- There is room for one more entry, in the ring and in the count of entries since the last kick. -/
structure NotifySystem.Room (s : NotifySystem) : Prop where
  queued : s.producer.vqQueuedCnt = s.published - s.kicked
  unkicked : s.published - s.kicked + 1 < 2 ^ 16
  window : s.published - s.taken < s.producer.vqNentries

/-- What the producer knows at each of its accesses. -/
def NotifySystem.ProducerInv (s : NotifySystem) : Prop :=
  match s.producerPc with
  | .idle | .mustNotify =>
      s.producer.vqQueuedCnt = s.published - s.kicked ∧ s.published - s.kicked < 2 ^ 16
  | .slotRead _ _ | .slotWrite _ _ _ | .idxRead => s.Room
  | .slotLen _ _ => s.Room ∧ s.producer.role = .slave
  | .idxWrite idx => s.Room ∧ idx = u16 s.published
  | .count =>
      s.producer.vqQueuedCnt + 1 = s.published - s.kicked ∧ s.published - s.kicked < 2 ^ 16
  | .readEvent newIdx =>
      s.producer.vqQueuedCnt = s.published - s.kicked ∧ s.published - s.kicked < 2 ^ 16 ∧
        newIdx = u16 s.published ∧ s.producer.eventIdx = true
  | .notify must => must = false → s.Settled
  | .reset => s.Settled

/-- What the consumer knows at each of its accesses. -/
def NotifySystem.ConsumerInv (s : NotifySystem) : Prop :=
  match s.consumerPc with
  | .idle => s.armed = true → s.Listening
  | .take => s.armed = false ∧ s.taken < s.published
  | .check => s.armed = false ∧ s.Listening
  | .enableFlags _ => s.armed = false ∧ s.consumer.eventIdx = false
  | .consume | .disable | .disableFlags _ | .enable => s.armed = false

structure NotifyInv (s : NotifySystem) : Prop where
  entries : s.producer.vqNentries ≤ 2 ^ 15
  notify : s.producer.notify = true
  eventIdx : s.producer.eventIdx = s.consumer.eventIdx
  idx : s.vring.producerIdx s.producer.role = u16 s.published
  cursor : s.consumer.cursor s.producer.role = u16 s.taken
  taken_le : s.taken ≤ s.published
  window : s.published - s.taken ≤ s.producer.vqNentries
  kicked_le : s.kicked ≤ s.published
  producer : s.ProducerInv
  consumer : s.ConsumerInv
  woken : s.armed = true → s.notified = false → s.kicked ≤ s.taken

section Step

variable {s : NotifySystem}

/-- A write of the producer to its ring, outside the words the handshake uses. -/
theorem NotifyInv.writeRing (h : NotifyInv s) {vr : Vring} {pc : ProducerPc}
    (hidx : vr.producerIdx s.producer.role = s.vring.producerIdx s.producer.role)
    (hevent : vr.event s.producer.role = s.vring.event s.producer.role)
    (hflags : vr.consumerFlags s.producer.role = s.vring.consumerFlags s.producer.role)
    (hproducer : NotifySystem.ProducerInv { s with vring := vr, producerPc := pc }) :
    NotifyInv { s with vring := vr, producerPc := pc } := by
  have hconsumer := h.consumer
  refine { h with idx := hidx.trans h.idx, producer := hproducer, consumer := ?_ }
  simp only [NotifySystem.ConsumerInv, NotifySystem.Listening] at hconsumer ⊢
  rw [hevent, hflags]
  exact hconsumer

theorem NotifyInv.slotWrite (h : NotifyInv s) {head len slot : Nat}
    (hpc : s.producerPc = .slotWrite head len slot) : NotifyInv s.producerStep := by
  have hroom : s.Room := by
    simpa only [NotifySystem.ProducerInv, hpc] using h.producer
  rw [NotifySystem.producerStep, hpc]
  cases hrole : s.producer.role with
  | master =>
      refine h.writeRing ?_ ?_ ?_ { hroom with }
      all_goals rw [hrole]; rfl
  | slave =>
      refine h.writeRing ?_ ?_ ?_ ⟨{ hroom with }, hrole⟩
      all_goals rw [hrole]; rfl

theorem NotifyInv.slotLen (h : NotifyInv s) {len slot : Nat}
    (hpc : s.producerPc = .slotLen len slot) : NotifyInv s.producerStep := by
  obtain ⟨hroom, hrole⟩ : s.Room ∧ s.producer.role = .slave := by
    simpa only [NotifySystem.ProducerInv, hpc] using h.producer
  rw [NotifySystem.producerStep, hpc]
  refine h.writeRing ?_ ?_ ?_ { hroom with }
  all_goals rw [hrole]; rfl

theorem NotifyInv.idxWrite (h : NotifyInv s) {idx : Nat} (hpc : s.producerPc = .idxWrite idx) :
    NotifyInv s.producerStep := by
  obtain ⟨hroom, rfl⟩ : s.Room ∧ idx = u16 s.published := by
    simpa only [NotifySystem.ProducerInv, hpc] using h.producer
  have hconsumer := h.consumer
  have htaken := h.taken_le
  have hkicked := h.kicked_le
  have hqueued := hroom.queued
  have hunkicked := hroom.unkicked
  have hwindow := hroom.window
  rw [NotifySystem.producerStep, hpc]
  constructor
  case idx =>
    simp only [Vring.producerIdx_setProducerIdx]
    exact succ_word (2 ^ 16) s.published
  case taken_le => exact Nat.le_succ_of_le htaken
  case window =>
    change s.published + 1 - s.taken ≤ s.producer.vqNentries
    omega
  case kicked_le => exact Nat.le_succ_of_le hkicked
  case producer =>
    change s.producer.vqQueuedCnt + 1 = s.published + 1 - s.kicked ∧
      s.published + 1 - s.kicked < 2 ^ 16
    omega
  case consumer =>
    simp only [NotifySystem.ConsumerInv, NotifySystem.Listening, Vring.event_setProducerIdx,
      Vring.consumerFlags_setProducerIdx] at hconsumer ⊢
    generalize s.consumerPc = pc at hconsumer ⊢
    cases pc with
    | take => exact ⟨hconsumer.1, Nat.lt_succ_of_lt hconsumer.2⟩
    | idle => exact hconsumer
    | check => exact hconsumer
    | enableFlags flags => exact hconsumer
    | consume => exact hconsumer
    | disable => exact hconsumer
    | disableFlags flags => exact hconsumer
    | enable => exact hconsumer
  case woken => exact h.woken
  all_goals first | exact h.entries | exact h.notify | exact h.eventIdx | exact h.cursor

/-- If the producer decides against a notification, nothing is left to take by a consumer that is
waiting for one. -/
theorem NotifyInv.settled_of_must (h : NotifyInv s) {must : Bool}
    (hmust : s.taken < s.published → s.kicked ≤ s.taken → s.Listening → must = true) :
    must = false → s.Settled := by
  intro hfalse harmed hnotified
  by_contra hpending
  have hlistening : s.Listening := by
    have hconsumer := h.consumer
    rw [NotifySystem.ConsumerInv] at hconsumer
    split at hconsumer <;> simp_all
  have htrue := hmust (not_le.mp hpending) (h.woken harmed hnotified) hlistening
  exact absurd (htrue.symm.trans hfalse) (by decide)

theorem NotifyInv.mustNotify (h : NotifyInv s) (hpc : s.producerPc = .mustNotify) :
    NotifyInv s.producerStep := by
  obtain ⟨hqueued, hunkicked⟩ : s.producer.vqQueuedCnt = s.published - s.kicked ∧
      s.published - s.kicked < 2 ^ 16 := by
    simpa only [NotifySystem.ProducerInv, hpc] using h.producer
  rw [NotifySystem.producerStep, hpc]
  by_cases hmode : s.producer.eventIdx = true
  · simp only [hmode, if_true]
    exact { h with producer := ⟨hqueued, hunkicked, h.idx, hmode⟩ }
  · simp only [hmode]
    refine { h with producer := ?_ }
    refine h.settled_of_must fun _ _ hlistening => ?_
    rw [NotifySystem.Listening, ← h.eventIdx, if_neg hmode] at hlistening
    exact decide_eq_true hlistening

theorem NotifyInv.readEvent (h : NotifyInv s) {newIdx : Nat}
    (hpc : s.producerPc = .readEvent newIdx) : NotifyInv s.producerStep := by
  obtain ⟨hqueued, hunkicked, rfl, hmode⟩ : s.producer.vqQueuedCnt = s.published - s.kicked ∧
      s.published - s.kicked < 2 ^ 16 ∧ newIdx = u16 s.published ∧
      s.producer.eventIdx = true := by
    simpa only [NotifySystem.ProducerInv, hpc] using h.producer
  rw [NotifySystem.producerStep, hpc]
  refine { h with producer := ?_ }
  refine h.settled_of_must fun hpending hkicked hlistening => ?_
  rw [NotifySystem.Listening, ← h.eventIdx, if_pos hmode] at hlistening
  rw [hlistening, hqueued]
  exact vringNeedEvent_of_kicked_le hkicked hpending hunkicked

theorem NotifyInv.notifyCallback (h : NotifyInv s) {must : Bool}
    (hpc : s.producerPc = .notify must) : NotifyInv s.producerStep := by
  have hsettled : must = false → s.Settled := by
    simpa only [NotifySystem.ProducerInv, hpc] using h.producer
  have hconsumer := h.consumer
  rw [NotifySystem.producerStep, hpc]
  simp only [h.notify, Bool.and_true]
  refine { h with producer := ?_, consumer := hconsumer, woken := ?_ }
  · intro harmed hnotified
    obtain ⟨hquiet, hmust⟩ := Bool.or_eq_false_iff.mp hnotified
    exact hsettled hmust harmed hquiet
  · intro harmed hnotified
    exact h.woken harmed (Bool.or_eq_false_iff.mp hnotified).1

theorem NotifyInv.producerStep (h : NotifyInv s) : NotifyInv s.producerStep := by
  have hproducer := h.producer
  cases hpc : s.producerPc with
  | idle =>
      rw [NotifySystem.producerStep, hpc]
      exact h
  | slotRead head len =>
      rw [NotifySystem.ProducerInv, hpc] at hproducer
      rw [NotifySystem.producerStep, hpc]
      exact { h with producer := { hproducer with } }
  | slotWrite head len slot => exact h.slotWrite hpc
  | slotLen len slot => exact h.slotLen hpc
  | idxRead =>
      rw [NotifySystem.ProducerInv, hpc] at hproducer
      rw [NotifySystem.producerStep, hpc]
      exact { h with producer := ⟨{ hproducer with }, h.idx⟩ }
  | idxWrite idx => exact h.idxWrite hpc
  | count =>
      rw [NotifySystem.ProducerInv, hpc] at hproducer
      obtain ⟨hqueued, hunkicked⟩ := hproducer
      rw [NotifySystem.producerStep, hpc]
      refine { h with producer := ⟨?_, hunkicked⟩ }
      change u16 (s.producer.vqQueuedCnt + 1) = s.published - s.kicked
      rw [hqueued]
      exact Nat.mod_eq_of_lt hunkicked
  | mustNotify => exact h.mustNotify hpc
  | readEvent newIdx => exact h.readEvent hpc
  | notify must => exact h.notifyCallback hpc
  | reset =>
      rw [NotifySystem.ProducerInv, hpc] at hproducer
      rw [NotifySystem.producerStep, hpc]
      refine { h with kicked_le := le_rfl, producer := ⟨?_, ?_⟩, woken := hproducer }
      · exact (Nat.sub_self s.published).symm
      · change s.published - s.published < 2 ^ 16
        omega

/-- What the producer knows survives whatever the consumer does. -/
theorem NotifySystem.ProducerInv.of_consumer {s' : NotifySystem} (h : s.ProducerInv)
    (hpc : s'.producerPc = s.producerPc) (hproducer : s'.producer = s.producer)
    (hpublished : s'.published = s.published) (hkicked : s'.kicked = s.kicked)
    (htaken : s.taken ≤ s'.taken) (hsettled : s.Settled → s'.Settled) : s'.ProducerInv := by
  have hroom : s.Room → s'.Room := by
    rintro ⟨hqueued, hunkicked, hwindow⟩
    constructor
    · rw [hproducer, hpublished, hkicked]
      exact hqueued
    · rw [hpublished, hkicked]
      exact hunkicked
    · rw [hproducer, hpublished]
      omega
  rw [NotifySystem.ProducerInv, hpc]
  cases hcase : s.producerPc <;> simp only [NotifySystem.ProducerInv, hcase] at h
  case notify => exact fun hmust => hsettled (h hmust)
  case reset => exact hsettled h
  case slotRead | slotWrite | idxRead => exact hroom h
  case slotLen => exact ⟨hroom h.1, hproducer ▸ h.2⟩
  case idxWrite => exact ⟨hroom h.1, hpublished ▸ h.2⟩
  all_goals
    simp only [hproducer, hpublished, hkicked]
    exact h

theorem NotifySystem.settled_of_not_armed (harmed : s.armed = false) : s.Settled := by
  intro htrue
  exact absurd (harmed.symm.trans htrue) (by decide)

/-- A step of the consumer that leaves it waiting for nothing. It may write the consumer's words. -/
theorem NotifyInv.consumerMove (h : NotifyInv s) {vr : Vring} {pc : ConsumerPc} {notified : Bool}
    (hidx : vr.producerIdx s.producer.role = s.vring.producerIdx s.producer.role)
    (hconsumer : NotifySystem.ConsumerInv
      { s with vring := vr, consumerPc := pc, armed := false, notified }) :
    NotifyInv { s with vring := vr, consumerPc := pc, armed := false, notified } :=
  { h with
    idx := hidx.trans h.idx
    producer := h.producer.of_consumer rfl rfl rfl rfl le_rfl
      fun _ => NotifySystem.settled_of_not_armed rfl
    consumer := hconsumer
    woken := fun htrue => absurd htrue Bool.false_ne_true }

theorem NotifyInv.consume (h : NotifyInv s) (hpc : s.consumerPc = .consume) :
    NotifyInv s.consumerStep := by
  have harmed : s.armed = false := by
    simpa only [NotifySystem.ConsumerInv, hpc] using h.consumer
  rw [NotifySystem.consumerStep, hpc]
  simp only
  split_ifs with hempty
  · rw [harmed]
    exact h.consumerMove rfl fun htrue => absurd htrue Bool.false_ne_true
  · rw [harmed]
    refine h.consumerMove rfl ⟨rfl, ?_⟩
    rw [h.cursor, h.idx] at hempty
    exact lt_of_le_of_ne h.taken_le fun heq => hempty (congrArg u16 heq)

theorem NotifyInv.take (h : NotifyInv s) (hpc : s.consumerPc = .take) :
    NotifyInv s.consumerStep := by
  obtain ⟨harmed, hlt⟩ : s.armed = false ∧ s.taken < s.published := by
    simpa only [NotifySystem.ConsumerInv, hpc] using h.consumer
  have hnot : ¬ s.armed = true := by
    rw [harmed]
    decide
  have hwindow := h.window
  rw [NotifySystem.consumerStep, hpc]
  refine { h with
    eventIdx := ?_
    cursor := ?_
    taken_le := hlt
    window := ?_
    producer := h.producer.of_consumer rfl rfl rfl rfl (Nat.le_succ _)
      fun _ => NotifySystem.settled_of_not_armed harmed
    consumer := fun htrue => absurd htrue hnot
    woken := fun htrue => absurd htrue hnot }
  · rw [Virtqueue.eventIdx_advance]
    exact h.eventIdx
  · rw [Virtqueue.cursor_advance, h.cursor]
    exact succ_word (2 ^ 16) s.taken
  · change s.published - (s.taken + 1) ≤ s.producer.vqNentries
    omega

/-- When `virtqueue_enable_cb` finds nothing pending, all that was published has been taken. -/
theorem NotifyInv.check (h : NotifyInv s) (hpc : s.consumerPc = .check) :
    NotifyInv s.consumerStep := by
  obtain ⟨-, hlistening⟩ : s.armed = false ∧ s.Listening := by
    simpa only [NotifySystem.ConsumerInv, hpc] using h.consumer
  have hentries := h.entries
  have hwindow := h.window
  have htaken := h.taken_le
  rw [NotifySystem.consumerStep, hpc]
  have hpending : ofInt 16 ((s.vring.producerIdx s.producer.role : Int) -
      s.consumer.cursor s.producer.role) = s.published - s.taken := by
    rw [h.idx, h.cursor]
    exact ofInt_u16_sub htaken (by omega)
  simp only [hpending]
  have hall : decide (s.published - s.taken = 0) = true → s.published ≤ s.taken := by
    intro hzero
    exact Nat.sub_eq_zero_iff_le.mp (of_decide_eq_true hzero)
  exact { h with
    producer := h.producer.of_consumer rfl rfl rfl rfl le_rfl fun _ hzero _ => hall hzero
    consumer := fun _ => hlistening
    woken := fun hzero _ => h.kicked_le.trans (hall hzero) }

theorem NotifyInv.disable (h : NotifyInv s) (hpc : s.consumerPc = .disable) :
    NotifyInv s.consumerStep := by
  have harmed : s.armed = false := by
    simpa only [NotifySystem.ConsumerInv, hpc] using h.consumer
  rw [NotifySystem.consumerStep, hpc]
  simp only
  rw [harmed]
  split_ifs
  · refine h.consumerMove (Vring.producerIdx_setEvent _ _ _) fun htrue => ?_
    exact absurd htrue Bool.false_ne_true
  · exact h.consumerMove rfl rfl

theorem NotifyInv.disableFlags (h : NotifyInv s) {flags : Nat}
    (hpc : s.consumerPc = .disableFlags flags) : NotifyInv s.consumerStep := by
  have harmed : s.armed = false := by
    simpa only [NotifySystem.ConsumerInv, hpc] using h.consumer
  rw [NotifySystem.consumerStep, hpc]
  simp only
  rw [harmed]
  refine h.consumerMove (Vring.producerIdx_setConsumerFlags _ _ _) fun htrue => ?_
  exact absurd htrue Bool.false_ne_true

theorem NotifyInv.enable (h : NotifyInv s) (hpc : s.consumerPc = .enable) :
    NotifyInv s.consumerStep := by
  have harmed : s.armed = false := by
    simpa only [NotifySystem.ConsumerInv, hpc] using h.consumer
  rw [NotifySystem.consumerStep, hpc]
  simp only
  rw [harmed]
  split_ifs with hmode
  · refine h.consumerMove (Vring.producerIdx_setEvent _ _ _) ⟨rfl, ?_⟩
    rw [NotifySystem.Listening, if_pos hmode, Vring.event_setEvent, h.cursor]
    exact Nat.mod_mod _ _
  · exact h.consumerMove rfl ⟨rfl, Bool.eq_false_iff.mpr hmode⟩

theorem NotifyInv.enableFlags (h : NotifyInv s) {flags : Nat}
    (hpc : s.consumerPc = .enableFlags flags) : NotifyInv s.consumerStep := by
  obtain ⟨harmed, hmode⟩ : s.armed = false ∧ s.consumer.eventIdx = false := by
    simpa only [NotifySystem.ConsumerInv, hpc] using h.consumer
  rw [NotifySystem.consumerStep, hpc]
  simp only
  rw [harmed]
  refine h.consumerMove (Vring.producerIdx_setConsumerFlags _ _ _) ⟨rfl, ?_⟩
  simp only [NotifySystem.Listening, hmode, Vring.consumerFlags_setConsumerFlags]
  exact clearFlag_and_one flags

theorem NotifyInv.consumerStep (h : NotifyInv s) : NotifyInv s.consumerStep := by
  cases hpc : s.consumerPc with
  | idle =>
      rw [NotifySystem.consumerStep, hpc]
      exact h
  | consume => exact h.consume hpc
  | take => exact h.take hpc
  | disable => exact h.disable hpc
  | disableFlags flags => exact h.disableFlags hpc
  | enable => exact h.enable hpc
  | enableFlags flags => exact h.enableFlags hpc
  | check => exact h.check hpc

theorem NotifyInv.writeDesc (h : NotifyInv s) (desc : Nat → VringDesc) :
    NotifyInv { s with vring := { s.vring with desc } } := by
  refine h.writeRing ?_ ?_ ?_ (h.producer.of_consumer rfl rfl rfl rfl le_rfl id)
  all_goals cases s.producer.role <;> rfl

theorem NotifyInv.step (h : NotifyInv s) {action : NotifyAction} (hallowed : s.Allowed action) :
    NotifyInv (s.step action) := by
  have hproducer := h.producer
  cases action with
  | publish head len =>
      obtain ⟨hpc, hwindow, hunkicked⟩ := hallowed
      rw [NotifySystem.ProducerInv, hpc] at hproducer
      exact { h with producer := ⟨hproducer.1, hunkicked, hwindow⟩ }
  | writeDesc idx dp => exact h.writeDesc _
  | kick =>
      rw [NotifySystem.ProducerInv, show s.producerPc = .idle from hallowed] at hproducer
      exact { h with producer := hproducer }
  | producer => exact h.producerStep
  | consume => exact h.consumerMove rfl rfl
  | freeDesc idx next => exact h.writeDesc _
  | disableCb => exact h.consumerMove rfl rfl
  | enableCb => exact h.consumerMove rfl rfl
  | consumer => exact h.consumerStep

end Step

theorem notifyInv_create (role : Role) (order : Nat) (horder : order ≤ 15)
    (masterFeatures slaveFeatures : Nat)
    (hfeatures : (masterFeatures &&& VIRTIO_RING_F_EVENT_IDX ≠ 0) ↔
      (slaveFeatures &&& VIRTIO_RING_F_EVENT_IDX ≠ 0)) :
    NotifyInv (NotifySystem.create role (2 ^ order) masterFeatures slaveFeatures) := by
  have hentries : 2 ^ order ≤ 2 ^ 15 := Nat.pow_le_pow_right (by decide) horder
  have hmode : decide (masterFeatures &&& VIRTIO_RING_F_EVENT_IDX ≠ 0) =
      decide (slaveFeatures &&& VIRTIO_RING_F_EVENT_IDX ≠ 0) := decide_eq_decide.mpr hfeatures
  cases role with
  | master =>
      exact
        { entries := hentries
          notify := rfl
          eventIdx := hmode
          idx := rfl
          cursor := rfl
          taken_le := le_rfl
          window := Nat.zero_le _
          kicked_le := le_rfl
          producer := ⟨rfl, Nat.two_pow_pos 16⟩
          consumer := fun htrue => absurd htrue Bool.false_ne_true
          woken := fun htrue => absurd htrue Bool.false_ne_true }
  | slave =>
      exact
        { entries := hentries
          notify := rfl
          eventIdx := hmode.symm
          idx := rfl
          cursor := rfl
          taken_le := le_rfl
          window := Nat.zero_le _
          kicked_le := le_rfl
          producer := ⟨rfl, Nat.two_pow_pos 16⟩
          consumer := fun htrue => absurd htrue Bool.false_ne_true
          woken := fun htrue => absurd htrue Bool.false_ne_true }

/-- Whatever the order of the accesses: once the consumer has been told that nothing is pending and
waits, an entry it has not taken and that was kicked for has been notified. -/
theorem no_lost_wakeup (role : Role) (order : Nat) (horder : order ≤ 15)
    (masterFeatures slaveFeatures : Nat)
    (hfeatures : (masterFeatures &&& VIRTIO_RING_F_EVENT_IDX ≠ 0) ↔
      (slaveFeatures &&& VIRTIO_RING_F_EVENT_IDX ≠ 0))
    {s : NotifySystem}
    (hs : Run.Reachable NotifySystem.Allowed (fun s action => some (s.step action))
      (NotifySystem.create role (2 ^ order) masterFeatures slaveFeatures) s)
    (harmed : s.armed = true) (hkicked : s.taken < s.kicked) : s.notified = true := by
  have hinv : NotifyInv s := by
    refine hs.invariant (notifyInv_create role order horder _ _ hfeatures) ?_
    rintro s action s' hinv hallowed hstep
    obtain rfl := Option.some.inj hstep
    exact hinv.step hallowed
  by_contra hquiet
  have hle := hinv.woken harmed (Bool.eq_false_iff.mpr hquiet)
  exact absurd hle (not_le.mpr hkicked)

/-- The consumer waits on an empty ring of two with event indices; one entry is published and kicked
for. -/
theorem no_lost_wakeup_two_entries :
    ∃ s : NotifySystem, s.armed = true ∧ s.taken < s.kicked ∧ s.notified = true := by
  obtain ⟨s, hs, hseen⟩ := Run.exists_reachable NotifySystem.Allowed
    (fun s action => some (s.step action))
    (NotifySystem.create .master (2 ^ 1) VIRTIO_RING_F_EVENT_IDX VIRTIO_RING_F_EVENT_IDX)
    [.enableCb, .consumer, .consumer, .publish 0 8, .writeDesc 0 ⟨64, 8, 0, 1⟩, .producer,
      .producer, .producer, .producer, .producer, .kick, .producer, .producer, .producer, .producer]
    (fun s => (s.armed, s.taken, s.kicked)) (true, 0, 1) (by decide +kernel)
  obtain ⟨harmed, hcounts⟩ := Prod.mk.inj hseen
  obtain ⟨htaken, hkicked⟩ := Prod.mk.inj hcounts
  have hpending : s.taken < s.kicked := by omega
  exact ⟨s, harmed, hpending, no_lost_wakeup .master 1 (by decide) _ _ Iff.rfl hs harmed hpending⟩

end OpenAmp
