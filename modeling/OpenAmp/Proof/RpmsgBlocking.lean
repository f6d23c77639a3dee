import OpenAmp.Proof.RpmsgCapacity

/-!
# Waiting for a buffer

A send that is asked to wait, against a peer that may publish buffers at any time. The slave learns
from its ring whether there is something to wait for. The master is told the constant size of its
buffers instead, and takes an empty ring for a message that does not fit.
-/

namespace OpenAmp

/-- What was on offer when the size was asked for can still be taken: the peer takes back no buffer it
has published, and publishes only what this side can address. -/
def SendRound.Kept (round : SendRound) : Prop :=
  round.svq.vqAvailableIdx ≠ round.peeked.avail.idx →
    ∃ buffer, round.txBuffer .slave = some (some buffer)

/-- A call makes attempts until one of them finds a buffer, and sends with it. It gives up with
`RPMSG_ERR_NO_BUFF` only after its last retry. -/
def SendWaits (role : Role) (rounds : Nat → SendRound) (outcome : Option (Nat × SendExit)) : Prop :=
  ∃ k exit, outcome = some (k, exit) ∧ (∀ j < k, (rounds j).txBuffer role = some none) ∧
    ((∃ buffer, k ≤ RPMSG_TICK_COUNT / RPMSG_TICKS_PER_INTERVAL ∧
        (rounds k).txBuffer role = some (some buffer) ∧ exit = .buffer buffer) ∨
      (k = RPMSG_TICK_COUNT / RPMSG_TICKS_PER_INTERVAL ∧ (rounds k).txBuffer role = some none ∧
        exit = .status RPMSG_ERR_NO_BUFF))

section Rounds

variable {role : Role} {size : Int} {round : SendRound} {rounds : Nat → SendRound}

theorem SendRound.txBuffer_slave (round : SendRound) :
    ∃ buffer, round.txBuffer .slave = some buffer :=
  ⟨_, rfl⟩

/-- A slave that is told a size has been offered a buffer. -/
theorem SendRound.Kept.txBuffer (h : round.Kept) (hsize : round.availSize .slave ≠ 0) :
    ∃ buffer, round.txBuffer .slave = some (some buffer) := by
  refine h fun hempty => hsize ?_
  simp only [SendRound.availSize, rpmsgVirtioGetBufferSize, virtqueueGetDescSize, hempty, if_true]
  rfl

theorem SendRound.attempt_of_buffer (hfits : round.availSize role ≠ 0 → size ≤ round.availSize role)
    {buffer : RpmsgBuffer} (hbuffer : round.txBuffer role = some (some buffer)) (tickCount : Nat) :
    round.attempt role size tickCount = some (some (.buffer buffer)) := by
  have hroom : ¬ (round.availSize role ≠ 0 ∧ size > round.availSize role) := fun hlarge =>
    not_lt.mpr (hfits hlarge.1) hlarge.2
  simp only [SendRound.attempt, if_neg hroom, hbuffer]
  rfl

/-- The slave retries as long as it finds no buffer. -/
theorem SendRound.attempt_slave (h : round.Kept) (hnone : round.txBuffer .slave = some none)
    (size : Int) (tickCount : Nat) :
    round.attempt .slave size tickCount =
      some (if tickCount = 0 then some (.status RPMSG_ERR_NO_BUFF) else none) := by
  have hzero : round.availSize .slave = 0 := by
    by_contra hsize
    obtain ⟨buffer, hbuffer⟩ := h.txBuffer hsize
    rw [hnone] at hbuffer
    simp at hbuffer
  have hroom : ¬ (round.availSize .slave ≠ 0 ∧ size > round.availSize .slave) := fun hlarge =>
    hlarge.1 hzero
  have hagain : ¬ round.availSize .slave ≠ 0 := not_not.mpr hzero
  simp only [SendRound.attempt, if_neg hroom, hnone, if_neg hagain]
  split_ifs <;> rfl

theorem SendRound.attempt_master (hfits : size ≤ round.availSize .master)
    (hnone : round.txBuffer .master = some none) {tickCount : Nat} (hticks : tickCount ≠ 0) :
    round.attempt .master size tickCount = some (some (.status RPMSG_ERR_BUFF_SIZE)) := by
  have hsize : round.availSize .master ≠ 0 := by
    simp only [SendRound.availSize, rpmsgVirtioGetBufferSize]
    decide
  have hroom : ¬ (round.availSize .master ≠ 0 ∧ size > round.availSize .master) := fun hlarge =>
    not_lt.mpr hfits hlarge.2
  simp only [SendRound.attempt, if_neg hroom, hnone, if_pos hsize]
  simp [hticks]

theorem rpmsgVirtioSendLoop_exit {tickCount k : Nat} {exit : SendExit}
    (hattempt : (rounds k).attempt role size tickCount = some (some exit)) :
    rpmsgVirtioSendLoop role size rounds tickCount k = some (k, exit) := by
  rw [rpmsgVirtioSendLoop.eq_def]
  simp only [hattempt]
  rfl

theorem rpmsgVirtioSendLoop_retry {tickCount k : Nat}
    (hattempt : (rounds k).attempt role size (tickCount + 1) = some none) :
    rpmsgVirtioSendLoop role size rounds (tickCount + 1) k =
      rpmsgVirtioSendLoop role size rounds tickCount (k + 1) := by
  rw [rpmsgVirtioSendLoop, hattempt]
  rfl

/-- The loop of the slave, whose last round is `last`, from a round on before which it found no
buffer. -/
theorem rpmsgVirtioSendLoop_slave (hkept : ∀ k, (rounds k).Kept)
    (hfits : ∀ k, (rounds k).availSize .slave ≠ 0 → size ≤ (rounds k).availSize .slave)
    (tickCount : Nat) :
    ∀ k, (∀ j < k, (rounds j).txBuffer .slave = some none) →
      k + tickCount = RPMSG_TICK_COUNT / RPMSG_TICKS_PER_INTERVAL →
        SendWaits .slave rounds (rpmsgVirtioSendLoop .slave size rounds tickCount k) := by
  induction tickCount with
  | zero =>
      intro k hbefore hlast
      obtain ⟨buffer | buffer, hbuffer⟩ := (rounds k).txBuffer_slave
      · have hexit := SendRound.attempt_slave (hkept k) hbuffer size 0
        exact ⟨k, _, rpmsgVirtioSendLoop_exit hexit, hbefore, .inr ⟨hlast, hbuffer, rfl⟩⟩
      · have hexit := SendRound.attempt_of_buffer (hfits k) hbuffer 0
        exact ⟨k, _, rpmsgVirtioSendLoop_exit hexit, hbefore,
          .inl ⟨buffer, hlast.le, hbuffer, rfl⟩⟩
  | succ tickCount ih =>
      intro k hbefore hlast
      obtain ⟨buffer | buffer, hbuffer⟩ := (rounds k).txBuffer_slave
      · have hretry := SendRound.attempt_slave (hkept k) hbuffer size (tickCount + 1)
        rw [if_neg (Nat.succ_ne_zero _)] at hretry
        rw [rpmsgVirtioSendLoop_retry hretry]
        refine ih (k + 1) (fun j hj => ?_) (by omega)
        rcases Nat.lt_succ_iff_lt_or_eq.mp hj with hlt | rfl
        · exact hbefore j hlt
        · exact hbuffer
      · have hexit := SendRound.attempt_of_buffer (hfits k) hbuffer (tickCount + 1)
        exact ⟨k, _, rpmsgVirtioSendLoop_exit hexit, hbefore,
          .inl ⟨buffer, by omega, hbuffer, rfl⟩⟩

/-- The two steps a send of the system takes in a round are an attempt, with whatever the peer did in
between. -/
theorem RpmsgSystem.takeBuffer_attempt {s₁ s₂ s' : RpmsgSystem} {i tickCount : Nat}
    {call : SendCall} (hi : i < (s₂.device role).sends.length)
    (hround : round = ⟨s₁.sendRing role, s₂.sendRing role, (s₁.device role).svq, s₂.shpool⟩)
    (hsvq : (s₂.device role).svq =
      (rpmsgVirtioGetBufferSize role (s₁.sendRing role) (s₁.device role).svq).1)
    (htested : ¬ (round.availSize role ≠ 0 ∧ call.size > round.availSize role))
    (hstep : s₂.takeBuffer role i call tickCount (round.availSize role) = some s') :
    ∃ exit, round.attempt role call.size tickCount = some exit ∧
      match exit with
      | some (.buffer buffer) => (s'.device role).sends[i]? = some ⟨call, .taken buffer⟩
      | some (.status status) =>
          (s'.device role).results = (s₂.device role).results ++ [(call, status)]
      | none => (s'.device role).sends[i]? = some ⟨call, .loop (tickCount - 1)⟩ := by
  simp only [RpmsgSystem.takeBuffer, Option.bind_eq_bind, Option.bind_eq_some_iff, hsvq] at hstep
  obtain ⟨⟨vring, svq, shpool, buffer⟩, hget, hstep⟩ := hstep
  have htx : round.txBuffer role = some buffer := by
    subst hround
    simp only [SendRound.txBuffer, hget]
    rfl
  simp only [SendRound.attempt, if_neg htested, htx]
  cases buffer with
  | some buffer =>
      obtain rfl := Option.some.inj hstep
      refine ⟨_, rfl, ?_⟩
      simp [RpmsgDevice.setSend, hi]
  | none =>
      simp only at hstep
      split_ifs at hstep with hlast hroom <;> obtain rfl := Option.some.inj hstep
      · exact ⟨some (.status RPMSG_ERR_NO_BUFF), by simp [hlast], by simp [RpmsgDevice.finish]⟩
      · exact ⟨some (.status RPMSG_ERR_BUFF_SIZE), by simp [hlast, hroom],
          by simp [RpmsgDevice.finish]⟩
      · exact ⟨none, by simp [hlast, hroom], by simp [RpmsgDevice.setSend, hi]⟩

end Rounds

/-- A send that is to wait, of a message that fits every buffer on offer, waits for a buffer exactly
when it is a send of the slave or need not wait at all. -/
theorem blocking_send_waits {role : Role} {status : Nat} {size : Int} {rounds : Nat → SendRound}
    (hready : status &&& VIRTIO_CONFIG_STATUS_DRIVER_OK ≠ 0)
    (hfits : ∀ k, (rounds k).availSize role ≠ 0 → size ≤ (rounds k).availSize role)
    (hkept : role = .slave → ∀ k, (rounds k).Kept) :
    SendWaits role rounds (rpmsgVirtioSendOffchannelRaw role status size true rounds) ↔
      role = .slave ∨ ∃ buffer, (rounds 0).txBuffer role = some (some buffer) := by
  simp only [rpmsgVirtioSendOffchannelRaw, if_neg hready, if_true]
  constructor
  · rintro ⟨k, exit, houtcome, hbefore, hexit⟩
    cases role with
    | slave => exact .inl rfl
    | master =>
        refine .inr ?_
        have hmaster : (rounds 0).availSize .master ≠ 0 := by
          simp only [SendRound.availSize, rpmsgVirtioGetBufferSize]
          decide
        -- an attempt of the master that finds nothing ends the call with the wrong status
        have hfound : (rounds 0).txBuffer .master ≠ some none := by
          intro hnone
          have hticks : RPMSG_TICK_COUNT / RPMSG_TICKS_PER_INTERVAL ≠ 0 := by decide
          have hfail := SendRound.attempt_master (hfits 0 hmaster) hnone hticks
          rw [rpmsgVirtioSendLoop_exit hfail] at houtcome
          obtain ⟨rfl, rfl⟩ := Prod.mk.inj (Option.some.inj houtcome)
          rcases hexit with ⟨buffer, -, -, hexit⟩ | ⟨hlast, -⟩
          · exact SendExit.noConfusion hexit
          · exact absurd hlast (by decide)
        have hk : k = 0 := by
          by_contra hpos
          exact hfound (hbefore 0 (Nat.pos_of_ne_zero hpos))
        subst hk
        rcases hexit with ⟨buffer, -, hbuffer, -⟩ | ⟨hlast, -⟩
        · exact ⟨buffer, hbuffer⟩
        · exact absurd hlast (by decide)
  · rintro (rfl | ⟨buffer, hbuffer⟩)
    · exact rpmsgVirtioSendLoop_slave (hkept rfl) hfits _ 0 (fun j hj => absurd hj (by omega))
        (Nat.zero_add _)
    · have hexit := SendRound.attempt_of_buffer (hfits 0) hbuffer
        (RPMSG_TICK_COUNT / RPMSG_TICKS_PER_INTERVAL)
      exact ⟨0, _, rpmsgVirtioSendLoop_exit hexit, fun j hj => absurd hj (by omega),
        .inl ⟨buffer, Nat.zero_le _, hbuffer, rfl⟩⟩

/-- A ring of one entry with a buffer of 512 bytes, published or not. -/
def oneEntryRound (role : Role) (availIdx : Nat) : SendRound :=
  let vring : Vring :=
    { Vring.zeroed 1 with
      desc := fun _ => ⟨4096, 512, 0, 0⟩
      avail := { (Vring.zeroed 1).avail with idx := availIdx } }
  let svq := createdQueue role 0 0 1 ⟨id, id⟩
  ⟨vring, vring, svq, ⟨0, 0, 0⟩⟩

/-- The slave finds a buffer in its third attempt. -/
theorem blocking_send_waits_slave :
    SendWaits .slave (fun k => oneEntryRound .slave (if k < 2 then 0 else 1))
      (rpmsgVirtioSendOffchannelRaw .slave VIRTIO_CONFIG_STATUS_DRIVER_OK 496 true
        fun k => oneEntryRound .slave (if k < 2 then 0 else 1)) := by
  refine (blocking_send_waits (by decide) (fun k => ?_) fun _ k => ?_).mpr (.inl rfl)
  · by_cases hk : k < 2
    · simp only [hk, if_true]
      decide
    · simp only [hk, if_false]
      decide
  · by_cases hk : k < 2
    · simp only [hk, if_true]
      exact fun hne => absurd rfl hne
    · simp only [hk, if_false]
      exact fun _ => ⟨⟨4096, 512, 0, 512⟩, by decide⟩

/-- The master returns at once where the slave waits. -/
theorem blocking_send_of_master_returns :
    rpmsgVirtioSendOffchannelRaw .master VIRTIO_CONFIG_STATUS_DRIVER_OK 0 true
        (fun _ => oneEntryRound .master 0) = some (0, .status RPMSG_ERR_BUFF_SIZE) ∧
      ¬ SendWaits .master (fun _ => oneEntryRound .master 0)
        (rpmsgVirtioSendOffchannelRaw .master VIRTIO_CONFIG_STATUS_DRIVER_OK 0 true
          fun _ => oneEntryRound .master 0) := by
  have hreturns : rpmsgVirtioSendOffchannelRaw .master VIRTIO_CONFIG_STATUS_DRIVER_OK 0 true
      (fun _ => oneEntryRound .master 0) = some (0, .status RPMSG_ERR_BUFF_SIZE) := by
    decide +kernel
  refine ⟨hreturns, ?_⟩
  rintro ⟨k, exit, houtcome, -, hexit⟩
  rw [hreturns] at houtcome
  obtain ⟨rfl, rfl⟩ := Prod.mk.inj (Option.some.inj houtcome)
  rcases hexit with ⟨buffer, -, -, hexit⟩ | ⟨-, -, hexit⟩
  · exact SendExit.noConfusion hexit
  · exact absurd hexit (by decide)

end OpenAmp
