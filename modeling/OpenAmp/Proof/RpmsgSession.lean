import OpenAmp.Proof.RpmsgDelivery
import OpenAmp.RpmsgSession

/-!
# What a second session finds
-/

namespace OpenAmp

open LinkedChain

section Create

variable {role : Role} {features id num : Nat} {shmIo : ShmIo} {vq : Virtqueue}

/-- `virtqueue_create` writes the ring and six fields, and the region comes after it. -/
theorem createdOn_eq (role : Role) (features id num : Nat) (shmIo : ShmIo) (vq : Virtqueue) :
    createdOn role features id num shmIo vq =
      ((virtqueueCreate role features id num true (Vring.zeroed num) virtqueueAllocate).1,
        { vq with
          role, features
          vqQueueIndex := id
          vqNentries := num
          notify := true
          vqFreeCnt := num
          shmIo := shmIo.toMetalIo }) := by
  cases role <;> rfl

theorem Virtqueue.Untouched.createdOn_eq_new (h : vq.Untouched) :
    createdOn role features id num shmIo vq =
      createdOn role features id num shmIo virtqueueAllocate := by
  rw [createdOn_eq, createdOn_eq role features id num shmIo virtqueueAllocate, h.queuedCnt, h.head,
    h.usedConsIdx, h.availableIdx, funext h.descx, h.debug]
  rfl

theorem untouched_of_createdOn_eq (h : createdOn role features id num shmIo vq =
    createdOn role features id num shmIo virtqueueAllocate) : vq.Untouched := by
  rw [createdOn_eq, createdOn_eq role features id num shmIo virtqueueAllocate] at h
  have hvq := congrArg Prod.snd h
  simp only [Virtqueue.mk.injEq] at hvq
  obtain ⟨-, -, -, -, -, -, hqueued, -, hhead, hused, havailable, hdescx, hdebug⟩ := hvq
  exact ⟨hqueued, hhead, hused, havailable, congrFun hdescx, hdebug⟩

theorem createdLikeNew_iff : CreatedLikeNew role features id num shmIo vq ↔ vq.Untouched := by
  refine ⟨fun h => untouched_of_createdOn_eq h.same, fun h => ?_⟩
  have hsame : createdOn role features id num shmIo vq =
      createdOn role features id num shmIo virtqueueAllocate := h.createdOn_eq_new
  constructor
  case same => exact hsame
  case freeChain =>
    rintro rfl hpos
    rw [hsame, List.range_eq_range']
    refine path_range' num 0 (fun cell _ hcell => ?_) hpos
    rw [Nat.zero_add] at hcell ⊢
    exact vqRingInit_next _ hcell
  case usedConsIdx | availableIdx =>
    rw [hsame]
    cases role <;> exact ⟨rfl, rfl⟩
  case noCookie =>
    rw [hsame]
    cases role <;> exact fun _ => rfl
  all_goals
    rw [hsame]
    cases role <;> rfl

end Create

/-! ### The two sides -/

section Sessions

variable {vqs : VdevQueues} {num0 num1 masterFeatures slaveFeatures : Nat} {masterIo slaveIo : ShmIo}

/-- The virtqueues take part in the initialisation of a master as they have been created. -/
theorem rpmsgInitVdevMasterOn_eq (vq0 vq1 : Virtqueue) (num0 num1 features : Nat) (shmIo : ShmIo)
    (shpool : RpmsgVirtioShmPool) (shm : Nat → UInt8) :
    rpmsgInitVdevMasterOn vq0 vq1 num0 num1 features shmIo shpool shm =
      if shpool.size = 0 then .error RPMSG_ERR_NO_BUFF
      else
        let created0 := createdOn .master features 0 num0 shmIo vq0
        let created1 := createdOn .master features 1 num1 shmIo vq1
        match rpmsgInitBuffers shmIo num0 created0.1 created0.2 shpool shm with
        | .error status => .error status
        | .ok (vring0, rvq, shpool, shm) =>
            .ok (vring0, (virtqueueDisableCb created1.1 created1.2).1,
              { RpmsgDevice.create rvq (virtqueueDisableCb created1.1 created1.2).2 shmIo with rvq },
              shpool, shm) :=
  rfl

theorem rpmsgInitVdevSlaveOn_eq (vq0 vq1 : Virtqueue) (num0 num1 features : Nat) (shmIo : ShmIo)
    (vring0 vring1 : Vring) :
    rpmsgInitVdevSlaveOn vq0 vq1 num0 num1 features shmIo vring0 vring1 =
      let created0 := createdOn .slave features 0 num0 shmIo vq0
      let created1 := createdOn .slave features 1 num1 shmIo vq1
      let disabled := virtqueueDisableCb { vring0 with num := num0 } created0.2
      (disabled.1, { vring1 with num := num1 },
        RpmsgDevice.create created1.2 disabled.2 shmIo) :=
  rfl

theorem VdevQueues.Untouched.session (h : vqs.Untouched) (shpool : RpmsgVirtioShmPool)
    (shm : Nat → UInt8) :
    rpmsgInitVdevOn vqs num0 num1 masterFeatures slaveFeatures masterIo slaveIo shpool shm =
      rpmsgInitVdev num0 num1 masterFeatures slaveFeatures masterIo slaveIo shpool shm := by
  unfold rpmsgInitVdev rpmsgInitVdevOn
  simp only [rpmsgInitVdevMasterOn_eq, rpmsgInitVdevSlaveOn_eq, h.master0.createdOn_eq_new,
    h.master1.createdOn_eq_new, h.slave0.createdOn_eq_new, h.slave1.createdOn_eq_new]
  rfl

theorem freshSession_iff (shpool : RpmsgVirtioShmPool) (shm : Nat → UInt8) :
    FreshSession vqs num0 num1 masterFeatures slaveFeatures masterIo slaveIo shpool shm ↔
      vqs.Untouched := by
  constructor
  · intro h
    exact ⟨createdLikeNew_iff.mp h.master0, createdLikeNew_iff.mp h.master1,
      createdLikeNew_iff.mp h.slave0, createdLikeNew_iff.mp h.slave1⟩
  · intro h
    exact ⟨createdLikeNew_iff.mpr h.master0, createdLikeNew_iff.mpr h.master1,
      createdLikeNew_iff.mpr h.slave0, createdLikeNew_iff.mpr h.slave1, h.session shpool shm⟩

/-- The master has posted all descriptors of its receive ring but those of the callbacks under way, so
the head of its free chain has moved. -/
theorem RpmsgInv.touched {cfg : RpmsgConfig} {content : Prop} {s : RpmsgSystem} {view : RpmsgView}
    (h : RpmsgInv cfg content s view) (hnone : s.master.rxBuffers = []) :
    ¬ (rpmsgDeinitVdev s).Untouched := by
  intro huntouched
  have hfree : view.ring0.free = [] := by
    apply List.length_eq_zero_iff.mp
    rw [h.ring0Free, hnone]
    rfl
  have hpath := h.ring0.freePath
  have hview : (view.ring0.ring cfg).free = [] := hfree
  rw [hview, path_nil] at hpath
  exact absurd (hpath.symm.trans huntouched.master0.head) (by decide)

/-- A second session is like the first one exactly if the first has left the virtqueues untouched. A
session over a pool that the two rings have entries for never has, once no receive callback of the
master is under way. -/
theorem second_session_fresh (s : RpmsgSystem) (num0 num1 masterFeatures slaveFeatures : Nat)
    (masterIo slaveIo : ShmIo) (shpool : RpmsgVirtioShmPool) (shm : Nat → UInt8) :
    (FreshSession (rpmsgDeinitVdev s) num0 num1 masterFeatures slaveFeatures masterIo slaveIo
        shpool shm ↔ (rpmsgDeinitVdev s).Untouched) ∧
      ∀ (cfg : RpmsgConfig) (masterFeatures' slaveFeatures' : Nat) (shm' : Nat → UInt8)
        (s₀ : RpmsgSystem),
        cfg.size ≤ (cfg.num0 + cfg.num1) * RPMSG_BUFFER_SIZE →
        rpmsgInitVdev cfg.num0 cfg.num1 masterFeatures' slaveFeatures' cfg.masterIo cfg.slaveIo
          (rpmsgVirtioInitShmPool cfg.base cfg.size) shm' = .ok s₀ →
        Run.Reachable RpmsgSystem.Ready RpmsgSystem.step s₀ s → s.master.rxBuffers = [] →
        ¬ FreshSession (rpmsgDeinitVdev s) num0 num1 masterFeatures slaveFeatures masterIo slaveIo
          shpool shm := by
  refine ⟨freshSession_iff shpool shm, ?_⟩
  intro cfg masterFeatures' slaveFeatures' shm' s₀ hsize hinit hs hnone hfresh
  have hpool : cfg.buffers ≤ cfg.num0 + cfg.num1 := by
    rw [RpmsgConfig.buffers]
    exact Nat.div_le_of_le_mul (by rwa [Nat.mul_comm] at hsize)
  obtain ⟨view, h⟩ := exists_rpmsgInv False False.elim (.inl hpool) hinit hs
  exact h.touched hnone ((freshSession_iff shpool shm).mp hfresh)

/-- Rings of one entry, and a session without a message: the master of the next one posts the
descriptor 32768 of its receive ring. -/
theorem second_session_stale :
    ∃ (cfg : RpmsgConfig) (s₀ s : RpmsgSystem), cfg.num0 = 1 ∧
      rpmsgInitVdev cfg.num0 cfg.num1 0 0 cfg.masterIo cfg.slaveIo
        (rpmsgVirtioInitShmPool cfg.base cfg.size) (fun _ => 0) = .ok s₀ ∧
      rpmsgInitVdevOn (rpmsgDeinitVdev s₀) cfg.num0 cfg.num1 0 0 cfg.masterIo cfg.slaveIo
        (rpmsgVirtioInitShmPool cfg.base cfg.size) (fun _ => 0) = .ok s ∧
      s.vring0.avail.ring 0 = 32768 ∧
      ¬ FreshSession (rpmsgDeinitVdev s₀) cfg.num0 cfg.num1 0 0 cfg.masterIo cfg.slaveIo
        (rpmsgVirtioInitShmPool cfg.base cfg.size) fun _ => 0 := by
  let cfg := RpmsgConfig.linear 0 0 1024 (by decide) (by decide) (by decide)
  have hrun : (rpmsgInitVdev cfg.num0 cfg.num1 0 0 cfg.masterIo cfg.slaveIo
      (rpmsgVirtioInitShmPool cfg.base cfg.size) fun _ => 0).toOption.bind (fun s₀ =>
        (rpmsgInitVdevOn (rpmsgDeinitVdev s₀) cfg.num0 cfg.num1 0 0 cfg.masterIo cfg.slaveIo
          (rpmsgVirtioInitShmPool cfg.base cfg.size) fun _ => 0).toOption.map fun s =>
            (s₀.master.rvq.vqDescHeadIdx, s.vring0.avail.ring 0)) = some (32768, 32768) := by
    decide +kernel
  obtain ⟨s₀, hinit, hrun⟩ := Option.bind_eq_some_iff.mp hrun
  obtain ⟨s, hagain, hs⟩ := Option.map_eq_some_iff.mp hrun
  obtain ⟨hhead, hposted⟩ := Prod.mk.inj hs
  refine ⟨cfg, s₀, s, rfl, except_toOption hinit, except_toOption hagain, hposted, fun hfresh => ?_⟩
  have huntouched := (freshSession_iff _ _).mp hfresh
  exact absurd (hhead.symm.trans huntouched.master0.head) (by decide)

end Sessions

end OpenAmp
