import OpenAmp.Proof.RpmsgSteps

/-!
# What initialisation leaves

`rpmsg_init_vdev` gives every entry of the master's receive ring a buffer and leaves the rest in the
pool. It succeeds exactly when the pool has that many.
-/

namespace OpenAmp

open ByteMemory ListCuts

variable {cfg : RpmsgConfig}

/-- The receive ring while it is being filled: so many buffers posted, so many entries to go. -/
structure SlotView.Filling (view : SlotView) (posted left : Nat) : Prop where
  avail : view.avail.map Slot.buf = List.range posted
  held : view.held = []
  used : view.used = []
  free : view.free.length = left

/-- The loop that fills the receive ring. -/
theorem rpmsgInitBuffers_spec {vr : Vring} {rvq slave : Virtqueue} {view : SlotView}
    {posted left : Nat} (shm : Nat → UInt8)
    (h : RingInv cfg.ring0 vr rvq slave (view.ring cfg)) (hfilling : view.Filling posted left)
    (hle : posted ≤ cfg.buffers) :
    if posted + left ≤ cfg.buffers then
      ∃ (vr' : Vring) (rvq' : Virtqueue) (shm' : Nat → UInt8) (view' : SlotView),
        rpmsgInitBuffers cfg.masterIo left vr rvq (cfg.pool posted) shm =
            .ok (vr', rvq', cfg.pool (posted + left), shm') ∧
          RingInv cfg.ring0 vr' rvq' slave (view'.ring cfg) ∧ view'.Filling (posted + left) 0
    else rpmsgInitBuffers cfg.masterIo left vr rvq (cfg.pool posted) shm =
      .error RPMSG_ERR_NO_BUFF := by
  induction left generalizing vr rvq view posted shm with
  | zero =>
      rw [Nat.add_zero, if_pos hle]
      exact ⟨vr, rvq, shm, view, rfl, h, hfilling⟩
  | succ left ih =>
      have hpool := cfg.poolGetBuffer_eq hle
      by_cases hleft : posted < cfg.buffers
      · rw [if_pos hleft] at hpool
        have hroom : view.free ≠ [] := by
          refine List.length_pos_iff.mp ?_
          rw [hfilling.free]
          exact Nat.succ_pos left
        obtain ⟨vr', rvq', head, hcall, hring⟩ :=
          h.postSlot rfl hroom posted 0 1 rfl
        have hnext : (view.post ⟨head, posted⟩).Filling (posted + 1) left := by
          refine ⟨?_, hfilling.held, hfilling.used, ?_⟩
          · rw [SlotView.post, List.map_append, hfilling.avail, List.range_succ]
            rfl
          · rw [SlotView.post, List.length_tail, hfilling.free]
            rfl
        have hrest := ih (metalIoBlockWrite cfg.masterIo shm
          (cfg.masterIo.virtToOffset (cfg.addr .master posted))
          (List.replicate RPMSG_BUFFER_SIZE 0)) hring hnext hleft
        have hround : rpmsgInitBuffers cfg.masterIo (left + 1) vr rvq (cfg.pool posted) shm =
            rpmsgInitBuffers cfg.masterIo left vr' rvq' (cfg.pool (posted + 1))
              (metalIoBlockWrite cfg.masterIo shm
                (cfg.masterIo.virtToOffset (cfg.addr .master posted))
                (List.replicate RPMSG_BUFFER_SIZE 0)) := by
          rw [rpmsgInitBuffers, hpool]
          simp only [if_neg (cfg.addr_ne_null .master posted), hcall,
            if_neg (show ¬ VQUEUE_SUCCESS ≠ RPMSG_SUCCESS by decide)]
        rw [hround, show posted + (left + 1) = posted + 1 + left by omega]
        exact hrest
      · rw [if_neg hleft] at hpool
        rw [if_neg (by omega), rpmsgInitBuffers, hpool]
        simp only [if_true]

/-- The control blocks of a ring as both sides create them. -/
def createdQueue (role : Role) (features id num : Nat) (shmIo : MetalIo) : Virtqueue :=
  { (virtqueueCreate role features id num true (Vring.zeroed num) virtqueueAllocate).2 with shmIo }

/-- A ring nothing has been posted on. -/
def SlotView.fresh (num : Nat) : SlotView :=
  { free := List.range num, avail := [], held := [], used := [], taken := 0, got := 0 }

theorem ringInv_fresh (cfg : RpmsgConfig) (rc : RingConfig) (masterFeatures slaveFeatures id : Nat) :
    RingInv rc
      (virtqueueCreate .master masterFeatures id rc.entries true (Vring.zeroed rc.entries)
        virtqueueAllocate).1
      (createdQueue .master masterFeatures id rc.entries rc.masterIo)
      (createdQueue .slave slaveFeatures id rc.entries rc.slaveIo)
      ((SlotView.fresh rc.entries).ring cfg) :=
  ringInv_create rc masterFeatures slaveFeatures id id true true

theorem virtqueueDisableCb_shmIo (vr : Vring) (vq : Virtqueue) (shmIo : MetalIo) :
    virtqueueDisableCb vr { vq with shmIo } =
      ((virtqueueDisableCb vr vq).1, { (virtqueueDisableCb vr vq).2 with shmIo }) :=
  rfl

theorem Vring.setNum_self {vr : Vring} {num : Nat} (h : vr.num = num) : { vr with num } = vr := by
  subst h
  rfl

/-- The two devices after initialisation. -/
theorem rpmsgInv_init {masterFeatures slaveFeatures : Nat} (shm : Nat → UInt8) {vr0 vr1 : Vring}
    {rvq : Virtqueue} {view0 : SlotView}
    (hring0 : RingInv cfg.ring0 vr0 rvq
      (createdQueue .slave slaveFeatures 0 cfg.num0 cfg.slaveIo.toMetalIo) (view0.ring cfg))
    (hfilled : view0.Filling cfg.num0 0) (hpool : cfg.num0 ≤ cfg.buffers)
    (hring1 : RingInv cfg.ring1 vr1
      (createdQueue .master masterFeatures 1 cfg.num1 cfg.masterIo.toMetalIo)
      (createdQueue .slave slaveFeatures 1 cfg.num1 cfg.slaveIo.toMetalIo)
      ((SlotView.fresh cfg.num1).ring cfg)) :
    RpmsgInv cfg True
      { vring0 := vr0
        vring1 := vr1
        shm
        shpool := cfg.pool cfg.num0
        status := VIRTIO_CONFIG_STATUS_DRIVER_OK
        master := RpmsgDevice.create rvq
          (createdQueue .master masterFeatures 1 cfg.num1 cfg.masterIo.toMetalIo) cfg.masterIo
        slave := RpmsgDevice.create
          (createdQueue .slave slaveFeatures 1 cfg.num1 cfg.slaveIo.toMetalIo)
          (createdQueue .slave slaveFeatures 0 cfg.num0 cfg.slaveIo.toMetalIo) cfg.slaveIo }
      { ring0 := view0, ring1 := SlotView.fresh cfg.num1, allocated := cfg.num0 } := by
  have hio : rvq.shmIo = cfg.masterIo.toMetalIo := hring0.masterIo
  have hrvq : { rvq with shmIo := cfg.masterIo.toMetalIo } = rvq := by
    rw [← hio]
  constructor
  case ring0 =>
    rw [RpmsgDevice.create, hrvq]
    exact hring0
  case ring1 => exact hring1
  case io => rintro (_ | _) <;> rfl
  case status => rfl
  case pool => rfl
  case allocated_le => exact hpool
  case slaveTx =>
    rw [hfilled.held]
    exact List.Perm.refl _
  case slaveRx => exact List.Perm.refl _
  case masterTx =>
    intro buffer hbuffer
    exact absurd hbuffer List.not_mem_nil
  case masterRx =>
    intro buffer hbuffer
    exact absurd hbuffer List.not_mem_nil
  case partition =>
    simp only [RpmsgView.owned, hfilled.avail, hfilled.used]
    simp [RpmsgSystem.txNumbers, RpmsgSystem.rxNumbers, RpmsgSystem.device, SlotView.fresh,
      RpmsgDevice.txBuffers, RpmsgDevice.rxBuffers, RpmsgDevice.create]
  case ring0Free => exact hfilled.free
  case contents =>
    intro _
    constructor
    case sends => rintro (_ | _) send hsend <;> exact absurd hsend List.not_mem_nil
    case pending =>
      rintro (_ | _)
      · change List.Forall₂ _ view0.used []
        rw [hfilled.used]
        exact .nil
      · exact .nil
    case received_le => rintro (_ | _) <;> exact le_rfl
    case received => rintro (_ | _) <;> rfl
    case reads => rintro (_ | _) pc hpc <;> exact absurd hpc List.not_mem_nil

theorem Virtqueue.setShmIo_self {vq : Virtqueue} {shmIo : MetalIo} (h : vq.shmIo = shmIo) :
    { vq with shmIo } = vq := by
  subst h
  rfl

theorem rpmsgInitVdevMaster_eq {num0 num1 features : Nat} {shmIo : ShmIo}
    {shpool : RpmsgVirtioShmPool} (hsize : shpool.size ≠ 0) (shm : Nat → UInt8) :
    rpmsgInitVdevMaster num0 num1 features shmIo shpool shm =
      match rpmsgInitBuffers shmIo num0
        (virtqueueCreate .master features 0 num0 true (Vring.zeroed num0) virtqueueAllocate).1
        (createdQueue .master features 0 num0 shmIo.toMetalIo) shpool shm with
      | .error status => .error status
      | .ok (vring0, rvq, shpool, shm) =>
          let send := virtqueueCreate .master features 1 num1 true (Vring.zeroed num1)
            virtqueueAllocate
          .ok (vring0, (virtqueueDisableCb send.1 send.2).1,
            { RpmsgDevice.create rvq (virtqueueDisableCb send.1 send.2).2 shmIo with rvq },
            shpool, shm) := by
  rw [rpmsgInitVdevMaster, rpmsgInitVdevMasterOn, if_neg hsize]
  rfl

theorem rpmsgInitVdevMaster_spec (cfg : RpmsgConfig) (features slaveFeatures : Nat)
    (shm : Nat → UInt8) :
    if cfg.num0 ≤ cfg.buffers then
      ∃ (vr0 vr1 : Vring) (rvq : Virtqueue) (shm' : Nat → UInt8) (view0 : SlotView),
        rpmsgInitVdevMaster cfg.num0 cfg.num1 features cfg.masterIo
            (rpmsgVirtioInitShmPool cfg.base cfg.size) shm =
          .ok (vr0, vr1, RpmsgDevice.create rvq
            (createdQueue .master features 1 cfg.num1 cfg.masterIo.toMetalIo) cfg.masterIo,
            cfg.pool cfg.num0, shm') ∧
        RingInv cfg.ring0 vr0 rvq
          (createdQueue .slave slaveFeatures 0 cfg.num0 cfg.slaveIo.toMetalIo) (view0.ring cfg) ∧
        view0.Filling cfg.num0 0 ∧
        RingInv cfg.ring1 vr1 (createdQueue .master features 1 cfg.num1 cfg.masterIo.toMetalIo)
          (createdQueue .slave slaveFeatures 1 cfg.num1 cfg.slaveIo.toMetalIo)
          ((SlotView.fresh cfg.num1).ring cfg)
    else rpmsgInitVdevMaster cfg.num0 cfg.num1 features cfg.masterIo
        (rpmsgVirtioInitShmPool cfg.base cfg.size) shm = .error RPMSG_ERR_NO_BUFF := by
  have hpos : 0 < cfg.num0 := Nat.two_pow_pos _
  by_cases hsize : cfg.size = 0
  · have hbuffers : cfg.buffers = 0 := by
      rw [RpmsgConfig.buffers, hsize]
      rfl
    rw [if_neg (by omega), rpmsgInitVdevMaster, rpmsgInitVdevMasterOn, rpmsgVirtioInitShmPool,
      if_pos hsize]
  have hloop := rpmsgInitBuffers_spec shm
    (ringInv_fresh cfg cfg.ring0 features slaveFeatures 0)
    ⟨rfl, rfl, rfl, List.length_range⟩ (Nat.zero_le _)
  rw [Nat.zero_add] at hloop
  rw [rpmsgInitVdevMaster_eq hsize]
  by_cases hpool : cfg.num0 ≤ cfg.buffers
  · rw [if_pos (show cfg.ring0.entries ≤ cfg.buffers from hpool)] at hloop
    obtain ⟨vr0, rvq, shm', view0, hfill, hring0, hfilled⟩ := hloop
    obtain ⟨vr1, hdisable, hring1⟩ :=
      (ringInv_fresh cfg cfg.ring1 features slaveFeatures 1).masterDisableCb
    rw [createdQueue, virtqueueDisableCb_shmIo] at hdisable
    obtain ⟨hvr1, hsvq⟩ := Prod.mk.inj hdisable
    rw [if_pos hpool]
    refine ⟨vr0, vr1, rvq, shm', view0, ?_, hring0, hfilled, hring1⟩
    have hfill' : rpmsgInitBuffers cfg.masterIo cfg.num0
        (virtqueueCreate .master features 0 cfg.num0 true (Vring.zeroed cfg.num0)
          virtqueueAllocate).1
        (createdQueue .master features 0 cfg.num0 cfg.masterIo.toMetalIo)
        (rpmsgVirtioInitShmPool cfg.base cfg.size) shm =
          .ok (vr0, rvq, cfg.pool cfg.num0, shm') := hfill
    have hrvq : { rvq with shmIo := cfg.masterIo.toMetalIo } = rvq :=
      Virtqueue.setShmIo_self hring0.masterIo
    have hdevice : ∀ svq : Virtqueue,
        { svq with shmIo := cfg.masterIo.toMetalIo } =
          createdQueue .master features 1 cfg.num1 cfg.masterIo.toMetalIo →
        { RpmsgDevice.create rvq svq cfg.masterIo with rvq } = RpmsgDevice.create rvq
          (createdQueue .master features 1 cfg.num1 cfg.masterIo.toMetalIo) cfg.masterIo := by
      intro svq hsvq
      rw [RpmsgDevice.create, RpmsgDevice.create, hrvq, hsvq]
      rfl
    simp only [hfill']
    refine congrArg Except.ok (Prod.ext rfl (Prod.ext hvr1 (Prod.ext ?_ rfl)))
    exact hdevice _ hsvq
  · rw [if_neg (show ¬ cfg.ring0.entries ≤ cfg.buffers from hpool)] at hloop
    have hfail : rpmsgInitBuffers cfg.masterIo cfg.num0
        (virtqueueCreate .master features 0 cfg.num0 true (Vring.zeroed cfg.num0)
          virtqueueAllocate).1
        (createdQueue .master features 0 cfg.num0 cfg.masterIo.toMetalIo)
        (rpmsgVirtioInitShmPool cfg.base cfg.size) shm = .error RPMSG_ERR_NO_BUFF := hloop
    rw [if_neg hpool, hfail]

/-- Initialisation succeeds exactly when the pool fills the receive ring, and then every entry of it
has a buffer and the send ring is empty. -/
theorem rpmsgInitVdev_spec (cfg : RpmsgConfig) (masterFeatures slaveFeatures : Nat)
    (shm : Nat → UInt8) :
    let result := rpmsgInitVdev cfg.num0 cfg.num1 masterFeatures slaveFeatures cfg.masterIo
      cfg.slaveIo (rpmsgVirtioInitShmPool cfg.base cfg.size) shm
    if cfg.num0 ≤ cfg.buffers then
      ∃ (s : RpmsgSystem) (ring0 : SlotView), result = .ok s ∧
        RpmsgInv cfg True s ⟨ring0, SlotView.fresh cfg.num1, cfg.num0⟩ ∧
        (∀ role, (s.device role).sends = []) ∧ s.master.lock = false
    else result = .error RPMSG_ERR_NO_BUFF := by
  intro result
  have hmaster := rpmsgInitVdevMaster_spec cfg masterFeatures slaveFeatures shm
  split_ifs at hmaster ⊢ with hpool
  · obtain ⟨vr0, vr1, rvq, shm', view0, hinit, hring0, hfilled, hring1⟩ := hmaster
    obtain ⟨vr0', hdisable, hring0'⟩ := hring0.slaveDisableCb
    rw [createdQueue, virtqueueDisableCb_shmIo] at hdisable
    obtain ⟨hvr0, hsvq⟩ := Prod.mk.inj hdisable
    refine ⟨_, view0, ?_, rpmsgInv_init shm' hring0' hfilled hpool hring1,
      (Role.forall_iff .master).mpr ⟨rfl, rfl⟩, rfl⟩
    have hslave : rpmsgInitVdevSlave cfg.num0 cfg.num1 slaveFeatures cfg.slaveIo vr0 vr1 =
        (vr0', vr1, RpmsgDevice.create
          (createdQueue .slave slaveFeatures 1 cfg.num1 cfg.slaveIo.toMetalIo)
          (createdQueue .slave slaveFeatures 0 cfg.num0 cfg.slaveIo.toMetalIo) cfg.slaveIo) := by
      have hnum0 : { vr0 with num := cfg.num0 } = vr0 := Vring.setNum_self hring0.num
      have hnum1 : { vr1 with num := cfg.num1 } = vr1 := Vring.setNum_self hring1.num
      change ((virtqueueDisableCb { vr0 with num := cfg.num0 } _).1, { vr1 with num := cfg.num1 },
        RpmsgDevice.create _ (virtqueueDisableCb { vr0 with num := cfg.num0 } _).2 cfg.slaveIo) = _
      rw [hnum0, hnum1]
      refine Prod.ext hvr0 (Prod.ext rfl ?_)
      exact congrArg (fun svq => RpmsgDevice.mk
        (createdQueue .slave slaveFeatures 1 cfg.num1 cfg.slaveIo.toMetalIo) svq cfg.slaveIo false
        [] [] [] [] []) hsvq
    simp only [result, rpmsgInitVdev_eq, hinit, hslave]
  · simp only [result, rpmsgInitVdev_eq, hmaster]

/-- The devices after an initialisation that has succeeded. -/
theorem rpmsgInitVdev_ok {cfg : RpmsgConfig} {masterFeatures slaveFeatures : Nat}
    {shm : Nat → UInt8} {s₀ : RpmsgSystem}
    (hinit : rpmsgInitVdev cfg.num0 cfg.num1 masterFeatures slaveFeatures cfg.masterIo cfg.slaveIo
      (rpmsgVirtioInitShmPool cfg.base cfg.size) shm = .ok s₀) :
    ∃ ring0, RpmsgInv cfg True s₀ ⟨ring0, SlotView.fresh cfg.num1, cfg.num0⟩ ∧
      (∀ role, (s₀.device role).sends = []) ∧ s₀.master.lock = false := by
  have hspec := rpmsgInitVdev_spec cfg masterFeatures slaveFeatures shm
  rw [hinit] at hspec
  simp only at hspec
  split_ifs at hspec
  obtain ⟨s, ring0, heq, hinv⟩ := hspec
  obtain rfl := Except.ok.inj heq
  exact ⟨ring0, hinv⟩

end OpenAmp
