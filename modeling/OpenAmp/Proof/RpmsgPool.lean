import OpenAmp.Library.ListCuts
import OpenAmp.Proof.RingOperations
import OpenAmp.RpmsgSystem

/-!
# Buffers of the pool and the rings they travel on

A buffer has a number, an address on either side and a place in the shared memory. On a ring that
carries only such buffers, one descriptor each, the operations of both sides move numbers.
-/

namespace OpenAmp

open ByteMemory ListCuts

/-! ### The shared pool -/

/-- Two rings and a pool of buffers between a master and a slave. libmetal is not part of the
repository; the fields say that the pool lies in memory both sides have mapped: an address of the
master names the same byte as the address the slave translates it to, and block accesses reach
consecutive bytes. -/
structure RpmsgConfig where
  order0 : Nat
  order0_le : order0 ≤ 15
  order1 : Nat
  order1_le : order1 ≤ 15
  masterIo : ShmIo
  slaveIo : ShmIo
  base : Nat
  size : Nat
  slaveBase : Nat
  cell0 : Nat
  base_ne : base ≠ NULL
  slaveBase_ne : slaveBase ≠ NULL
  translate : ∀ i < size,
    slaveIo.physToVirt (u64 (masterIo.virtToPhys (base + i))) = slaveBase + i
  masterCell : ∀ i j, i + j < size →
    masterIo.cell (masterIo.virtToOffset (base + i) + j) = cell0 + i + j
  slaveCell : ∀ i j, i + j < size →
    slaveIo.cell (slaveIo.virtToOffset (slaveBase + i) + j) = cell0 + i + j

namespace RpmsgConfig

variable (cfg : RpmsgConfig)

def num0 : Nat := 2 ^ cfg.order0

def num1 : Nat := 2 ^ cfg.order1

def ring0 : RingConfig := ⟨cfg.order0, cfg.order0_le, cfg.masterIo.toMetalIo, cfg.slaveIo.toMetalIo⟩

def ring1 : RingConfig := ⟨cfg.order1, cfg.order1_le, cfg.masterIo.toMetalIo, cfg.slaveIo.toMetalIo⟩

/-- How many buffers the pool has. -/
def buffers : Nat := cfg.size / RPMSG_BUFFER_SIZE

def io : Role → ShmIo
  | .master => cfg.masterIo
  | .slave => cfg.slaveIo

/-- The address of a buffer on either side. -/
def addr (role : Role) (buf : Nat) : Nat :=
  match role with
  | .master => cfg.base + RPMSG_BUFFER_SIZE * buf
  | .slave => cfg.slaveBase + RPMSG_BUFFER_SIZE * buf

/-- The first byte of a buffer in the shared memory. -/
def cell (buf : Nat) : Nat := cfg.cell0 + RPMSG_BUFFER_SIZE * buf

theorem lt_size {buf : Nat} (hbuf : buf < cfg.buffers) :
    RPMSG_BUFFER_SIZE * buf + RPMSG_BUFFER_SIZE ≤ cfg.size := by
  have hmul := (Nat.le_div_iff_mul_le (by decide)).mp (Nat.succ_le_of_lt hbuf)
  rw [Nat.succ_mul, Nat.mul_comm] at hmul
  exact hmul

theorem addr_ne_null (role : Role) (buf : Nat) : cfg.addr role buf ≠ NULL := by
  have hmaster := cfg.base_ne
  have hslave := cfg.slaveBase_ne
  cases role
  · simp only [addr, NULL] at *
    omega
  · simp only [addr, NULL] at *
    omega

/-- The slave finds a buffer where it translates the master's address to. -/
theorem translate_addr {buf : Nat} (hbuf : buf < cfg.buffers) :
    cfg.slaveIo.physToVirt (u64 (cfg.masterIo.virtToPhys (cfg.addr .master buf))) =
      cfg.addr .slave buf := by
  have hsize := cfg.lt_size hbuf
  have hpos : 0 < RPMSG_BUFFER_SIZE := by decide
  exact cfg.translate _ (by omega)

theorem cell_addr (role : Role) {buf i j : Nat} (hbuf : buf < cfg.buffers)
    (hlt : i + j < RPMSG_BUFFER_SIZE) :
    (cfg.io role).cell ((cfg.io role).virtToOffset (cfg.addr role buf + i) + j) =
      cfg.cell buf + i + j := by
  have hsize := cfg.lt_size hbuf
  cases role with
  | master =>
      simp only [io, addr, cell]
      rw [Nat.add_assoc cfg.base, cfg.masterCell _ _ (by omega)]
      omega
  | slave =>
      simp only [io, addr, cell]
      rw [Nat.add_assoc cfg.slaveBase, cfg.slaveCell _ _ (by omega)]
      omega

theorem metalIoBlockWrite_eq (io : ShmIo) (shm : Nat → UInt8) (bytes : List UInt8)
    {offset start : Nat} (hcell : ∀ i < bytes.length, io.cell (offset + i) = start + i) :
    metalIoBlockWrite io shm offset bytes = writeBytes shm start bytes := by
  induction bytes generalizing shm offset start with
  | nil => simp [metalIoBlockWrite]
  | cons byte bytes ih =>
      have hfirst : io.cell offset = start := hcell 0 (Nat.zero_lt_succ _)
      rw [metalIoBlockWrite, hfirst, ← writeBytes_cons]
      refine ih _ fun i hi => ?_
      have hnext := hcell (i + 1) (by simpa using hi)
      rw [show offset + 1 + i = offset + (i + 1) by omega, hnext]
      omega

theorem write_addr (role : Role) {buf i : Nat} (hbuf : buf < cfg.buffers) (shm : Nat → UInt8)
    {bytes : List UInt8} (hlen : i + bytes.length ≤ RPMSG_BUFFER_SIZE) :
    metalIoBlockWrite (cfg.io role) shm ((cfg.io role).virtToOffset (cfg.addr role buf + i)) bytes =
      writeBytes shm (cfg.cell buf + i) bytes := by
  refine metalIoBlockWrite_eq _ _ _ fun j hj => ?_
  exact cfg.cell_addr role hbuf (by omega)

theorem load_addr (role : Role) {buf : Nat} (hbuf : buf < cfg.buffers) (shm : Nat → UInt8)
    (i len : Nat) (hlen : i + len ≤ RPMSG_BUFFER_SIZE) :
    (cfg.io role).load shm (cfg.addr role buf + i) len = readBytes shm (cfg.cell buf + i) len := by
  refine List.map_congr_left fun j hj => ?_
  have hlt := List.mem_range.mp hj
  have hcell := cfg.cell_addr role (i := i + j) (j := 0) hbuf (by omega)
  simp only [Nat.add_zero, ← Nat.add_assoc] at hcell
  exact congrArg shm hcell

/-- The pool after some buffers have been handed out. -/
def pool (allocated : Nat) : RpmsgVirtioShmPool :=
  ⟨cfg.base, cfg.size - RPMSG_BUFFER_SIZE * allocated, cfg.size⟩

theorem poolGetBuffer_eq {allocated : Nat} (hle : allocated ≤ cfg.buffers) :
    rpmsgVirtioShmPoolGetBuffer (cfg.pool allocated) RPMSG_BUFFER_SIZE =
      if allocated < cfg.buffers then (cfg.pool (allocated + 1), cfg.addr .master allocated)
      else (cfg.pool allocated, NULL) := by
  have hunit : RPMSG_BUFFER_SIZE = 512 := rfl
  have hsize : 512 * cfg.buffers ≤ cfg.size := Nat.mul_div_le _ _
  have hmod : cfg.size < 512 * cfg.buffers + 512 := Nat.lt_mul_div_succ _ (by decide)
  simp only [rpmsgVirtioShmPoolGetBuffer, pool, hunit]
  by_cases hleft : allocated < cfg.buffers
  · have hnext : cfg.size - 512 * allocated - 512 = cfg.size - 512 * (allocated + 1) := by
      omega
    have haddr : cfg.base + cfg.size - (cfg.size - 512 * allocated) =
        cfg.addr .master allocated := by
      simp only [addr, hunit]
      omega
    rw [if_neg (by omega), if_pos hleft, hnext, haddr]
  · rw [if_pos (by omega), if_neg hleft]

/-- The number of the buffer at an address. -/
def number (role : Role) (buffer : RpmsgBuffer) : Nat :=
  (buffer.addr - cfg.addr role 0) / RPMSG_BUFFER_SIZE

/-- The buffer with a number, in the hands of a call. -/
def buffer (role : Role) (buf idx : Nat) : RpmsgBuffer :=
  ⟨cfg.addr role buf, RPMSG_BUFFER_SIZE, idx, RPMSG_BUFFER_SIZE⟩

@[simp] theorem number_buffer (role : Role) (buf idx : Nat) :
    cfg.number role (cfg.buffer role buf idx) = buf := by
  cases role <;> simp [number, buffer, addr, RPMSG_BUFFER_SIZE]

/-- A region that each side has mapped in one piece, the slave at a higher address. -/
def linear (order0 order1 size : Nat) (h0 : order0 ≤ 15) (h1 : order1 ≤ 15)
    (hsize : size < 2 ^ 63) : RpmsgConfig where
  order0 := order0
  order0_le := h0
  order1 := order1
  order1_le := h1
  masterIo := ⟨⟨fun virt => virt, fun phys => phys⟩, fun virt => virt - 4096, fun offset => offset⟩
  slaveIo :=
    ⟨⟨fun virt => virt - 65536, fun phys => phys + 65536⟩, fun virt => virt - 69632,
      fun offset => offset⟩
  base := 4096
  size := size
  slaveBase := 69632
  cell0 := 0
  base_ne := by decide
  slaveBase_ne := by decide
  translate := by
    intro i hi
    simp only [u64]
    omega
  masterCell := by
    intro i j _
    simp only
    omega
  slaveCell := by
    intro i j _
    simp only
    omega

end RpmsgConfig

/-! ### Rings of single buffers -/

/-- A chain of one descriptor with a buffer of the pool. -/
structure Slot where
  head : Nat
  buf : Nat
deriving DecidableEq, Repr

/-- A ring on which only buffers of the pool are posted, one descriptor each and in full length. -/
structure SlotView where
  free : List Nat
  avail : List Slot
  held : List Slot
  used : List Slot
  taken : Nat
  got : Nat

def RpmsgConfig.posted (cfg : RpmsgConfig) (slot : Slot) : Posted :=
  { head := slot.head
    rest := []
    cookie := cfg.addr .master slot.buf
    addr := u64 (cfg.masterIo.virtToPhys (cfg.addr .master slot.buf))
    len := RPMSG_BUFFER_SIZE }

def SlotView.ring (cfg : RpmsgConfig) (view : SlotView) : RingView :=
  { free := view.free
    avail := view.avail.map cfg.posted
    held := view.held.map cfg.posted
    used := view.used.map fun slot => (cfg.posted slot, RPMSG_BUFFER_SIZE)
    taken := view.taken
    got := view.got }

def SlotView.post (view : SlotView) (slot : Slot) : SlotView :=
  { view with free := view.free.tail, avail := view.avail ++ [slot] }

def SlotView.take (view : SlotView) : SlotView :=
  { view with
    avail := view.avail.tail
    held := view.held ++ view.avail.head?.toList
    taken := view.taken + 1 }

def SlotView.giveBack (view : SlotView) (slot : Slot) (held : List Slot) : SlotView :=
  { view with held, used := view.used ++ [slot] }

def SlotView.reclaim (view : SlotView) : SlotView :=
  { view with
    free := (view.used.head?.map Slot.head).toList ++ view.free
    used := view.used.tail
    got := view.got + 1 }

section Slots

variable {cfg : RpmsgConfig} {rc : RingConfig} {vr : Vring} {master slave : Virtqueue}
  {view : SlotView}

theorem SlotView.ring_post (slot : Slot) :
    (view.post slot).ring cfg = (view.ring cfg).post (cfg.posted slot) := by
  simp [SlotView.ring, SlotView.post, RingView.post, RpmsgConfig.posted, Posted.descs]

theorem SlotView.ring_take : view.take.ring cfg = (view.ring cfg).take := by
  cases hview : view.avail <;> simp [SlotView.ring, SlotView.take, RingView.take, hview]

theorem SlotView.ring_giveBack (slot : Slot) (held : List Slot) :
    (view.giveBack slot held).ring cfg =
      (view.ring cfg).giveBack (cfg.posted slot) (held.map cfg.posted) RPMSG_BUFFER_SIZE := by
  simp [SlotView.ring, SlotView.giveBack, RingView.giveBack]

theorem SlotView.ring_reclaim : view.reclaim.ring cfg = (view.ring cfg).reclaim := by
  cases hview : view.used <;>
    simp [SlotView.ring, SlotView.reclaim, RingView.reclaim, hview, RpmsgConfig.posted, Posted.descs]

/-- Every chain is one descriptor, so chains and free descriptors are as many as the ring has. -/
theorem SlotView.count (h : RingInv rc vr master slave (view.ring cfg)) :
    view.free.length + view.avail.length + view.held.length + view.used.length = rc.entries := by
  have hlen := h.partition.length_eq
  have hone : ∀ slots : List Slot,
      ((slots.map cfg.posted).flatMap Posted.descs).length = slots.length := by
    intro slots
    induction slots with
    | nil => rfl
    | cons slot slots ih =>
        simp only [List.map_cons, List.flatMap_cons, List.length_append, ih, List.length_cons]
        simp [RpmsgConfig.posted]
        omega
  have hused : (view.used.map fun slot => (cfg.posted slot, RPMSG_BUFFER_SIZE)).map Prod.fst =
      view.used.map cfg.posted := by
    simp
  simp only [RingView.outstanding, SlotView.ring, List.flatMap_append, List.length_append, hone,
    hused, List.length_range] at hlen
  omega

theorem RingInv.postSlot (h : RingInv rc vr master slave (view.ring cfg))
    (hio : rc.masterIo = cfg.masterIo.toMetalIo) (hroom : view.free ≠ []) (buf : Nat)
    (readable writable : Int) (hone : readable + writable = 1) :
    ∃ vr' master' head,
      virtqueueAddBuffer vr master (fun _ => ⟨cfg.addr .master buf, RPMSG_BUFFER_SIZE⟩) readable
          writable (cfg.addr .master buf) = (vr', master', VQUEUE_SUCCESS) ∧
        RingInv rc vr' master' slave ((view.post ⟨head, buf⟩).ring cfg) := by
  have hpos : 0 < view.free.length := List.length_pos_iff.mpr hroom
  have hfree : master.vqFreeCnt = view.free.length := h.freeCnt
  have hleast : 1 ≤ readable + writable := hone.ge
  have hmost : readable + writable ≤ master.vqFreeCnt := by omega
  obtain ⟨posted, vr', master', hcall, -, hcookie, haddr, hlen, hdescs, hring⟩ :=
    h.addBuffer (fun _ => ⟨cfg.addr .master buf, RPMSG_BUFFER_SIZE⟩) hleast hmost
      (cfg.addr_ne_null .master buf)
  refine ⟨vr', master', posted.head, hcall, ?_⟩
  have hposted : posted = cfg.posted ⟨posted.head, buf⟩ := by
    obtain ⟨head, rest, cookie, addr, len⟩ := posted
    simp only [hone, Posted.length_descs] at hcookie haddr hlen hdescs
    have hrest : rest = [] := List.length_eq_zero_iff.mp (by omega)
    subst hcookie haddr hlen hrest
    rw [hio]
    rfl
  rw [SlotView.ring_post, ← hposted]
  exact hring

/-- The descriptor of the oldest used chain, reached through the used ring. -/
theorem RingInv.usedDescLen_eq {view : RingView} (h : RingInv rc vr master slave view)
    {posted : Posted} {len : Nat} {used : List (Posted × Nat)}
    (hview : view.used = (posted, len) :: used) : usedDescLen vr master = posted.len := by
  have hmem : posted ∈ view.outstanding := by
    simp [RingView.outstanding, hview]
  have hlt := h.descs_lt hmem posted.head_mem_descs
  have hentries := rc.entries_le
  have hring := h.usedRing
  rw [hview, List.map_cons] at hring
  have hhead : u16 posted.head = posted.head := Nat.mod_eq_of_lt (by omega)
  rw [usedDescLen, h.usedConsIdx, h.masterEntries, rc.mask_idx, hring.head, hhead]
  exact (h.stored posted hmem).len

theorem RingInv.masterGetBuffer (h : RingInv rc vr master slave (view.ring cfg)) {slot : Slot}
    {used : List Slot} (hview : view.used = slot :: used) :
    ∃ vr' master' idx,
      OpenAmp.masterGetBuffer vr master =
          some (vr', master', some (cfg.buffer .master slot.buf idx)) ∧
        RingInv rc vr' master' slave (view.reclaim.ring cfg) := by
  have hused : (view.ring cfg).used =
      (cfg.posted slot, RPMSG_BUFFER_SIZE) ::
        used.map fun slot => (cfg.posted slot, RPMSG_BUFFER_SIZE) := by
    simp [SlotView.ring, hview]
  obtain ⟨vr', master', hcall, hring⟩ := h.getBuffer hused
  have hlen : usedDescLen vr master = RPMSG_BUFFER_SIZE := h.usedDescLen_eq hused
  refine ⟨vr', master', view.got % rc.entries, ?_, ?_⟩
  · have hne := cfg.addr_ne_null .master slot.buf
    simp [OpenAmp.masterGetBuffer, hcall, hlen, RpmsgConfig.posted, RpmsgConfig.buffer,
      SlotView.ring, hne]
  · rw [SlotView.ring_reclaim]
    exact hring

theorem RingInv.masterGetBuffer_nil (h : RingInv rc vr master slave (view.ring cfg))
    (hview : view.used = []) : OpenAmp.masterGetBuffer vr master = some (vr, master, none) := by
  have hused : (view.ring cfg).used = [] := by
    simp [SlotView.ring, hview]
  simp [OpenAmp.masterGetBuffer, h.getBuffer_nil hused]

theorem RingInv.slaveGetBuffer (h : RingInv rc vr master slave (view.ring cfg))
    (hio : rc.slaveIo = cfg.slaveIo.toMetalIo) {slot : Slot} {avail : List Slot}
    (hview : view.avail = slot :: avail) (hbuf : slot.buf < cfg.buffers) :
    ∃ slave',
      OpenAmp.slaveGetBuffer vr slave = (slave', some (cfg.buffer .slave slot.buf slot.head)) ∧
        RingInv rc vr master slave' (view.take.ring cfg) := by
  have havail : (view.ring cfg).avail = cfg.posted slot :: avail.map cfg.posted := by
    simp [SlotView.ring, hview]
  obtain ⟨slave', hcall, hring⟩ := h.getAvailableBuffer havail
  have hne := cfg.addr_ne_null .slave slot.buf
  have haddr : rc.slaveIo.physToVirt (cfg.posted slot).addr = cfg.addr .slave slot.buf := by
    rw [hio]
    exact cfg.translate_addr hbuf
  refine ⟨slave', ?_, ?_⟩
  · simp only [OpenAmp.slaveGetBuffer, hcall, haddr]
    simp [RpmsgConfig.posted, RpmsgConfig.buffer, hne]
  · rw [SlotView.ring_take]
    exact hring

theorem RingInv.slaveGetBuffer_nil (h : RingInv rc vr master slave (view.ring cfg))
    (hview : view.avail = []) : OpenAmp.slaveGetBuffer vr slave = (slave, none) := by
  have havail : (view.ring cfg).avail = [] := by
    simp [SlotView.ring, hview]
  simp [OpenAmp.slaveGetBuffer, h.getAvailableBuffer_nil havail]

theorem RingInv.giveBackSlot (h : RingInv rc vr master slave (view.ring cfg)) {slot : Slot}
    {front back : List Slot} (hview : view.held = front ++ slot :: back) :
    ∃ vr' slave',
      virtqueueAddConsumedBuffer vr slave slot.head RPMSG_BUFFER_SIZE =
          (vr', slave', VQUEUE_SUCCESS) ∧
        RingInv rc vr' master slave' ((view.giveBack slot (front ++ back)).ring cfg) := by
  have hheld : (view.ring cfg).held =
      front.map cfg.posted ++ cfg.posted slot :: back.map cfg.posted := by
    simp [SlotView.ring, hview]
  obtain ⟨vr', slave', hcall, hring⟩ := h.addConsumedBuffer hheld RPMSG_BUFFER_SIZE
  refine ⟨vr', slave', hcall, ?_⟩
  rw [SlotView.ring_giveBack, List.map_append]
  exact hring

/-- The size the slave finds: the room of the oldest buffer on offer, or 0. -/
theorem RingInv.slaveBufferSize (h : RingInv rc vr master slave (view.ring cfg)) :
    rpmsgVirtioGetBufferSize .slave vr slave =
      (slave, if view.avail = [] then 0 else (RPMSG_BUFFER_SIZE : Int) - RPMSG_HDR_SIZE) := by
  cases hview : view.avail with
  | nil =>
      have havail : (view.ring cfg).avail = [] := by
        simp [SlotView.ring, hview]
      simp only [rpmsgVirtioGetBufferSize, h.getDescSize_nil havail]
      rfl
  | cons slot avail =>
      have havail : (view.ring cfg).avail = cfg.posted slot :: avail.map cfg.posted := by
        simp [SlotView.ring, hview]
      have hroom : toInt32 ((RPMSG_BUFFER_SIZE : Int) - RPMSG_HDR_SIZE) =
          (RPMSG_BUFFER_SIZE : Int) - RPMSG_HDR_SIZE := by decide
      have hpos : ¬ (RPMSG_BUFFER_SIZE : Int) - RPMSG_HDR_SIZE < 0 := by decide
      simp only [rpmsgVirtioGetBufferSize, h.getDescSize havail, RpmsgConfig.posted, hroom,
        if_neg hpos, List.cons_ne_nil, if_false]

end Slots

end OpenAmp
