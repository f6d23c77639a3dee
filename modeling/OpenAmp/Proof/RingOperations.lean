import OpenAmp.Proof.RingInvariant

/-!
# The queue operations on the abstract ring

One theorem for each operation of `virtqueue.c`: from a state that represents a ring, the call
returns, what it returns is read off the ring, no assertion fails, and the state it leaves
represents the ring after one move.
-/

namespace OpenAmp

open LinkedChain RingBuffer

@[simp]
theorem VqDebug.check_true (debug : VqDebug) (msg : String) : debug.check true msg = debug := rfl

theorem Virtqueue.vqassert_of (vq : Virtqueue) {exp : Prop} [Decidable exp] (hexp : exp)
    (msg : String) : vq.vqassert (decide exp) msg = vq := by
  rw [Virtqueue.vqassert, decide_eq_true hexp, VqDebug.check_true]

/-! ### Creation -/

theorem setNext_apply (desc : Nat → VringDesc) (idx next cell : Nat) :
    setNext desc idx next cell = if cell = idx then { desc cell with next } else desc cell := by
  by_cases hcell : cell = idx
  · subst hcell
    simp [setNext]
  · simp [setNext, hcell]

theorem foldl_setNext_apply (desc : Nat → VringDesc) (count cell : Nat) :
    (List.range count).foldl (fun desc i => setNext desc i (i + 1)) desc cell =
      if cell < count then { desc cell with next := cell + 1 } else desc cell := by
  induction count with
  | zero => simp
  | succ count ih =>
      rw [List.range_succ, List.foldl_append, List.foldl_cons, List.foldl_nil, setNext_apply, ih]
      by_cases hcell : cell = count
      · subst hcell
        simp
      · have hiff : cell < count + 1 ↔ cell < count := by omega
        simp only [hcell, if_false, hiff]

theorem vqRingInit_next (desc : Nat → VringDesc) {size cell : Nat} (hcell : cell < size) :
    (vqRingInit desc size cell).next =
      if cell + 1 = size then VQ_RING_DESC_CHAIN_END else cell + 1 := by
  rw [vqRingInit, setNext_apply, foldl_setNext_apply]
  by_cases hlast : cell + 1 = size
  · rw [if_pos (by omega), if_pos hlast]
  · have hne : cell ≠ size - 1 := by omega
    have hlt : cell < size - 1 := by omega
    simp [hlast, hne, hlt]

theorem path_range' {next : Nat → Nat} {stop : Nat} (len start : Nat)
    (hstep : ∀ cell, start ≤ cell → cell < start + len →
      next cell = if cell + 1 = start + len then stop else cell + 1) (hlen : 0 < len) :
    Path next start (List.range' start len) stop := by
  induction len generalizing start with
  | zero => omega
  | succ len ih =>
      refine ⟨rfl, ?_⟩
      rw [hstep start le_rfl (by omega)]
      cases len with
      | zero => simp
      | succ len =>
          rw [if_neg (by omega)]
          refine ih (start + 1) (fun cell hge hlt => ?_) (by omega)
          rw [hstep cell (by omega) (by omega)]
          congr 1
          simp only [eq_iff_iff]
          omega

/-- The abstract ring after creation. -/
def RingView.initial (entries : Nat) : RingView :=
  { free := List.range entries
    avail := []
    held := []
    used := []
    taken := 0
    got := 0 }

/-- `virtqueue_create` by both sides on cleared ring memory, and the regions they then set. -/
theorem ringInv_create (cfg : RingConfig) (masterFeatures slaveFeatures id id' : Nat)
    (notify notify' : Bool) :
    let master := virtqueueCreate .master masterFeatures id cfg.entries notify
      (Vring.zeroed cfg.entries) virtqueueAllocate
    let slave := virtqueueCreate .slave slaveFeatures id' cfg.entries notify' master.1
      virtqueueAllocate
    RingInv cfg slave.1 { master.2 with shmIo := cfg.masterIo } { slave.2 with shmIo := cfg.slaveIo }
      (RingView.initial cfg.entries) := by
  constructor
  case freePath =>
    rw [RingView.initial, List.range_eq_range']
    refine path_range' cfg.entries 0 (fun cell _ hcell => ?_) cfg.entries_pos
    rw [Nat.zero_add] at hcell ⊢
    exact vqRingInit_next _ hcell
  case partition => simp [RingView.initial, RingView.outstanding]
  case freeCnt => simp [RingView.initial, virtqueueCreate]
  case stored => simp [RingView.initial, RingView.outstanding]
  case noCookie => exact fun _ _ => rfl
  case availRing => exact holds_nil
  case usedRing => exact holds_nil
  all_goals rfl

/-! ### Posting a chain -/

theorem addBuffer_flags_next (i : Nat) (readable needed : Int) :
    ((if (i : Int) < needed - 1 then VRING_DESC_F_NEXT else 0) |||
      (if readable ≤ (i : Int) then VRING_DESC_F_WRITE else 0)) &&& VRING_DESC_F_NEXT =
      if (i : Int) < needed - 1 then 1 else 0 := by
  split_ifs <;> decide

theorem addBuffer_flags_direct (i : Nat) (readable needed : Int) :
    ((if (i : Int) < needed - 1 then VRING_DESC_F_NEXT else 0) |||
      (if readable ≤ (i : Int) then VRING_DESC_F_WRITE else 0)) &&& VRING_DESC_F_INDIRECT = 0 := by
  split_ifs <;> decide

/-- What the loop of `vq_ring_add_buffer` leaves behind on the cells it fills. -/
structure Filled (vq : Virtqueue) (bufList : Nat → VirtqueueBuf) (i : Nat) (cells : List Nat)
    (desc desc' : Nat → VringDesc) : Prop where
  frame : ∀ cell, cell ∉ cells → desc' cell = desc cell
  next : ∀ cell, (desc' cell).next = (desc cell).next
  linked : ChainLinked desc' cells
  direct : ∀ cell ∈ cells, (desc' cell).flags &&& VRING_DESC_F_INDIRECT = 0
  first : ∀ cell ∈ cells.head?,
    (desc' cell).addr = u64 (vq.shmIo.virtToPhys (bufList i).buf) ∧
      (desc' cell).len = ofInt 32 (bufList i).len

theorem vqRingAddBufferLoop_spec (bufList : Nat → VirtqueueBuf) (readable needed : Int)
    (vq : Virtqueue) (stop : Nat) :
    ∀ (cells : List Nat) (i : Nat) (desc : Nat → VringDesc) (idx : Nat),
      Path (fun cell => (desc cell).next) idx cells stop → cells.Nodup →
      VQ_RING_DESC_CHAIN_END ∉ cells → (i : Int) + cells.length = needed →
      ∃ desc', vqRingAddBufferLoop bufList readable needed cells.length i desc vq idx =
          (desc', vq, stop) ∧ Filled vq bufList i cells desc desc' := by
  intro cells
  induction cells with
  | nil =>
      intro i desc idx hpath _ _ _
      exact ⟨desc, by rw [List.length_nil, vqRingAddBufferLoop, hpath],
        ⟨fun _ _ => rfl, fun _ => rfl, trivial, by simp, by simp⟩⟩
  | cons cell cells ih =>
      intro i desc idx hpath hnodup hend hneeded
      obtain ⟨rfl, hpath⟩ := hpath
      obtain ⟨hnotMem, hnodup⟩ := List.nodup_cons.mp hnodup
      obtain ⟨hne, hend⟩ : VQ_RING_DESC_CHAIN_END ≠ idx ∧ VQ_RING_DESC_CHAIN_END ∉ cells := by
        simpa using hend
      rw [List.length_cons, Nat.cast_add, Nat.cast_one] at hneeded
      -- the descriptor this iteration writes
      let dp : VringDesc :=
        { addr := u64 (vq.shmIo.virtToPhys (bufList i).buf)
          len := ofInt 32 (bufList i).len
          flags := (if (i : Int) < needed - 1 then VRING_DESC_F_NEXT else 0) |||
            (if readable ≤ (i : Int) then VRING_DESC_F_WRITE else 0)
          next := (desc idx).next }
      have hnext : ∀ cell, (Function.update desc idx dp cell).next = (desc cell).next := by
        intro cell
        by_cases hcell : cell = idx
        · subst hcell
          simp [dp]
        · simp [hcell]
      obtain ⟨desc', hloop, hfilled⟩ := ih (i + 1) (Function.update desc idx dp) (desc idx).next
        (hpath.congr fun cell _ => hnext cell) hnodup hend (by push_cast; omega)
      have hassert := vq.vqassert_of hne.symm "premature end of free desc chain"
      have hself : desc' idx = dp := by
        rw [hfilled.frame idx hnotMem, Function.update_self]
      refine ⟨desc', ?_, ?_⟩
      · rw [List.length_cons, vqRingAddBufferLoop, hassert]
        exact hloop
      · constructor
        case frame =>
          intro other hother
          obtain ⟨hidx, hother⟩ : other ≠ idx ∧ other ∉ cells := by simpa using hother
          rw [hfilled.frame other hother, Function.update_of_ne hidx]
        case next =>
          intro other
          rw [hfilled.next other, hnext]
        case linked =>
          have hflags : (desc' idx).flags &&& VRING_DESC_F_NEXT =
              if (i : Int) < needed - 1 then 1 else 0 := by
            rw [hself]
            exact addBuffer_flags_next i readable needed
          cases cells with
          | nil =>
              simp only [List.length_nil, Nat.cast_zero] at hneeded
              rw [if_neg (by omega)] at hflags
              exact hflags
          | cons next cells =>
              simp only [List.length_cons, Nat.cast_add, Nat.cast_one] at hneeded
              rw [if_pos (by omega)] at hflags
              refine ⟨by rw [hflags]; decide, ?_, hfilled.linked⟩
              rw [hself]
              exact hpath.1
        case direct =>
          intro other hother
          rcases List.mem_cons.mp hother with rfl | hother
          · rw [hself]
            exact addBuffer_flags_direct i readable needed
          · exact hfilled.direct other hother
        case first =>
          simp [hself, dp]

/-- The call as a whole, once the loop has run and every assertion is known to pass. -/
theorem virtqueueAddBuffer_eq {vr : Vring} {vq : Virtqueue} {bufList : Nat → VirtqueueBuf}
    {readable writable : Int} {cookie needed stop : Nat} {desc' : Nat → VringDesc}
    (hneeded : readable + writable = needed) (hcookie : cookie ≠ NULL)
    (hdebug : vq.vqDebug = VqDebug.clean) (hhead : vq.vqDescHeadIdx < vq.vqNentries)
    (hnone : (vq.vqDescx vq.vqDescHeadIdx).cookie = NULL)
    (hloop :
      let vq' : Virtqueue := { vq with
        vqDescx := Function.update vq.vqDescx vq.vqDescHeadIdx ⟨cookie, needed⟩
        vqDebug := ⟨true, []⟩ }
      vqRingAddBufferLoop bufList readable needed needed 0 vr.desc vq' vq.vqDescHeadIdx =
        (desc', vq', stop))
    (hroom : needed ≤ vq.vqFreeCnt) (hfree : vq.vqFreeCnt < 2 ^ 16)
    (hterm : vq.vqFreeCnt = needed → stop = VQ_RING_DESC_CHAIN_END)
    (hvalid : vq.vqFreeCnt ≠ needed → stop < vq.vqNentries) :
    virtqueueAddBuffer vr vq bufList readable writable cookie =
      ({ vr with
          desc := desc'
          avail := { vr.avail with
            ring := Function.update vr.avail.ring (vr.avail.idx &&& ringMask vq.vqNentries)
              vq.vqDescHeadIdx
            idx := u16 (vr.avail.idx + 1) } },
        { vq with
          vqDescx := Function.update vq.vqDescx vq.vqDescHeadIdx ⟨cookie, needed⟩
          vqDescHeadIdx := stop
          vqFreeCnt := vq.vqFreeCnt - needed
          vqQueuedCnt := u16 (vq.vqQueuedCnt + 1) },
        VQUEUE_SUCCESS) := by
  have hcnt : ofInt 16 ((vq.vqFreeCnt : Int) - needed) = vq.vqFreeCnt - needed := by
    rw [ofInt]
    omega
  have hneeded16 : ofInt 16 (needed : Int) = needed := by
    rw [ofInt]
    omega
  by_cases hfull : vq.vqFreeCnt = needed
  · have hzero : vq.vqFreeCnt - needed = 0 := by omega
    simp [virtqueueAddBuffer, vqRingUpdateAvail, Virtqueue.busy, Virtqueue.idle, Virtqueue.vqassert,
      Virtqueue.assertValidIdx, Virtqueue.assertChainTerm, VqDebug.clean, hloop, hcnt, hneeded16,
      hneeded, hdebug, hcookie, hhead, hnone, hzero, hterm hfull]
  · have hpos : vq.vqFreeCnt - needed ≠ 0 := by omega
    simp [virtqueueAddBuffer, vqRingUpdateAvail, Virtqueue.busy, Virtqueue.idle, Virtqueue.vqassert,
      Virtqueue.assertValidIdx, VqDebug.clean, hloop, hcnt, hneeded16,
      hneeded, hdebug, hcookie, hhead, hnone, hpos, hvalid hfull]

section Operations

variable {cfg : RingConfig} {vr : Vring} {master slave : Virtqueue} {view : RingView}

theorem RingInv.free_split (h : RingInv cfg vr master slave view) (count : Nat) (hpos : 0 < count)
    (hcount : count ≤ view.free.length) :
    ∃ rest stop, (master.vqDescHeadIdx :: rest).length = count ∧
      view.free = (master.vqDescHeadIdx :: rest) ++ view.free.drop count ∧
      Path (fun cell => (vr.desc cell).next) master.vqDescHeadIdx
        (master.vqDescHeadIdx :: rest) stop ∧
      Path (fun cell => (vr.desc cell).next) stop (view.free.drop count)
        VQ_RING_DESC_CHAIN_END := by
  have hpath := h.freePath
  rw [← List.take_append_drop count view.free] at hpath
  obtain ⟨stop, hfront, hback⟩ := path_append.mp hpath
  have hlen : (view.free.take count).length = count := by
    rw [List.length_take, Nat.min_eq_left hcount]
  cases hcells : view.free.take count with
  | nil =>
      rw [hcells, List.length_nil] at hlen
      omega
  | cons cell rest =>
      rw [hcells] at hfront hlen
      obtain ⟨rfl, _⟩ := id hfront
      refine ⟨rest, stop, hlen, ?_, hfront, hback⟩
      rw [← hcells, List.take_append_drop]

theorem RingView.mem_outstanding_post {posted other : Posted} :
    other ∈ (view.post posted).outstanding ↔ other = posted ∨ other ∈ view.outstanding := by
  simp only [RingView.post, RingView.outstanding, List.mem_append, List.mem_singleton]
  tauto

theorem RingView.outstanding_post_perm (view : RingView) (posted : Posted) :
    (view.post posted).outstanding.Perm (posted :: view.outstanding) := by
  simp only [RingView.post, RingView.outstanding, List.append_assoc, List.singleton_append]
  exact List.perm_middle

/-- The invariant after a post, field by field: the filled cells leave the free chain and become the
newest chain on offer. -/
theorem RingInv.post (h : RingInv cfg vr master slave view) (posted : Posted) {stop : Nat}
    {desc' : Nat → VringDesc} (queued : Nat)
    (hhead : posted.head = master.vqDescHeadIdx)
    (hfree : view.free = posted.descs ++ view.free.drop posted.descs.length)
    (hback : Path (fun cell => (vr.desc cell).next) stop (view.free.drop posted.descs.length)
      VQ_RING_DESC_CHAIN_END)
    (hframe : ∀ cell, cell ∉ posted.descs → desc' cell = vr.desc cell)
    (hnext : ∀ cell, (desc' cell).next = (vr.desc cell).next)
    (hstored : posted.Stored desc'
      (Function.update master.vqDescx master.vqDescHeadIdx
        ⟨posted.cookie, posted.descs.length⟩)) :
    RingInv cfg
      { vr with
        desc := desc'
        avail := { vr.avail with
          ring := Function.update vr.avail.ring (vr.avail.idx &&& ringMask master.vqNentries)
            master.vqDescHeadIdx
          idx := u16 (vr.avail.idx + 1) } }
      { master with
        vqDescx := Function.update master.vqDescx master.vqDescHeadIdx
          ⟨posted.cookie, posted.descs.length⟩
        vqDescHeadIdx := stop
        vqFreeCnt := master.vqFreeCnt - posted.descs.length
        vqQueuedCnt := queued }
      slave (view.post posted) := by
  have hheadFree : master.vqDescHeadIdx ∈ view.free := by
    rw [hfree, ← hhead]
    exact List.mem_append_left _ posted.head_mem_descs
  have hother : ∀ other ∈ view.outstanding, other.head ≠ master.vqDescHeadIdx := by
    intro other hmem heq
    exact h.free_disjoint hmem hheadFree (heq ▸ other.head_mem_descs)
  refine { h with
    partition := ?_, freePath := ?_, freeCnt := ?_, stored := ?_, noCookie := ?_,
    availIdx := ?_, availRing := ?_, usedIdx := h.usedIdx, usedRing := h.usedRing,
    availableIdx := h.availableIdx, usedConsIdx := h.usedConsIdx }
  · refine List.Perm.trans ?_ h.partition
    calc (view.post posted).free ++ (view.post posted).outstanding.flatMap Posted.descs
        |>.Perm (view.free.drop posted.descs.length ++
            (posted :: view.outstanding).flatMap Posted.descs) :=
          ((view.outstanding_post_perm posted).flatMap_right _).append_left _
      _ |>.Perm (posted.descs ++ (view.free.drop posted.descs.length ++
            view.outstanding.flatMap Posted.descs)) := by
          rw [List.flatMap_cons]
          exact List.perm_append_comm_assoc ..
      _ = view.free ++ view.outstanding.flatMap Posted.descs := by
          rw [← List.append_assoc, ← hfree]
  · exact hback.congr fun cell _ => hnext cell
  · simp only [RingView.post, List.length_drop, h.freeCnt]
  · intro other hmem
    rcases RingView.mem_outstanding_post.mp hmem with rfl | hmem
    · exact hstored
    · refine (h.stored other hmem).congr (fun cell hcell => hframe cell fun hin => ?_) ?_
      · exact h.free_disjoint hmem (hfree ▸ List.mem_append_left _ hin) hcell
      · exact Function.update_of_ne (hother other hmem) ..
  · intro cell hcell
    have hne : cell ≠ master.vqDescHeadIdx := by
      rw [← hhead]
      exact (hcell posted (RingView.mem_outstanding_post.mpr (Or.inl rfl))).symm
    simp only [Function.update_of_ne hne]
    exact h.noCookie cell fun other hmem =>
      hcell other (RingView.mem_outstanding_post.mpr (Or.inr hmem))
  · simp only [RingView.post, List.length_append, List.length_singleton, h.availIdx]
    exact succ_word _ _
  · simp only [RingView.post, List.map_append, List.map_cons, List.map_nil, h.masterEntries,
      h.availIdx, cfg.mask_idx, hhead]
    have hroom : (view.avail.map Posted.head).length < cfg.entries := by
      have hcount := h.count_le
      have hlen := view.length_outstanding
      have hpos := List.length_pos_of_mem hheadFree
      rw [List.length_map]
      omega
    simpa using h.availRing.push hroom master.vqDescHeadIdx

/-- `virtqueue_add_buffer` with enough free descriptors posts a chain made of the first of them. -/
theorem RingInv.addBuffer (h : RingInv cfg vr master slave view) (bufList : Nat → VirtqueueBuf)
    {readable writable : Int} {cookie : Nat} (hpos : 1 ≤ readable + writable)
    (hroom : readable + writable ≤ master.vqFreeCnt) (hcookie : cookie ≠ NULL) :
    ∃ (posted : Posted) (vr' : Vring) (master' : Virtqueue),
      virtqueueAddBuffer vr master bufList readable writable cookie =
          (vr', master', VQUEUE_SUCCESS) ∧
        posted.head = master.vqDescHeadIdx ∧
        posted.cookie = cookie ∧
        posted.addr = u64 (cfg.masterIo.virtToPhys (bufList 0).buf) ∧
        posted.len = ofInt 32 (bufList 0).len ∧
        (posted.descs.length : Int) = readable + writable ∧
        RingInv cfg vr' master' slave (view.post posted) := by
  obtain ⟨needed, hneeded⟩ := Int.eq_ofNat_of_zero_le (by omega : 0 ≤ readable + writable)
  have hfreeCnt := h.freeCnt
  have hentries := cfg.entries_le
  have hcount := h.count_le
  obtain ⟨rest, stop, hlen, hfree, hfront, hback⟩ :=
    h.free_split needed (by omega) (by omega)
  let posted : Posted :=
    { head := master.vqDescHeadIdx
      rest
      cookie
      addr := u64 (cfg.masterIo.virtToPhys (bufList 0).buf)
      len := ofInt 32 (bufList 0).len }
  have hdescs : posted.descs.length = needed := hlen
  have hsub : ∀ cell ∈ posted.descs, cell ∈ view.free := by
    intro cell hcell
    rw [hfree]
    exact List.mem_append_left _ hcell
  have hnodup : posted.descs.Nodup := by
    have hfreeNodup := (List.nodup_append'.mp h.nodup).1
    rw [hfree] at hfreeNodup
    exact (List.nodup_append'.mp hfreeNodup).1
  have hheadLt : master.vqDescHeadIdx < cfg.entries := h.free_lt (hsub _ posted.head_mem_descs)
  have hnone : (master.vqDescx master.vqDescHeadIdx).cookie = NULL := by
    refine h.noCookie _ fun other hother heq => ?_
    have hmem : master.vqDescHeadIdx ∈ other.descs := heq ▸ other.head_mem_descs
    exact h.free_disjoint hother (hsub _ posted.head_mem_descs) hmem
  obtain ⟨desc', hloop, hfilled⟩ := vqRingAddBufferLoop_spec bufList readable needed
    { master with
      vqDescx := Function.update master.vqDescx master.vqDescHeadIdx ⟨cookie, needed⟩
      vqDebug := ⟨true, []⟩ }
    stop posted.descs 0 vr.desc master.vqDescHeadIdx hfront hnodup
    (fun hmem => chainEnd_notMem h (hsub _ hmem)) (by rw [hdescs]; simp)
  rw [hdescs] at hloop
  have hterm : master.vqFreeCnt = needed → stop = VQ_RING_DESC_CHAIN_END := by
    intro hall
    rwa [List.drop_eq_nil_of_le (by omega)] at hback
  have hvalid : master.vqFreeCnt ≠ needed → stop < master.vqNentries := by
    intro hsome
    rw [h.masterEntries]
    cases hcells : view.free.drop needed with
    | nil =>
        have hle := List.drop_eq_nil_iff.mp hcells
        omega
    | cons cell cells =>
        rw [hcells] at hback
        refine h.free_lt (List.mem_of_mem_drop (i := needed) ?_)
        rw [hcells, hback.1]
        exact List.mem_cons_self ..
  have hcall := virtqueueAddBuffer_eq hneeded hcookie h.masterDebug (h.masterEntries ▸ hheadLt)
    hnone hloop (by omega) (by omega) hterm hvalid
  have hfirst := hfilled.first posted.head rfl
  have hstored : posted.Stored desc' (Function.update master.vqDescx master.vqDescHeadIdx
      ⟨posted.cookie, posted.descs.length⟩) :=
    { linked := hfilled.linked
      direct := hfilled.direct _ posted.head_mem_descs
      addr := by rw [hfirst.1, h.masterIo]
      len := hfirst.2
      extra := Function.update_self ..
      cookie_ne := hcookie }
  have hpost := h.post posted (u16 (master.vqQueuedCnt + 1))
    rfl (by rw [hdescs]; exact hfree) (by rw [hdescs]; exact hback) hfilled.frame hfilled.next
    hstored
  rw [hdescs] at hpost
  exact ⟨posted, _, _, hcall, rfl, rfl, rfl, rfl, by rw [hdescs, hneeded], hpost⟩

/-! ### Taking a chain on offer -/

/-- A move of the slave leaves the free chain alone and only reorders the outstanding chains, so
what the master knows about them stands. -/
theorem RingInv.slaveMove (h : RingInv cfg vr master slave view) {vr' : Vring} {slave' : Virtqueue}
    {view' : RingView} (hnum : vr'.num = vr.num) (hdesc : vr'.desc = vr.desc)
    (hrole : slave'.role = slave.role) (hentries : slave'.vqNentries = slave.vqNentries)
    (hio : slave'.shmIo = slave.shmIo) (hdebug : slave'.vqDebug = VqDebug.clean)
    (hfree : view'.free = view.free) (hgot : view'.got = view.got)
    (hout : view'.outstanding.Perm view.outstanding)
    (havailIdx : vr'.avail.idx = u16 (view'.taken + view'.avail.length))
    (havailableIdx : slave'.vqAvailableIdx = u16 view'.taken)
    (havailRing : Holds vr'.avail.ring cfg.entries view'.taken (view'.avail.map Posted.head))
    (husedIdx : vr'.used.idx = u16 (view'.got + view'.used.length))
    (husedRing : Holds vr'.used.ring cfg.entries view'.got
      (view'.used.map fun entry => ⟨entry.1.head, entry.2⟩)) :
    RingInv cfg vr' master slave' view' :=
  { num := hnum.trans h.num
    masterRole := h.masterRole
    slaveRole := hrole.trans h.slaveRole
    masterEntries := h.masterEntries
    slaveEntries := hentries.trans h.slaveEntries
    masterIo := h.masterIo
    slaveIo := hio.trans h.slaveIo
    masterDebug := h.masterDebug
    slaveDebug := hdebug
    partition := by
      rw [hfree]
      exact ((hout.flatMap_right _).append_left _).trans h.partition
    freePath := by
      rw [hfree, hdesc]
      exact h.freePath
    freeCnt := by
      rw [hfree]
      exact h.freeCnt
    stored := by
      intro posted hposted
      rw [hdesc]
      exact h.stored posted (hout.mem_iff.mp hposted)
    noCookie := fun cell hcell =>
      h.noCookie cell fun posted hposted => hcell posted (hout.mem_iff.mpr hposted)
    availIdx := havailIdx
    availableIdx := havailableIdx
    availRing := havailRing
    usedIdx := husedIdx
    usedConsIdx := by
      rw [hgot]
      exact h.usedConsIdx
    usedRing := husedRing }

theorem RingInv.availableIdx_eq_iff (h : RingInv cfg vr master slave view) :
    slave.vqAvailableIdx = vr.avail.idx ↔ view.avail = [] := by
  rw [h.availableIdx, h.availIdx, u16, u16, word_eq_iff h.avail_lt, List.length_eq_zero_iff]

theorem RingInv.availableIdx_ne (h : RingInv cfg vr master slave view) {posted : Posted}
    {avail : List Posted} (hview : view.avail = posted :: avail) :
    slave.vqAvailableIdx ≠ vr.avail.idx := by
  rw [Ne, h.availableIdx_eq_iff, hview]
  exact List.cons_ne_nil posted avail

/-- The descriptor of the oldest chain on offer, reached through the available ring. -/
theorem RingInv.availRing_head (h : RingInv cfg vr master slave view) {posted : Posted}
    {avail : List Posted} (hview : view.avail = posted :: avail) :
    vr.avail.ring (slave.vqAvailableIdx &&& ringMask slave.vqNentries) = posted.head ∧
      (vr.desc posted.head).addr = posted.addr ∧ (vr.desc posted.head).len = posted.len := by
  have hmem : posted ∈ view.outstanding := by
    simp [RingView.outstanding, hview]
  have hring := h.availRing
  rw [hview, List.map_cons] at hring
  rw [h.availableIdx, h.slaveEntries, cfg.mask_idx]
  exact ⟨hring.head, (h.stored posted hmem).addr, (h.stored posted hmem).len⟩

theorem RingInv.getAvailableBuffer_nil (h : RingInv cfg vr master slave view)
    (hview : view.avail = []) : virtqueueGetAvailableBuffer vr slave = (slave, none) := by
  rw [virtqueueGetAvailableBuffer, if_pos (h.availableIdx_eq_iff.mpr hview)]

theorem RingView.outstanding_take_perm {posted : Posted} {avail : List Posted}
    (hview : view.avail = posted :: avail) : view.take.outstanding.Perm view.outstanding := by
  simp only [RingView.take, RingView.outstanding, hview, List.tail_cons, List.head?_cons,
    Option.toList_some]
  refine List.Perm.append_right _ ?_
  rw [← List.append_assoc]
  exact List.perm_append_singleton ..

theorem RingInv.getAvailableBuffer (h : RingInv cfg vr master slave view) {posted : Posted}
    {avail : List Posted} (hview : view.avail = posted :: avail) :
    ∃ slave', virtqueueGetAvailableBuffer vr slave =
        (slave', some ⟨cfg.slaveIo.physToVirt posted.addr, posted.head, posted.len⟩) ∧
      RingInv cfg vr master slave' view.take := by
  obtain ⟨hhead, haddr, hlen⟩ := h.availRing_head hview
  have hcall : virtqueueGetAvailableBuffer vr slave =
      ({ slave with vqAvailableIdx := u16 (slave.vqAvailableIdx + 1) },
        some ⟨cfg.slaveIo.physToVirt posted.addr, posted.head, posted.len⟩) := by
    rw [virtqueueGetAvailableBuffer, if_neg (h.availableIdx_ne hview)]
    simp [Virtqueue.busy, Virtqueue.idle, hhead, haddr, hlen, h.slaveIo, h.slaveDebug,
      VqDebug.clean]
  refine ⟨_, hcall, h.slaveMove rfl rfl rfl rfl rfl h.slaveDebug rfl rfl
    (RingView.outstanding_take_perm hview) ?_ ?_ ?_ h.usedIdx h.usedRing⟩
  · simp only [RingView.take, h.availIdx, hview, List.length_cons, List.tail_cons]
    congr 1
    omega
  · simp only [RingView.take, h.availableIdx]
    exact succ_word _ _
  · have hring := h.availRing
    rw [hview, List.map_cons] at hring
    simpa only [RingView.take, hview, List.tail_cons] using hring.pop

theorem RingInv.getDescSize_nil (h : RingInv cfg vr master slave view) (hview : view.avail = []) :
    virtqueueGetDescSize vr slave = (slave, 0) := by
  rw [virtqueueGetDescSize, if_pos (h.availableIdx_eq_iff.mpr hview)]

theorem Virtqueue.idle_busy {vq : Virtqueue} (hdebug : vq.vqDebug = VqDebug.clean) :
    vq.busy.idle = vq := by
  cases vq
  simp_all [Virtqueue.busy, Virtqueue.idle, VqDebug.clean]

theorem RingInv.getDescSize (h : RingInv cfg vr master slave view) {posted : Posted}
    {avail : List Posted} (hview : view.avail = posted :: avail) :
    virtqueueGetDescSize vr slave = (slave, posted.len) := by
  obtain ⟨hhead, _, hlen⟩ := h.availRing_head hview
  have hread : vr.avail.ring (slave.busy.vqAvailableIdx &&& ringMask slave.busy.vqNentries) =
      posted.head := hhead
  rw [virtqueueGetDescSize, if_neg (h.availableIdx_ne hview)]
  simp only [hread, hlen, Virtqueue.idle_busy h.slaveDebug]

/-! ### Handing a chain back -/

theorem RingView.outstanding_giveBack_perm {posted : Posted} {front back : List Posted}
    (hview : view.held = front ++ posted :: back) (len : Nat) :
    (view.giveBack posted (front ++ back) len).outstanding.Perm view.outstanding := by
  simp only [RingView.giveBack, RingView.outstanding, hview, List.map_append, List.map_cons,
    List.map_nil, List.append_assoc, List.cons_append]
  refine List.Perm.append_left _ (List.Perm.append_left _ ?_)
  rw [← List.append_assoc]
  exact List.perm_append_singleton ..

theorem RingInv.addConsumedBuffer (h : RingInv cfg vr master slave view) {posted : Posted}
    {front back : List Posted} (hview : view.held = front ++ posted :: back) (len : Nat) :
    ∃ vr' slave', virtqueueAddConsumedBuffer vr slave posted.head len =
        (vr', slave', VQUEUE_SUCCESS) ∧
      RingInv cfg vr' master slave' (view.giveBack posted (front ++ back) len) := by
  have hmem : posted ∈ view.outstanding := by
    simp [RingView.outstanding, hview]
  have hle : ¬ posted.head > slave.vqNentries := by
    have hlt := h.descs_lt hmem posted.head_mem_descs
    rw [h.slaveEntries]
    omega
  have hroom : view.used.length < cfg.entries := by
    have hcount := h.count_le
    have hlen := view.length_outstanding
    have hheld : 0 < view.held.length := by
      rw [hview, List.length_append, List.length_cons]
      omega
    omega
  have hcall : virtqueueAddConsumedBuffer vr slave posted.head len =
      ({ vr with used := { vr.used with
          ring := Function.update vr.used.ring ((view.got + view.used.length) % cfg.entries)
            ⟨posted.head, len⟩
          idx := u16 (view.got + (view.used.length + 1)) } },
        { slave with vqQueuedCnt := u16 (slave.vqQueuedCnt + 1) }, VQUEUE_SUCCESS) := by
    have hidx : u16 (u16 (view.got + view.used.length) + 1) =
        u16 (view.got + (view.used.length + 1)) := succ_word _ _
    rw [virtqueueAddConsumedBuffer, if_neg hle]
    simp [Virtqueue.busy, Virtqueue.idle, h.usedIdx, h.slaveEntries, cfg.mask_idx, hidx,
      h.slaveDebug, VqDebug.clean]
  refine ⟨_, _, hcall, h.slaveMove rfl rfl rfl rfl rfl h.slaveDebug rfl rfl
    (RingView.outstanding_giveBack_perm hview len) h.availIdx h.availableIdx h.availRing ?_ ?_⟩
  · simp only [RingView.giveBack, List.length_append, List.length_singleton]
  · have hpush := h.usedRing.push (by rwa [List.length_map]) ⟨posted.head, len⟩
    rw [List.length_map] at hpush
    simpa only [RingView.giveBack, List.map_append, List.map_cons, List.map_nil] using hpush

/-! ### Taking a chain back -/

/-- The walk of `vq_ring_free_chain` along a posted chain: it ends on the last descriptor, having
counted every one of them. -/
theorem vqRingFreeChainLoop_spec (desc : Nat → VringDesc) (vq : Virtqueue) :
    ∀ (rest : List Nat) (fuel dp : Nat), ChainLinked desc (dp :: rest) →
      (∀ cell ∈ rest, cell < vq.vqNentries) → rest.length < fuel → rest.length < 2 ^ 16 →
      vqRingFreeChainLoop desc fuel dp rest.length vq =
        some ((dp :: rest).getLast (List.cons_ne_nil dp rest), 0, vq) := by
  intro rest
  induction rest with
  | nil =>
      intro fuel dp hlinked _ hfuel _
      obtain ⟨fuel, rfl⟩ := Nat.exists_eq_add_one_of_ne_zero (by omega : fuel ≠ 0)
      have hlast : (desc dp).flags &&& VRING_DESC_F_NEXT = 0 := hlinked
      rw [vqRingFreeChainLoop, if_pos hlast]
      rfl
  | cons next rest ih =>
      intro fuel dp hlinked hvalid hfuel hlen
      obtain ⟨fuel, rfl⟩ := Nat.exists_eq_add_one_of_ne_zero (by omega : fuel ≠ 0)
      obtain ⟨hflag, hnext, hlinked⟩ := hlinked
      rw [List.length_cons] at hfuel hlen
      have hassert : vq.assertValidIdx next = vq :=
        vq.vqassert_of (hvalid next (List.mem_cons_self ..)) _
      have hcount : ofInt 16 (((next :: rest).length : Int) - 1) = rest.length := by
        rw [ofInt, List.length_cons]
        omega
      rw [vqRingFreeChainLoop, if_neg hflag, hnext, hassert, hcount,
        ih fuel next hlinked (fun cell hcell => hvalid cell (List.mem_cons_of_mem _ hcell))
          (by omega) (by omega)]
      rfl

/-- Linking the last descriptor of a chain to `stop` turns the chain into a path. -/
theorem ChainLinked.path_setNext {desc : Nat → VringDesc} {stop : Nat} :
    ∀ {cells : List Nat} (hne : cells ≠ []), ChainLinked desc cells → cells.Nodup →
      Path (fun cell => (setNext desc (cells.getLast hne) stop cell).next) (cells.head hne) cells
        stop := by
  intro cells
  induction cells with
  | nil => exact fun hne => absurd rfl hne
  | cons cell cells ih =>
      intro hne hlinked hnodup
      refine ⟨rfl, ?_⟩
      obtain ⟨hnotMem, hnodup⟩ := List.nodup_cons.mp hnodup
      cases cells with
      | nil => simp [setNext_apply]
      | cons next cells =>
          have hlast : (next :: cells).getLast (List.cons_ne_nil next cells) ∈ next :: cells :=
            List.getLast_mem _
          have hcell : cell ≠ (next :: cells).getLast (List.cons_ne_nil next cells) := by
            intro heq
            exact hnotMem (heq ▸ hlast)
          simp only [List.getLast_cons_cons]
          rw [setNext_apply, if_neg hcell, hlinked.2.1]
          exact ih (List.cons_ne_nil next cells) hlinked.2.2 hnodup

/-- The last descriptor of a posted chain. -/
def Posted.last (posted : Posted) : Nat := posted.descs.getLast (List.cons_ne_nil _ _)

theorem Posted.last_mem_descs (posted : Posted) : posted.last ∈ posted.descs :=
  List.getLast_mem _

/-- `vq_ring_free_chain` on an outstanding chain returns, with every assertion met. -/
theorem vqRingFreeChain_eq (vr : Vring) (posted : Posted) (vq : Virtqueue)
    (hstored : posted.Stored vr.desc vq.vqDescx)
    (hvalid : ∀ cell ∈ posted.descs, cell < vq.vqNentries)
    (hlen : posted.descs.length < 2 ^ 16)
    (hterm : vq.vqFreeCnt = 0 → vq.vqDescHeadIdx = VQ_RING_DESC_CHAIN_END) :
    vqRingFreeChain vr vq posted.head =
      some ({ vr with desc := setNext vr.desc posted.last vq.vqDescHeadIdx },
        { vq with
          vqFreeCnt := u16 (vq.vqFreeCnt + posted.descs.length)
          vqDescx := Function.update vq.vqDescx posted.head ⟨posted.cookie, 0⟩
          vqDescHeadIdx := posted.head }) := by
  have hfirst : vq.assertValidIdx posted.head = vq :=
    vq.vqassert_of (hvalid _ posted.head_mem_descs) _
  have hfull : (if vq.vqFreeCnt = 0 then vq.assertChainTerm else vq) = vq := by
    split_ifs with hzero
    · exact vq.vqassert_of (hterm hzero) _
    · rfl
  have hrest : posted.rest.length + 1 < 2 ^ 16 := hlen
  have hcount : ofInt 16 ((posted.descs.length : Int) - 1) = posted.rest.length := by
    rw [ofInt, Posted.length_descs]
    omega
  have hloop := vqRingFreeChainLoop_spec vr.desc
    { vq with vqFreeCnt := u16 (vq.vqFreeCnt + posted.descs.length) }
    posted.rest (2 ^ 16) posted.head hstored.linked
    (fun cell hcell => hvalid cell (List.mem_cons_of_mem _ hcell)) (by omega) (by omega)
  simp only [vqRingFreeChain, hfirst, hfull, hstored.extra, hcount, hstored.direct, if_true, hloop,
    Option.bind_eq_bind, Option.bind_some, Virtqueue.vqassert, decide_true, VqDebug.check_true]
  rfl

theorem RingInv.usedConsIdx_eq_iff (h : RingInv cfg vr master slave view) :
    master.vqUsedConsIdx = vr.used.idx ↔ view.used = [] := by
  rw [h.usedConsIdx, h.usedIdx, u16, u16, word_eq_iff h.used_lt, List.length_eq_zero_iff]

theorem RingInv.getBuffer_nil (h : RingInv cfg vr master slave view) (hview : view.used = []) :
    virtqueueGetBuffer vr master = some (vr, master, none) := by
  rw [virtqueueGetBuffer, if_pos (h.usedConsIdx_eq_iff.mpr hview)]

theorem RingView.outstanding_perm_reclaim {posted : Posted} {len : Nat}
    {used : List (Posted × Nat)} (hview : view.used = (posted, len) :: used) :
    view.outstanding.Perm (posted :: view.reclaim.outstanding) := by
  simp only [RingView.reclaim, RingView.outstanding, hview, List.map_cons, List.tail_cons]
  exact List.perm_middle

theorem RingInv.spliceFree (h : RingInv cfg vr master slave view) {posted : Posted} {len : Nat}
    {used : List (Posted × Nat)} (hview : view.used = (posted, len) :: used) :
    RingInv cfg { vr with desc := setNext vr.desc posted.last master.vqDescHeadIdx }
      { master with
        vqUsedConsIdx := u16 (master.vqUsedConsIdx + 1)
        vqFreeCnt := u16 (master.vqFreeCnt + posted.descs.length)
        vqDescx := Function.update master.vqDescx posted.head ⟨NULL, 0⟩
        vqDescHeadIdx := posted.head }
      slave view.reclaim := by
  have hperm := RingView.outstanding_perm_reclaim hview
  have hmem : posted ∈ view.outstanding := hperm.mem_iff.mpr (List.mem_cons_self ..)
  have hsub : ∀ other ∈ view.reclaim.outstanding, other ∈ view.outstanding := fun other hother =>
    hperm.mem_iff.mpr (List.mem_cons_of_mem _ hother)
  have hflat : (posted.descs ++ view.reclaim.outstanding.flatMap Posted.descs).Nodup := by
    have hnodup := (List.nodup_append'.mp h.nodup).2.1
    rw [(hperm.flatMap_right Posted.descs).nodup_iff, List.flatMap_cons] at hnodup
    exact hnodup
  have hdisjoint : ∀ other ∈ view.reclaim.outstanding, List.Disjoint posted.descs other.descs := by
    intro other hother cell hcell hcell'
    exact (List.nodup_append'.mp hflat).2.2 hcell
      (List.mem_flatMap.mpr ⟨other, hother, hcell'⟩)
  have hframe : ∀ cell, cell ∉ posted.descs →
      setNext vr.desc posted.last master.vqDescHeadIdx cell = vr.desc cell := by
    intro cell hcell
    rw [setNext_apply, if_neg]
    rintro rfl
    exact hcell posted.last_mem_descs
  have hfree : view.reclaim.free = posted.descs ++ view.free := by
    simp [RingView.reclaim, hview]
  refine { h with
    partition := ?_, freePath := ?_, freeCnt := ?_, stored := ?_, noCookie := ?_,
    availIdx := h.availIdx, availableIdx := h.availableIdx, availRing := h.availRing,
    usedIdx := ?_, usedConsIdx := ?_, usedRing := ?_ }
  · refine List.Perm.trans ?_ h.partition
    rw [hfree]
    calc (posted.descs ++ view.free ++ view.reclaim.outstanding.flatMap Posted.descs)
        |>.Perm (view.free ++ (posted :: view.reclaim.outstanding).flatMap Posted.descs) := by
          rw [List.flatMap_cons, List.append_assoc]
          exact List.perm_append_comm_assoc ..
      _ |>.Perm (view.free ++ view.outstanding.flatMap Posted.descs) :=
          (hperm.symm.flatMap_right _).append_left _
  · rw [hfree]
    refine path_append.mpr ⟨master.vqDescHeadIdx, ?_, ?_⟩
    · exact (h.stored posted hmem).linked.path_setNext (List.cons_ne_nil _ _)
        (List.nodup_append'.mp hflat).1
    · refine h.freePath.congr fun cell hcell => ?_
      exact congrArg VringDesc.next (hframe cell fun hin => h.free_disjoint hmem hcell hin)
  · have hcount := h.partition.length_eq
    have hentries := cfg.entries_le
    rw [List.length_append, List.length_range,
      (hperm.flatMap_right Posted.descs).length_eq, List.flatMap_cons, List.length_append] at hcount
    simp only [hfree, List.length_append, u16, h.freeCnt]
    omega
  · intro other hother
    refine (h.stored other (hsub other hother)).congr (fun cell hcell => hframe cell ?_) ?_
    · exact fun hin => hdisjoint other hother hin hcell
    · refine Function.update_of_ne (fun heq => ?_) ..
      exact hdisjoint other hother (heq ▸ posted.head_mem_descs) other.head_mem_descs
  · intro cell hcell
    by_cases hhead : cell = posted.head
    · simp only [hhead, Function.update_self]
    · simp only [Function.update_of_ne hhead]
      refine h.noCookie cell fun other hother => ?_
      rcases List.mem_cons.mp (hperm.mem_iff.mp hother) with rfl | hother
      · exact Ne.symm hhead
      · exact hcell other hother
  · simp only [RingView.reclaim, h.usedIdx, hview, List.length_cons, List.tail_cons]
    congr 1
    omega
  · simp only [RingView.reclaim, h.usedConsIdx]
    exact succ_word _ _
  · have hring := h.usedRing
    rw [hview, List.map_cons] at hring
    simpa only [RingView.reclaim, hview, List.tail_cons] using hring.pop

theorem RingInv.getBuffer (h : RingInv cfg vr master slave view) {posted : Posted} {len : Nat}
    {used : List (Posted × Nat)} (hview : view.used = (posted, len) :: used) :
    ∃ vr' master', virtqueueGetBuffer vr master =
        some (vr', master', some ⟨posted.cookie, len, view.got % cfg.entries⟩) ∧
      RingInv cfg vr' master' slave view.reclaim := by
  have hne : master.vqUsedConsIdx ≠ vr.used.idx := by
    rw [Ne, h.usedConsIdx_eq_iff, hview]
    exact List.cons_ne_nil _ used
  have hmem : posted ∈ view.outstanding := by
    simp [RingView.outstanding, hview]
  have hslot : u16 view.got &&& ringMask cfg.entries = view.got % cfg.entries := cfg.mask_idx _
  have hring := h.usedRing
  rw [hview, List.map_cons] at hring
  have hentries := cfg.entries_le
  have hhead16 : u16 posted.head = posted.head := by
    have hlt := h.descs_lt hmem posted.head_mem_descs
    rw [u16]
    omega
  have hlen : posted.descs.length < 2 ^ 16 := by
    have hcount := h.partition.length_eq
    have hperm := RingView.outstanding_perm_reclaim hview
    rw [List.length_append, List.length_range,
      (hperm.flatMap_right Posted.descs).length_eq, List.flatMap_cons, List.length_append] at hcount
    omega
  have hterm : master.vqFreeCnt = 0 → master.vqDescHeadIdx = VQ_RING_DESC_CHAIN_END := by
    intro hzero
    have hpath := h.freePath
    rwa [List.length_eq_zero_iff.mp (h.freeCnt.symm.trans hzero)] at hpath
  have hfreed := vqRingFreeChain_eq vr posted
    { master.busy with vqUsedConsIdx := u16 (master.vqUsedConsIdx + 1) }
    (h.stored posted hmem) (fun cell hcell => h.masterEntries ▸ h.descs_lt hmem hcell) hlen hterm
  have hidx : master.busy.vqUsedConsIdx &&& ringMask master.busy.vqNentries =
      view.got % cfg.entries := by
    rw [← hslot, ← h.usedConsIdx, ← h.masterEntries]
    rfl
  have huep : vr.used.ring (view.got % cfg.entries) = ⟨posted.head, len⟩ := hring.head
  have hdebug : { master.busy.vqDebug with inuse := false } = master.vqDebug := by
    rw [h.masterDebug]
    simp [Virtqueue.busy, h.masterDebug, VqDebug.clean]
  refine ⟨_, _, ?_, h.spliceFree hview⟩
  rw [virtqueueGetBuffer, if_neg hne]
  simp only [hidx, huep, hhead16]
  erw [hfreed]
  simp only [Option.bind_eq_bind, Option.bind_some, Function.update_self, Function.update_idem,
    Virtqueue.idle, hdebug]
  rfl

/-! ### Notification state

The event indices lie in slots the masks never select and the flags in words of their own, so the
operations on them leave the ring as it is. -/

theorem RingInv.writeUsedEvent (h : RingInv cfg vr master slave view) (event : Nat) :
    RingInv cfg (setVringUsedEvent vr event) master slave view :=
  { h with
    availRing := h.availRing.update_of_le cfg.entries_pos h.num.ge _ }

theorem RingInv.writeAvailEvent (h : RingInv cfg vr master slave view) (event : Nat) :
    RingInv cfg (setVringAvailEvent vr event) master slave view :=
  { h with
    usedRing := h.usedRing.update_of_le cfg.entries_pos h.num.ge _ }

theorem RingInv.writeAvailFlags (h : RingInv cfg vr master slave view) (flags : Nat) :
    RingInv cfg { vr with avail := { vr.avail with flags } } master slave view :=
  { h with }

theorem RingInv.writeUsedFlags (h : RingInv cfg vr master slave view) (flags : Nat) :
    RingInv cfg { vr with used := { vr.used with flags } } master slave view :=
  { h with }

theorem ofInt_word_sub {base len : Nat} (hlen : len < 2 ^ 16) :
    ofInt 16 ((u16 (base + len) : Int) - u16 base) = len := by
  rw [ofInt, u16, u16]
  omega

theorem RingInv.nused_eq (h : RingInv cfg vr master slave view) :
    virtqueueNused vr master = (master, view.used.length) := by
  have hcount := h.count_le
  have hlen := view.length_outstanding
  have hle : view.used.length ≤ master.vqNentries := by
    rw [h.masterEntries]
    omega
  rw [virtqueueNused, h.usedIdx, h.usedConsIdx, ofInt_word_sub h.used_lt]
  exact Prod.ext (master.vqassert_of hle _) rfl

theorem RingInv.navail_eq (h : RingInv cfg vr master slave view) :
    virtqueueNavail vr slave = (slave, view.avail.length) := by
  have hcount := h.count_le
  have hlen := view.length_outstanding
  have hle : view.avail.length ≤ slave.vqNentries := by
    rw [h.slaveEntries]
    omega
  rw [virtqueueNavail, h.availIdx, h.availableIdx, ofInt_word_sub h.avail_lt]
  exact Prod.ext (slave.vqassert_of hle _) rfl

theorem RingInv.masterEnableCb (h : RingInv cfg vr master slave view) :
    ∃ vr' ret, virtqueueEnableCb vr master = (vr', master, ret) ∧
      RingInv cfg vr' master slave view := by
  simp only [virtqueueEnableCb, vqRingEnableInterrupt, h.masterRole]
  by_cases hevent : master.eventIdx
  · have h' := h.writeUsedEvent (master.vqUsedConsIdx + 0)
    simp only [hevent, if_true, h'.nused_eq]
    exact ⟨_, _, rfl, h'⟩
  · have h' := h.writeAvailFlags (clearFlag vr.avail.flags)
    simp only [hevent, Bool.false_eq_true, if_false, h'.nused_eq]
    exact ⟨_, _, rfl, h'⟩

theorem RingInv.slaveEnableCb (h : RingInv cfg vr master slave view) :
    ∃ vr' ret, virtqueueEnableCb vr slave = (vr', slave, ret) ∧
      RingInv cfg vr' master slave view := by
  simp only [virtqueueEnableCb, vqRingEnableInterrupt, h.slaveRole]
  by_cases hevent : slave.eventIdx
  · have h' := h.writeAvailEvent (slave.vqAvailableIdx + 0)
    simp only [hevent, if_true, h'.navail_eq]
    exact ⟨_, _, rfl, h'⟩
  · have h' := h.writeUsedFlags (clearFlag vr.used.flags)
    simp only [hevent, Bool.false_eq_true, if_false, h'.navail_eq]
    exact ⟨_, _, rfl, h'⟩

theorem RingInv.masterDisableCb (h : RingInv cfg vr master slave view) :
    ∃ vr', virtqueueDisableCb vr master = (vr', master) ∧ RingInv cfg vr' master slave view := by
  have hrole : master.busy.role = .master := h.masterRole
  simp only [virtqueueDisableCb, hrole, Virtqueue.idle_busy h.masterDebug]
  split_ifs
  · exact ⟨_, rfl, h.writeUsedEvent _⟩
  · exact ⟨_, rfl, h.writeAvailFlags _⟩

theorem RingInv.slaveDisableCb (h : RingInv cfg vr master slave view) :
    ∃ vr', virtqueueDisableCb vr slave = (vr', slave) ∧ RingInv cfg vr' master slave view := by
  have hrole : slave.busy.role = .slave := h.slaveRole
  simp only [virtqueueDisableCb, hrole, Virtqueue.idle_busy h.slaveDebug]
  split_ifs
  · exact ⟨_, rfl, h.writeAvailEvent _⟩
  · exact ⟨_, rfl, h.writeUsedFlags _⟩

theorem Virtqueue.kick_eq {vq : Virtqueue} (hdebug : vq.vqDebug = VqDebug.clean) (vr : Vring) :
    (virtqueueKick vr vq).1 = { vq with vqQueuedCnt := 0 } := by
  simp [virtqueueKick, Virtqueue.busy, Virtqueue.idle, hdebug, VqDebug.clean]

theorem RingInv.masterKick (h : RingInv cfg vr master slave view) :
    RingInv cfg vr (virtqueueKick vr master).1 slave view := by
  rw [Virtqueue.kick_eq h.masterDebug]
  exact { h with }

theorem RingInv.slaveKick (h : RingInv cfg vr master slave view) :
    RingInv cfg vr master (virtqueueKick vr slave).1 view := by
  rw [Virtqueue.kick_eq h.slaveDebug]
  exact { h with }

end Operations

end OpenAmp
