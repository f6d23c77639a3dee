import OpenAmp.Library.ListCuts
import OpenAmp.Proof.RingOperations
import OpenAmp.RingSystem

/-!
# What a vring carries between its two sides

The history of every run agrees with the abstract ring: the chains on offer are the posts the slave
has not taken, the chains it holds are the ones it took and kept, and the used chains are the ones it
handed back and the master has not collected. The delivery guarantees and the invariants of the
master's control block are read off that.
-/

namespace OpenAmp

open LinkedChain ListCuts RingBuffer

/-- The chain that a post left on the ring. -/
structure Posted.Matches (cfg : RingConfig) (posted : Posted) (call : AddCall) : Prop where
  head : posted.head = call.head
  cookie : posted.cookie = call.cookie
  addr : posted.addr = u64 (cfg.masterIo.virtToPhys call.buf)
  len : posted.len = ofInt 32 call.len

/-- The chain that the post at a position left on the ring. -/
def Posted.MatchesAt (cfg : RingConfig) (added : List AddCall) (posted : Posted) (position : Nat) :
    Prop :=
  ∃ call, added[position]? = some call ∧ posted.Matches cfg call

theorem Posted.MatchesAt.append {cfg : RingConfig} {added : List AddCall} {posted : Posted}
    {position : Nat} (h : posted.MatchesAt cfg added position) (calls : List AddCall) :
    posted.MatchesAt cfg (added ++ calls) position := by
  obtain ⟨call, hcall, hmatches⟩ := h
  exact ⟨call, getElem?_append_of_some hcall calls, hmatches⟩

/-- A used chain and the hand-back it came from. -/
def UsedMatches (cfg : RingConfig) (added : List AddCall) (entry : Posted × Nat)
    (handed : Nat × Nat) : Prop :=
  entry.2 = handed.2 ∧ entry.1.MatchesAt cfg added handed.1

/-- A result of `virtqueue_get_buffer` and the hand-back it came from. -/
def GotMatches (added : List AddCall) (result handed : Nat × Nat) : Prop :=
  result.2 = handed.2 ∧ ∃ call, added[handed.1]? = some call ∧ result.1 = call.cookie

/-- The history of a run agrees with the abstract ring. -/
structure HistoryInv (cfg : RingConfig) (shared : Nat → Prop) (s : RingSystem) (view : RingView) :
    Prop where
  ring : RingInv cfg s.vring s.master s.slave view
  takenCount : view.taken = s.taken.length
  gotCount : view.got = s.got.length
  avail : List.Forall₂ (Posted.Matches cfg) view.avail (s.added.drop s.taken.length)
  held : List.Forall₂ (Posted.MatchesAt cfg s.added) view.held s.held
  used : List.Forall₂ (UsedMatches cfg s.added) view.used (s.returned.drop s.got.length)
  taken_le : s.taken.length ≤ s.added.length
  taken_eq : s.taken = (s.added.take s.taken.length).map (AddCall.seen cfg.masterIo cfg.slaveIo)
  got_le : s.got.length ≤ s.returned.length
  got : List.Forall₂ (GotMatches s.added) s.got (s.returned.take s.got.length)
  positions : (s.held ++ s.returned.map Prod.fst).Perm (List.range s.taken.length)
  shared : ∀ call ∈ s.added, shared call.buf

section Steps

variable {cfg : RingConfig} {shared : Nat → Prop} {s : RingSystem} {view : RingView}

theorem HistoryInv.addBuffer (h : HistoryInv cfg shared s view) {bufList : Nat → VirtqueueBuf}
    {readable writable : Int} {cookie : Nat}
    (hallowed : s.Allowed shared (.addBuffer bufList readable writable cookie)) :
    ∃ s' view', s.step (.addBuffer bufList readable writable cookie) = some s' ∧
      HistoryInv cfg shared s' view' := by
  obtain ⟨hpos, hroom, hcookie, hshared⟩ := hallowed
  obtain ⟨posted, vr', master', hcall, hhead, hpcookie, haddr, hlen, _, hring⟩ :=
    h.ring.addBuffer bufList hpos hroom hcookie
  have hmatches : posted.Matches cfg
      ⟨s.master.vqDescHeadIdx, (bufList 0).buf, (bufList 0).len, cookie⟩ :=
    ⟨hhead, hpcookie, haddr, hlen⟩
  refine ⟨_, view.post posted, by simp only [RingSystem.step, hcall]; rfl, ?_⟩
  constructor
  case ring => exact hring
  case takenCount => exact h.takenCount
  case gotCount => exact h.gotCount
  case avail =>
    rw [List.drop_append_of_le_length h.taken_le]
    exact List.rel_append h.avail (.cons hmatches .nil)
  case held => exact h.held.imp fun _ _ hat => hat.append _
  case used => exact h.used.imp fun _ _ hused => ⟨hused.1, hused.2.append _⟩
  case taken_le =>
    rw [List.length_append]
    exact h.taken_le.trans (Nat.le_add_right _ _)
  case taken_eq =>
    rw [List.take_append_of_le_length h.taken_le]
    exact h.taken_eq
  case got_le => exact h.got_le
  case got =>
    refine h.got.imp fun _ _ hgot => ⟨hgot.1, ?_⟩
    obtain ⟨call, hcall, hcookie⟩ := hgot.2
    exact ⟨call, getElem?_append_of_some hcall _, hcookie⟩
  case positions => exact h.positions
  case shared =>
    intro call hcall
    rcases List.mem_append.mp hcall with hcall | hcall
    · exact h.shared call hcall
    · obtain rfl := List.mem_singleton.mp hcall
      exact hshared

theorem HistoryInv.getBuffer (h : HistoryInv cfg shared s view) :
    ∃ s' view', s.step .getBuffer = some s' ∧ HistoryInv cfg shared s' view' := by
  cases hused : view.used with
  | nil =>
      refine ⟨s, view, ?_, h⟩
      simp [RingSystem.step, h.ring.getBuffer_nil hused]
  | cons entry used =>
      obtain ⟨posted, len⟩ := entry
      obtain ⟨vr', master', hcall, hring⟩ := h.ring.getBuffer hused
      have hmatch := h.used
      rw [hused] at hmatch
      obtain ⟨handed, rest, hfirst, hrest, hdrop⟩ := List.forall₂_cons_left_iff.mp hmatch
      obtain ⟨hlen, call, hcallAt, hmatches⟩ := hfirst
      obtain ⟨hlt, _, htake, hdrop'⟩ := cut_succ hdrop
      have hstep : s.step .getBuffer = some { s with
          vring := vr'
          master := master'
          got := s.got ++ [(posted.cookie, len)] } := by
        simp [RingSystem.step, hcall]
      refine ⟨_, view.reclaim, hstep, ?_⟩
      have hlength : (s.got ++ [(posted.cookie, len)]).length = s.got.length + 1 := by simp
      constructor
      case ring => exact hring
      case takenCount => exact h.takenCount
      case gotCount =>
        rw [hlength, ← h.gotCount]
        rfl
      case avail => exact h.avail
      case held => exact h.held
      case used =>
        rw [hlength, hdrop']
        simpa only [RingView.reclaim, hused, List.tail_cons] using hrest
      case taken_le => exact h.taken_le
      case taken_eq => exact h.taken_eq
      case got_le =>
        rw [hlength]
        exact hlt
      case got =>
        rw [hlength, htake]
        exact List.rel_append h.got
          (.cons ⟨hlen, call, hcallAt, hmatches.cookie⟩ .nil)
      case positions => exact h.positions
      case shared => exact h.shared

theorem HistoryInv.getAvailableBuffer (h : HistoryInv cfg shared s view) :
    ∃ s' view', s.step .getAvailableBuffer = some s' ∧ HistoryInv cfg shared s' view' := by
  cases havail : view.avail with
  | nil =>
      refine ⟨s, view, ?_, h⟩
      simp [RingSystem.step, h.ring.getAvailableBuffer_nil havail]
  | cons posted avail =>
      obtain ⟨slave', hcall, hring⟩ := h.ring.getAvailableBuffer havail
      have hmatch := h.avail
      rw [havail] at hmatch
      obtain ⟨call, rest, hmatches, hrest, hdrop⟩ := List.forall₂_cons_left_iff.mp hmatch
      obtain ⟨hlt, hcallAt, htake, hdrop'⟩ := cut_succ hdrop
      have hseen : (⟨cfg.slaveIo.physToVirt posted.addr, posted.head, posted.len⟩ :
          AvailableBuffer) = call.seen cfg.masterIo cfg.slaveIo := by
        rw [AddCall.seen, hmatches.head, hmatches.addr, hmatches.len]
      have hstep : s.step .getAvailableBuffer = some { s with
          slave := slave'
          taken := s.taken ++ [call.seen cfg.masterIo cfg.slaveIo]
          held := s.held ++ [s.taken.length] } := by
        simp [RingSystem.step, hcall, hseen]
      refine ⟨_, view.take, hstep, ?_⟩
      have hlength : (s.taken ++ [call.seen cfg.masterIo cfg.slaveIo]).length =
          s.taken.length + 1 := by simp
      constructor
      case ring => exact hring
      case takenCount =>
        rw [hlength, ← h.takenCount]
        rfl
      case gotCount => exact h.gotCount
      case avail =>
        rw [hlength, hdrop']
        simpa only [RingView.take, havail, List.tail_cons] using hrest
      case held =>
        simp only [RingView.take, havail, List.head?_cons, Option.toList_some]
        exact List.rel_append h.held (.cons ⟨call, hcallAt, hmatches⟩ .nil)
      case used => exact h.used
      case taken_le =>
        rw [hlength]
        exact hlt
      case taken_eq =>
        rw [hlength, htake, List.map_append, ← h.taken_eq]
        rfl
      case got_le => exact h.got_le
      case got => exact h.got
      case positions =>
        rw [hlength, List.range_succ, List.append_assoc, List.singleton_append]
        exact List.perm_middle.trans
          ((h.positions.cons _).trans (List.perm_append_singleton ..).symm)
      case shared => exact h.shared

theorem HistoryInv.addConsumedBuffer (h : HistoryInv cfg shared s view) {position len : Nat}
    (hheld : position ∈ s.held) :
    ∃ s' view', s.step (.addConsumedBuffer position len) = some s' ∧
      HistoryInv cfg shared s' view' := by
  obtain ⟨front, back, hnotMem, hsplit, herase⟩ := List.exists_erase_eq hheld
  have hmatch := h.held
  rw [hsplit] at hmatch
  obtain ⟨vfront, posted, vback, hview, hfront, hposted, hback⟩ := forall₂_split hmatch
  obtain ⟨call, hcallAt, hmatches⟩ := id hposted
  obtain ⟨vr', slave', hcall, hring⟩ := h.ring.addConsumedBuffer hview len
  -- the head the slave hands back is the one it was given at that position
  have hposition : position < s.taken.length := by
    have hmem : position ∈ s.held ++ s.returned.map Prod.fst := List.mem_append_left _ hheld
    exact List.mem_range.mp (h.positions.subset hmem)
  have hhead : (s.taken[position]?.map AvailableBuffer.availIdx).getD 0 = posted.head := by
    rw [h.taken_eq, List.getElem?_map, List.getElem?_take_of_lt hposition, hcallAt]
    exact hmatches.head.symm
  have hstep : s.step (.addConsumedBuffer position len) = some { s with
      vring := vr'
      slave := slave'
      held := front ++ back
      returned := s.returned ++ [(position, len)] } := by
    simp only [RingSystem.step, hhead, hcall, herase]
  refine ⟨_, view.giveBack posted (vfront ++ vback) len, hstep, ?_⟩
  constructor
  case ring => exact hring
  case takenCount => exact h.takenCount
  case gotCount => exact h.gotCount
  case avail => exact h.avail
  case held => exact List.rel_append hfront hback
  case used =>
    rw [List.drop_append_of_le_length h.got_le]
    exact List.rel_append h.used (.cons ⟨rfl, hposted⟩ .nil)
  case taken_le => exact h.taken_le
  case taken_eq => exact h.taken_eq
  case got_le =>
    rw [List.length_append]
    exact h.got_le.trans (Nat.le_add_right _ _)
  case got =>
    rw [List.take_append_of_le_length h.got_le]
    exact h.got
  case positions =>
    refine List.Perm.trans ?_ h.positions
    rw [hsplit, List.map_append, List.append_assoc, List.append_assoc, List.cons_append]
    refine List.Perm.append_left _ ?_
    rw [← List.append_assoc]
    exact List.perm_append_singleton ..
  case shared => exact h.shared

/-- A call that moves no chain leaves the history as it is. -/
theorem HistoryInv.ofRing (h : HistoryInv cfg shared s view) {vring : Vring}
    {master slave : Virtqueue} (hring : RingInv cfg vring master slave view) :
    HistoryInv cfg shared { s with vring, master, slave } view :=
  { h with ring := hring }

/-- Every allowed call returns and keeps the history and the ring in agreement. -/
theorem HistoryInv.step (h : HistoryInv cfg shared s view) {action : RingAction}
    (hallowed : s.Allowed shared action) :
    ∃ s' view', s.step action = some s' ∧ HistoryInv cfg shared s' view' := by
  cases action with
  | addBuffer bufList readable writable cookie => exact h.addBuffer hallowed
  | getBuffer => exact h.getBuffer
  | getAvailableBuffer => exact h.getAvailableBuffer
  | addConsumedBuffer position len => exact h.addConsumedBuffer hallowed
  | enableCb role =>
      cases role with
      | master =>
          obtain ⟨vr', ret, hcall, hring⟩ := h.ring.masterEnableCb
          refine ⟨_, view, ?_, h.ofRing hring⟩
          simp only [RingSystem.step, hcall]
      | slave =>
          obtain ⟨vr', ret, hcall, hring⟩ := h.ring.slaveEnableCb
          refine ⟨_, view, ?_, h.ofRing hring⟩
          simp only [RingSystem.step, hcall]
  | disableCb role =>
      cases role with
      | master =>
          obtain ⟨vr', hcall, hring⟩ := h.ring.masterDisableCb
          refine ⟨_, view, ?_, h.ofRing hring⟩
          simp only [RingSystem.step, hcall]
      | slave =>
          obtain ⟨vr', hcall, hring⟩ := h.ring.slaveDisableCb
          refine ⟨_, view, ?_, h.ofRing hring⟩
          simp only [RingSystem.step, hcall]
  | kick role =>
      cases role with
      | master => exact ⟨_, view, rfl, h.ofRing h.ring.masterKick⟩
      | slave => exact ⟨_, view, rfl, h.ofRing h.ring.slaveKick⟩

end Steps

/-! ### Delivery -/

section Delivery

variable {cfg : RingConfig} {shared : Nat → Prop} {s : RingSystem} {view : RingView}

theorem historyInv_create (cfg : RingConfig) (shared : Nat → Prop)
    (masterFeatures slaveFeatures : Nat) :
    HistoryInv cfg shared
      (RingSystem.create cfg.entries masterFeatures slaveFeatures cfg.masterIo cfg.slaveIo)
      (RingView.initial cfg.entries) :=
  { ring := ringInv_create cfg masterFeatures slaveFeatures 0 0 true true
    takenCount := rfl
    gotCount := rfl
    avail := .nil
    held := .nil
    used := .nil
    taken_le := le_rfl
    taken_eq := rfl
    got_le := le_rfl
    got := .nil
    positions := List.Perm.refl _
    shared := fun _ hcall => absurd hcall (List.not_mem_nil) }

theorem exists_historyInv (cfg : RingConfig) {masterFeatures slaveFeatures : Nat}
    (hs : Run.Reachable (RingSystem.Allowed shared) RingSystem.step
      (RingSystem.create cfg.entries masterFeatures slaveFeatures cfg.masterIo cfg.slaveIo) s) :
    ∃ view, HistoryInv cfg shared s view := by
  refine hs.invariant (P := fun s => ∃ view, HistoryInv cfg shared s view)
    ⟨_, historyInv_create cfg shared masterFeatures slaveFeatures⟩ ?_
  rintro s action s' ⟨view, h⟩ hallowed hstep
  obtain ⟨s'', view', hstep', h'⟩ := h.step hallowed
  obtain rfl : s'' = s' := Option.some.inj (hstep'.symm.trans hstep)
  exact ⟨view', h'⟩

theorem HistoryInv.taken_prefix (h : HistoryInv cfg shared s view) :
    s.taken <+: s.added.map (AddCall.seen cfg.masterIo cfg.slaveIo) := by
  rw [h.taken_eq]
  exact (List.take_prefix _ _).map _

theorem HistoryInv.got_prefix (h : HistoryInv cfg shared s view) :
    s.got <+: s.returned.map fun handed => (s.cookieAt handed.1, handed.2) := by
  have heq : s.got =
      (s.returned.take s.got.length).map fun handed => (s.cookieAt handed.1, handed.2) := by
    refine List.forall₂_eq_eq_eq ▸ List.forall₂_map_right_iff.mpr (h.got.imp ?_)
    rintro result handed ⟨hlen, call, hcall, hcookie⟩
    exact Prod.ext (by simp [RingSystem.cookieAt, hcall, hcookie]) hlen
  rw [heq]
  exact (List.take_prefix _ _).map _

theorem HistoryInv.got_all (h : HistoryInv cfg shared s view) {vr : Vring} {vq : Virtqueue}
    {buffer : Option UsedBuffer} (hcall : virtqueueGetBuffer s.vring s.master = some (vr, vq, buffer))
    (hnull : (buffer.map UsedBuffer.cookie).getD NULL = NULL) :
    s.got.length = s.returned.length := by
  cases hused : view.used with
  | nil =>
      have hdrop := h.used
      rw [hused, List.forall₂_nil_left_iff, List.drop_eq_nil_iff] at hdrop
      exact le_antisymm h.got_le hdrop
  | cons entry used =>
      obtain ⟨posted, len⟩ := entry
      obtain ⟨vr', master', hcall', -⟩ := h.ring.getBuffer hused
      rw [hcall] at hcall'
      obtain rfl : buffer = some ⟨posted.cookie, len, view.got % cfg.entries⟩ := by
        simp_all
      have hmem : posted ∈ view.outstanding := by
        simp [RingView.outstanding, hused]
      exact absurd hnull (h.ring.stored posted hmem).cookie_ne

theorem HistoryInv.taken_all (h : HistoryInv cfg shared s view)
    (hshared : ∀ buf, shared buf →
      cfg.slaveIo.physToVirt (u64 (cfg.masterIo.virtToPhys buf)) ≠ NULL)
    (hnull : ((virtqueueGetAvailableBuffer s.vring s.slave).2.map AvailableBuffer.buffer).getD NULL
      = NULL) : s.taken.length = s.added.length := by
  cases havail : view.avail with
  | nil =>
      have hdrop := h.avail
      rw [havail, List.forall₂_nil_left_iff, List.drop_eq_nil_iff] at hdrop
      exact le_antisymm h.taken_le hdrop
  | cons posted avail =>
      obtain ⟨slave', hcall, -⟩ := h.ring.getAvailableBuffer havail
      have hmatch := h.avail
      rw [havail] at hmatch
      obtain ⟨call, rest, hmatches, -, hdrop⟩ := List.forall₂_cons_left_iff.mp hmatch
      have hmem : call ∈ s.added :=
        List.mem_of_mem_drop (hdrop ▸ List.mem_cons_self ..)
      rw [hcall, hmatches.addr] at hnull
      exact absurd hnull (hshared call.buf (h.shared call hmem))

end Delivery

/-- A vring is a pair of queues. In every run, of any interleaving of the two sides' calls, the slave
takes the posts in order and sees each with its own address and length; the master collects what the
slave handed back in order, each with the cookie of the post it belongs to; a call that returns `NULL`
found nothing pending; and every call returns. -/
theorem ring_refines_queues (order : Nat) (horder : order ≤ 15)
    (masterFeatures slaveFeatures : Nat) (masterIo slaveIo : MetalIo) (shared : Nat → Prop)
    (hshared : ∀ buf, shared buf → slaveIo.physToVirt (u64 (masterIo.virtToPhys buf)) ≠ NULL)
    (s : RingSystem)
    (hs : Run.Reachable (RingSystem.Allowed shared) RingSystem.step
      (RingSystem.create (2 ^ order) masterFeatures slaveFeatures masterIo slaveIo) s) :
    s.taken <+: s.added.map (AddCall.seen masterIo slaveIo) ∧
      (s.returned.map Prod.fst).Nodup ∧ (∀ handed ∈ s.returned, handed.1 < s.taken.length) ∧
      (s.got <+: s.returned.map fun handed => (s.cookieAt handed.1, handed.2)) ∧
      (∀ vr vq buffer, virtqueueGetBuffer s.vring s.master = some (vr, vq, buffer) →
        (buffer.map UsedBuffer.cookie).getD NULL = NULL → s.got.length = s.returned.length) ∧
      (((virtqueueGetAvailableBuffer s.vring s.slave).2.map AvailableBuffer.buffer).getD NULL =
        NULL → s.taken.length = s.added.length) ∧
      ∀ action, s.Allowed shared action → (s.step action).isSome := by
  obtain ⟨view, h⟩ := exists_historyInv ⟨order, horder, masterIo, slaveIo⟩ hs
  have hnodup := h.positions.nodup_iff.mpr List.nodup_range
  refine ⟨h.taken_prefix, (List.nodup_append'.mp hnodup).2.1, ?_, h.got_prefix,
    fun vr vq buffer => h.got_all, h.taken_all hshared, ?_⟩
  · intro handed hhanded
    exact List.mem_range.mp (h.positions.subset
      (List.mem_append_right _ (List.mem_map_of_mem hhanded)))
  · intro action hallowed
    obtain ⟨s', -, hstep, -⟩ := h.step hallowed
    rw [hstep]
    rfl

/-- A chain of two and a single buffer through a ring of two, the single one after the wrap. -/
theorem ring_refines_queues_two_entries :
    let io : MetalIo := ⟨fun virt => virt + 64, fun phys => phys - 64⟩
    ∃ s : RingSystem, s.got = [(7, 16), (9, 8)] ∧
      s.taken <+: s.added.map (AddCall.seen io io) ∧
      s.got <+: s.returned.map fun handed => (s.cookieAt handed.1, handed.2) := by
  intro io
  obtain ⟨s, hs, hgot⟩ := Run.exists_reachable
    (fun s action => s.Allowed (fun buf => buf < 65536 ∧ 0 < buf) action) RingSystem.step
    (RingSystem.create (2 ^ 1) 0 0 io io)
    [.addBuffer (fun _ => ⟨4096, 32⟩) 1 1 7, .getAvailableBuffer, .addConsumedBuffer 0 16,
      .getBuffer, .addBuffer (fun _ => ⟨8192, 8⟩) 0 1 9, .getAvailableBuffer,
      .addConsumedBuffer 1 8, .getBuffer] RingSystem.got [(7, 16), (9, 8)] (by decide +kernel)
  have hshared : ∀ buf, buf < 65536 ∧ 0 < buf → io.physToVirt (u64 (io.virtToPhys buf)) ≠ NULL := by
    intro buf hbuf
    simp only [io, u64, NULL]
    omega
  have h := ring_refines_queues 1 (by decide) 0 0 io io (fun buf => buf < 65536 ∧ 0 < buf) hshared s hs
  exact ⟨s, hgot, h.1, h.2.2.2.1⟩

end OpenAmp
