import OpenAmp.Proof.RingHistory

/-!
# The representation invariant of the master's control block

What `vq_desc_head_idx`, `vq_free_cnt`, `vq_descx` and the links in the descriptor table mean, in
terms of the calls made so far, and that no assertion of `virtqueue.c` ever fails.
-/

namespace OpenAmp

open LinkedChain ListCuts RingBuffer

/-- The head that the post at a position was given. -/
def RingSystem.headAt (s : RingSystem) (position : Nat) : Nat :=
  (s.added[position]?.map AddCall.head).getD 0

/-- The master's control block and the descriptor table describe the chain `free` of free
descriptors and the outstanding chains `chains`, each given by its head and its other descriptors. -/
structure Virtqueue.Represents (entries : Nat) (vr : Vring) (vq : Virtqueue) (free : List Nat)
    (chains : List (Nat × List Nat)) : Prop where
  freeChain : Path (fun cell => (vr.desc cell).next) vq.vqDescHeadIdx free VQ_RING_DESC_CHAIN_END
  freeNodup : free.Nodup
  freeCnt : free.length = vq.vqFreeCnt
  linked : ∀ chain ∈ chains, ChainLinked vr.desc (chain.1 :: chain.2) ∧
    (chain.1 :: chain.2).length = (vq.vqDescx chain.1).ndescs
  partition : (free ++ chains.flatMap fun chain => chain.1 :: chain.2).Perm (List.range entries)
  count : vq.vqFreeCnt + (chains.map fun chain => (vq.vqDescx chain.1).ndescs).sum = entries
  cookie : ∀ cell, (vq.vqDescx cell).cookie ≠ NULL ↔ cell ∈ chains.map Prod.fst

section Representation

variable {cfg : RingConfig} {vr : Vring} {master slave : Virtqueue} {view : RingView}

theorem length_flatMap_eq_sum (chains : List Posted) (count : Posted → Nat)
    (hcount : ∀ posted ∈ chains, posted.descs.length = count posted) :
    (chains.flatMap Posted.descs).length = (chains.map count).sum := by
  rw [List.length_flatMap]
  exact congrArg List.sum (List.map_congr_left hcount)

theorem RingInv.represents (h : RingInv cfg vr master slave view) :
    master.Represents cfg.entries vr view.free
      (view.outstanding.map fun posted => (posted.head, posted.rest)) := by
  have hndescs : ∀ posted ∈ view.outstanding,
      posted.descs.length = (master.vqDescx posted.head).ndescs := by
    intro posted hposted
    rw [(h.stored posted hposted).extra]
  constructor
  case freeChain => exact h.freePath
  case freeNodup => exact (List.nodup_append'.mp h.nodup).1
  case freeCnt => exact h.freeCnt.symm
  case linked =>
    intro chain hchain
    obtain ⟨posted, hposted, rfl⟩ := List.mem_map.mp hchain
    exact ⟨(h.stored posted hposted).linked, hndescs posted hposted⟩
  case partition =>
    rw [List.flatMap_map]
    exact h.partition
  case count =>
    have hlen := h.partition.length_eq
    rw [List.length_append, List.length_range,
      length_flatMap_eq_sum _ (fun posted => (master.vqDescx posted.head).ndescs) hndescs] at hlen
    rw [h.freeCnt, List.map_map]
    exact hlen
  case cookie =>
    intro cell
    rw [List.map_map]
    constructor
    · intro hcookie
      by_contra hnotMem
      refine hcookie (h.noCookie cell fun posted hposted heq => hnotMem ?_)
      exact List.mem_map.mpr ⟨posted, hposted, heq⟩
    · intro hcell
      obtain ⟨posted, hposted, rfl⟩ := List.mem_map.mp hcell
      have hstored := h.stored posted hposted
      simp only [Function.comp_apply, hstored.extra]
      exact hstored.cookie_ne

end Representation

section Outstanding

variable {cfg : RingConfig} {shared : Nat → Prop} {s : RingSystem} {view : RingView}

theorem Posted.MatchesAt.headAt {posted : Posted} {position : Nat}
    (h : posted.MatchesAt cfg s.added position) : posted.head = s.headAt position := by
  obtain ⟨call, hcall, hmatches⟩ := h
  rw [RingSystem.headAt, hcall, hmatches.head]
  rfl

/-- The posts not collected yet: those on offer, those held, and those handed back. -/
theorem HistoryInv.outstanding_perm (h : HistoryInv cfg shared s view) :
    s.outstanding.Perm
      (List.range' s.taken.length (s.added.length - s.taken.length) ++ s.held ++
        (s.returned.drop s.got.length).map Prod.fst) := by
  let collected := (s.returned.take s.got.length).map Prod.fst
  let handed := (s.returned.drop s.got.length).map Prod.fst
  let offered := List.range' s.taken.length (s.added.length - s.taken.length)
  have hrange : List.range s.added.length = List.range s.taken.length ++ offered := by
    have happend := List.range'_append_1 (s := 0) (m := s.taken.length)
      (n := s.added.length - s.taken.length)
    rw [Nat.zero_add, Nat.add_sub_cancel' h.taken_le] at happend
    rw [List.range_eq_range', List.range_eq_range', ← happend]
  have hsplit : s.returned.map Prod.fst = collected ++ handed := by
    rw [← List.map_append, List.take_append_drop]
  have hpositions := h.positions
  rw [hsplit] at hpositions
  have hnodup := hpositions.nodup_iff.mpr List.nodup_range
  obtain ⟨-, hreturned, hheld⟩ := List.nodup_append'.mp hnodup
  obtain ⟨-, -, hhanded⟩ := List.nodup_append'.mp hreturned
  -- of the posts taken so far, the filter drops exactly the collected ones
  have hkeepHeld : s.held.filter (fun position => position ∉ collected) = s.held := by
    refine List.filter_eq_self.mpr fun position hmem => decide_eq_true fun hin => ?_
    exact hheld hmem (List.mem_append_left _ hin)
  have hkeepHanded : handed.filter (fun position => position ∉ collected) = handed := by
    refine List.filter_eq_self.mpr fun position hmem => decide_eq_true fun hin => ?_
    exact hhanded hin hmem
  have hdrop : collected.filter (fun position => position ∉ collected) = [] := by
    refine List.filter_eq_nil_iff.mpr fun position hmem hkeep => ?_
    exact of_decide_eq_true hkeep hmem
  have hkeepOffered : offered.filter (fun position => position ∉ collected) = offered := by
    refine List.filter_eq_self.mpr fun position hmem => decide_eq_true fun hin => ?_
    have hge := (List.mem_range'_1.mp hmem).1
    have hlt := List.mem_range.mp (hpositions.subset
      (List.mem_append_right _ (List.mem_append_left _ hin)))
    omega
  have hfilter := hpositions.symm.filter fun position => position ∉ collected
  rw [List.filter_append, List.filter_append, hkeepHeld, hdrop, hkeepHanded,
    List.nil_append] at hfilter
  change (List.filter (fun position => position ∉ collected)
    (List.range s.added.length)).Perm (offered ++ s.held ++ handed)
  rw [hrange, List.filter_append, hkeepOffered, List.append_assoc]
  exact (hfilter.append_right offered).trans List.perm_append_comm

theorem HistoryInv.heads_perm (h : HistoryInv cfg shared s view) :
    (view.outstanding.map Posted.head).Perm (s.outstanding.map s.headAt) := by
  have havail : view.avail.map Posted.head =
      (List.range' s.taken.length (s.added.length - s.taken.length)).map s.headAt := by
    refine List.ext_getElem ?_ fun i hleft hright => ?_
    · simp [h.avail.length_eq]
    · rw [List.length_map] at hleft
      have hmatch := List.Forall₂.get h.avail hleft (by rwa [← h.avail.length_eq])
      rw [List.get_eq_getElem, List.get_eq_getElem, List.getElem_drop] at hmatch
      rw [List.getElem_map, List.getElem_map, List.getElem_range', Nat.one_mul, hmatch.head,
        RingSystem.headAt, List.getElem?_eq_getElem]
      rfl
  have hheld : view.held.map Posted.head = s.held.map s.headAt := by
    refine List.forall₂_eq_eq_eq ▸ List.forall₂_map_left_iff.mpr (List.forall₂_map_right_iff.mpr ?_)
    exact h.held.imp fun _ _ hat => hat.headAt
  have hused : (view.used.map Prod.fst).map Posted.head =
      ((s.returned.drop s.got.length).map Prod.fst).map s.headAt := by
    rw [List.map_map, List.map_map]
    refine List.forall₂_eq_eq_eq ▸ List.forall₂_map_left_iff.mpr (List.forall₂_map_right_iff.mpr ?_)
    exact h.used.imp fun _ _ hat => hat.2.headAt
  refine List.Perm.trans (List.Perm.of_eq ?_) (h.outstanding_perm.map s.headAt).symm
  rw [RingView.outstanding, List.map_append, List.map_append, havail, hheld, hused,
    List.map_append, List.map_append]

end Outstanding

/-- The master's control block is well formed after every sequence of calls: the free chain and the
chains posted and not yet collected partition the descriptors, the counters count them, and the
cookies mark exactly the outstanding heads. Every call returns, so the walk along a freed chain
terminates, and no assertion of either side has failed. -/
theorem virtqueue_represents (order : Nat) (horder : order ≤ 15)
    (masterFeatures slaveFeatures : Nat) (masterIo slaveIo : MetalIo) (shared : Nat → Prop)
    (s : RingSystem)
    (hs : Run.Reachable (RingSystem.Allowed shared) RingSystem.step
      (RingSystem.create (2 ^ order) masterFeatures slaveFeatures masterIo slaveIo) s) :
    (∃ free chains, s.master.Represents (2 ^ order) s.vring free chains ∧
      (chains.map Prod.fst).Perm (s.outstanding.map s.headAt)) ∧
      s.master.vqDebug.failed = [] ∧ s.slave.vqDebug.failed = [] ∧
      ∀ action, s.Allowed shared action → (s.step action).isSome := by
  obtain ⟨view, h⟩ := exists_historyInv ⟨order, horder, masterIo, slaveIo⟩ hs
  refine ⟨⟨view.free, _, h.ring.represents, ?_⟩, ?_, ?_, ?_⟩
  · rw [List.map_map]
    exact h.heads_perm
  · rw [h.ring.masterDebug]
    rfl
  · rw [h.ring.slaveDebug]
    rfl
  · intro action hallowed
    obtain ⟨s', -, hstep, -⟩ := h.step hallowed
    rw [hstep]
    rfl

/-- A ring of four with a chain of three outstanding and one free descriptor. -/
theorem virtqueue_represents_four_entries :
    ∃ s : RingSystem, s.master.vqFreeCnt = 1 ∧
      ∃ free chains, s.master.Represents 4 s.vring free chains ∧
        (chains.map Prod.fst).Perm (s.outstanding.map s.headAt) := by
  let io : MetalIo := ⟨id, id⟩
  obtain ⟨s, hs, hfree⟩ := Run.exists_reachable (fun s action => s.Allowed (fun _ => True) action)
    RingSystem.step (RingSystem.create (2 ^ 2) 0 0 io io)
    [.addBuffer (fun _ => ⟨4096, 32⟩) 1 0 7, .addBuffer (fun _ => ⟨8192, 32⟩) 1 2 9,
      .getAvailableBuffer, .addConsumedBuffer 0 16, .getBuffer]
    (fun s => s.master.vqFreeCnt) 1 (by decide +kernel)
  exact ⟨s, hfree, (virtqueue_represents 2 (by decide) 0 0 io io (fun _ => True) s hs).1⟩

end OpenAmp
