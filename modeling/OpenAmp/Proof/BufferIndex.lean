import OpenAmp.Proof.RingHistory

/-!
# The index of a returned buffer

`virtqueue_get_buffer` reports the slot of the used ring that it has read. This is the head of the buffer
only as long as the buffers come back in the order of their heads.
-/

namespace OpenAmp

variable {cfg : RingConfig} {shared : Nat → Prop} {s : RingSystem} {view : RingView}

/-- Freeing a chain writes one link of the descriptor table, and nothing else of the rings. -/
theorem vqRingFreeChain_vring {vr vr' : Vring} {vq vq' : Virtqueue} {descIdx : Nat}
    (h : vqRingFreeChain vr vq descIdx = some (vr', vq')) :
    ∃ dp next, vr' = { vr with desc := setNext vr.desc dp next } := by
  unfold vqRingFreeChain at h
  dsimp only at h
  -- whether the chain is followed decides only which link it is
  split_ifs at h
  all_goals
    obtain ⟨⟨dp, ndescs, freed⟩, -, hspliced⟩ := Option.bind_eq_some_iff.mp h
    exact ⟨dp, _, (congrArg Prod.fst (Option.some.inj hspliced)).symm⟩

theorem getBuffer_len {vr vr' : Vring} {vq vq' : Virtqueue} {buffer : Option UsedBuffer}
    (h : virtqueueGetBuffer vr vq = some (vr', vq', buffer)) (idx : Nat) :
    virtqueueGetBufferLength vr' idx = virtqueueGetBufferLength vr idx := by
  unfold virtqueueGetBuffer at h
  split_ifs at h
  · obtain rfl := congrArg Prod.fst (Option.some.inj h)
    rfl
  · obtain ⟨⟨freed, vq⟩, hfree, hrest⟩ := Option.bind_eq_some_iff.mp h
    obtain rfl := congrArg Prod.fst (Option.some.inj hrest)
    obtain ⟨dp, next, rfl⟩ := vqRingFreeChain_vring hfree
    unfold virtqueueGetBufferLength
    dsimp only
    rw [setNext_apply]
    split_ifs with heq
    · rw [heq]
    · rfl

theorem HistoryInv.nextPost_nil (h : HistoryInv cfg shared s view) (hused : view.used = []) :
    s.nextPost = none := by
  have hdrop := h.used
  rw [hused, List.forall₂_nil_left_iff, List.drop_eq_nil_iff] at hdrop
  unfold RingSystem.nextPost
  rw [List.getElem?_eq_none hdrop]
  rfl

theorem HistoryInv.nextPost_cons (h : HistoryInv cfg shared s view) {posted : Posted} {len : Nat}
    {used : List (Posted × Nat)} (hused : view.used = (posted, len) :: used) :
    ∃ call, s.nextPost = some call ∧ posted.Matches cfg call := by
  have hmatch := h.used
  rw [hused] at hmatch
  obtain ⟨handed, rest, ⟨-, call, hcall, hmatches⟩, -, hdrop⟩ := List.forall₂_cons_left_iff.mp hmatch
  have hhanded : s.returned[s.got.length]? = some handed := by
    rw [← List.head?_drop, hdrop]
    rfl
  refine ⟨call, ?_, hmatches⟩
  unfold RingSystem.nextPost
  rw [hhanded]
  exact hcall

theorem HistoryInv.indexIdentifies_iff (h : HistoryInv cfg shared s view) :
    s.IndexIdentifies ↔
      ∀ call, s.nextPost = some call → call.head = s.got.length % cfg.entries := by
  cases hused : view.used with
  | nil =>
      refine iff_of_true (fun vring master buffer hcall => ?_) fun call hnext => ?_
      · rw [h.ring.getBuffer_nil hused] at hcall
        exact nomatch (Prod.mk.inj (Prod.mk.inj (Option.some.inj hcall)).2).2
      · exact nomatch (h.nextPost_nil hused).symm.trans hnext
  | cons entry used =>
      obtain ⟨posted, len⟩ := entry
      obtain ⟨call, hnext, hmatches⟩ := h.nextPost_cons hused
      obtain ⟨vr', master', hcall, -⟩ := h.ring.getBuffer hused
      have hmem : posted ∈ view.outstanding := by
        simp [RingView.outstanding, hused]
      have hlen : virtqueueGetBufferLength vr' call.head = ofInt 32 call.len := by
        rw [getBuffer_len hcall, ← hmatches.head, ← hmatches.len]
        exact (h.ring.stored posted hmem).len
      rw [h.gotCount] at hcall
      constructor
      · intro hidentifies call' hnext'
        obtain ⟨call'', hnext'', -, hidx, -⟩ := hidentifies _ _ _ hcall
        obtain rfl := Option.some.inj (hnext''.symm.trans hnext')
        exact hidx.symm
      · intro hhead vring master buffer hcall'
        obtain ⟨rfl, hrest⟩ := Prod.mk.inj (Option.some.inj (hcall.symm.trans hcall'))
        obtain rfl := Option.some.inj (Prod.mk.inj hrest).2
        refine ⟨call, hnext, hmatches.cookie, (hhead call hnext).symm, ?_⟩
        rw [← hhead call hnext]
        exact hlen

/-- In every reachable state, the index of the buffer that is returned next identifies it exactly if the
head of its post is the number of buffers collected so far, modulo the number of entries. -/
theorem buffer_index_iff (order : Nat) (horder : order ≤ 15) (masterFeatures slaveFeatures : Nat)
    (masterIo slaveIo : MetalIo) (shared : Nat → Prop) (s : RingSystem)
    (hs : Run.Reachable (RingSystem.Allowed shared) RingSystem.step
      (RingSystem.create (2 ^ order) masterFeatures slaveFeatures masterIo slaveIo) s) :
    s.IndexIdentifies ↔
      ∀ call, s.nextPost = some call → call.head = s.got.length % 2 ^ order := by
  obtain ⟨view, h⟩ := exists_historyInv ⟨order, horder, masterIo, slaveIo⟩ hs
  exact h.indexIdentifies_iff

/-- One buffer through a ring of two: it comes back with its own index. -/
theorem buffer_index_first :
    ∃ s : RingSystem, s.returned.length = 1 ∧ s.IndexIdentifies := by
  obtain ⟨s, hs, hseen⟩ := Run.exists_reachable
    (fun s action => s.Allowed (fun _ => True) action) RingSystem.step
    (RingSystem.create (2 ^ 1) 0 0 ⟨id, id⟩ ⟨id, id⟩)
    [.addBuffer (fun _ => ⟨4096, 32⟩) 0 1 7, .getAvailableBuffer, .addConsumedBuffer 0 16]
    (fun s => (s.nextPost.map AddCall.head, s.got.length, s.returned.length)) (some 0, 0, 1)
    (by decide +kernel)
  obtain ⟨hhead, hrest⟩ := Prod.mk.inj hseen
  obtain ⟨hgot, hreturned⟩ := Prod.mk.inj hrest
  refine ⟨s, hreturned,
    (buffer_index_iff 1 (by decide) 0 0 ⟨id, id⟩ ⟨id, id⟩ (fun _ => True) s hs).mpr ?_⟩
  intro call hnext
  rw [hnext] at hhead
  rw [hgot]
  exact Option.some.inj hhead

/-- The buffer of the second round: its head is free again and is used once more, and the used ring has
moved on. -/
theorem second_buffer_misindexed :
    ∃ s : RingSystem, Run.Reachable (RingSystem.Allowed fun _ => True) RingSystem.step
        (RingSystem.create (2 ^ 1) 0 0 ⟨id, id⟩ ⟨id, id⟩) s ∧
      ¬ s.IndexIdentifies := by
  obtain ⟨s, hs, hseen⟩ := Run.exists_reachable
    (fun s action => s.Allowed (fun _ => True) action) RingSystem.step
    (RingSystem.create (2 ^ 1) 0 0 ⟨id, id⟩ ⟨id, id⟩)
    [.addBuffer (fun _ => ⟨4096, 32⟩) 0 1 7, .getAvailableBuffer, .addConsumedBuffer 0 16, .getBuffer,
      .addBuffer (fun _ => ⟨8192, 8⟩) 0 1 9, .getAvailableBuffer, .addConsumedBuffer 1 8]
    (fun s => (s.nextPost.map AddCall.head,
      (virtqueueGetBuffer s.vring s.master).map fun out => out.2.2.map UsedBuffer.idx))
    (some 0, some (some 1)) (by decide +kernel)
  refine ⟨s, hs, fun hidentifies => ?_⟩
  obtain ⟨hhead, hidx⟩ := Prod.mk.inj hseen
  obtain ⟨⟨vring, master, found⟩, hcall, hfound⟩ := Option.map_eq_some_iff.mp hidx
  obtain ⟨buffer, rfl, hbuffer⟩ := Option.map_eq_some_iff.mp hfound
  obtain ⟨call, hnext, -, hsame, -⟩ := hidentifies vring master buffer hcall
  rw [hnext] at hhead
  exact absurd (hbuffer.symm.trans (hsame.trans (Option.some.inj hhead))) (by decide)

end OpenAmp
