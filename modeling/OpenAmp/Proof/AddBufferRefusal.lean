import OpenAmp.VirtqueueBuild
import OpenAmp.Proof.RingOperations

/-!
# Which posts are refused

Only the debug build looks at the free descriptors before it takes them, and it asks no more than
whether there is one. A longer chain runs to the end mark, where the assertion stops it; the default
build writes on behind the end mark and succeeds.
-/

namespace OpenAmp

open LinkedChain

section Assertions

variable {vq : Virtqueue}

theorem VqDebug.failed_check_ne_nil {debug : VqDebug} (h : debug.failed ≠ []) (exp : Bool)
    (msg : String) : (debug.check exp msg).failed ≠ [] := by
  unfold VqDebug.check
  split_ifs with hexp
  · exact h
  · simp

theorem Virtqueue.failed_vqassert_ne_nil (h : vq.vqDebug.failed ≠ []) (exp : Bool) (msg : String) :
    (vq.vqassert exp msg).vqDebug.failed ≠ [] :=
  VqDebug.failed_check_ne_nil h exp msg

theorem vqRingAddBufferLoop_failed (bufList : Nat → VirtqueueBuf) (readable needed : Int) (left : Nat) :
    ∀ (i : Nat) (desc : Nat → VringDesc) (vq : Virtqueue) (idx : Nat), vq.vqDebug.failed ≠ [] →
      (vqRingAddBufferLoop bufList readable needed left i desc vq idx).2.1.vqDebug.failed ≠ [] := by
  induction left with
  | zero => exact fun _ _ _ _ h => h
  | succ left ih =>
      intro i desc vq idx h
      exact ih _ _ _ _ (Virtqueue.failed_vqassert_ne_nil h _ _)

/-- A loop with more rounds than free descriptors comes to the end mark. -/
theorem vqRingAddBufferLoop_premature (bufList : Nat → VirtqueueBuf) (readable needed : Int)
    (cells : List Nat) : ∀ (left i : Nat) (desc : Nat → VringDesc) (vq : Virtqueue) (idx : Nat),
      Path (fun cell => (desc cell).next) idx cells VQ_RING_DESC_CHAIN_END → cells.length < left →
      (vqRingAddBufferLoop bufList readable needed left i desc vq idx).2.1.vqDebug.failed ≠ [] := by
  induction cells with
  | nil =>
      intro left i desc vq idx hpath hleft
      obtain ⟨left, rfl⟩ := Nat.exists_eq_add_of_lt hleft
      rw [path_nil] at hpath
      subst hpath
      rw [show [].length + left + 1 = left + 1 by simp, vqRingAddBufferLoop]
      apply vqRingAddBufferLoop_failed
      simp [Virtqueue.vqassert, VqDebug.check]
  | cons cell cells ih =>
      intro left i desc vq idx hpath hleft
      obtain ⟨rfl, hrest⟩ := path_cons.mp hpath
      cases left with
      | zero => exact absurd hleft (Nat.not_lt_zero _)
      | succ left =>
          rw [List.length_cons] at hleft
          rw [vqRingAddBufferLoop]
          refine ih left (i + 1) _ _ _ (hrest.congr ?_) (by omega)
          -- filling a descriptor keeps its link
          intro other _
          by_cases hother : other = idx
          · subst hother
            rw [Function.update_self]
          · rw [Function.update_of_ne hother]

end Assertions

section Refusal

variable {vr : Vring} {vq : Virtqueue} {free : List Nat} {bufList : Nat → VirtqueueBuf}
  {readable writable : Int} {cookie : Nat}

theorem virtqueueAddBuffer_status :
    (virtqueueAddBuffer vr vq bufList readable writable cookie).2.2 = VQUEUE_SUCCESS := rfl

/-- A chain that is longer than the free one fails an assertion. -/
theorem Virtqueue.FreeChain.premature (h : vq.FreeChain vr free)
    (hneeded : (vq.vqFreeCnt : Int) < readable + writable) :
    (virtqueueAddBuffer vr vq bufList readable writable cookie).2.1.vqDebug.failed ≠ [] := by
  have hleft : free.length < (readable + writable).toNat := by
    rw [← h.count]
    omega
  have hloop := vqRingAddBufferLoop_premature bufList readable (readable + writable) free
    (readable + writable).toNat 0 vr.desc
  unfold virtqueueAddBuffer
  dsimp only [vqRingUpdateAvail, Virtqueue.idle]
  split_ifs
  · apply Virtqueue.failed_vqassert_ne_nil
    exact hloop _ _ h.chain hleft
  · apply Virtqueue.failed_vqassert_ne_nil
    exact hloop _ _ h.chain hleft

theorem intAdd_eq_some {first second : Int} (hfirst : 0 ≤ first) (hsecond : 0 ≤ second) {sum : Int} :
    intAdd first second = some sum ↔ first + second < 2 ^ 31 ∧ sum = first + second := by
  unfold intAdd
  split_ifs with h
  · rw [Option.some_inj]
    exact ⟨fun heq => ⟨h.2, heq.symm⟩, fun heq => heq.2.symm⟩
  · refine ⟨fun hnone => (nomatch hnone), fun heq => absurd ?_ h⟩
    exact ⟨by omega, heq.1⟩

theorem Virtqueue.idle_busy_of_clean (h : vq.vqDebug = VqDebug.clean) : vq.busy.idle = vq := by
  obtain ⟨_, _, _, _, _, _, _, _, _, _, _, _, debug⟩ := vq
  dsimp only at h
  subst h
  rfl

/-- The parameter checks of the debug build. -/
theorem vqParamChk_both (hneeded : 0 ≤ readable + writable) :
    vqParamChk (vq.vqFreeCnt = 0)
        (vqParamChk (readable + writable < 1) VQUEUE_SUCCESS ERROR_VQUEUE_INVLD_PARAM)
        ERROR_VRING_FULL =
      if readable + writable = 0 then ERROR_VQUEUE_INVLD_PARAM
      else if vq.vqFreeCnt = 0 then ERROR_VRING_FULL else VQUEUE_SUCCESS := by
  by_cases hzero : readable + writable = 0
  · have hlt : readable + writable < 1 := by omega
    simp [vqParamChk, hzero, VQUEUE_SUCCESS, ERROR_VQUEUE_INVLD_PARAM, VQ_ERROR_BASE]
  · have hge : ¬ readable + writable < 1 := by omega
    simp [vqParamChk, hzero, hge, VQUEUE_SUCCESS]

/-- A post that the ring has no room for, or that has no buffer, is refused by the debug build if the
ring is full or there is no buffer, and by the default build never. -/
theorem add_buffer_refused_iff (build : VqBuild) (h : vq.FreeChain vr free) (hreadable : 0 ≤ readable)
    (hwritable : 0 ≤ writable)
    (hneeded : readable + writable = 0 ∨ (vq.vqFreeCnt : Int) < readable + writable) :
    RefusesUnchanged build vr vq bufList readable writable cookie ↔
      build = .debug ∧ readable + writable < 2 ^ 31 ∧
        (readable + writable = 0 ∨ vq.vqFreeCnt = 0) := by
  have hsum : 0 ≤ readable + writable := Int.add_nonneg hreadable hwritable
  unfold RefusesUnchanged virtqueueAddBufferIn
  by_cases hint : readable + writable < 2 ^ 31
  swap
  · -- the sum overflows
    have hnone : intAdd readable writable = none := by
      rw [Option.eq_none_iff_forall_ne_some]
      intro sum hsome
      exact hint ((intAdd_eq_some hreadable hwritable).mp hsome).1
    rw [hnone]
    exact ⟨fun ⟨_, _, hcall⟩ => (nomatch hcall), fun ⟨_, hlt, _⟩ => absurd hlt hint⟩
  rw [(intAdd_eq_some hreadable hwritable).mpr ⟨hint, rfl⟩]
  dsimp only [Option.bind_eq_bind, Option.bind_some]
  cases build with
  | default =>
      refine ⟨?_, fun hdebug => nomatch hdebug.1⟩
      rintro ⟨status, hstatus, hcall⟩
      have hsuccess := congrArg (fun out => out.2.2) (Option.some.inj hcall)
      exact absurd (virtqueueAddBuffer_status.symm.trans hsuccess).symm hstatus
  | debug =>
      dsimp only
      rw [vqParamChk_both hsum]
      have hclean : vq.vqDebug.failed = [] := by rw [h.debug]; rfl
      by_cases hzero : readable + writable = 0
      · have herror : ERROR_VQUEUE_INVLD_PARAM ≠ VQUEUE_SUCCESS := by decide
        rw [if_pos hzero, if_neg herror, Virtqueue.idle_busy_of_clean h.debug, if_pos hclean]
        exact ⟨fun _ => ⟨rfl, hint, .inl hzero⟩, fun _ => ⟨_, herror, rfl⟩⟩
      rw [if_neg hzero]
      by_cases hfull : vq.vqFreeCnt = 0
      · have herror : ERROR_VRING_FULL ≠ VQUEUE_SUCCESS := by decide
        rw [if_pos hfull, if_neg herror, Virtqueue.idle_busy_of_clean h.debug, if_pos hclean]
        exact ⟨fun _ => ⟨rfl, hint, .inr hfull⟩, fun _ => ⟨_, herror, rfl⟩⟩
      · -- some descriptors are free, but not enough
        rw [if_neg hfull, if_pos rfl, if_neg (h.premature (hneeded.resolve_left hzero))]
        exact ⟨fun ⟨_, _, hcall⟩ => (nomatch hcall), fun hcond => absurd hcond.2.2 (by tauto)⟩

end Refusal

/-- The queue of a master in use has such a chain. -/
theorem RingInv.freeChain {cfg : RingConfig} {vr : Vring} {master slave : Virtqueue} {view : RingView}
    (h : RingInv cfg vr master slave view) : master.FreeChain vr view.free where
  role := h.masterRole
  chain := h.freePath
  nodup := (List.nodup_append'.mp h.nodup).1
  index := fun cell hcell => by
    rw [h.masterEntries]
    exact h.free_lt hcell
  count := h.freeCnt
  debug := h.masterDebug

/-- A ring of two entries and the queue of its master, just created. -/
def freshRing : Vring × Virtqueue :=
  virtqueueCreate .master 0 0 2 true (Vring.zeroed 2) virtqueueAllocate

theorem freeChain_freshRing : freshRing.2.FreeChain freshRing.1 [0, 1] := by
  constructor
  case chain => exact ⟨rfl, rfl, rfl⟩
  case index => decide
  all_goals decide

/-- The ring after a post of two buffers. -/
def fullRing : Vring × Virtqueue :=
  let (vr, vq, _) := virtqueueAddBuffer freshRing.1 freshRing.2 (fun _ => ⟨4096, 32⟩) 2 0 7
  (vr, vq)

theorem freeChain_fullRing : fullRing.2.FreeChain fullRing.1 [] := by
  constructor
  case chain => trivial
  case index => exact fun _ hcell => nomatch hcell
  all_goals decide

theorem add_buffer_refused_full :
    fullRing.2.vqFreeCnt = 0 ∧
      RefusesUnchanged .debug fullRing.1 fullRing.2 (fun _ => ⟨8192, 32⟩) 1 0 9 :=
  ⟨by decide, (add_buffer_refused_iff .debug freeChain_fullRing (by decide) (by decide)
    (.inr (by decide))).mpr ⟨rfl, by decide, .inr (by decide)⟩⟩

/-- Three buffers for two descriptors: the default build posts them, and the debug build stops in the
loop instead of returning an error. -/
theorem add_buffer_not_refused :
    freshRing.2.FreeChain freshRing.1 [0, 1] ∧ freshRing.2.vqFreeCnt < 3 ∧
      (virtqueueAddBufferIn .default freshRing.1 freshRing.2 (fun _ => ⟨4096, 32⟩) 3 0 7).map
        (fun out => (out.2.2, out.1.avail.idx)) = some (VQUEUE_SUCCESS, 1) ∧
      virtqueueAddBufferIn .debug freshRing.1 freshRing.2 (fun _ => ⟨4096, 32⟩) 3 0 7 = none ∧
      ∀ build, ¬ RefusesUnchanged build freshRing.1 freshRing.2 (fun _ => ⟨4096, 32⟩) 3 0 7 := by
  have hdefault : (virtqueueAddBufferIn .default freshRing.1 freshRing.2 (fun _ => ⟨4096, 32⟩) 3 0
      7).map (fun out => (out.2.2, out.1.avail.idx)) = some (VQUEUE_SUCCESS, 1) := by decide +kernel
  have hdebug : (virtqueueAddBufferIn .debug freshRing.1 freshRing.2 (fun _ => ⟨4096, 32⟩) 3 0
      7).isNone = true := by decide +kernel
  refine ⟨freeChain_freshRing, by decide, hdefault, Option.isNone_iff_eq_none.mp hdebug, ?_⟩
  rintro build ⟨status, hstatus, hcall⟩
  cases build with
  | default =>
      rw [hcall] at hdefault
      exact hstatus (Prod.mk.inj (Option.some.inj hdefault)).1
  | debug =>
      rw [hcall] at hdebug
      exact nomatch hdebug

end OpenAmp
