import OpenAmp.Proof.BufferIndex

/-!
# What the queue operations leave alone

Whatever the state of the queue: a call writes its own part of the vring, and of the counters and
settings in the control block only those named here.
-/

namespace OpenAmp

variable {vr vr' : Vring} {vq vq' : Virtqueue}

/-- The settings and the counters of a control block, without the bookkeeping of descriptors. -/
structure VqControl where
  role : Role
  features : Nat
  vqNentries : Nat
  notify : Bool
  vqQueuedCnt : Nat
  vqUsedConsIdx : Nat
  vqAvailableIdx : Nat

def Virtqueue.control (vq : Virtqueue) : VqControl :=
  ⟨vq.role, vq.features, vq.vqNentries, vq.notify, vq.vqQueuedCnt, vq.vqUsedConsIdx,
    vq.vqAvailableIdx⟩

@[simp] theorem Virtqueue.control_vqassert (vq : Virtqueue) (exp : Bool) (msg : String) :
    (vq.vqassert exp msg).control = vq.control := rfl

@[simp] theorem Virtqueue.control_assertValidIdx (vq : Virtqueue) (idx : Nat) :
    (vq.assertValidIdx idx).control = vq.control := rfl

@[simp] theorem Virtqueue.control_assertChainTerm (vq : Virtqueue) :
    vq.assertChainTerm.control = vq.control := rfl

@[simp] theorem Virtqueue.control_busy (vq : Virtqueue) : vq.busy.control = vq.control := rfl

@[simp] theorem Virtqueue.control_setDescx (vq : Virtqueue) (vqDescx : Nat → VqDescExtra) :
    ({ vq with vqDescx } : Virtqueue).control = vq.control := rfl

/-- One more buffer has been queued since the last kick. -/
def VqControl.queue (control : VqControl) : VqControl :=
  { control with vqQueuedCnt := u16 (control.vqQueuedCnt + 1) }

theorem vqRingAddBufferLoop_control (bufList : Nat → VirtqueueBuf) (readable needed : Int)
    (left i : Nat) (desc : Nat → VringDesc) (vq : Virtqueue) (idx : Nat) :
    (vqRingAddBufferLoop bufList readable needed left i desc vq idx).2.1.control = vq.control := by
  induction left generalizing i desc vq idx with
  | zero => rfl
  | succ left ih => exact ih _ _ _ _

theorem virtqueueAddBuffer_control (vr : Vring) (vq : Virtqueue) (bufList : Nat → VirtqueueBuf)
    (readable writable : Int) (cookie : Nat) :
    (virtqueueAddBuffer vr vq bufList readable writable cookie).2.1.control =
      vq.control.queue := by
  unfold virtqueueAddBuffer
  extract_lets needed vq₁ headIdx vq₂ vq₃ vq₄
  have hfirst : vq₄.control = vq.control := by
    simp only [vq₄, vq₃, vq₂, vq₁, Virtqueue.control_setDescx, Virtqueue.control_vqassert,
      Virtqueue.control_assertValidIdx, Virtqueue.control_busy]
  have hloop := (vqRingAddBufferLoop_control bufList readable needed needed.toNat 0 vr.desc vq₄
    headIdx).trans hfirst
  split
  next desc vq₅ idx heq =>
    rw [heq] at hloop
    extract_lets vq₆ vq₇
    have hassert : vq₇.control = vq₅.control := by
      simp only [vq₇]
      split_ifs <;> rfl
    clear_value vq₇
    exact congrArg VqControl.queue (hassert.trans hloop)

/-- A post writes one slot of the available ring and moves its index. -/
theorem virtqueueAddBuffer_vring (vr : Vring) (vq : Virtqueue) (bufList : Nat → VirtqueueBuf)
    (readable writable : Int) (cookie : Nat) :
    ∃ desc head, (virtqueueAddBuffer vr vq bufList readable writable cookie).1 =
      { vr with
        desc
        avail := { vr.avail with
          ring := Function.update vr.avail.ring (vr.avail.idx &&& ringMask vq.vqNentries) head
          idx := u16 (vr.avail.idx + 1) } } := by
  unfold virtqueueAddBuffer
  extract_lets needed vq₁ headIdx vq₂ vq₃ vq₄
  have hfirst : vq₄.control = vq.control := by
    simp only [vq₄, vq₃, vq₂, vq₁, Virtqueue.control_setDescx, Virtqueue.control_vqassert,
      Virtqueue.control_assertValidIdx, Virtqueue.control_busy]
  have hloop := (vqRingAddBufferLoop_control bufList readable needed needed.toNat 0 vr.desc vq₄
    headIdx).trans hfirst
  split
  next desc vq₅ idx heq =>
    rw [heq] at hloop
    extract_lets vq₆ vq₇
    have hassert : vq₇.control = vq₅.control := by
      simp only [vq₇]
      split_ifs <;> rfl
    have hentries : vq₇.vqNentries = vq.vqNentries :=
      congrArg VqControl.vqNentries (hassert.trans hloop)
    clear_value vq₇ headIdx
    rw [← hentries]
    exact ⟨desc, headIdx, rfl⟩

theorem vqRingFreeChainLoop_control (desc : Nat → VringDesc) (fuel dp ndescs : Nat) (vq : Virtqueue)
    {result : Nat × Nat × Virtqueue}
    (hloop : vqRingFreeChainLoop desc fuel dp ndescs vq = some result) :
    result.2.2.control = vq.control := by
  induction fuel generalizing dp ndescs vq with
  | zero => cases hloop
  | succ fuel ih =>
      unfold vqRingFreeChainLoop at hloop
      split_ifs at hloop
      · obtain rfl := Option.some.inj hloop
        rfl
      · exact ih _ _ (vq.assertValidIdx _) hloop

theorem vqRingFreeChain_control {descIdx : Nat}
    (hfree : vqRingFreeChain vr vq descIdx = some (vr', vq')) : vq'.control = vq.control := by
  have hterm : ∀ vq : Virtqueue,
      (if vq.vqFreeCnt = 0 then vq.assertChainTerm else vq).control = vq.control := by
    intro vq
    split_ifs <;> rfl
  unfold vqRingFreeChain at hfree
  dsimp only at hfree
  split at hfree
  · obtain ⟨⟨dp, ndescs, last⟩, hloop, hrest⟩ := Option.bind_eq_some_iff.mp hfree
    obtain rfl := congrArg Prod.snd (Option.some.inj hrest)
    have hcontrol := vqRingFreeChainLoop_control _ _ _ _ _ hloop
    exact hcontrol.trans (hterm (vq.assertValidIdx descIdx))
  · obtain ⟨⟨dp, ndescs, last⟩, hlast, hrest⟩ := Option.bind_eq_some_iff.mp hfree
    obtain rfl := congrArg Prod.snd (Option.some.inj hrest)
    obtain ⟨-, -, rfl⟩ := Option.some.inj hlast
    exact hterm (vq.assertValidIdx descIdx)

/-- Taking back a buffer writes a link of the descriptor table and moves the consumer's index. -/
theorem virtqueueGetBuffer_frame {used : Option UsedBuffer}
    (hget : virtqueueGetBuffer vr vq = some (vr', vq', used)) :
    ∃ desc cons, vr' = { vr with desc } ∧
      vq'.control = { vq.control with vqUsedConsIdx := cons } := by
  unfold virtqueueGetBuffer at hget
  split_ifs at hget
  · obtain ⟨rfl, hrest⟩ := Prod.mk.inj (Option.some.inj hget)
    obtain ⟨rfl, -⟩ := Prod.mk.inj hrest
    exact ⟨vr.desc, vq.vqUsedConsIdx, rfl, rfl⟩
  · obtain ⟨⟨freed, vq₁⟩, hfree, hrest⟩ := Option.bind_eq_some_iff.mp hget
    obtain ⟨dp, next, rfl⟩ := vqRingFreeChain_vring hfree
    have hcontrol := vqRingFreeChain_control hfree
    obtain ⟨rfl, hqueue⟩ := Prod.mk.inj (Option.some.inj hrest)
    obtain ⟨rfl, -⟩ := Prod.mk.inj hqueue
    exact ⟨_, u16 (vq.vqUsedConsIdx + 1), rfl, hcontrol⟩

theorem virtqueueGetAvailableBuffer_control (vr : Vring) (vq : Virtqueue) :
    ∃ idx, (virtqueueGetAvailableBuffer vr vq).1.control =
      { vq.control with vqAvailableIdx := idx } := by
  unfold virtqueueGetAvailableBuffer
  split_ifs
  · exact ⟨vq.vqAvailableIdx, rfl⟩
  · exact ⟨u16 (vq.vqAvailableIdx + 1), rfl⟩

end OpenAmp
