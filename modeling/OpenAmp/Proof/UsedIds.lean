import OpenAmp.RingSystem
import OpenAmp.Proof.RingInvariant

/-!
# The ids in the used ring

The slave may hand back any index, and the master uses what it finds in the used ring to index its
descriptors. The only call that writes an id is `virtqueue_add_consumed_buffer`, so that what it lets
through decides.
-/

namespace OpenAmp

section Frame

/-- A call on a ring of `n` entries that leaves the entries of the used ring and the sizes alone. -/
structure SameUsed (n : Nat) (vr vr' : Vring) (vq vq' : Virtqueue) : Prop where
  ring : ∀ i < n, vr'.used.ring i = vr.used.ring i
  num : vr'.num = vr.num
  nentries : vq'.vqNentries = vq.vqNentries

variable {n : Nat} {vr vr' : Vring} {vq vq' : Virtqueue}

theorem SameUsed.of_eq (hused : vr'.used = vr.used) (hnum : vr'.num = vr.num)
    (hnentries : vq'.vqNentries = vq.vqNentries) : SameUsed n vr vr' vq vq' :=
  ⟨fun i _ => by rw [hused], hnum, hnentries⟩

theorem vqRingAddBufferLoop_nentries (bufList : Nat → VirtqueueBuf) (readable needed : Int)
    (left i : Nat) (desc : Nat → VringDesc) (vq : Virtqueue) (idx : Nat) :
    (vqRingAddBufferLoop bufList readable needed left i desc vq idx).2.1.vqNentries =
      vq.vqNentries := by
  induction left generalizing i desc vq idx with
  | zero => rfl
  | succ left ih => exact ih _ _ _ _

theorem sameUsed_addBuffer (bufList : Nat → VirtqueueBuf) (readable writable : Int)
    (cookie : Nat) :
    SameUsed n vr (virtqueueAddBuffer vr vq bufList readable writable cookie).1 vq
      (virtqueueAddBuffer vr vq bufList readable writable cookie).2.1 := by
  refine .of_eq rfl rfl ?_
  unfold virtqueueAddBuffer
  extract_lets needed vq₁ headIdx vq₂ vq₃ vq₄
  have hloop : (vqRingAddBufferLoop bufList readable needed needed.toNat 0 vr.desc vq₄
      headIdx).2.1.vqNentries = vq.vqNentries := vqRingAddBufferLoop_nentries ..
  split
  next desc vq₅ idx heq =>
    rw [heq] at hloop
    extract_lets vq₆ vq₇
    have hassert : vq₇.vqNentries = vq₅.vqNentries := by
      simp only [vq₇]
      split_ifs <;> rfl
    exact hassert.trans hloop

theorem vqRingFreeChainLoop_nentries (desc : Nat → VringDesc) (fuel dp ndescs : Nat)
    (vq : Virtqueue) {result : Nat × Nat × Virtqueue}
    (hloop : vqRingFreeChainLoop desc fuel dp ndescs vq = some result) :
    result.2.2.vqNentries = vq.vqNentries := by
  induction fuel generalizing dp ndescs vq with
  | zero => exact absurd hloop nofun
  | succ fuel ih =>
      unfold vqRingFreeChainLoop at hloop
      split_ifs at hloop
      · obtain rfl := Option.some.inj hloop
        rfl
      · exact ih _ _ (vq.assertValidIdx _) hloop

theorem sameUsed_freeChain {descIdx : Nat}
    (hfree : vqRingFreeChain vr vq descIdx = some (vr', vq')) : SameUsed n vr vr' vq vq' := by
  have hterm : ∀ vq : Virtqueue,
      (if vq.vqFreeCnt = 0 then vq.assertChainTerm else vq).vqNentries = vq.vqNentries := by
    intro vq
    split_ifs <;> rfl
  unfold vqRingFreeChain at hfree
  dsimp only at hfree
  split at hfree
  · obtain ⟨⟨dp, ndescs, last⟩, hloop, hrest⟩ := Option.bind_eq_some_iff.mp hfree
    obtain ⟨rfl, rfl⟩ := Prod.mk.inj (Option.some.inj hrest)
    have hnentries := vqRingFreeChainLoop_nentries _ _ _ _ _ hloop
    exact .of_eq rfl rfl (hnentries.trans (hterm (vq.assertValidIdx descIdx)))
  · obtain ⟨⟨dp, ndescs, last⟩, hlast, hrest⟩ := Option.bind_eq_some_iff.mp hfree
    obtain ⟨rfl, rfl⟩ := Prod.mk.inj (Option.some.inj hrest)
    obtain ⟨-, -, rfl⟩ := Option.some.inj hlast
    exact .of_eq rfl rfl (hterm (vq.assertValidIdx descIdx))

theorem sameUsed_getBuffer {buffer : Option UsedBuffer}
    (hget : virtqueueGetBuffer vr vq = some (vr', vq', buffer)) : SameUsed n vr vr' vq vq' := by
  unfold virtqueueGetBuffer at hget
  split at hget
  · obtain ⟨rfl, rfl, -⟩ := Option.some.inj hget
    exact .of_eq rfl rfl rfl
  · obtain ⟨⟨last, vqLast⟩, hfree, hrest⟩ := Option.bind_eq_some_iff.mp hget
    obtain ⟨rfl, rfl, -⟩ := Option.some.inj hrest
    obtain ⟨hring, hnum, hnentries⟩ := sameUsed_freeChain (n := n) hfree
    exact ⟨hring, hnum, hnentries⟩

theorem getAvailableBuffer_nentries :
    (virtqueueGetAvailableBuffer vr vq).1.vqNentries = vq.vqNentries := by
  unfold virtqueueGetAvailableBuffer
  split_ifs
  · rfl
  · rfl

theorem sameUsed_setVringAvailEvent (hn : vr.num = n) (event : Nat) :
    SameUsed n vr (setVringAvailEvent vr event) vq vq := by
  refine ⟨fun i hi => ?_, rfl, rfl⟩
  unfold setVringAvailEvent
  exact Function.update_of_ne (by omega) _ _

theorem sameUsed_disableCb (hn : vr.num = n) :
    SameUsed n vr (virtqueueDisableCb vr vq).1 vq (virtqueueDisableCb vr vq).2 := by
  have hevent : ∀ event, SameUsed n vr (setVringAvailEvent vr event) vq vq :=
    sameUsed_setVringAvailEvent hn
  unfold virtqueueDisableCb
  dsimp only
  split
  · cases vq.busy.role with
    | master => exact .of_eq rfl rfl rfl
    | slave => exact ⟨(hevent _).ring, rfl, rfl⟩
  · cases vq.busy.role with
    | master => exact .of_eq rfl rfl rfl
    | slave => exact ⟨fun _ _ => rfl, rfl, rfl⟩

theorem sameUsed_enableCb (hn : vr.num = n) :
    SameUsed n vr (virtqueueEnableCb vr vq).1 vq (virtqueueEnableCb vr vq).2.1 := by
  have hevent : ∀ event, SameUsed n vr (setVringAvailEvent vr event) vq vq :=
    sameUsed_setVringAvailEvent hn
  unfold virtqueueEnableCb vqRingEnableInterrupt
  dsimp only
  split
  · cases vq.role with
    | master => exact .of_eq rfl rfl rfl
    | slave => exact ⟨(hevent _).ring, rfl, rfl⟩
  · cases vq.role with
    | master => exact .of_eq rfl rfl rfl
    | slave => exact ⟨fun _ _ => rfl, rfl, rfl⟩

theorem ringMask_of_pos (hpos : 0 < n) (hlt : n < 2 ^ 16) : ringMask n = n - 1 := by
  unfold ringMask u32
  omega

/-- An index into the ring is below its size, also where the size is no power of two. -/
theorem and_ringMask_lt (hpos : 0 < n) (hlt : n < 2 ^ 16) (idx : Nat) : idx &&& ringMask n < n := by
  have hle : idx &&& ringMask n ≤ ringMask n := Nat.and_le_right
  rw [ringMask_of_pos hpos hlt] at hle ⊢
  omega

end Frame

/-! ### Runs -/

/-- Every id in the used ring is an index of a descriptor, and so is the one `virtqueue_get_buffer`
will read next and use for `vq_descx` and `vq_ring_free_chain`. -/
structure RingSystem.UsedIdsOk (n : Nat) (s : RingSystem) : Prop where
  published : ∀ i < n, (s.vring.used.ring i).id < n
  next : u16 (s.vring.used.ring (s.master.vqUsedConsIdx &&& ringMask s.master.vqNentries)).id < n

/-- A call of `virtqueue_add_consumed_buffer` that is rejected changes nothing. -/
def RingSystem.RejectsUnchanged (s : RingSystem) (headIdx len : Nat) : Prop :=
  (virtqueueAddConsumedBuffer s.vring s.slave headIdx len).2.2 ≠ VQUEUE_SUCCESS →
    (virtqueueAddConsumedBuffer s.vring s.slave headIdx len).1 = s.vring ∧
      (virtqueueAddConsumedBuffer s.vring s.slave headIdx len).2.1 = s.slave

/-- What a call is to keep. -/
structure RingCall.Safe (n : Nat) (s : RingSystem) (call : RingCall) : Prop where
  after : ∀ s', s.stepCall call = some s' → s'.UsedIdsOk n
  rejected : ∀ headIdx len, s.consumes call = some headIdx → s.RejectsUnchanged headIdx len

/-- The sizes that both sides work with, and the ids. -/
structure UsedIdsInv (n : Nat) (s : RingSystem) : Prop where
  num : s.vring.num = n
  master : s.master.vqNentries = n
  slave : s.slave.vqNentries = n
  published : ∀ i < n, (s.vring.used.ring i).id < n

section Runs

variable {n : Nat} {s s' : RingSystem}

theorem UsedIdsInv.usedIdsOk (h : UsedIdsInv n s) (hpos : 0 < n) (hlt : n < 2 ^ 16) :
    s.UsedIdsOk n := by
  refine ⟨h.published, ?_⟩
  have hslot := h.published _ (and_ringMask_lt hpos hlt s.master.vqUsedConsIdx)
  rw [h.master, u16]
  omega

theorem RingSystem.rejectsUnchanged (s : RingSystem) (headIdx len : Nat) :
    s.RejectsUnchanged headIdx len := by
  unfold RingSystem.RejectsUnchanged virtqueueAddConsumedBuffer
  split_ifs
  · exact fun _ => ⟨rfl, rfl⟩
  · exact fun hne => absurd rfl hne

/-- What the slave hands back shows in the used ring if it is not beyond the size. -/
theorem used_addConsumedBuffer {vr : Vring} {vq : Virtqueue} (hvq : vq.vqNentries = n)
    (headIdx len i : Nat) :
    ((virtqueueAddConsumedBuffer vr vq headIdx len).1.used.ring i).id =
      if headIdx ≤ n ∧ i = vr.used.idx &&& ringMask n then headIdx else (vr.used.ring i).id := by
  unfold virtqueueAddConsumedBuffer
  rw [hvq]
  by_cases hle : headIdx ≤ n
  · have hbusy : vq.busy.vqNentries = n := hvq
    rw [if_neg (Nat.not_lt.mpr hle)]
    by_cases hi : i = vr.used.idx &&& ringMask n
    · simp [hle, hi, hbusy]
    · simp [hi, hbusy, Function.update_of_ne]
  · rw [if_pos (Nat.not_le.mp hle), if_neg (fun h => hle h.1)]

theorem sizes_addConsumedBuffer (vr : Vring) (vq : Virtqueue) (headIdx len : Nat) :
    (virtqueueAddConsumedBuffer vr vq headIdx len).1.num = vr.num ∧
      (virtqueueAddConsumedBuffer vr vq headIdx len).2.1.vqNentries = vq.vqNentries := by
  unfold virtqueueAddConsumedBuffer
  split_ifs
  · exact ⟨rfl, rfl⟩
  · exact ⟨rfl, rfl⟩

/-- A call that hands nothing back. -/
theorem UsedIdsInv.step_other (h : UsedIdsInv n s) {action : RingAction}
    (hnone : s.consumes (.ring action) = none) (hstep : s.step action = some s') :
    UsedIdsInv n s' := by
  have hmaster : ∀ {vring master}, SameUsed n s.vring vring s.master master →
      ∀ {added got}, UsedIdsInv n { s with vring, master, added, got } := by
    intro vring master hsame added got
    refine ⟨hsame.num.trans h.num, hsame.nentries.trans h.master, h.slave, fun i hi => ?_⟩
    rw [hsame.ring i hi]
    exact h.published i hi
  have hslave : ∀ {vring slave}, SameUsed n s.vring vring s.slave slave →
      UsedIdsInv n { s with vring, slave } := by
    intro vring slave hsame
    refine ⟨hsame.num.trans h.num, h.master, hsame.nentries.trans h.slave, fun i hi => ?_⟩
    rw [hsame.ring i hi]
    exact h.published i hi
  cases action with
  | addBuffer bufList readable writable cookie =>
      obtain rfl := Option.some.inj hstep
      exact hmaster (sameUsed_addBuffer bufList readable writable cookie)
  | getBuffer =>
      obtain ⟨⟨vring, master, buffer⟩, hget, hrest⟩ := Option.bind_eq_some_iff.mp hstep
      obtain rfl := Option.some.inj hrest
      exact hmaster (sameUsed_getBuffer hget)
  | getAvailableBuffer =>
      simp only [RingSystem.step, Option.some.injEq] at hstep
      subst hstep
      exact ⟨h.num, h.master, getAvailableBuffer_nentries.trans h.slave, h.published⟩
  | addConsumedBuffer position len => exact absurd hnone nofun
  | enableCb role =>
      cases role with
      | master =>
          obtain rfl := Option.some.inj hstep
          exact hmaster (sameUsed_enableCb h.num)
      | slave =>
          obtain rfl := Option.some.inj hstep
          exact hslave (sameUsed_enableCb h.num)
  | disableCb role =>
      cases role with
      | master =>
          obtain rfl := Option.some.inj hstep
          exact hmaster (sameUsed_disableCb h.num)
      | slave =>
          obtain rfl := Option.some.inj hstep
          exact hslave (sameUsed_disableCb h.num)
  | kick role =>
      cases role with
      | master =>
          obtain rfl := Option.some.inj hstep
          exact ⟨h.num, h.master, h.slave, h.published⟩
      | slave =>
          obtain rfl := Option.some.inj hstep
          exact ⟨h.num, h.master, h.slave, h.published⟩

theorem UsedIdsInv.consume (h : UsedIdsInv n s) {headIdx : Nat} (hhead : headIdx ≠ n) (len : Nat)
    {held : List Nat} {returned : List (Nat × Nat)} :
    UsedIdsInv n { s with
      vring := (virtqueueAddConsumedBuffer s.vring s.slave headIdx len).1
      slave := (virtqueueAddConsumedBuffer s.vring s.slave headIdx len).2.1
      held, returned } := by
  obtain ⟨hnum, hnentries⟩ := sizes_addConsumedBuffer s.vring s.slave headIdx len
  refine ⟨hnum.trans h.num, h.master, hnentries.trans h.slave, fun i hi => ?_⟩
  simp only [used_addConsumedBuffer h.slave]
  split_ifs with hwritten
  · omega
  · exact h.published i hi

theorem not_usedIdsOk_consume (hpos : 0 < n) (hlt : n < 2 ^ 16) (h : UsedIdsInv n s) (len : Nat)
    {slave : Virtqueue} {held : List Nat} {returned : List (Nat × Nat)} :
    ¬ RingSystem.UsedIdsOk n { s with
      vring := (virtqueueAddConsumedBuffer s.vring s.slave n len).1
      slave, held, returned } := by
  intro hok
  have hslot := hok.published _ (and_ringMask_lt hpos hlt s.vring.used.idx)
  simp only [used_addConsumedBuffer h.slave, and_self, le_refl, if_true] at hslot
  exact Nat.lt_irrefl n hslot

theorem UsedIdsInv.stepCall (h : UsedIdsInv n s) {call : RingCall}
    (hcall : s.consumes call ≠ some n) (hstep : s.stepCall call = some s') : UsedIdsInv n s' := by
  cases call with
  | addConsumedBuffer headIdx len =>
      obtain rfl := Option.some.inj hstep
      exact h.consume (fun heq => hcall (congrArg some heq)) len
  | ring action =>
      cases hconsumes : s.consumes (.ring action) with
      | none => exact h.step_other hconsumes hstep
      | some headIdx =>
          cases action with
          | addConsumedBuffer position len =>
              obtain rfl := Option.some.inj hstep
              exact h.consume (fun heq => hcall (congrArg some heq)) len
          | addBuffer | getBuffer | getAvailableBuffer | enableCb | disableCb | kick =>
              exact absurd hconsumes nofun

theorem UsedIdsInv.safe_iff (hpos : 0 < n) (hlt : n < 2 ^ 16) (h : UsedIdsInv n s)
    (call : RingCall) : call.Safe n s ↔ s.consumes call ≠ some n := by
  constructor
  · intro hsafe hcall
    cases call with
    | addConsumedBuffer headIdx len =>
        have hafter := hsafe.after _ rfl
        rw [Option.some.inj hcall] at hafter
        exact not_usedIdsOk_consume hpos hlt h len hafter
    | ring action =>
        cases action with
        | addConsumedBuffer position len =>
            have hafter := hsafe.after _ rfl
            rw [Option.some.inj hcall] at hafter
            exact not_usedIdsOk_consume hpos hlt h len hafter
        | addBuffer | getBuffer | getAvailableBuffer | enableCb | disableCb | kick =>
            exact absurd hcall nofun
  · intro hcall
    refine ⟨fun s' hstep => ?_, fun headIdx len _ => s.rejectsUnchanged headIdx len⟩
    exact (h.stepCall hcall hstep).usedIdsOk hpos hlt

theorem usedIdsInv_create (hpos : 0 < n) (masterFeatures slaveFeatures : Nat)
    (masterIo slaveIo : MetalIo) :
    UsedIdsInv n (RingSystem.create n masterFeatures slaveFeatures masterIo slaveIo) :=
  ⟨rfl, rfl, rfl, fun _ _ => hpos⟩

/-- Along every run, whatever the slave hands back, the ids in the used ring stay in range exactly as
long as no call hands back the size of the ring. -/
theorem used_ids_in_range (n masterFeatures slaveFeatures : Nat) (masterIo slaveIo : MetalIo)
    (hpos : 0 < n) (hlt : n < 2 ^ 16) (calls : List RingCall) :
    Run.Along RingSystem.stepCall (fun s call => call.Safe n s)
        (RingSystem.create n masterFeatures slaveFeatures masterIo slaveIo) calls ↔
      Run.Along RingSystem.stepCall (fun s call => s.consumes call ≠ some n)
        (RingSystem.create n masterFeatures slaveFeatures masterIo slaveIo) calls := by
  refine Run.along_iff (P := UsedIdsInv n) (fun s call h => h.safe_iff hpos hlt call) ?_
    (usedIdsInv_create hpos masterFeatures slaveFeatures masterIo slaveIo)
  exact fun s call s' h hcall hstep => h.stepCall hcall hstep

end Runs

theorem used_ids_in_range_two_entries :
    Run.Along RingSystem.stepCall (fun s call => call.Safe 2 s)
      (RingSystem.create 2 0 0 ⟨id, id⟩ ⟨id, id⟩)
      [.addConsumedBuffer 1 0, .ring .getBuffer, .addConsumedBuffer 65535 0] := by
  apply (used_ids_in_range 2 0 0 ⟨id, id⟩ ⟨id, id⟩ (by decide) (by decide) _).mpr
  refine ⟨by decide, fun s' _ => ⟨nofun, fun s'' _ => ⟨?_, fun _ _ => trivial⟩⟩⟩
  exact fun heq => absurd (Option.some.inj heq) (by decide)

/-- The size of the ring itself passes the check. -/
theorem used_id_out_of_range :
    ¬ Run.Along RingSystem.stepCall (fun s call => call.Safe 2 s)
      (RingSystem.create 2 0 0 ⟨id, id⟩ ⟨id, id⟩) [.addConsumedBuffer 2 0] := by
  rintro ⟨hsafe, -⟩
  exact absurd ((hsafe.after _ rfl).published 0 (by decide)) (by decide)

end OpenAmp
