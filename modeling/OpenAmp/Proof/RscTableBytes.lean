import OpenAmp.RscTableBytes
import OpenAmp.Proof.NotifyIds

/-!
# How far the parser reaches

Every access is measured by where it ends, and a run by the farthest of them. No handler writes below
the second word of an entry, so the count in the header never changes, and the loop reads exactly the
offsets below it. How far an entry reaches is decided by its type and its vrings alone.
-/

namespace OpenAmp

open ByteMemory

/-! ### The farthest access -/

def reach (accesses : List RscAccess) : Nat :=
  (accesses.map fun access => access.offset + access.len).foldr max 0

theorem reach_append (first rest : List RscAccess) :
    reach (first ++ rest) = max (reach first) (reach rest) := by
  induction first with
  | nil => simp [reach]
  | cons access first ih =>
      simp only [reach, List.cons_append, List.map_cons, List.foldr_cons] at ih ⊢
      rw [ih, Nat.max_assoc]

theorem forall_inside_iff {accesses : List RscAccess} {size : Nat} :
    (∀ access ∈ accesses, access.Inside size) ↔ reach accesses ≤ size := by
  induction accesses with
  | nil => simp [reach]
  | cons access accesses ih =>
      rw [List.forall_mem_cons, ih]
      simp only [reach, List.map_cons, List.foldr_cons, Nat.max_le]
      exact Iff.rfl

namespace RscState

variable {s : RscState} {part : RscPart} {offset len rsc id : Nat}

@[simp] theorem mem_log : (s.log part offset len).mem = s.mem := rfl

@[simp] theorem field_log (offset' len' : Nat) :
    (s.log part offset len).field offset' len' = s.field offset' len' := rfl

@[simp] theorem reach_log :
    reach (s.log part offset len).accesses = max (reach s.accesses) (offset + len) := by
  rw [log, reach_append]
  simp [reach]

theorem mem_accesses_log {access : RscAccess} :
    access ∈ (s.log part offset len).accesses ↔
      access ∈ s.accesses ∨ access = ⟨part, offset, len⟩ := by
  simp [log]

theorem field_lt (s : RscState) (offset len : Nat) : s.field offset len < 256 ^ len := by
  have hlt := leValue_lt (readBytes s.mem offset len)
  rwa [length_readBytes] at hlt

/-- A field depends on its own bytes. -/
theorem field_congr {s' : RscState} (h : ∀ i < len, s'.mem (offset + i) = s.mem (offset + i)) :
    s'.field offset len = s.field offset len := by
  rw [field, field, readBytes_congr h]

theorem mem_write_of_lt {a value : Nat} (h : a < offset) :
    (s.write part offset value).mem a = s.mem a :=
  writeBytes_apply_of_lt h

theorem mem_write_of_le {a value : Nat} (h : offset + 4 ≤ a) :
    (s.write part offset value).mem a = s.mem a := by
  apply writeBytes_apply_of_le
  rwa [length_leBytes]

@[simp] theorem accesses_write {value : Nat} :
    (s.write part offset value).accesses = (s.log part offset 4).accesses := rfl

@[simp] theorem mem_allocateId : (s.allocateId id).1.mem = s.mem := rfl

@[simp] theorem accesses_allocateId : (s.allocateId id).1.accesses = s.accesses := rfl

end RscState

/-! ### What a handler does -/

/-- From `s` to `s'`, the entry at `rsc` has been used up to `last`: only its own bytes are changed,
and none before its third word. -/
structure Used (rsc last : Nat) (s s' : RscState) : Prop where
  below : ∀ a < rsc + 8, s'.mem a = s.mem a
  above : ∀ a, rsc + 12 ≤ a → s'.mem a = s.mem a
  reach : reach s'.accesses = max (reach s.accesses) last
  entry : ∀ access ∈ s'.accesses, access ∈ s.accesses ∨ access.part = .entry

section Handlers

variable {ops : RscOps} {s s' s'' : RscState} {rsc last last' : Nat}

theorem Used.trans (h : Used rsc last s s') (h' : Used rsc last' s' s'') :
    Used rsc (max last last') s s'' where
  below a ha := (h'.below a ha).trans (h.below a ha)
  above a ha := (h'.above a ha).trans (h.above a ha)
  reach := by rw [h'.reach, h.reach, Nat.max_assoc]
  entry access hmem := (h'.entry access hmem).elim (h.entry access) .inr

theorem used_self (s : RscState) : Used rsc 0 s s where
  below _ _ := rfl
  above _ _ := rfl
  reach := by simp
  entry _ := .inl

theorem used_log (s : RscState) (offset len : Nat) :
    Used rsc (offset + len) s (s.log .entry offset len) where
  below _ _ := rfl
  above _ _ := rfl
  reach := RscState.reach_log
  entry access hmem := by
    rcases RscState.mem_accesses_log.mp hmem with hold | rfl
    · exact .inl hold
    · exact .inr rfl

/-- The same reach, in other words. -/
theorem Used.of_eq (h : Used rsc last s s') (heq : last = last') : Used rsc last' s s' := heq ▸ h

theorem Used.field {offset len : Nat} (h : Used rsc last s s')
    (hfield : offset + len ≤ rsc + 8 ∨ rsc + 12 ≤ offset) :
    s'.field offset len = s.field offset len := by
  apply RscState.field_congr
  intro i hi
  rcases hfield with hbelow | habove
  · exact h.below _ (by omega)
  · exact h.above _ (by omega)

theorem used_carveOut : Used rsc (rsc + 24) s (handleCarveOutRscAt ops s rsc).1 := by
  unfold handleCarveOutRscAt
  dsimp only [RscState.read]
  by_cases hreserved : s.field (rsc + 20) 4 ≠ 0
  · rw [if_pos hreserved]
    exact used_log s (rsc + 20) 4
  · rw [if_neg hreserved]
    refine (((((used_log s (rsc + 20) 4).trans (used_log _ (rsc + 8) 4)).trans
      (used_log _ (rsc + 4) 4)).trans (used_log _ (rsc + 12) 4)).trans
        (used_log _ (rsc + 16) 4)).of_eq ?_
    omega

theorem used_vendor (type : Nat) :
    Used rsc (if ops.handleRsc.isSome then rsc + 8 else 0) s (handleVendorRscAt ops s rsc type).1 := by
  unfold handleVendorRscAt
  cases ops.handleRsc with
  | none => exact used_self s
  | some handle => exact used_log s (rsc + 4) 4

theorem used_trace :
    Used rsc (if s.field (rsc + 4) 4 = FW_RSC_U32_ADDR_ANY then rsc + 8 else rsc + 12) s
      (handleTraceRscAt s rsc).1 := by
  unfold handleTraceRscAt
  dsimp only [RscState.read]
  by_cases hany : s.field (rsc + 4) 4 = FW_RSC_U32_ADDR_ANY
  · rw [if_pos hany, if_pos hany]
    exact used_log s (rsc + 4) 4
  · rw [if_neg hany, if_neg hany]
    refine ((used_log s (rsc + 4) 4).trans (used_log _ (rsc + 8) 4)).of_eq ?_
    omega

theorem used_allocateId (notifyid : Nat) : Used rsc 0 s (s.allocateId notifyid).1 := by
  have hmem : (s.allocateId notifyid).1.mem = s.mem := RscState.mem_allocateId
  have haccesses : (s.allocateId notifyid).1.accesses = s.accesses := RscState.accesses_allocateId
  generalize (s.allocateId notifyid).1 = s' at hmem haccesses ⊢
  refine ⟨fun _ _ => by rw [hmem], fun _ _ => by rw [hmem], by simp [haccesses], ?_⟩
  intro access hold
  exact .inl (haccesses ▸ hold)

theorem used_write (value : Nat) (hlast : rsc + 12 ≤ reach s.accesses) :
    Used rsc 0 s (s.write .entry (rsc + 8) value) where
  below _ ha := RscState.mem_write_of_lt ha
  above _ ha := RscState.mem_write_of_le (by omega)
  reach := by
    rw [RscState.accesses_write, RscState.reach_log]
    omega
  entry access hmem := by
    rw [RscState.accesses_write, RscState.mem_accesses_log] at hmem
    exact hmem.imp_right fun heq => by rw [heq]

/-- The id is stored in the third word of the entry, whatever field it was read from. -/
theorem used_notifyId (field : Nat) (hlast : rsc + 12 ≤ max (reach s.accesses) (field + 4)) :
    Used rsc (field + 4) s (handleNotifyIdAt s rsc field) := by
  unfold handleNotifyIdAt
  dsimp only [RscState.read]
  have hread := @used_log rsc s field 4
  have hallocated := hread.trans (@used_allocateId (s.log .entry field 4) rsc (s.field field 4))
  generalize (s.log .entry field 4).allocateId (s.field field 4) = allocated at hallocated ⊢
  by_cases hany : allocated.2 ≠ RSC_NOTIFY_ID_ANY
  · rw [if_pos hany]
    refine (hallocated.trans (used_write allocated.2 ?_)).of_eq (by omega)
    rw [hallocated.reach]
    omega
  · rw [if_neg hany]
    exact hallocated.of_eq (by omega)

theorem used_vrings (count : Nat) (hlast : rsc + 12 ≤ reach s.accesses) :
    Used rsc (if count = 0 then 0 else rsc + 24 + 20 * count) s
      ((List.range count).foldl (fun s i => handleNotifyIdAt s rsc (vringNotifyId rsc i)) s) := by
  induction count with
  | zero => exact used_self s
  | succ count ih =>
      rw [List.range_succ, List.foldl_append, List.foldl_cons, List.foldl_nil]
      refine (ih.trans (used_notifyId (vringNotifyId rsc count) ?_)).of_eq ?_
      · rw [ih.reach]
        omega
      · rw [if_neg (Nat.succ_ne_zero count), vringNotifyId]
        split_ifs <;> omega

theorem used_vdev :
    Used rsc (rsc + max 26 (24 + 20 * s.field (rsc + 25) 1)) s (handleVdevRscAt s rsc).1 := by
  unfold handleVdevRscAt
  dsimp only [RscState.read]
  have hid := @used_notifyId s rsc (rsc + 8) (by omega)
  have hcount := hid.trans (used_log _ (rsc + 25) 1)
  rw [hid.field (.inr (by omega))]
  refine (hcount.trans (used_vrings (s.field (rsc + 25) 1) ?_)).of_eq ?_
  · rw [hcount.reach]
    omega
  · split_ifs <;> omega

/-- An entry is used as far as its type says. -/
theorem used_rsc (status : Int) :
    Used rsc (rsc + s.extent ops rsc) s
      (handleRscAt ops (s.log .entry rsc 4) status rsc (s.field rsc 4)).1 := by
  have htype := @used_log rsc s rsc 4
  unfold handleRscAt RscState.extent
  dsimp only
  by_cases hcarveout : s.field rsc 4 = RSC_CARVEOUT
  · rw [if_pos hcarveout, if_pos hcarveout]
    exact (htype.trans used_carveOut).of_eq (by omega)
  rw [if_neg hcarveout, if_neg hcarveout]
  by_cases hdevmem : s.field rsc 4 = RSC_DEVMEM
  · rw [if_pos hdevmem, hdevmem]
    exact htype
  rw [if_neg hdevmem]
  by_cases htrace : s.field rsc 4 = RSC_TRACE
  · rw [if_pos htrace, if_pos htrace]
    refine (htype.trans used_trace).of_eq ?_
    rw [RscState.field_log]
    split_ifs <;> omega
  rw [if_neg htrace, if_neg htrace]
  by_cases hvdev : s.field rsc 4 = RSC_VDEV
  · rw [if_pos hvdev, if_pos hvdev]
    refine (htype.trans used_vdev).of_eq ?_
    rw [RscState.field_log]
    omega
  rw [if_neg hvdev, if_neg hvdev]
  by_cases hvendor : RSC_VENDOR_START ≤ s.field rsc 4 ∧ s.field rsc 4 ≤ RSC_VENDOR_END
  · rw [if_pos hvendor]
    refine (htype.trans (used_vendor _)).of_eq ?_
    cases ops.handleRsc with
    | none => simp
    | some handle => simp [hvendor]
  · rw [if_neg hvendor, if_neg fun hsome => hvendor ⟨hsome.1, hsome.2.1⟩]
    exact htype

end Handlers

/-! ### The loops -/

/-- What a round leaves behind. -/
def RscLoop.after : RscLoop ⊕ (RscState × Int) → RscState
  | .inl l => l.s
  | .inr (s, _) => s

namespace RscLoop

variable {ops : RscOps} {io : Option (Nat → Bool)} {l l' : RscLoop} {size : Nat}

/-- The state of a round that has read the count and its offset. -/
def opened (l : RscLoop) : RscState :=
  (l.s.log .header 4 4).log .offset (16 + 4 * l.idx) 4

theorem inRegion_iff : l.InRegion io ↔ ¬ io.any (fun inside => !inside l.offset) := by
  cases io <;> simp [InRegion]

theorem body_of_le (h : l.s.num ≤ l.idx) :
    body ops io l = .inr (l.s.log .header 4 4, l.status) := by
  unfold body
  dsimp only [RscState.read]
  exact if_neg (Nat.not_lt.mpr h)

theorem body_of_rejected (h : l.idx < l.s.num) (hregion : ¬ l.InRegion io) :
    body ops io l = .inr (l.opened, -RPROC_ERR_RSC_TAB_TRUNC) := by
  unfold body
  dsimp only [RscState.read]
  have hlt : l.idx < l.s.field 4 4 := h
  rw [if_pos hlt, if_pos]
  · rfl
  · exact not_not.mp (mt inRegion_iff.mpr hregion)

/-- What the handler makes of the entry. -/
def handled (ops : RscOps) (l : RscLoop) : RscState × Int :=
  handleRscAt ops (l.opened.log .entry l.offset 4) l.status l.offset (l.opened.field l.offset 4)

theorem body_of_handled (h : l.idx < l.s.num) (hregion : l.InRegion io) :
    body ops io l =
      if (l.handled ops).2 = -RPROC_ERR_RSC_TAB_NS then .inl ⟨l.idx + 1, 0, (l.handled ops).1⟩
      else if (l.handled ops).2 ≠ 0 then .inr (l.handled ops)
      else .inl ⟨l.idx + 1, (l.handled ops).2, (l.handled ops).1⟩ := by
  unfold body
  dsimp only [RscState.read]
  have hlt : l.idx < l.s.field 4 4 := h
  rw [if_pos hlt, if_neg]
  · rfl
  · exact inRegion_iff.mp hregion

theorem after_of_handled (h : l.idx < l.s.num) (hregion : l.InRegion io) :
    after (body ops io l) = (l.handled ops).1 := by
  rw [body_of_handled h hregion]
  split_ifs <;> rfl

theorem extent_opened (rsc : Nat) : l.opened.extent ops rsc = l.s.extent ops rsc := by
  unfold RscState.extent opened
  simp only [RscState.field_log]
  congr

theorem used_handled :
    Used l.offset (l.offset + l.s.extent ops l.offset) l.opened (l.handled ops).1 := by
  rw [← extent_opened]
  exact used_rsc l.status

theorem idx_of_body (hbody : body ops io l = .inl l') : l.idx < l.s.num ∧ l'.idx = l.idx + 1 := by
  by_cases hlt : l.idx < l.s.num
  · by_cases hregion : l.InRegion io
    · refine ⟨hlt, ?_⟩
      rw [body_of_handled hlt hregion] at hbody
      split_ifs at hbody
      · rw [← Sum.inl.inj hbody]
      · rw [← Sum.inl.inj hbody]
    · rw [body_of_rejected hlt hregion] at hbody
      cases hbody
  · rw [body_of_le (Nat.not_lt.mp hlt)] at hbody
    cases hbody

/-- No round changes the first two words of the table. -/
theorem mem_after {a : Nat} (ha : a < 8) : (after (body ops io l)).mem a = l.s.mem a := by
  by_cases hlt : l.idx < l.s.num
  · by_cases hregion : l.InRegion io
    · rw [after_of_handled hlt hregion]
      exact used_handled.below a (by omega)
    · rw [body_of_rejected hlt hregion]
      rfl
  · rw [body_of_le (Nat.not_lt.mp hlt)]
    rfl

theorem num_after : (after (body ops io l)).num = l.s.num := by
  apply RscState.field_congr
  intro i hi
  exact mem_after (by omega)

/-- The offsets that a round reads. -/
theorem offset_of_mem_after {access : RscAccess} (hmem : access ∈ (after (body ops io l)).accesses)
    (hpart : access.part = .offset) :
    access ∈ l.s.accesses ∨ (l.idx < l.s.num ∧ access = ⟨.offset, 16 + 4 * l.idx, 4⟩) := by
  have hheader : access ∈ (l.s.log .header 4 4).accesses → access ∈ l.s.accesses := by
    intro hold
    rcases RscState.mem_accesses_log.mp hold with hold | rfl
    · exact hold
    · cases hpart
  by_cases hlt : l.idx < l.s.num
  · have hopened : access ∈ l.opened.accesses →
        access ∈ l.s.accesses ∨ (l.idx < l.s.num ∧ access = ⟨.offset, 16 + 4 * l.idx, 4⟩) := by
      intro hold
      rcases RscState.mem_accesses_log.mp hold with hold | hoffset
      · exact .inl (hheader hold)
      · exact .inr ⟨hlt, hoffset⟩
    by_cases hregion : l.InRegion io
    · rw [after_of_handled hlt hregion] at hmem
      rcases used_handled.entry access hmem with hold | hentry
      · exact hopened hold
      · rw [hpart] at hentry
        cases hentry
    · rw [body_of_rejected hlt hregion] at hmem
      exact hopened hmem
  · rw [body_of_le (Nat.not_lt.mp hlt)] at hmem
    exact .inl (hheader hmem)

/-- How far a round reaches. -/
theorem reach_after_of_handled (h : l.idx < l.s.num) (hregion : l.InRegion io) :
    reach (after (body ops io l)).accesses =
      max (reach l.s.accesses) (max (20 + 4 * l.idx) (l.offset + l.s.extent ops l.offset)) := by
  rw [after_of_handled h hregion, used_handled.reach, opened, RscState.reach_log,
    RscState.reach_log]
  omega

theorem reach_opened : reach l.opened.accesses = max (reach l.s.accesses) (20 + 4 * l.idx) := by
  rw [opened, RscState.reach_log, RscState.reach_log]
  omega

theorem reach_le_after : reach l.s.accesses ≤ reach (after (body ops io l)).accesses := by
  by_cases hlt : l.idx < l.s.num
  · by_cases hregion : l.InRegion io
    · rw [reach_after_of_handled hlt hregion]
      exact Nat.le_max_left _ _
    · rw [body_of_rejected hlt hregion, after, reach_opened]
      exact Nat.le_max_left _ _
  · rw [body_of_le (Nat.not_lt.mp hlt), after, RscState.reach_log]
    exact Nat.le_max_left _ _

/-- A round stays inside if its entry fits or is rejected. -/
theorem reach_after_le (hreach : reach l.s.accesses ≤ size) (hnum : 16 + 4 * l.s.num ≤ size)
    (hentry : l.idx < l.s.num → l.Fits ops size ∨ ¬ l.InRegion io) :
    reach (after (body ops io l)).accesses ≤ size := by
  by_cases hlt : l.idx < l.s.num
  · by_cases hregion : l.InRegion io
    · have hfits : l.offset + l.s.extent ops l.offset ≤ size :=
        (hentry hlt).resolve_right fun hnot => hnot hregion
      rw [reach_after_of_handled hlt hregion]
      omega
    · rw [body_of_rejected hlt hregion, after, reach_opened]
      omega
  · rw [body_of_le (Nat.not_lt.mp hlt), after, RscState.reach_log]
    omega

/-- What the loop returns reaches at least as far as any of its rounds. -/
theorem reach_le_of_returns {r : RscState × Int} (hreturns : Loop.Returns (body ops io) l r) :
    reach (after (body ops io l)).accesses ≤ reach r.1.accesses := by
  cases hbody : body ops io l with
  | inr r' =>
      rw [(Loop.Returns.of_inr hbody).unique hreturns]
      exact Nat.le_refl _
  | inl l' =>
      have hrest := hreturns.of_returns hbody
      refine @Loop.Returns.along _ _ _ _ _
        (fun left => reach l'.s.accesses ≤ reach (after left).accesses) hrest (Nat.le_refl _) ?_
      exact fun t _ ht => ht.trans reach_le_after

section Rounds

variable {mem : Nat → UInt8} {bits : Nat → Bool}

theorem reach_start : reach (start mem bits).s.accesses = 16 := rfl

theorem num_start : (start mem bits).s.num = (RscState.fresh mem bits).num := rfl

theorem offset_notMem_start :
    ∀ access ∈ (start mem bits).s.accesses, access.part = .offset → access.Inside size := by
  have hheader : ∀ access ∈ (start mem bits).s.accesses, access.part = .header := by simp [start]
  intro access hmem hpart
  rw [hheader access hmem] at hpart
  cases hpart

theorem num_of_rounds (hl : Rounds ops io mem bits l) : l.s.num = (RscState.fresh mem bits).num := by
  refine @Loop.Reaches.along _ _ _ _
    (fun left => (after left).num = (RscState.fresh mem bits).num) _ hl num_start ?_
  exact fun t _ ht => num_after.trans ht

/-- The loop ends with the count. -/
theorem run_start (ops : RscOps) (io : Option (Nat → Bool)) (mem : Nat → UInt8) (bits : Nat → Bool) :
    ∃ r, Loop.run (body ops io) (2 ^ 32) (start mem bits) = some r := by
  have hlt : (RscState.fresh mem bits).num < 2 ^ 32 := RscState.field_lt _ 4 4
  have hround (t t' : RscLoop) (ht : Rounds ops io mem bits t) (hbody : body ops io t = .inl t') :
      (RscState.fresh mem bits).num - t'.idx < (RscState.fresh mem bits).num - t.idx := by
    obtain ⟨hidx, hnext⟩ := idx_of_body hbody
    rw [num_of_rounds ht] at hidx
    omega
  obtain ⟨r, hrun⟩ := Loop.returns_of_measure _ hround
  refine ⟨r, Loop.run_mono ?_ hrun⟩
  dsimp only [start]
  omega

end Rounds

end RscLoop

/-! ### The header -/

section Header

variable {ops : RscOps} {io : Option (Nat → Bool)} {size : Nat} {mem : Nat → UInt8}
  {bits : Nat → Bool}

theorem handleRscTableAt_of_passes (h : (RscState.fresh mem bits).PassesHeader size) :
    handleRscTableAt ops io size (.fresh mem bits) =
      Loop.run (RscLoop.body ops io) (2 ^ 32) (RscLoop.start mem bits) := by
  unfold handleRscTableAt
  have hoffsets : ¬ u32 (16 + (RscState.fresh mem bits).field 4 4 * 4) > size :=
    Nat.not_lt.mpr h.offsets
  simp only [RscState.read, RscState.field_log, if_neg (Nat.not_lt.mpr h.min), h.ver, hoffsets,
    h.reserved.1, h.reserved.2, ne_eq, not_true_eq_false, if_false]
  rfl

theorem reach_fresh : reach (RscState.fresh mem bits).accesses = 0 := rfl

/-- A table that is rejected has been looked at in its header only. -/
theorem handleRscTableAt_of_rejected (h : ¬ (RscState.fresh mem bits).PassesHeader size) :
    ∃ s status, handleRscTableAt ops io size (.fresh mem bits) = some (s, status) ∧ status < 0 ∧
      s.mem = mem ∧ reach s.accesses ≤ size := by
  unfold handleRscTableAt
  dsimp only [RscState.read]
  split_ifs with hsize hver hoffsets hfirst hsecond
  · exact ⟨_, _, rfl, by decide, rfl, Nat.zero_le size⟩
  · exact ⟨_, _, rfl, by decide, rfl, by simp only [RscState.reach_log, reach_fresh]; omega⟩
  · exact ⟨_, _, rfl, by decide, rfl, by simp only [RscState.reach_log, reach_fresh]; omega⟩
  · exact ⟨_, _, rfl, by decide, rfl, by simp only [RscState.reach_log, reach_fresh]; omega⟩
  · exact ⟨_, _, rfl, by decide, rfl, by simp only [RscState.reach_log, reach_fresh]; omega⟩
  · refine absurd ⟨Nat.not_lt.mp hsize, not_not.mp hver, Nat.not_lt.mp hoffsets, ?_⟩ h
    exact ⟨not_not.mp hfirst, not_not.mp hsecond⟩

/-- The parser returns, and reads offsets below the count only. -/
theorem handleRscTableAt_spec (h : (RscState.fresh mem bits).PassesHeader size)
    (hnum : 16 + 4 * (RscState.fresh mem bits).num ≤ size) :
    ∃ s status, handleRscTableAt ops io size (.fresh mem bits) = some (s, status) ∧
      s.num = (RscState.fresh mem bits).num ∧
      ∀ access ∈ s.accesses, access.part = .offset → access.Inside size := by
  obtain ⟨⟨s, status⟩, hrun⟩ := RscLoop.run_start ops io mem bits
  refine ⟨s, status, (handleRscTableAt_of_passes h).trans hrun, ?_⟩
  have hreturns : Loop.Returns (RscLoop.body ops io) (RscLoop.start mem bits) (s, status) :=
    ⟨2 ^ 32, hrun⟩
  refine @Loop.Returns.along _ _ _ _ _
    (fun left => (RscLoop.after left).num = (RscState.fresh mem bits).num ∧
      ∀ access ∈ (RscLoop.after left).accesses, access.part = .offset → access.Inside size)
    hreturns ⟨RscLoop.num_start, RscLoop.offset_notMem_start⟩ ?_
  rintro l - ⟨hl, hinside⟩
  refine ⟨RscLoop.num_after.trans hl, ?_⟩
  intro access hmem hpart
  rcases RscLoop.offset_of_mem_after hmem hpart with hold | ⟨hidx, rfl⟩
  · exact hinside access hold hpart
  · have hcount : l.s.num = (RscState.fresh mem bits).num := hl
    rw [hcount] at hidx
    show 16 + 4 * l.idx + 4 ≤ size
    omega

end Header

/-! ### `find_rsc` -/

namespace FindLoop

variable {rscType index size : Nat} {l l' : FindLoop}

def after : FindLoop ⊕ (RscState × Nat) → RscState
  | .inl l => l.s
  | .inr (s, _) => s

/-- A round reads one offset, if there is one left, and changes nothing. -/
theorem after_body :
    (after (body rscType index l)).mem = l.s.mem ∧
      (∀ access ∈ (after (body rscType index l)).accesses, access.part = .offset →
        access ∈ l.s.accesses ∨ (l.i < l.s.num ∧ access = ⟨.offset, 16 + 4 * l.i, 4⟩)) ∧
      ∀ l', body rscType index l = .inl l' → l.i < l.s.num ∧ l'.i = l.i + 1 := by
  unfold body
  dsimp only [RscState.read]
  by_cases hlt : l.i < l.s.field 4 4
  · have hnum : l.i < l.s.num := hlt
    rw [if_pos hlt]
    split_ifs
    · refine ⟨rfl, ?_, fun l' heq => nomatch heq⟩
      intro access hmem hpart
      simp only [after, RscState.mem_accesses_log] at hmem
      rcases hmem with (((hold | rfl) | hoffset) | rfl) | hoffset
      · exact .inl hold
      · cases hpart
      · exact .inr ⟨hnum, hoffset⟩
      · cases hpart
      · exact .inr ⟨hnum, hoffset⟩
    all_goals
      refine ⟨rfl, ?_, fun l' heq => ⟨hnum, by rw [← Sum.inl.inj heq]⟩⟩
      intro access hmem hpart
      simp only [after, RscState.mem_accesses_log] at hmem
      rcases hmem with ((hold | rfl) | hoffset) | rfl
      · exact .inl hold
      · cases hpart
      · exact .inr ⟨hnum, hoffset⟩
      · cases hpart
  · rw [if_neg hlt]
    refine ⟨rfl, ?_, fun l' heq => nomatch heq⟩
    intro access hmem hpart
    rcases RscState.mem_accesses_log.mp hmem with hold | rfl
    · exact .inl hold
    · cases hpart

theorem num_after : (after (body rscType index l)).num = l.s.num :=
  RscState.field_congr fun _ _ => congrFun after_body.1 _

end FindLoop

/-- `find_rsc` returns, and reads offsets below the count only. -/
theorem findRscAt_spec (rscType index : Nat) {size : Nat} {mem : Nat → UInt8} {bits : Nat → Bool}
    (hnum : 16 + 4 * (RscState.fresh mem bits).num ≤ size) :
    ∃ s offset, findRscAt rscType index (.fresh mem bits) = some (s, offset) ∧
      ∀ access ∈ s.accesses, access.part = .offset → access.Inside size := by
  let start : FindLoop := ⟨0, 0, .fresh mem bits⟩
  have hlt : (RscState.fresh mem bits).num < 2 ^ 32 := RscState.field_lt _ 4 4
  have hsame (l : FindLoop) (hl : Loop.Reaches (FindLoop.body rscType index) start l) :
      l.s.num = (RscState.fresh mem bits).num := by
    refine @Loop.Reaches.along _ _ _ _
      (fun left => (FindLoop.after left).num = (RscState.fresh mem bits).num) _ hl rfl ?_
    exact fun t _ ht => FindLoop.num_after.trans ht
  have hround (t t' : FindLoop) (ht : Loop.Reaches (FindLoop.body rscType index) start t)
      (hbody : FindLoop.body rscType index t = .inl t') :
      (RscState.fresh mem bits).num - t'.i < (RscState.fresh mem bits).num - t.i := by
    obtain ⟨hidx, hnext⟩ := FindLoop.after_body.2.2 t' hbody
    rw [hsame t ht] at hidx
    omega
  obtain ⟨⟨s, offset⟩, hrun⟩ := Loop.returns_of_measure _ hround
  refine ⟨s, offset, Loop.run_mono (by dsimp only [start]; omega) hrun, ?_⟩
  have hreturns : Loop.Returns (FindLoop.body rscType index) start (s, offset) := ⟨_, hrun⟩
  refine @Loop.Returns.along _ _ _ _ _
    (fun left => ∀ access ∈ (FindLoop.after left).accesses, access.part = .offset →
      access.Inside size) hreturns (fun access hmem => absurd hmem List.not_mem_nil) ?_
  intro l hl hinside access hmem hpart
  rcases FindLoop.after_body.2.1 access hmem hpart with hold | ⟨hidx, rfl⟩
  · exact hinside access hold hpart
  · rw [hsame l hl] at hidx
    show 16 + 4 * l.i + 4 ≤ size
    omega

/-! ### In bounds or not -/

section Bounds

variable (ops : RscOps) (io : Option (Nat → Bool)) (size : Nat) (mem : Nat → UInt8)
  (bits : Nat → Bool)

/-- The end of the offset array is compared as a 32-bit number, which it is for every count below
`2 ^ 30 - 4`. -/
theorem rsc_header_validates_iff :
    HeaderValidates ops io size mem bits ↔
      ((RscState.fresh mem bits).PassesHeader size →
        (RscState.fresh mem bits).num < 2 ^ 30 - 4 ∨ 16 + 4 * (RscState.fresh mem bits).num ≤ size) := by
  constructor
  · intro h hpasses
    exact .inr (h hpasses).1
  · intro h hpasses
    have hnum : 16 + 4 * (RscState.fresh mem bits).num ≤ size := by
      rcases h hpasses with hsmall | hfits
      · have hoffsets := hpasses.offsets
        rw [u32, Nat.mod_eq_of_lt (by omega)] at hoffsets
        omega
      · exact hfits
    obtain ⟨s, status, hcall, hsame, hinside⟩ := @handleRscTableAt_spec ops io size mem bits hpasses
      hnum
    refine ⟨hnum, s, status, hcall, hinside, fun _ rscType index => ?_⟩
    apply findRscAt_spec
    have hcount : (RscState.fresh s.mem s.bits).num = (RscState.fresh mem bits).num := hsame
    rwa [hcount]

/-- Four bytes for each of `2 ^ 30 - 4` offsets, and 16 before them: nothing is left of their sum in
32 bits, so that a table of 16 bytes passes. -/
def wrappingTable : Nat → UInt8 := fun a => [1, 0, 0, 0, 0xFC, 0xFF, 0xFF, 0x3F].getD a 0

theorem rsc_header_not_validated :
    (RscState.fresh wrappingTable Bitmap.empty).PassesHeader 16 ∧
      ¬ HeaderValidates ⟨fun _ => true, none⟩ none 16 wrappingTable Bitmap.empty := by
  have hpasses : (RscState.fresh wrappingTable Bitmap.empty).PassesHeader 16 := by
    constructor <;> decide +kernel
  refine ⟨hpasses, fun h => ?_⟩
  have hnum : (RscState.fresh wrappingTable Bitmap.empty).num = 2 ^ 30 - 4 := by decide +kernel
  have hfits := (h hpasses).1
  rw [hnum] at hfits
  omega

/-- The parser stays in bounds exactly if every entry that it comes to fits in the table or starts
outside the region. -/
theorem rsc_parsed_in_bounds_iff (hnum : 16 + 4 * (RscState.fresh mem bits).num ≤ size) :
    ParsedInBounds ops io size mem bits ↔
      ((RscState.fresh mem bits).PassesHeader size → ∀ l, RscLoop.Rounds ops io mem bits l →
        l.idx < l.s.num → l.Fits ops size ∨ ¬ l.InRegion io) := by
  constructor
  · rintro ⟨⟨s, status, hcall, hinside⟩, -⟩ hpasses l hl hidx
    rw [forall_inside_iff] at hinside
    rw [or_iff_not_imp_right, not_not]
    intro hregion
    rw [handleRscTableAt_of_passes hpasses] at hcall
    have hreach : _ ≤ reach s.accesses := RscLoop.reach_le_of_returns (hl.returns ⟨_, hcall⟩)
    rw [RscLoop.reach_after_of_handled hidx hregion] at hreach
    unfold RscLoop.Fits
    omega
  · intro h
    by_cases hpasses : (RscState.fresh mem bits).PassesHeader size
    · have hentries := h hpasses
      constructor
      · obtain ⟨⟨s, status⟩, hrun⟩ := RscLoop.run_start ops io mem bits
        refine ⟨s, status, (handleRscTableAt_of_passes hpasses).trans hrun, ?_⟩
        rw [forall_inside_iff]
        refine @Loop.Returns.along _ _ _ _ _
          (fun left => reach (RscLoop.after left).accesses ≤ size) ⟨_, hrun⟩ ?_ ?_
        · exact (RscLoop.reach_start ▸ (by omega : 16 ≤ size))
        · intro l hl hreach
          refine RscLoop.reach_after_le hreach ?_ (hentries l hl)
          rwa [RscLoop.num_of_rounds hl]
      · intro _ l hl hidx hfits
        have hregion := (hentries l hl hidx).resolve_left hfits
        exact ⟨_, _, RscLoop.body_of_rejected hidx hregion, by decide, rfl⟩
    · refine ⟨?_, fun hpasses' => absurd hpasses' hpasses⟩
      obtain ⟨s, status, hcall, -, -, hreach⟩ :=
        @handleRscTableAt_of_rejected ops io size mem bits hpasses
      exact ⟨s, status, hcall, forall_inside_iff.mpr hreach⟩

end Bounds

/-- The first round is the start. -/
theorem RscLoop.eq_start {ops : RscOps} {io : Option (Nat → Bool)} {mem : Nat → UInt8}
    {bits : Nat → Bool} {l : RscLoop} (hl : Rounds ops io mem bits l) (hidx : l.idx = 0) :
    l = start mem bits := by
  cases hl with
  | start => rfl
  | round ht hbody =>
      have hnext := (idx_of_body hbody).2
      omega

/-- A table of 20 bytes for one entry, which its offset puts behind them: a vdev that asks for any
id. -/
def strayTable : Nat → UInt8 := fun a =>
  [1, 0, 0, 0, 1, 0, 0, 0, 0, 0, 0, 0, 0, 0, 0, 0, 24, 0, 0, 0, 0, 0, 0, 0, 3, 0, 0, 0, 0, 0, 0, 0,
    0xFF, 0xFF, 0xFF, 0xFF].getD a 0

/-- In a table of 50 bytes the entry fits. -/
theorem rsc_parsed_in_bounds_fifty :
    ParsedInBounds ⟨fun _ => true, none⟩ none 50 strayTable Bitmap.empty := by
  refine (rsc_parsed_in_bounds_iff ⟨fun _ => true, none⟩ none 50 strayTable Bitmap.empty
    (by decide +kernel)).mpr ?_
  intro _ l hl hidx
  have hnum : (RscState.fresh strayTable Bitmap.empty).num = 1 := by decide +kernel
  rw [RscLoop.num_of_rounds hl, hnum] at hidx
  rw [RscLoop.eq_start hl (by omega)]
  left
  unfold RscLoop.Fits
  decide +kernel

/-- The id is stored behind the table. -/
theorem rsc_parsed_out_of_bounds :
    16 + 4 * (RscState.fresh strayTable Bitmap.empty).num ≤ 20 ∧
      (handleRscTableAt ⟨fun _ => true, none⟩ none 20 (.fresh strayTable Bitmap.empty)).map
        (fun r => (r.2, strayTable 32, r.1.mem 32)) = some (0, 0xFF, 0) ∧
      ¬ ParsedInBounds ⟨fun _ => true, none⟩ none 20 strayTable Bitmap.empty := by
  refine ⟨by decide +kernel, by decide +kernel, ?_⟩
  rintro ⟨⟨s, status, hcall, hinside⟩, -⟩
  have hreach : (handleRscTableAt ⟨fun _ => true, none⟩ none 20 (.fresh strayTable Bitmap.empty)).map
      (fun r => reach r.1.accesses) = some 50 := by decide +kernel
  rw [forall_inside_iff] at hinside
  rw [hcall] at hreach
  have hfifty : reach s.accesses = 50 := Option.some.inj hreach
  omega

/-! ### The bits an allocation touches -/

/-- An explicit id is looked up and taken wherever its bit lies, and the bitmap has 64 of them. -/
theorem allocate_id_own_bit_iff (bits : Nat → Bool) (notifyid : UInt32) :
    AllocatesOwnBit bits notifyid.toNat ↔
      notifyid.toNat = RSC_NOTIFY_ID_ANY ∨ notifyid.toNat < METAL_BITS_PER_ULONG ∨
        bits (metalBit notifyid.toNat) = true := by
  have hlt := notifyid.toNat_lt
  generalize notifyid.toNat = id at *
  have hcall : AllocatesOwnBit bits id ↔
      ((allocateId bits id).2 = RSC_NOTIFY_ID_ANY ∧ (allocateId bits id).1 = bits) ∨
        ((id = RSC_NOTIFY_ID_ANY ∨ (allocateId bits id).2 = id) ∧
          (allocateId bits id).2 < METAL_BITS_PER_ULONG ∧ bits (allocateId bits id).2 = false ∧
          (allocateId bits id).1 = Bitmap.setBit bits (allocateId bits id).2) := Iff.rfl
  rw [hcall]
  by_cases hany : id = RSC_NOTIFY_ID_ANY
  · subst hany
    refine ⟨fun _ => .inl rfl, fun _ => ?_⟩
    rw [allocateId_any]
    by_cases hfull : Bitmap.nextClearBit bits 0 64 ≠ 64
    · have hfree : Bitmap.nextClearBit bits 0 64 < 64 :=
        Nat.lt_of_le_of_ne Bitmap.nextClearBit_le hfull
      rw [if_pos hfull]
      exact .inr ⟨.inl rfl, hfree, Bitmap.nextClearBit_clear hfree, rfl⟩
    · rw [if_neg hfull]
      exact .inl ⟨rfl, rfl⟩
  · have hbound : id < RSC_NOTIFY_ID_ANY := by
      unfold RSC_NOTIFY_ID_ANY at hany ⊢
      omega
    rw [allocateId_of_lt_any hbound]
    by_cases hbit : bits (metalBit id) = true
    · rw [if_pos hbit]
      exact ⟨fun _ => .inr (.inr hbit), fun _ => .inl ⟨rfl, rfl⟩⟩
    · rw [if_neg hbit]
      constructor
      · rintro (⟨heq, -⟩ | ⟨-, hsmall, -, -⟩)
        · exact absurd heq hany
        · exact .inr (.inl hsmall)
      · rintro (heq | hsmall | hset)
        · exact absurd heq hany
        · have hown : metalBit id = id := metalBit_of_lt (hsmall.trans (by decide))
          rw [hown] at hbit ⊢
          exact .inr ⟨.inr rfl, hsmall, Bool.eq_false_iff.mpr hbit, rfl⟩
        · exact absurd hset hbit

/-- The first bit behind the bitmap is the lowest of the pointer to the operations. -/
theorem allocate_id_sets_ops :
    ¬ AllocatesOwnBit Bitmap.empty (64 : UInt32).toNat ∧
      (remoteprocAllocateId Bitmap.empty 64 65).2 = 64 ∧
      RprocField.ops.word (remoteprocAllocateId Bitmap.empty 64 65).1 0 = true ∧
      RprocField.ops.word Bitmap.empty 0 = false := by
  refine ⟨?_, by decide +kernel, by decide +kernel, by decide +kernel⟩
  unfold AllocatesOwnBit
  rintro (⟨hany, -⟩ | ⟨-, hsmall, -, -⟩)
  · exact absurd hany (by decide +kernel)
  · exact absurd hsmall (by decide +kernel)

end OpenAmp
