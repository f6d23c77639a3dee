import OpenAmp.Proof.RscTableBytes
import OpenAmp.RscPointers

/-!
# What the parser leaves of a table

All that the parser writes are the notify ids of the vdev entries. Where these overlap neither the offset
array nor the type of an entry nor the number of its vrings, the entries of the table are found as before.
-/

namespace OpenAmp

open ByteMemory

/-! ### A handler -/

section Handlers

variable {ops : RscOps} {s : RscState} {status : Int} {rsc type : Nat}

theorem mem_handleCarveOutRscAt : (handleCarveOutRscAt ops s rsc).1.mem = s.mem := by
  unfold handleCarveOutRscAt
  dsimp only [RscState.read]
  split_ifs <;> rfl

theorem mem_handleTraceRscAt : (handleTraceRscAt s rsc).1.mem = s.mem := by
  unfold handleTraceRscAt
  dsimp only [RscState.read]
  split_ifs <;> rfl

theorem mem_handleVendorRscAt : (handleVendorRscAt ops s rsc type).1.mem = s.mem := by
  unfold handleVendorRscAt
  cases ops.handleRsc <;> rfl

/-- Only the handler of a vdev writes to the table. -/
theorem mem_handleRscAt (h : type ≠ RSC_VDEV) :
    (handleRscAt ops s status rsc type).1.mem = s.mem := by
  unfold handleRscAt
  rw [if_neg h]
  split_ifs
  · exact mem_handleCarveOutRscAt
  · rfl
  · exact mem_handleTraceRscAt
  · exact mem_handleVendorRscAt
  · rfl

end Handlers

/-! ### Entries that keep their places -/

namespace RscState

variable {s s₀ : RscState} {size : Nat}

/-- Nothing but notify ids of vdevs has been written. -/
def KeepsEntries (s₀ s : RscState) : Prop := ∀ a, ¬ s₀.IdByte a → s.mem a = s₀.mem a

theorem KeepsEntries.field (h : s₀.KeepsEntries s) {offset len : Nat}
    (hfree : ∀ i < len, ¬ s₀.IdByte (offset + i)) : s.field offset len = s₀.field offset len :=
  field_congr fun i hi => h _ (hfree i hi)

theorem KeepsEntries.num (h : s₀.KeepsEntries s) : s.num = s₀.num := by
  refine h.field fun i hi => ?_
  rintro ⟨j, -, -, hlow, -⟩
  omega

section Apart

variable {i : Nat}

theorem KeepsEntries.entry (h : s₀.KeepsEntries s) (hapart : s₀.IdsApart) (hi : i < s₀.num) : s.entry i = s₀.entry i := by
  refine h.field fun k hk hid => hapart _ hid (.inl ?_)
  omega

theorem KeepsEntries.type (h : s₀.KeepsEntries s) (hapart : s₀.IdsApart) (hi : i < s₀.num) :
    s.field (s₀.entry i) 4 = s₀.field (s₀.entry i) 4 := by
  refine h.field fun k hk hid => hapart _ hid (.inr ⟨i, hi, .inl ?_⟩)
  omega

theorem KeepsEntries.isVdev (h : s₀.KeepsEntries s) (hapart : s₀.IdsApart) (hi : i < s₀.num) : s.IsVdev i ↔ s₀.IsVdev i := by
  unfold IsVdev
  rw [h.entry hapart hi, h.type hapart hi]

theorem KeepsEntries.vrings (h : s₀.KeepsEntries s) (hapart : s₀.IdsApart) (hi : i < s₀.num) (hvdev : s₀.IsVdev i) :
    s.field (s₀.entry i + 25) 1 = s₀.field (s₀.entry i + 25) 1 := by
  refine h.field fun k hk hid => hapart _ hid (.inr ⟨i, hi, .inr ⟨hvdev, ?_⟩⟩)
  omega

theorem KeepsEntries.inside (h : s₀.KeepsEntries s) (hplaced : s₀.WellPlaced size) :
    s.EntriesInside size where
  offsets := h.num.symm ▸ hplaced.offsets
  types i hi := by
    rw [h.num] at hi
    rw [h.entry hplaced.apart hi]
    exact hplaced.types i hi
  vdevs i hi hvdev := by
    rw [h.num] at hi
    rw [h.isVdev hplaced.apart hi] at hvdev
    rw [h.entry hplaced.apart hi, h.vrings hplaced.apart hi hvdev]
    exact hplaced.vdevs i hi hvdev

end Apart

/-- A notify id of a table lies in it. -/
theorem EntriesInside.idByte_lt (h : s.EntriesInside size) {a : Nat} (hid : s.IdByte a) : a < size := by
  obtain ⟨i, hi, hvdev, -, hhigh⟩ := hid
  have := h.vdevs i hi hvdev
  omega

/-- The entries of a table depend on its bytes alone. -/
theorem EntriesInside.congr (h : s.EntriesInside size) {s' : RscState}
    (hmem : ∀ a < size, s'.mem a = s.mem a) : s'.EntriesInside size := by
  have hfield {offset len : Nat} (hle : offset + len ≤ size) :
      s'.field offset len = s.field offset len := field_congr fun i hi => hmem _ (by omega)
  have hoffsets := h.offsets
  have hnum : s'.num = s.num := hfield (by omega)
  have hentry {i : Nat} (hi : i < s.num) : s'.entry i = s.entry i := hfield (by omega)
  refine ⟨hnum.symm ▸ hoffsets, fun i hi => ?_, fun i hi hvdev => ?_⟩
  · rw [hnum] at hi
    rw [hentry hi]
    exact h.types i hi
  · rw [hnum] at hi
    have htype := h.types i hi
    rw [IsVdev, hentry hi, hfield htype] at hvdev
    have hinside := h.vdevs i hi hvdev
    rw [hentry hi, hfield (by omega)]
    exact hinside

end RscState

/-! ### The parser -/

section Parser

variable {ops : RscOps} {io : Option (Nat → Bool)} {size : Nat} {s₀ s : RscState} {status : Int}

namespace RscLoop

/-- A round writes at most the notify id of its entry. -/
theorem keeps_after {l : RscLoop} (hapart : s₀.IdsApart)
    (h : s₀.KeepsEntries l.s) : s₀.KeepsEntries (after (body ops io l)) := by
  by_cases hlt : l.idx < l.s.num
  · by_cases hregion : l.InRegion io
    · rw [after_of_handled hlt hregion]
      rw [h.num] at hlt
      have hoffset : l.offset = s₀.entry l.idx := h.entry hapart hlt
      have htype : l.opened.field l.offset 4 = s₀.field (s₀.entry l.idx) 4 := by
        rw [hoffset]
        exact h.type hapart hlt
      intro a hid
      refine Eq.trans ?_ (h a hid)
      by_cases hvdev : s₀.IsVdev l.idx
      · rcases Nat.lt_or_ge a (l.offset + 8) with hlow | hlow
        · exact used_handled.below a hlow
        · refine used_handled.above a (Nat.not_lt.mp fun hhigh => hid ?_)
          exact ⟨l.idx, hlt, hvdev, hoffset ▸ hlow, hoffset ▸ hhigh⟩
      · unfold handled
        rw [htype, mem_handleRscAt hvdev]
        rfl
    · rw [body_of_rejected hlt hregion]
      exact h
  · rw [body_of_le (Nat.not_lt.mp hlt)]
    exact h

end RscLoop

/-- A table that is refused by its header is left as it is. -/
theorem mem_handleRscTableAt_of_refused {mem : Nat → UInt8} {bits : Nat → Bool}
    (h : ¬ (RscState.fresh mem bits).PassesHeader size)
    (hresult : handleRscTableAt ops io size (.fresh mem bits) = some (s, status)) (a : Nat) :
    s.mem a = mem a := by
  obtain ⟨s', status', hrejected, -, hmem, -⟩ := @handleRscTableAt_of_rejected ops io size _ _ h
  obtain ⟨rfl, -⟩ := Prod.mk.inj (Option.some.inj (hresult.symm.trans hrejected))
  exact congrFun hmem a

theorem keepsEntries_handleRscTableAt {mem : Nat → UInt8} {bits : Nat → Bool}
    (hplaced : (RscState.fresh mem bits).PassesHeader size →
      (RscState.fresh mem bits).WellPlaced size)
    (hresult : handleRscTableAt ops io size (.fresh mem bits) = some (s, status)) :
    (RscState.fresh mem bits).KeepsEntries s := by
  by_cases hpasses : (RscState.fresh mem bits).PassesHeader size
  · rw [handleRscTableAt_of_passes hpasses] at hresult
    exact @Loop.Returns.along _ _ _ _ _
      (fun left => (RscState.fresh mem bits).KeepsEntries (RscLoop.after left)) ⟨_, hresult⟩
      (fun _ _ => rfl) fun _ _ hkeeps => RscLoop.keeps_after (hplaced hpasses).apart hkeeps
  · exact fun a _ => mem_handleRscTableAt_of_refused hpasses hresult a

/-- Behind a well-placed table nothing is written. -/
theorem mem_handleRscTableAt_of_le {mem : Nat → UInt8} {bits : Nat → Bool} {a : Nat}
    (hplaced : (RscState.fresh mem bits).PassesHeader size →
      (RscState.fresh mem bits).WellPlaced size)
    (hresult : handleRscTableAt ops io size (.fresh mem bits) = some (s, status)) (ha : size ≤ a) :
    s.mem a = mem a := by
  by_cases hpasses : (RscState.fresh mem bits).PassesHeader size
  · refine keepsEntries_handleRscTableAt hplaced hresult a fun hid => ?_
    exact absurd ((hplaced hpasses).idByte_lt hid) (Nat.not_lt.mpr ha)
  · exact mem_handleRscTableAt_of_refused hpasses hresult a

/-- A table that is not refused has passed the checks of the header. -/
theorem passesHeader_of_accepted {mem : Nat → UInt8} {bits : Nat → Bool}
    (hresult : handleRscTableAt ops io size (.fresh mem bits) = some (s, status)) (h : 0 ≤ status) :
    (RscState.fresh mem bits).PassesHeader size := by
  by_contra hpasses
  obtain ⟨s', status', hrejected, hneg, -⟩ := @handleRscTableAt_of_rejected ops io size _ _ hpasses
  obtain ⟨-, rfl⟩ := Prod.mk.inj (Option.some.inj (hresult.symm.trans hrejected))
  exact absurd h (Int.not_le.mpr hneg)

/-- The parser always returns. -/
theorem handleRscTableAt_total (mem : Nat → UInt8) (bits : Nat → Bool) :
    ∃ s status, handleRscTableAt ops io size (.fresh mem bits) = some (s, status) := by
  by_cases hpasses : (RscState.fresh mem bits).PassesHeader size
  · obtain ⟨⟨s, status⟩, hrun⟩ := RscLoop.run_start ops io mem bits
    exact ⟨s, status, (handleRscTableAt_of_passes hpasses).trans hrun⟩
  · obtain ⟨s, status, hrejected, -⟩ := @handleRscTableAt_of_rejected ops io size _ _ hpasses
    exact ⟨s, status, hrejected⟩

end Parser

end OpenAmp
