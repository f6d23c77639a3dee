import Mathlib.Data.List.Pairwise
import OpenAmp.RprocMem
import OpenAmp.StoreLoad

/-!
# What lookups of a memory find

A range test whose sums may wrap, an address test that takes the end of a memory for a part of it, and
a comparison of names that stops with the shorter one: what each finds, and exactly when that is what
its callers mean.
-/

namespace OpenAmp

open FirstMatch FixedString

section Requests

variable {mems : List NamedMem} {mem : NamedMem} {start : NamedMem → Nat} {pa da addr size va : Nat}

theorem remoteprocFindMem_none :
    remoteprocFindMem mems none pa da va size = mems.find? (memTest none pa da va size) := by
  rw [remoteprocFindMem, if_neg (by simp)]

theorem remoteprocFindMem_of_request (h : memRequest pa da = some (start, addr)) :
    remoteprocFindMem mems none pa da va size = mems.find? (rangeTest start addr size) := by
  rw [remoteprocFindMem_none]
  congr 1
  funext mem
  simp only [memTest, h]

theorem remoteprocFindMem_of_noRequest (h : memRequest pa da = none) :
    remoteprocFindMem mems none pa da NULL size = none := by
  rw [remoteprocFindMem_none, List.find?_eq_none]
  intro mem _
  simp [memTest, h]

theorem memRequest_eq_some (h : memRequest pa da = some (start, addr)) :
    (start = fun mem => mem.pa) ∧ addr = pa ∧ pa ≠ METAL_BAD_PHYS ∨
      (start = fun mem => mem.da) ∧ addr = da ∧ pa = METAL_BAD_PHYS ∧ da ≠ METAL_BAD_PHYS := by
  unfold memRequest at h
  split_ifs at h with hpa hda
  · obtain ⟨rfl, rfl⟩ := Prod.mk.inj (Option.some.inj h)
    exact .inl ⟨rfl, rfl, hpa⟩
  · obtain ⟨rfl, rfl⟩ := Prod.mk.inj (Option.some.inj h)
    exact .inr ⟨rfl, rfl, not_not.mp hpa, hda⟩

theorem NamedMem.NonWrapping.end_le (h : mem.NonWrapping)
    (hrequest : memRequest pa da = some (start, addr)) : start mem + mem.size ≤ 2 ^ 64 := by
  rcases memRequest_eq_some hrequest with ⟨rfl, -⟩ | ⟨rfl, -⟩
  · exact h.pa
  · exact h.da

theorem ofInt_view {base other length : Nat} (hle : base ≤ addr) (hlt : addr < base + length)
    (hother : other + length ≤ 2 ^ 64) :
    ofInt 64 ((other : Int) + addr - base) = other + (addr - base) := by
  rw [show (other : Int) + addr - base = ((other + (addr - base) : Nat) : Int) by omega]
  exact ofInt_natCast (by omega)

/-- Each byte of a range that starts in a memory is at the same offset in both views just if the range
ends in the memory. -/
theorem views_iff {base other length : Nat} (hle : base ≤ addr) (hother : other + length ≤ 2 ^ 64) :
    (∀ i < size, ∃ k < length, addr + i = base + k ∧
        ofInt 64 ((other : Int) + addr - base) + i = other + k) ↔
      (0 < size → addr + size ≤ base + length) := by
  constructor
  · intro hinside hsize
    obtain ⟨k, hk, heq, -⟩ := hinside (size - 1) (by omega)
    omega
  · intro hrange i hi
    have hend := hrange (by omega)
    rw [ofInt_view hle (by omega) hother]
    exact ⟨addr - base + i, by omega, by omega, by omega⟩

theorem mapsInside_mmapAddrs_iff (h : mem.NonWrapping)
    (hrequest : memRequest pa da = some (start, addr)) (hle : start mem ≤ addr) :
    MapsInside mem (mmapAddrs mem pa da).1 (mmapAddrs mem pa da).2 size ↔
      (0 < size → addr + size ≤ start mem + mem.size) := by
  rcases memRequest_eq_some hrequest with ⟨rfl, rfl, hpa⟩ | ⟨rfl, rfl, hpa, hda⟩
  · rw [mmapAddrs, if_pos hpa]
    exact views_iff hle h.da
  · rw [mmapAddrs, if_neg (not_not.mpr hpa), if_pos hda, ← views_iff hle h.pa]
    refine forall₂_congr fun i _ => exists_congr fun k => and_congr_right fun _ => ?_
    exact and_comm

end Requests

/-! ### Ranges -/

section Ranges

variable {mems : List NamedMem} {mem : NamedMem} {start : NamedMem → Nat} {addr size : Nat}

theorem rangeTest_iff_of_below (hsize : mem.size < 2 ^ 64) (hend : start mem + mem.size ≤ 2 ^ 64)
    (hlt : addr + size < 2 ^ 64) :
    rangeTest start addr size mem ↔ RangeIn start addr size mem ∧ start mem + mem.size < 2 ^ 64 := by
  unfold rangeTest RangeIn u64
  omega

theorem rangeTest_iff_of_top (heq : addr + size = 2 ^ 64) :
    rangeTest start addr size mem ↔ start mem ≤ addr := by
  simp [rangeTest, u64, heq]

/-- The first memory that passes the range test has the range, if any memory has it, and nothing else
passes. -/
def FindsRange (mems : List NamedMem) (start : NamedMem → Nat) (addr size : Nat) : Prop :=
  (∀ mem, mems.find? (rangeTest start addr size) = some mem →
    0 < size → addr + size ≤ start mem + mem.size) ∧
  ((∃ mem ∈ mems, RangeIn start addr size mem) →
    ∃ mem, mems.find? (rangeTest start addr size) = some mem ∧ RangeIn start addr size mem)

/-- A range that ends below `2 ^ 64`: the test asks for the range, and for a memory that does so too. -/
theorem findsRange_iff_of_below
    (hmems : ∀ mem ∈ mems, mem.size < 2 ^ 64 ∧ start mem + mem.size ≤ 2 ^ 64)
    (hlt : addr + size < 2 ^ 64) : FindsRange mems start addr size ↔ RangeSums mems start addr size := by
  have htest : ∀ mem ∈ mems, rangeTest start addr size mem ↔
      RangeIn start addr size mem ∧ start mem + mem.size < 2 ^ 64 := fun mem hmem =>
    rangeTest_iff_of_below (hmems mem hmem).1 (hmems mem hmem).2 hlt
  constructor
  · rintro ⟨-, hresolved⟩
    refine ⟨fun _ hin => ?_, by omega, by omega⟩
    obtain ⟨mem, hfind, -⟩ := hresolved hin
    obtain ⟨hmem, htest'⟩ := of_find? hfind
    exact ⟨mem, hmem, (htest mem hmem).mp htest'⟩
  · intro hsums
    refine ⟨fun mem hfind _ => ?_, fun hin => ?_⟩
    · obtain ⟨hmem, htest'⟩ := of_find? hfind
      exact ((htest mem hmem).mp htest').1.2
    · obtain ⟨mem, hmem, hrange⟩ := hsums.below hlt hin
      obtain ⟨first, hfind⟩ := exists_find? hmem ((htest mem hmem).mpr hrange)
      obtain ⟨hfirst, htest'⟩ := of_find? hfind
      exact ⟨first, hfind, ((htest first hfirst).mp htest').1⟩

/-- A range that ends at `2 ^ 64`: the end is no part of the test. -/
theorem findsRange_iff_of_top (hmems : ∀ mem ∈ mems, start mem + mem.size ≤ 2 ^ 64)
    (hsize : size < 2 ^ 64) (haddr : addr < 2 ^ 64) (heq : addr + size = 2 ^ 64) :
    FindsRange mems start addr size ↔ RangeSums mems start addr size := by
  have hfind : mems.find? (rangeTest start addr size) = mems.find? fun mem => start mem ≤ addr :=
    find?_congr fun mem _ => rangeTest_iff_of_top heq
  constructor
  · rintro ⟨hinside, -⟩
    refine ⟨by omega, fun _ mem hfirst => ?_, by omega⟩
    have hle := hinside mem (hfind.trans hfirst) (by omega)
    have hend := hmems mem (of_find? hfirst).1
    omega
  · intro hsums
    refine ⟨fun mem hfirst _ => ?_, ?_⟩
    · rw [hfind] at hfirst
      have hend := hsums.top heq mem hfirst
      omega
    · rintro ⟨mem, hmem, hrange⟩
      obtain ⟨first, hfirst⟩ :=
        @exists_find? _ (fun mem => start mem ≤ addr) _ _ _ hmem hrange.1
      have hend := hsums.top heq first hfirst
      exact ⟨first, hfind.trans hfirst, (of_find? hfirst).2, by omega⟩

/-- A range that wraps around: no memory has it, so none may pass. -/
theorem findsRange_iff_of_beyond (hmems : ∀ mem ∈ mems, start mem + mem.size ≤ 2 ^ 64)
    (haddr : addr < 2 ^ 64) (hgt : 2 ^ 64 < addr + size) :
    FindsRange mems start addr size ↔ RangeSums mems start addr size := by
  constructor
  · rintro ⟨hinside, -⟩
    refine ⟨by omega, by omega, fun _ mem hmem hle => ?_⟩
    by_contra hpass
    have htest : rangeTest start addr size mem := ⟨hle, Nat.not_lt.mp hpass⟩
    obtain ⟨first, hfirst⟩ := exists_find? hmem htest
    have hrange := hinside first hfirst (by omega)
    have hend := hmems first (of_find? hfirst).1
    omega
  · intro hsums
    refine ⟨fun mem hfind _ => ?_, ?_⟩
    · obtain ⟨hmem, hle, hpass⟩ := of_find? hfind
      exact absurd (hsums.beyond hgt mem hmem hle) (Nat.not_lt.mpr hpass)
    · rintro ⟨mem, hmem, hrange⟩
      have hend := hmems mem hmem
      have hin := hrange.2
      omega

theorem findsRange_iff (hmems : ∀ mem ∈ mems, mem.size < 2 ^ 64 ∧ start mem + mem.size ≤ 2 ^ 64)
    (haddr : addr < 2 ^ 64) (hsize : size < 2 ^ 64) :
    FindsRange mems start addr size ↔ RangeSums mems start addr size := by
  have hends : ∀ mem ∈ mems, start mem + mem.size ≤ 2 ^ 64 := fun mem hmem => (hmems mem hmem).2
  rcases Nat.lt_trichotomy (addr + size) (2 ^ 64) with hlt | heq | hgt
  · exact findsRange_iff_of_below hmems hlt
  · exact findsRange_iff_of_top hends hsize haddr heq
  · exact findsRange_iff_of_beyond hends haddr hgt

end Ranges

section Mmap

variable (mems : List NamedMem)
  (map : Option (Nat → Nat → Nat → Nat → Option IoRegion → PlatformMap)) (pa da : Option Nat)
  (size attr : Nat) (io : Option IoRegion)

theorem remoteprocMmapMems_mem :
    (remoteprocMmapMems mems map pa da size attr io).mem =
      remoteprocFindMem mems none (pa.getD METAL_BAD_PHYS) (da.getD METAL_BAD_PHYS) NULL size := by
  by_cases hnull : pa = none ∧ da = none
  · obtain ⟨rfl, rfl⟩ := hnull
    rw [remoteprocFindMem_of_noRequest (by simp [memRequest])]
    rfl
  · unfold remoteprocMmapMems
    simp only [if_neg hnull]
    cases remoteprocFindMem mems none (pa.getD METAL_BAD_PHYS) (da.getD METAL_BAD_PHYS) NULL size with
    | some mem => rfl
    | none => cases map <;> rfl

theorem remoteprocMmapMems_addrs {mem : NamedMem}
    (h : (remoteprocMmapMems mems map pa da size attr io).mem = some mem) :
    ((remoteprocMmapMems mems map pa da size attr io).pa,
        (remoteprocMmapMems mems map pa da size attr io).da) =
      mmapAddrs mem (pa.getD METAL_BAD_PHYS) (da.getD METAL_BAD_PHYS) := by
  have hfind := (remoteprocMmapMems_mem mems map pa da size attr io).symm.trans h
  have hnull : ¬ (pa = none ∧ da = none) := by
    rintro ⟨rfl, rfl⟩
    exact nomatch h
  unfold remoteprocMmapMems
  simp only [if_neg hnull, hfind]

end Mmap

/-- What a call maps through a registered memory lies in it, and what lies in a memory is mapped
through one, exactly where the sums of the range test mislead nobody. -/
theorem mmap_contained_iff (mems : List NamedMem)
    (map : Option (Nat → Nat → Nat → Nat → Option IoRegion → PlatformMap)) (pa da : Option Nat)
    (size attr : Nat) (io : Option IoRegion) (hmems : ∀ mem ∈ mems, mem.NonWrapping)
    (hpa : pa.getD METAL_BAD_PHYS < 2 ^ 64) (hda : da.getD METAL_BAD_PHYS < 2 ^ 64)
    (hsize : size < 2 ^ 64) :
    MmapContained mems pa da size (remoteprocMmapMems mems map pa da size attr io) ↔
      ∀ start addr, memRequest (pa.getD METAL_BAD_PHYS) (da.getD METAL_BAD_PHYS) = some (start, addr) →
        RangeSums mems start addr size := by
  have hmem := remoteprocMmapMems_mem mems map pa da size attr io
  cases hrequest : memRequest (pa.getD METAL_BAD_PHYS) (da.getD METAL_BAD_PHYS) with
  | none =>
      rw [remoteprocFindMem_of_noRequest hrequest] at hmem
      refine iff_of_true ⟨fun mem hfound => ?_, fun start addr h => ?_⟩ fun start addr h => nomatch h
      · exact nomatch hmem.symm.trans hfound
      · exact nomatch hrequest.symm.trans h
  | some request =>
      obtain ⟨start, addr⟩ := request
      have haddr : addr < 2 ^ 64 := by
        rcases memRequest_eq_some hrequest with ⟨-, rfl, -⟩ | ⟨-, rfl, -⟩
        · exact hpa
        · exact hda
      rw [remoteprocFindMem_of_request hrequest] at hmem
      have hends : ∀ mem ∈ mems, mem.size < 2 ^ 64 ∧ start mem + mem.size ≤ 2 ^ 64 := fun mem hin =>
        ⟨(hmems mem hin).size, (hmems mem hin).end_le hrequest⟩
      have hinside : ∀ mem, (remoteprocMmapMems mems map pa da size attr io).mem = some mem →
          (MapsInside mem (remoteprocMmapMems mems map pa da size attr io).pa
              (remoteprocMmapMems mems map pa da size attr io).da size ↔
            (0 < size → addr + size ≤ start mem + mem.size)) := by
        intro mem hfound
        obtain ⟨hin, hle, -⟩ := of_find? (hmem.symm.trans hfound)
        have haddrs := remoteprocMmapMems_addrs mems map pa da size attr io hfound
        rw [← mapsInside_mmapAddrs_iff (hmems mem hin) hrequest hle, ← haddrs]
      have hrange : MmapContained mems pa da size (remoteprocMmapMems mems map pa da size attr io) ↔
          FindsRange mems start addr size := by
        constructor
        · rintro ⟨hin, hresolved⟩
          rw [hmem] at hin hresolved
          refine ⟨fun mem hfound => ?_, hresolved start addr hrequest⟩
          exact (hinside mem (hmem.trans hfound)).mp (hin mem hfound)
        · rintro ⟨hin, hresolved⟩
          refine ⟨fun mem hfound => ?_, fun start' addr' h => ?_⟩
          · exact (hinside mem hfound).mpr (hin mem (hmem.symm.trans hfound))
          · obtain ⟨rfl, rfl⟩ := Prod.mk.inj (Option.some.inj (hrequest.symm.trans h))
            rw [hmem]
            exact hresolved
      rw [hrange, findsRange_iff hends haddr hsize]
      constructor
      · intro hsums start' addr' h
        obtain ⟨rfl, rfl⟩ := Prod.mk.inj (Option.some.inj h)
        exact hsums
      · exact fun hsums => hsums start addr rfl

/-- A memory of one page with the same address everywhere. -/
def onePage (addr : Nat) : NamedMem :=
  ⟨⟨addr, addr, 4096, ⟨addr, 4096, fun phys => phys - addr⟩⟩, []⟩

theorem mmap_contained_second :
    MmapContained [onePage 65536, onePage 131072] (some 133120) none 2048
      (remoteprocMmapMems [onePage 65536, onePage 131072] none (some 133120) none 2048 0 none) := by
  refine (mmap_contained_iff _ none (some 133120) none 2048 0 none ?_ (by decide) (by decide)
    (by decide)).mpr fun start addr hrequest => ?_
  · simp only [List.mem_cons, List.not_mem_nil, or_false, forall_eq_or_imp, forall_eq]
    exact ⟨⟨by decide, by decide, by decide⟩, ⟨by decide, by decide, by decide⟩⟩
  · obtain ⟨rfl, rfl⟩ := Prod.mk.inj (Option.some.inj hrequest)
    refine ⟨fun _ _ => ⟨onePage 131072, by simp, ⟨by decide, by decide⟩, by decide⟩, ?_, ?_⟩
    · exact fun htop => absurd htop (by decide)
    · exact fun hbeyond => absurd hbeyond (by decide)

/-- A size from the end of the address space back to the address asked for. -/
theorem mmap_not_contained :
    (onePage 65536).NonWrapping ∧
      ¬ MmapContained [onePage 65536] (some 65536) none (2 ^ 64 - 65536)
        (remoteprocMmapMems [onePage 65536] none (some 65536) none (2 ^ 64 - 65536) 0 none) := by
  refine ⟨⟨by decide, by decide, by decide⟩, ?_⟩
  rintro ⟨hinside, -⟩
  obtain ⟨k, hk, heq, -⟩ := hinside (onePage 65536) rfl 4096 (by decide)
  change 65536 + 4096 = 65536 + k at heq
  change k < 4096 at hk
  omega

/-! ### The lookups of a load -/

section Loads

variable {mems : List NamedMem} {da size attr : Nat}
  {map : Option (Nat → Nat → Nat → Nat → Option IoRegion → PlatformMap)}

theorem find?_da :
    (if da = METAL_BAD_PHYS then none
      else (mems.map NamedMem.toVirtMem).find? fun mem =>
        mem.da ≤ da ∧ u64 (da + size) ≤ u64 (mem.da + mem.size)) =
      (remoteprocFindMem mems none METAL_BAD_PHYS da NULL size).map NamedMem.toVirtMem := by
  by_cases hda : da = METAL_BAD_PHYS
  · have hnone : memRequest METAL_BAD_PHYS da = none := by
      rw [memRequest, if_neg (not_not.mpr rfl), if_neg (not_not.mpr hda)]
    rw [if_pos hda, remoteprocFindMem_of_noRequest hnone, Option.map_none]
  · have hsome : memRequest METAL_BAD_PHYS da = some (fun mem => mem.da, da) := by
      rw [memRequest, if_neg (not_not.mpr rfl), if_pos hda]
    rw [if_neg hda, remoteprocFindMem_of_request hsome, List.find?_map]
    rfl

/-- `remoteproc_mmap` for a caller that has a device address only. -/
theorem remoteprocMmapMems_da (io : Option IoRegion) :
    remoteprocMmapMems mems map (some METAL_BAD_PHYS) (some da) size attr io =
      match remoteprocFindMem mems none METAL_BAD_PHYS da NULL size, map with
      | some mem, _ =>
          ⟨some mem, mem.io.physToVirt (remoteprocMemDatopa mem da), remoteprocMemDatopa mem da, da,
            some mem.io⟩
      | none, some map =>
          let out := map METAL_BAD_PHYS da size attr io
          ⟨none, out.va, out.pa, out.da, out.io⟩
      | none, none => ⟨none, NULL, METAL_BAD_PHYS, da, io⟩ := by
  unfold remoteprocMmapMems
  rw [if_neg (fun hnull => nomatch hnull.1)]
  dsimp only [Option.getD_some]
  cases hfind : remoteprocFindMem mems none METAL_BAD_PHYS da NULL size with
  | none => cases map <;> rfl
  | some mem =>
      have hda : da ≠ METAL_BAD_PHYS := by
        rintro rfl
        rw [remoteprocFindMem_of_noRequest rfl] at hfind
        exact nomatch hfind
      have haddrs : mmapAddrs mem METAL_BAD_PHYS da = (remoteprocMemDatopa mem da, da) := by
        rw [mmapAddrs, if_neg (not_not.mpr rfl), if_pos hda]
      dsimp only
      rw [haddrs]

/-- The platform of a load maps a device address as `remoteproc_mmap` does. -/
theorem remoteprocMmapAny_eq {plat : LoadPlatform} (hmems : plat.mems = mems.map NamedMem.toVirtMem)
    (hmap : plat.mmap = map.map fun map da size io =>
      let out := map METAL_BAD_PHYS da size attr io
      ⟨out.pa, out.va, out.io⟩) (io : Option IoRegion) :
    remoteprocMmapAny plat da size io =
      let out := remoteprocMmapMems mems map (some METAL_BAD_PHYS) (some da) size attr io
      ⟨out.pa, out.va, out.io⟩ := by
  unfold remoteprocMmapAny
  rw [hmems, hmap, remoteprocMmapMems_da, find?_da]
  cases remoteprocFindMem mems none METAL_BAD_PHYS da NULL size with
  | none => cases map <;> rfl
  | some mem => rfl

theorem remoteprocMmapVa_eq {plat : RscPlatform} (hmems : plat.mems = mems.map NamedMem.toVirtMem)
    (hmap : plat.mmap = map.map fun map da size io =>
      let out := map METAL_BAD_PHYS da size attr io
      (out.va, out.io)) (io : Option IoRegion) :
    remoteprocMmapVa plat da size io =
      let out := remoteprocMmapMems mems map (some METAL_BAD_PHYS) (some da) size attr io
      (out.va, out.io) := by
  unfold remoteprocMmapVa
  rw [hmems, hmap, remoteprocMmapMems_da, find?_da]
  cases remoteprocFindMem mems none METAL_BAD_PHYS da NULL size with
  | none => cases map <;> rfl
  | some mem => rfl

theorem remoteprocGetIoWithVa_eq {plat : RscPlatform}
    (hmems : plat.mems = mems.map NamedMem.toVirtMem) (va : Nat) :
    remoteprocGetIoWithVa plat va =
      (remoteprocFindMem mems none METAL_BAD_PHYS METAL_BAD_PHYS va 0).map fun mem => mem.io := by
  have hrequest : memRequest METAL_BAD_PHYS METAL_BAD_PHYS = none := rfl
  unfold remoteprocGetIoWithVa
  rw [hmems, remoteprocFindMem_none]
  by_cases hva : va = NULL
  · have hnone : mems.find? (memTest none METAL_BAD_PHYS METAL_BAD_PHYS va 0) = none :=
      List.find?_eq_none.mpr fun mem _ => by simp [memTest, hrequest, hva]
    rw [if_pos hva, hnone, Option.map_none]
  · have htest (mem : NamedMem) : memTest none METAL_BAD_PHYS METAL_BAD_PHYS va 0 mem =
        decide (mem.io.virtToOffset va ≠ METAL_BAD_OFFSET) := by
      simp [memTest, hrequest, hva]
    rw [if_neg hva, List.find?_map, Option.map_map, funext htest]
    rfl

end Loads

/-! ### Addresses -/

section Addresses

variable {mems : List NamedMem} {mem : NamedMem} {start : NamedMem → Nat} {addr : Nat}

theorem rangeTest_zero_iff (hstart : start mem < 2 ^ 64) (hsize : mem.size < 2 ^ 64)
    (haddr : addr < 2 ^ 64) (haddr' : addr ≠ METAL_BAD_PHYS) :
    rangeTest start addr 0 mem ↔ Touches start addr mem := by
  unfold rangeTest Touches u64
  rw [Nat.add_zero, Nat.mod_eq_of_lt haddr]
  omega

theorem find?_rangeTest_zero (hmems : ∀ mem ∈ mems, start mem < 2 ^ 64 ∧ mem.size < 2 ^ 64)
    (haddr : addr < 2 ^ 64) (haddr' : addr ≠ METAL_BAD_PHYS) :
    mems.find? (rangeTest start addr 0) = mems.find? (Touches start addr) :=
  find?_congr fun mem hmem => rangeTest_zero_iff (hmems mem hmem).1 (hmems mem hmem).2 haddr haddr'

theorem find?_touches_bad : mems.find? (Touches start METAL_BAD_PHYS) = none := by
  rw [List.find?_eq_none]
  intro mem _
  simp [Touches]

theorem remoteprocFindMem_pa (hmems : ∀ mem ∈ mems, mem.Words) (haddr : addr < 2 ^ 64) :
    remoteprocFindMem mems none addr METAL_BAD_PHYS NULL 0 =
      mems.find? (Touches (fun mem => mem.pa) addr) := by
  by_cases hbad : addr = METAL_BAD_PHYS
  · subst hbad
    rw [find?_touches_bad]
    exact remoteprocFindMem_of_noRequest (by simp [memRequest])
  · rw [remoteprocFindMem_of_request (by rw [memRequest, if_pos hbad])]
    exact find?_rangeTest_zero (fun mem hmem => ⟨(hmems mem hmem).pa, (hmems mem hmem).size⟩) haddr hbad

theorem remoteprocFindMem_da (hmems : ∀ mem ∈ mems, mem.Words) (haddr : addr < 2 ^ 64) :
    remoteprocFindMem mems none METAL_BAD_PHYS addr NULL 0 =
      mems.find? (Touches (fun mem => mem.da) addr) := by
  by_cases hbad : addr = METAL_BAD_PHYS
  · subst hbad
    rw [find?_touches_bad]
    exact remoteprocFindMem_of_noRequest (by simp [memRequest])
  · rw [remoteprocFindMem_of_request
      (by rw [memRequest, if_neg (not_not.mpr rfl), if_pos hbad])]
    exact find?_rangeTest_zero (fun mem hmem => ⟨(hmems mem hmem).da, (hmems mem hmem).size⟩) haddr hbad

/-- Of memories that are apart only one has the address. -/
theorem MemsApart.unique (h : MemsApart start mems) {mem' : NamedMem} (hmem : mem ∈ mems)
    (hmem' : mem' ∈ mems) (haddr : AddrIn start addr mem) (haddr' : AddrIn start addr mem') :
    mem = mem' := by
  by_contra hne
  have hsymm : Std.Symm fun mem mem' : NamedMem =>
      start mem + mem.size ≤ start mem' ∨ start mem' + mem'.size ≤ start mem := ⟨fun _ _ h => h.symm⟩
  have hapart := List.Pairwise.forall h hmem hmem' hne
  unfold AddrIn at haddr haddr'
  omega

variable {β : Type} {value found : NamedMem → β} {inPlace : NamedMem → Prop}

/-- Where the memory that has the address is the one its region is looked up through, the lookup is
right just if no memory that ends at the address gets in the way. -/
theorem exact_touches_iff (h : MemsApart start mems)
    (hvalue : ∀ mem ∈ mems, AddrIn start addr mem → inPlace mem → found mem = value mem) :
    Exact (AddrIn start addr) value mems ((mems.find? (Touches start addr)).map found) ↔
      EndsAside start addr inPlace value found mems := by
  rw [exact_find?_iff]
  constructor
  · rintro ⟨hfirst, hnone⟩
    refine ⟨fun mem hmem hin => ?_, hnone⟩
    obtain ⟨first, hfind, heq⟩ := hfirst mem hmem hin
    exact ⟨first, hfind, .inr heq⟩
  · rintro ⟨hfirst, hnone⟩
    refine ⟨fun mem hmem hin => ?_, hnone⟩
    obtain ⟨first, hfind, ⟨hin', hplace⟩ | heq⟩ := hfirst mem hmem hin
    · obtain rfl := h.unique hmem (of_find? hfind).1 hin hin'
      exact ⟨mem, hfind, hvalue mem hmem hin hplace⟩
    · exact ⟨first, hfind, heq⟩

theorem physToOffset_datopa (hregion : mem.OffsetAt addr) (hle : mem.da ≤ addr) :
    mem.io.physToOffset (remoteprocMemDatopa mem addr) = addr - mem.da := by
  have hpa : remoteprocMemDatopa mem addr = u64 (mem.pa + (addr - mem.da)) := by
    have hview : (mem.pa : Int) + addr - mem.da = ((mem.pa + (addr - mem.da) : Nat) : Int) := by
      omega
    rw [remoteprocMemDatopa, hview, u64, ofInt]
    omega
  rw [hpa]
  exact hregion

end Addresses

/-- A lookup by address finds the memory that has the address, in either address space, exactly where
no memory that only ends at the address comes first, and the offset is the one in the memory where its
region is in place. -/
theorem io_with_addr_iff (mems : List NamedMem) (addr : Nat) (hwords : ∀ mem ∈ mems, mem.Words)
    (hpa : MemsApart (fun mem => mem.pa) mems) (hda : MemsApart (fun mem => mem.da) mems)
    (haddr : addr < 2 ^ 64) :
    (PaFound mems addr ↔
      EndsAside (fun mem => mem.pa) addr (fun _ => True) (fun mem => mem.io) (fun mem => mem.io)
        mems) ∧
    (DaFound mems addr ↔
      EndsAside (fun mem => mem.da) addr (fun mem => mem.OffsetAt addr)
        (fun mem => (mem.io, addr - mem.da))
        (fun mem => (mem.io, mem.io.physToOffset (remoteprocMemDatopa mem addr))) mems) := by
  constructor
  · rw [PaFound, remoteprocGetIoWithPa, remoteprocFindMem_pa hwords haddr]
    exact exact_touches_iff hpa fun _ _ _ _ => rfl
  · rw [DaFound, remoteprocGetIoWithDa, remoteprocFindMem_da hwords haddr]
    refine exact_touches_iff hda fun mem hmem hin hplace => ?_
    rw [physToOffset_datopa hplace hin.1]

theorem onePage_words {addr : Nat} (h : addr < 2 ^ 64) : (onePage addr).Words :=
  ⟨h, h, by simp [onePage]⟩

theorem onePage_apart (start : NamedMem → Nat) (hstart : ∀ addr, start (onePage addr) = addr)
    {addr addr' : Nat} (h : addr + 4096 = addr' ∨ addr' + 4096 = addr) :
    MemsApart start [onePage addr, onePage addr'] := by
  refine List.pairwise_pair.mpr ?_
  rw [hstart, hstart]
  change addr + 4096 ≤ addr' ∨ addr' + 4096 ≤ addr
  omega

/-- Two adjacent pages, the upper one first: an address at its start. -/
theorem io_with_addr_upper_first :
    PaFound [onePage 69632, onePage 65536] 69632 ∧ DaFound [onePage 69632, onePage 65536] 69632 := by
  have hwords : ∀ mem ∈ [onePage 69632, onePage 65536], mem.Words := by
    simp only [List.mem_cons, List.not_mem_nil, or_false, forall_eq_or_imp, forall_eq]
    exact ⟨onePage_words (by decide), onePage_words (by decide)⟩
  have h := io_with_addr_iff [onePage 69632, onePage 65536] 69632 hwords
    (onePage_apart _ (fun _ => rfl) (.inr rfl)) (onePage_apart _ (fun _ => rfl) (.inr rfl)) (by decide)
  have hin (start : NamedMem → Nat) (hstart : start (onePage 69632) = 69632) :
      AddrIn start 69632 (onePage 69632) := by
    rw [AddrIn, hstart]
    exact ⟨le_rfl, by decide⟩
  refine ⟨h.1.mpr ⟨fun mem _ _ => ⟨onePage 69632, rfl, .inl ⟨hin _ rfl, trivial⟩⟩, ?_⟩,
    h.2.mpr ⟨fun mem _ _ => ⟨onePage 69632, rfl, .inl ⟨hin _ rfl, rfl⟩⟩, ?_⟩⟩
  · exact fun hnone => absurd ⟨by decide, by decide⟩ (hnone (onePage 69632) (by simp))
  · exact fun hnone => absurd ⟨by decide, by decide⟩ (hnone (onePage 69632) (by simp))

/-- With the lower page first, it is taken for the one that has the address. -/
theorem io_with_addr_lower_first :
    MemsApart (fun mem => mem.pa) [onePage 65536, onePage 69632] ∧
      MemsApart (fun mem => mem.da) [onePage 65536, onePage 69632] ∧
      ¬ PaFound [onePage 65536, onePage 69632] 69632 ∧
      ¬ DaFound [onePage 65536, onePage 69632] 69632 := by
  refine ⟨onePage_apart _ (fun _ => rfl) (.inl rfl), onePage_apart _ (fun _ => rfl) (.inl rfl), ?_, ?_⟩
  · rintro ⟨hpresent, -⟩
    have heq := hpresent (onePage 69632) (by simp) ⟨by decide, by decide⟩
    exact absurd (congrArg IoRegion.virt (Option.some.inj heq)) (by decide)
  · rintro ⟨hpresent, -⟩
    have heq := hpresent (onePage 69632) (by simp) ⟨by decide, by decide⟩
    exact absurd (congrArg (fun answer => answer.1.virt) (Option.some.inj heq)) (by decide)

/-! ### Names -/

section Names

variable {args : List MemArgs} {name : CString}

theorem MemArgs.holds_name (entry : MemArgs) (h : entry.name.1.length < RPROC_MAX_NAME_LEN) :
    Holds entry.init.name entry.name.1 := holds_copy entry.name.2 h

/-- The comparison of names asks for a prefix, and a name that is too long is one of none. -/
theorem remoteprocFindMem_name (hshort : ∀ entry ∈ args, entry.name.1.length < RPROC_MAX_NAME_LEN) :
    remoteprocFindMem (args.map MemArgs.init) (some name) METAL_BAD_PHYS METAL_BAD_PHYS NULL 0 =
      (args.find? fun entry => name.1 <+: entry.name.1).map MemArgs.init := by
  unfold remoteprocFindMem
  by_cases hlong : name.1.length > RPROC_MAX_NAME_LEN
  · rw [if_pos (by simpa using hlong), eq_comm, Option.map_eq_none_iff, List.find?_eq_none]
    intro entry hmem hprefix
    have hle := (of_decide_eq_true hprefix).length_le
    have hlt := hshort entry hmem
    omega
  · rw [if_neg (by simpa using hlong), List.find?_map]
    congr 1
    refine List.find?_congr fun entry hmem => decide_eq_decide.mpr ?_
    exact agree_length_iff name.2 (entry.holds_name (hshort entry hmem))

end Names

/-- A lookup by name finds the memory of that name exactly where no name that only starts with it comes
first. -/
theorem io_with_name_iff (args : List MemArgs) (name : CString)
    (hshort : ∀ entry ∈ args, entry.name.1.length < RPROC_MAX_NAME_LEN) :
    NameFound args name ↔
      Unshadowed (fun entry : MemArgs => entry.name = name) (fun entry => name.1 <+: entry.name.1)
        MemArgs.io MemArgs.io args := by
  rw [NameFound, remoteprocGetIoWithName, remoteprocFindMem_name hshort, Option.map_map]
  exact exact_find?_iff _ _ _ _ args

/-- A page under the name `shm`, followed by some digits. -/
def shmPage (digits : List UInt8) (hdigits : 0 ∉ [115, 104, 109] ++ digits) (addr : Nat) : MemArgs :=
  ⟨onePage addr, ⟨[115, 104, 109] ++ digits, hdigits⟩, addr, addr, 4096, (onePage addr).io⟩

/-- `shm` before `shm2`. -/
theorem io_with_name_shm_first :
    NameFound [shmPage [] (by decide) 65536, shmPage [50] (by decide) 69632]
      ⟨[115, 104, 109], by decide⟩ := by
  refine (io_with_name_iff _ _ ?_).mpr ⟨fun entry hmem hname => ?_, fun hnone => ?_⟩
  · simp only [List.mem_cons, List.not_mem_nil, or_false, forall_eq_or_imp, forall_eq]
    exact ⟨by decide, by decide⟩
  · refine ⟨shmPage [] (by decide) 65536, rfl, ?_⟩
    rcases List.mem_cons.mp hmem with rfl | hmem
    · rfl
    · obtain rfl := List.mem_singleton.mp hmem
      exact absurd (congrArg (fun name : CString => name.1.length) hname) (by decide)
  · exact absurd rfl (hnone (shmPage [] (by decide) 65536) (by simp))

/-- `shm2` before `shm`: the query `shm` finds `shm2`. -/
theorem io_with_name_shadowed :
    ¬ NameFound [shmPage [50] (by decide) 69632, shmPage [] (by decide) 65536]
      ⟨[115, 104, 109], by decide⟩ := by
  rintro ⟨hpresent, -⟩
  have heq := hpresent (shmPage [] (by decide) 65536) (by simp) rfl
  exact absurd (congrArg IoRegion.virt (Option.some.inj heq)) (by decide)

end OpenAmp
