import Mathlib.Data.Nat.ModEq
import Mathlib.Data.Set.Finite.Basic
import OpenAmp.Proof.StoreData

/-!
# What is written for a segment

The range of a segment is mapped for `p_memsz` bytes, and `p_filesz` bytes are copied to its start. Both
sizes are fields of the file, and nothing compares them: the copy stays inside the range exactly if the
first is not the smaller one. The padding behind it is the difference, which libmetal takes as an `int`.
-/

namespace OpenAmp

open ByteMemory Slice

/-! ### Ranges of physical memory -/

section Range

variable {start size size' : Nat}

theorem physRange_mono (h : size ≤ size') : physRange start size ⊆ physRange start size' := by
  rintro _ ⟨i, hi, rfl⟩
  exact ⟨i, hi.trans_le h, rfl⟩

theorem physRange_subset_iff (h : size' < 2 ^ 64) :
    physRange start size ⊆ physRange start size' ↔ size ≤ size' := by
  refine ⟨fun hsub => ?_, physRange_mono⟩
  by_contra hlt
  obtain ⟨i, hi, heq⟩ := hsub ⟨size', Nat.not_le.mp hlt, rfl⟩
  have hmod : size' ≡ i [MOD 2 ^ 64] := Nat.ModEq.add_left_cancel' start heq
  have hsame := hmod.eq_of_lt_of_lt h (hi.trans h)
  omega

theorem finite_physRange : Set.Finite (physRange start size) := by
  refine ((Set.finite_lt_nat size).image fun i => u64 (start + i)).subset ?_
  rintro _ ⟨i, hi, rfl⟩
  exact ⟨i, hi, rfl⟩

end Range

/-! ### Padding -/

section Padding

variable {io : IoRegion} {pa nlen nmemsize : Nat}

/-- A libmetal that writes the whole region, and more, for a negative length. -/
def BlockSet.everything : BlockSet where
  written io offset len := if 0 ≤ len then Set.Ico offset (min (offset + len.toNat) io.size) else .univ
  written_nat _ _ len := if_pos (Int.natCast_nonneg len)

theorem BlockSet.everything_of_neg {offset : Nat} {len : Int} (h : ¬ 0 ≤ len) :
    everything.written io offset len = .univ := if_neg h

/-- Consecutive offsets behind the first bytes of a range belong to addresses of the range. -/
theorem IoRegion.Contiguous.padding (hio : io.Contiguous) {len : Nat} (hlen : nlen + len ≤ nmemsize) :
    Set.Ico (io.physToOffset (u64 (pa + nlen)))
        (min (io.physToOffset (u64 (pa + nlen)) + len) io.size) ⊆
      io.physToOffset '' physRange pa nmemsize := by
  rintro offset ⟨hlow, hhigh⟩
  obtain ⟨i, rfl⟩ := Nat.exists_eq_add_of_le hlow
  have hoffset := hio (u64 (pa + nlen)) i (hhigh.trans_le (Nat.min_le_right _ _))
  refine ⟨_, ⟨nlen + i, by omega, rfl⟩, ?_⟩
  rw [← hoffset, ← Nat.add_assoc]
  exact congrArg io.physToOffset (Nat.mod_add_mod _ _ _).symm

/-- Padding stays inside the range, unless its length is negative as an `int`. -/
theorem padding_inside_iff (hio : io.Contiguous) (mapped : Mapped) (hle : nlen ≤ mapped.size) :
    (LoadEvent.padded mapped io (io.physToOffset (u64 (mapped.pa + nlen)))
        (toInt32 (mapped.size - nlen : Nat))).Inside ↔ 0 ≤ toInt32 (mapped.size - nlen : Nat) := by
  constructor
  · intro hinside
    by_contra hneg
    have huniv := hinside BlockSet.everything
    rw [BlockSet.everything_of_neg hneg] at huniv
    exact Set.infinite_univ ((finite_physRange.image io.physToOffset).subset huniv)
  · intro hnonneg blockSet
    have hlen := toInt32_toNat_le (mapped.size - nlen)
    rw [← Int.toNat_of_nonneg hnonneg, blockSet.written_nat]
    exact hio.padding (by omega)

end Padding

/-- What a mapping leaves in the variable for the region. -/
theorem LoadPlatform.Contiguous.mapped {plat : LoadPlatform} {da size : Nat} {io : Option IoRegion}
    {region : IoRegion} (h : plat.Contiguous)
    (hregion : (remoteprocMmapAny plat da size io).io = some region) :
    region.Contiguous ∨ io = some region := by
  unfold remoteprocMmapAny at hregion
  dsimp only at hregion
  split at hregion
  case h_1 mem hfound =>
      obtain rfl := Option.some.inj hregion
      refine .inl (h.mems mem ?_)
      split_ifs at hfound
      exact List.mem_of_find?_eq_some hfound
  case h_2 map _ hmap => exact h.mmap map hmap da size io region hregion
  case h_3 => exact .inr hregion

/-- The variable for the region holds a contiguous one, or none yet. -/
def StoreData.Regions (s : StoreData) : Prop := ∀ io, s.io = some io → io.Contiguous

theorem StoreData.Regions.mapped {plat : LoadPlatform} {s : StoreData} {da size : Nat} {io : IoRegion}
    (h : s.Regions) (hplat : plat.Contiguous)
    (hio : (remoteprocMmapAny plat da size s.io).io = some io) : io.Contiguous :=
  (hplat.mapped hio).elim id (h io)

theorem pMemsz_lt (is64 : Bool) (phdr : List UInt8) : (elfParseSegment is64 phdr).pMemsz < 2 ^ 64 := by
  unfold elfParseSegment elfField
  cases is64 with
  | true => exact ElfImage.field_lt _ 40 8
  | false => exact Nat.lt_of_lt_of_le (ElfImage.field_lt _ 20 4) (by decide)

theorem pMemsz_lt_of_mem {plat : LoadPlatform} {info : ElfInfo} {phdr : Phdr}
    (h : phdr ∈ plat.segments info) : phdr.pMemsz < 2 ^ 64 := by
  unfold LoadPlatform.segments ElfInfo.segmentsAt at h
  cases hphdrs : info.phdrs with
  | none =>
      rw [hphdrs] at h
      exact nomatch h
  | some phdrs =>
      rw [hphdrs] at h
      obtain ⟨index, -, rfl⟩ := List.mem_map.mp h
      exact pMemsz_lt _ _

/-! ### A round -/

/-- Nothing has been written outside the ranges. -/
def WritesInside (events : List LoadEvent) : Prop := ∀ event ∈ events, event.Inside

section Round

variable {plat : LoadPlatform} {store : StoreOps} {segments : List Phdr} {s : StoreData}
  {info : ElfInfo} {loader : LoaderPhase} {phase : HeaderPhase} {nseg : Nat} {vars : LoadVars}
  {events more : List LoadEvent}

theorem writesInside_append :
    WritesInside (events ++ more) ↔ WritesInside events ∧ WritesInside more :=
  List.forall_mem_append

theorem writesInside_of_quiet (h : ∀ event ∈ more, event.Quiet) : WritesInside more := by
  intro event hmem
  have hquiet := h event hmem
  cases event with
  | transfer mapped offset size ret => exact hquiet.elim
  | padded mapped io offset len => exact hquiet.elim
  | _ => trivial

theorem writesInside_transfer {mapped : Mapped} {offset size : Nat} {ret : Int}
    (hmem : mapped.size < 2 ^ 64) :
    WritesInside [.transfer mapped offset size ret] ↔ size ≤ mapped.size := by
  rw [WritesInside, List.forall_mem_singleton, LoadEvent.Inside, physRange_subset_iff hmem]

theorem writesInside_copyEvents {io : IoRegion} {mapped : Mapped} {ret : Int} (hio : io.Contiguous)
    (hsize : mapped.size = vars.nmemsize) (hmem : vars.nmemsize < 2 ^ 64) :
    WritesInside (copyEvents io mapped vars ret) ↔
      vars.nlen ≤ vars.nmemsize ∧ 0 ≤ toInt32 (vars.nmemsize - vars.nlen : Nat) := by
  have htransfer : WritesInside (if 0 < vars.nlen then
      [.transfer mapped vars.noffset vars.nlen ret] else []) ↔ vars.nlen ≤ vars.nmemsize := by
    split_ifs with hlen
    · rw [writesInside_transfer (hsize ▸ hmem), hsize]
    · exact iff_of_true nofun (by omega)
  unfold copyEvents
  rw [writesInside_append, htransfer]
  refine and_congr_right fun hle => ?_
  split_ifs with hpad
  · rw [WritesInside, List.forall_mem_singleton, ← hsize]
    exact padding_inside_iff hio mapped (hsize ▸ hle)
  · have hnone : vars.nmemsize - vars.nlen = 0 := by omega
    rw [hnone]
    exact iff_of_true nofun (by decide)

/-- What a round writes for the variables lies inside the range exactly if the segment fits. -/
theorem act_writes (hplat : plat.Contiguous) (store : StoreOps) (s : StoreData) (vars : LoadVars)
    (hregion : s.Regions) (hmem : vars.nmemsize < 2 ^ 64) :
    WritesInside (afterRound (s.act plat store vars)).events ↔
      WritesInside s.events ∧
        (vars.da ≠ RPROC_LOAD_ANYADDR → s.Maps plat vars → s.Fits plat store vars) := by
  have hact := act_cases plat store s vars
  generalize s.act plat store vars = result at hact
  have hfetched (size : Nat) (ret : Int) : WritesInside [.fetched size ret] :=
    writesInside_of_quiet (quiet_fetched size ret)
  cases hact with
  | unmapped haddr hmap hevents =>
      rw [afterRound, hevents]
      exact (and_iff_left fun _ h => absurd h hmap).symm
  | refused haddr hmap hlen hreply hret hevents =>
      have hrefused : ¬ s.Copies plat store vars := by
        rintro (hnone | hcopies)
        · exact hlen.ne' hnone
        · exact hret (hreply.symm.trans hcopies)
      rw [afterRound, hevents, writesInside_append, writesInside_transfer hmem]
      exact and_congr_right fun _ =>
        ⟨fun hle _ _ => ⟨hle, fun hcopies => absurd hcopies hrefused⟩, fun h => (h haddr hmap).1⟩
  | copied haddr hmap hio hcopies hinfo hlast hevents =>
      rw [afterRound, hevents, writesInside_append,
        writesInside_copyEvents (hregion.mapped hplat hio) rfl hmem]
      refine and_congr_right fun _ => ⟨fun h _ _ => ⟨h.1, fun _ => h.2⟩, fun h => ?_⟩
      obtain ⟨hle, hpad⟩ := h haddr hmap
      exact ⟨hle, hpad hcopies⟩
  | short haddr hlen hreply hret hexit hinfo hevents =>
      rw [afterRound, hevents, writesInside_append, and_iff_left (hfetched _ _)]
      exact (and_iff_left fun h => absurd haddr h).symm
  | fetched haddr hlen hinfo hlast hplace hevents =>
      rw [afterRound, hevents, writesInside_append, and_iff_left (hfetched _ _)]
      exact (and_iff_left fun h => absurd haddr h).symm
  | left haddr hlen => exact (and_iff_left fun h => absurd haddr h).symm

theorem head?_nextLoads (phdrs : List Phdr) :
    (nextLoads phdrs).head? = phdrs.find? fun phdr => phdr.pType = PT_LOAD := by
  induction phdrs with
  | nil => rfl
  | cons phdr phdrs ih =>
      by_cases hload : phdr.pType = PT_LOAD
      · rw [nextLoads_cons_of_load hload]
        simp [hload]
      · rw [nextLoads_cons_of_skip hload, ih]
        simp [hload]

theorem nextSegment_ready (h : s.At plat segments info .ready phase nseg) :
    s.nextSegment plat = (nextLoads (segments.drop nseg)).head? := by
  have hready : ¬ info.loadState &&& RPROC_LOADER_READY_TO_LOAD = 0 :=
    h.loads.at_stage.ready_bit.mpr rfl
  rw [StoreData.nextSegment, h.imgInfo, Option.bind_some, if_neg hready, h.loads.nsegment,
    h.loads.segments, head?_nextLoads]

theorem nextSegment_rest (h : s.At plat segments info loader phase nseg) (hloader : loader ≠ .ready) :
    s.nextSegment plat = none := by
  have hready : info.loadState &&& RPROC_LOADER_READY_TO_LOAD = 0 :=
    not_not.mp fun hbit => hloader (h.loads.at_stage.ready_bit.mp hbit)
  rw [StoreData.nextSegment, h.imgInfo, Option.bind_some, if_pos hready]

theorem segmentFits_none (h : s.nextSegment plat = none) : s.SegmentFits plat store :=
  fun _ hnext => nomatch h.symm.trans hnext

theorem segmentFits_some {phdr : Phdr} (h : s.nextSegment plat = some phdr) :
    s.SegmentFits plat store ↔ (phdr.pVaddr ≠ RPROC_LOAD_ANYADDR → s.Maps plat phdr.vars →
      s.Fits plat store phdr.vars) := by
  constructor
  · exact fun hfits => hfits phdr h
  · intro hfits phdr' hnext
    obtain rfl := Option.some.inj (h.symm.trans hnext)
    exact hfits

theorem writesInside_called (s : StoreData) (info : ElfInfo) :
    WritesInside (s.called info).events ↔ WritesInside s.events := by
  change WritesInside (s.events ++ elfAllocated s.imgInfo (some info)) ↔ _
  rw [writesInside_append,
    and_iff_left (writesInside_of_quiet (quiet_elfAllocated s.imgInfo (some info)))]

/-- A segment of no bytes at all. -/
theorem fits_empty {da noffset : Nat} : s.Fits plat store ⟨da, noffset, 0, 0, 0⟩ :=
  ⟨Nat.le_refl 0, fun _ => show 0 ≤ toInt32 0 by decide⟩

/-- A round stays inside the ranges exactly if its segment fits. -/
theorem round_writes (hplat : plat.Contiguous) (hregion : s.Regions)
    (h : s.At plat segments info loader phase nseg) :
    WritesInside (afterRound (s.body plat store)).events ↔
      WritesInside s.events ∧ s.SegmentFits plat store := by
  have hcall := loaded_call h
  generalize hloaded : s.loaded plat = out at hcall
  cases hcall with
  | stuck hpost =>
      rw [body_stuck hloaded]
      have hfits := @segmentFits_none _ store _ (nextSegment_rest h (by rw [hpost]; decide))
      exact (and_iff_left hfits).symm
  | failed hpost hstatus =>
      have hfits := @segmentFits_none _ store _ (nextSegment_rest h (by rw [hpost]; decide))
      rw [body_failed hloaded, afterRound, StoreData.returned, writesInside_append,
        and_iff_left (writesInside_of_quiet (quiet_elfAllocated _ _)), and_iff_left hfits]
  | @found info' phdr rest hready hnext hloads =>
      subst hready
      have hsegment : s.nextSegment plat = some phdr := by
        rw [nextSegment_ready h, hnext]
        rfl
      have hmem : phdr ∈ plat.segments info := by
        rw [h.loads.segments]
        exact (List.mem_filter.mp (mem_of_nextLoads_drop hnext)).1
      rw [body_act hloaded, segmentFits_some hsegment, ← writesInside_called s info']
      exact act_writes hplat store (s.called info') phdr.vars hregion (pMemsz_lt_of_mem hmem)
  | @left info' noffset hready hnext hloads =>
      subst hready
      have hfits := @segmentFits_none _ store _ ((nextSegment_ready h).trans (by rw [hnext]; rfl))
      rw [body_act hloaded, and_iff_left hfits, ← writesInside_called s info']
      refine (act_writes hplat store (s.called info') ⟨skippedDa (segments.drop nseg), noffset, 0, 0, 0⟩ hregion
        ?_).trans ?_
      · exact Nat.two_pow_pos 64
      · exact and_iff_left fun _ _ => fits_empty
  | @asks info' phase' noffset nlen hpost hloads =>
      have hfits := @segmentFits_none _ store _ (nextSegment_rest h (by rw [hpost]; decide))
      rw [body_act hloaded, and_iff_left hfits, ← writesInside_called s info']
      refine (act_writes hplat store (s.called info') ⟨RPROC_LOAD_ANYADDR, noffset, nlen, 0, 0⟩ hregion ?_).trans ?_
      · exact Nat.two_pow_pos 64
      · exact and_iff_left fun haddr => absurd rfl haddr
  | @done info' noffset hready hloads =>
      have hfits := @segmentFits_none _ store _ (nextSegment_rest h hready)
      rw [body_act hloaded, and_iff_left hfits, ← writesInside_called s info']
      refine (act_writes hplat store (s.called info') ⟨RPROC_LOAD_ANYADDR, noffset, 0, 0, 0⟩ hregion ?_).trans ?_
      · exact Nat.two_pow_pos 64
      · exact and_iff_left fun haddr => absurd rfl haddr

/-- A round leaves the variable for the region alone, or has it set by a mapping. -/
theorem act_regions (hplat : plat.Contiguous) (hregion : s.Regions) :
    (afterRound (s.act plat store vars)).Regions := by
  have hact := act_cases plat store s vars
  generalize s.act plat store vars = result at hact
  have hmapped {s' : StoreData}
      (hio : s'.io = (remoteprocMmapAny plat vars.da vars.nmemsize s.io).io) : s'.Regions :=
    fun io hsome => hregion.mapped hplat (hio ▸ hsome)
  have hkept {s' : StoreData} (hio : s'.io = s.io) : s'.Regions :=
    fun io hsome => hregion io (hio ▸ hsome)
  cases hact with
  | unmapped haddr hmap hevents hio => exact hmapped hio
  | refused haddr hmap hlen hreply hret hevents hio => exact hmapped hio
  | copied haddr hmap hsome hcopies hinfo hlast hevents hio => exact hmapped hio
  | short haddr hlen hreply hret hexit hinfo hevents hio => exact hkept hio
  | fetched haddr hlen hinfo hlast hplace hevents hio => exact hkept hio
  | left haddr hlen => exact hregion

theorem body_regions (hplat : plat.Contiguous) (hregion : s.Regions) :
    (afterRound (s.body plat store)).Regions := by
  rcases hloaded : s.loaded plat with _ | ⟨status | lastLoadState, imgInfo, vars⟩
  · rw [body_stuck hloaded]
    exact hregion
  · rw [body_failed hloaded]
    exact hregion
  · rw [body_act hloaded]
    exact act_regions hplat hregion

end Round

/-! ### A run -/

section Run

variable {plat : LoadPlatform} {store : StoreOps} {headers : StoreHeaders} {data : StoreData}

theorem writesInside_start (h : headers.Ready plat store) :
    WritesInside (StoreData.start plat store headers).events := by
  obtain ⟨info, phase, -, hevents⟩ := h.start_at
  refine writesInside_append.mpr ⟨?_, writesInside_of_quiet (quiet_locateAndGetRscTable _ _)⟩
  intro event hmem
  rcases hevents event hmem with ⟨block, rfl⟩ | ⟨size, ret, rfl, -⟩ <;> trivial

theorem StoreData.Rounds.regions (h : data.Rounds plat store headers) (hplat : plat.Contiguous) :
    data.Regions := by
  refine h.invariant (P := StoreData.Regions) (fun _ hio => nomatch hio) ?_
  intro s s' _ hregions hbody
  have hnext := @body_regions plat store s hplat hregions
  rwa [hbody] at hnext

/-- Every round fits if every segment of the file does. -/
theorem StoreData.Rounds.segmentFits (h : data.Rounds plat store headers)
    (hready : headers.Ready plat store)
    (hall : ∀ phdr ∈ headers.segments plat,
      phdr.pFilesz ≤ phdr.pMemsz ∧ 0 ≤ toInt32 (phdr.pMemsz - phdr.pFilesz : Nat)) :
    data.SegmentFits plat store := by
  obtain ⟨info, loader, phase, nseg, hat⟩ := h.at_segment hready
  by_cases hloader : loader = .ready
  · subst hloader
    cases hloads : nextLoads ((headers.segments plat).drop nseg) with
    | nil => exact segmentFits_none ((nextSegment_ready hat).trans (by rw [hloads]; rfl))
    | cons phdr rest =>
        have hnext : data.nextSegment plat = some phdr :=
          (nextSegment_ready hat).trans (by rw [hloads]; rfl)
        have hmem := (List.mem_filter.mp (mem_of_nextLoads_drop hloads)).1
        exact (segmentFits_some hnext).mpr fun _ _ => ⟨(hall phdr hmem).1, fun _ => (hall phdr hmem).2⟩
  · exact segmentFits_none (nextSegment_rest hat hloader)

end Run

/-- What is written for the segments stays inside the ranges that were mapped for them exactly if, in
every round, the next segment has no more bytes in the file than in memory, and padding of a length that
an `int` holds if they are copied. -/
theorem segments_inside_iff (plat : LoadPlatform) (store : StoreOps) (hplat : plat.Contiguous) :
    SegmentsInside plat store ↔
      ∀ headers : StoreHeaders, headers.Ready plat store →
        ∀ data : StoreData, data.Rounds plat store headers → data.SegmentFits plat store := by
  constructor
  · intro hinside headers hready data hrounds
    obtain ⟨info, loader, phase, nseg, hat⟩ := hrounds.at_segment hready
    exact ((round_writes hplat (hrounds.regions hplat) hat).mp
      (hinside headers hready data hrounds)).2
  · intro hfits headers hready data hrounds
    have hround {s : StoreData} (hs : s.Rounds plat store headers) (hwrites : WritesInside s.events) :
        WritesInside (afterRound (s.body plat store)).events := by
      obtain ⟨info, loader, phase, nseg, hat⟩ := hs.at_segment hready
      exact (round_writes hplat (hs.regions hplat) hat).mpr ⟨hwrites, hfits headers hready s hs⟩
    refine hround hrounds ?_
    refine hrounds.invariant (P := fun s => WritesInside s.events) (writesInside_start hready) ?_
    intro s s' hs hwrites hbody
    have hnext := hround hs hwrites
    rwa [hbody] at hnext

/-! ### A file with one segment -/

/-- An ELF64 header, and a program header with these two sizes. -/
def segmentFile (pFilesz pMemsz : UInt8) : List UInt8 :=
  [127, 69, 76, 70, 2, 0, 0, 0, 0, 0, 0, 0, 0, 0, 0, 0, 0, 0, 0, 0, 0, 0, 0, 0, 0, 0, 0, 0, 0,
   0, 0, 0, 64, 0, 0, 0, 0, 0, 0, 0, 0, 0, 0, 0, 0, 0, 0, 0, 0, 0, 0, 0, 0, 0, 56, 0, 1, 0, 0, 0,
   0, 0, 0, 0, 1, 0, 0, 0, 0, 0, 0, 0, 0, 0, 0, 0, 0, 0, 0, 0, 0, 0, 0, 0, 0, 0, 0, 0, 0, 0, 0, 0,
   0, 0, 0, 0, pFilesz, 0, 0, 0, 0, 0, 0, 0, pMemsz, 0, 0, 0, 0, 0, 0, 0, 0, 0, 0, 0, 0, 0, 0, 0]

def segmentStore (pFilesz pMemsz : UInt8) : StoreOps :=
  servingStore (blockMem (segmentFile pFilesz pMemsz) fun _ => 0) 120

/-- One registered memory, of 16 bytes. -/
def smallPlatform : LoadPlatform :=
  let physToOffset (pa : Nat) := if 0x1000 ≤ pa ∧ pa < 0x1010 then pa - 0x1000 else METAL_BAD_OFFSET
  { mappingPlatform with mems := [⟨0, 0x1000, 16, ⟨0x1000, 16, physToOffset⟩⟩], mmap := none }

theorem smallPlatform_contiguous : smallPlatform.Contiguous where
  mems := by
    refine List.forall_mem_singleton.mpr ?_
    intro phys i hlt
    dsimp only at hlt ⊢
    unfold METAL_BAD_OFFSET u64 at *
    split_ifs at hlt ⊢ <;> omega
  mmap := fun _ hmap => nomatch hmap

def segmentInfo (pFilesz pMemsz : UInt8) : ElfInfo :=
  ⟨slice (segmentFile pFilesz pMemsz) 0 64, ELF_STATE_HDRS_COMPLETE ||| RPROC_LOADER_READY_TO_LOAD,
    some (slice (segmentFile pFilesz pMemsz) 64 56), none, none⟩

def segmentHeaders (pFilesz pMemsz : UInt8) : StoreHeaders :=
  ⟨⟨some (blockMem (segmentFile pFilesz pMemsz) fun _ => 0), 0, 120, some (segmentInfo pFilesz pMemsz),
    ELF_STATE_HDRS_COMPLETE ||| RPROC_LOADER_READY_TO_LOAD, 0, 0⟩, 0,
    elfAllocated none (some (segmentInfo pFilesz pMemsz))⟩

/-- 8 bytes are copied to a range of 16, and 8 bytes of padding behind them. -/
theorem padded_segment_inside : SegmentsInside smallPlatform (segmentStore 8 16) := by
  have hready : (segmentHeaders 8 16).Ready smallPlatform (segmentStore 8 16) := Loop.Returns.of_inr rfl
  have hsegments : (segmentHeaders 8 16).segments smallPlatform = [⟨PT_LOAD, 0, 0, 8, 16⟩] := by
    decide +kernel
  refine (segments_inside_iff _ _ smallPlatform_contiguous).mpr fun headers hready' data hrounds => ?_
  obtain ⟨rfl, -⟩ := Prod.mk.inj (hready'.unique hready)
  refine hrounds.segmentFits hready ?_
  rw [hsegments]
  exact List.forall_mem_singleton.mpr ⟨by decide, by decide⟩

/-- 16 bytes are copied to a range that has been mapped for 8. -/
theorem overlong_segment_outside : ¬ SegmentsInside smallPlatform (segmentStore 16 8) := by
  have hready : (segmentHeaders 16 8).Ready smallPlatform (segmentStore 16 8) := Loop.Returns.of_inr rfl
  obtain ⟨info, phase, hat, -⟩ := hready.start_at
  intro hinside
  have hregions : (StoreData.start smallPlatform (segmentStore 16 8) (segmentHeaders 16 8)).Regions :=
    fun _ hio => nomatch hio
  have hfits := ((round_writes smallPlatform_contiguous hregions hat).mp
    (hinside _ hready _ .start)).2
  have hnext : (StoreData.start smallPlatform (segmentStore 16 8) (segmentHeaders 16 8)).nextSegment
      smallPlatform = some ⟨PT_LOAD, 0, 0, 16, 8⟩ := by
    decide +kernel
  exact absurd (hfits _ hnext (by decide) ⟨by decide +kernel, by rintro ⟨⟩⟩).1 (by decide)

end OpenAmp
