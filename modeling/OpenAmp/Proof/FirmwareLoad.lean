import Mathlib.Data.List.Pairwise
import OpenAmp.Proof.ElfLoad

/-!
# The loaded firmware

What `remoteproc_load` leaves in the target memory, for memories that behave as memories do. The
padding of a segment goes through an `int`, so that it is complete only below `2 ^ 31` bytes.
-/

namespace OpenAmp

open ByteMemory Slice

/-- The device addresses of a segment. -/
def Phdr.range (phdr : Phdr) : Set Nat := Set.Ico phdr.pVaddr (phdr.pVaddr + phdr.pMemsz)

/-- The segments that are loaded do not overlap, and have no more bytes in the file than in
memory. -/
structure SegmentsOk (image : ElfImage) : Prop where
  filesz_le : ∀ phdr ∈ loads image.phdrs, phdr.pFilesz ≤ phdr.pMemsz
  disjoint : (loads image.phdrs).Pairwise fun p q => Disjoint p.range q.range

/-- The padding of every segment has a length that an `int` holds. -/
def ElfImage.PaddingFits (image : ElfImage) : Prop :=
  ∀ phdr ∈ loads image.phdrs, phdr.pMemsz - phdr.pFilesz < 2 ^ 31

/-- The bytes of a segment: those of the file and zeros. -/
def ElfImage.content (image : ElfImage) (phdr : Phdr) : List UInt8 :=
  slice image.bytes phdr.pOffset phdr.pFilesz ++ List.replicate (phdr.pMemsz - phdr.pFilesz) 0

/-- The bytes that are stored, if a negative length fills nothing. -/
def ElfImage.placed (image : ElfImage) (phdr : Phdr) : List UInt8 :=
  slice image.bytes phdr.pOffset phdr.pFilesz ++
    List.replicate (toInt32 (phdr.pMemsz - phdr.pFilesz : Nat)).toNat 0

/-! ### What is stored -/

/-- A byte of physical memory has one device address. -/
def Remoteproc.OneAddress (rproc : Remoteproc) : Prop :=
  ∀ da size map da' size' map', rproc.MapsTo da size map → rproc.MapsTo da' size' map' →
    ∀ i < size, ∀ j < size', map.pa + i = map'.pa + j → da + i = da' + j

/-- `metal_io_block_set` fills a range that is mapped, if the length is one that an `int` holds. -/
def Remoteproc.Fills (rproc : Remoteproc) : Prop :=
  ∀ da size map, rproc.MapsTo da size map → ∀ k n value ram, n < 2 ^ 31 → k + n ≤ size →
    map.io.blockSet (map.io.physToOffset (map.pa + k)) value n ram =
      writeBytes ram (map.pa + k) (List.replicate n value)

/-- Copying and padding a segment stores these bytes. -/
def Remoteproc.Places (rproc : Remoteproc) (image : ElfImage) : Prop :=
  ∀ phdr ∈ loads image.phdrs, ∀ map, rproc.MapsTo phdr.pVaddr phdr.pMemsz map → ∀ ram,
    placeSegment image phdr map.pa map.io ram = writeBytes ram map.pa (image.placed phdr)

/-- A segment as a block of bytes at its physical address. -/
def segmentBlock (image : ElfImage) (rproc : Remoteproc) (phdr : Phdr) : Nat × List UInt8 :=
  ((rproc.mapping phdr.pVaddr phdr.pMemsz).elim 0 TargetMapping.pa, image.placed phdr)

section Stored

variable {image : ElfImage} {rproc : Remoteproc} {phdr : Phdr} {map : TargetMapping}
  {target : Target}

theorem length_placed_le (hfile : phdr.pOffset + phdr.pFilesz ≤ image.bytes.length)
    (hsize : phdr.pFilesz ≤ phdr.pMemsz) : (image.placed phdr).length ≤ phdr.pMemsz := by
  have hpad := toInt32_toNat_le (phdr.pMemsz - phdr.pFilesz)
  rw [ElfImage.placed, List.length_append, length_slice hfile, List.length_replicate]
  omega

theorem length_content (hfile : phdr.pOffset + phdr.pFilesz ≤ image.bytes.length)
    (hsize : phdr.pFilesz ≤ phdr.pMemsz) : (image.content phdr).length = phdr.pMemsz := by
  rw [ElfImage.content, List.length_append, length_slice hfile, List.length_replicate]
  omega

theorem placed_eq_content (hfits : phdr.pMemsz - phdr.pFilesz < 2 ^ 31) :
    image.placed phdr = image.content phdr := by
  rw [ElfImage.placed, ElfImage.content, toInt32_of_lt hfits, Int.toNat_natCast]

theorem segmentBlock_eq (hmap : rproc.MapsTo phdr.pVaddr phdr.pMemsz map) :
    segmentBlock image rproc phdr = (map.pa, image.placed phdr) := by
  rw [segmentBlock, hmap.mapping_eq]
  rfl

/-- Copying a segment and filling the rest stores its bytes, if the filling does what it should. -/
theorem placeSegment_eq (hmap : rproc.MapsTo phdr.pVaddr phdr.pMemsz map)
    (hfile : phdr.pOffset + phdr.pFilesz ≤ image.bytes.length) (ram : Nat → UInt8)
    (hfill : ∀ ram, phdr.pMemsz > phdr.pFilesz →
      map.io.blockSet (map.io.physToOffset (map.pa + phdr.pFilesz)) 0
          (toInt32 (phdr.pMemsz - phdr.pFilesz : Nat)) ram =
        writeBytes ram (map.pa + phdr.pFilesz)
          (List.replicate (toInt32 (phdr.pMemsz - phdr.pFilesz : Nat)).toNat 0)) :
    placeSegment image phdr map.pa map.io ram = writeBytes ram map.pa (image.placed phdr) := by
  unfold placeSegment ElfImage.placed
  by_cases hmore : phdr.pMemsz > phdr.pFilesz
  · have hu64 : u64 (map.pa + phdr.pFilesz) = map.pa + phdr.pFilesz := by
      have hpa := hmap.pa_lt
      have hbad : METAL_BAD_PHYS < 2 ^ 64 := by decide
      exact Nat.mod_eq_of_lt (by omega)
    have happend := writeBytes_append ram map.pa (slice image.bytes phdr.pOffset phdr.pFilesz)
      (List.replicate (toInt32 (phdr.pMemsz - phdr.pFilesz : Nat)).toNat 0)
    rw [length_slice hfile] at happend
    simp only [if_pos hmore, hu64]
    rw [hfill _ hmore, happend]
  · have hnone : phdr.pMemsz - phdr.pFilesz = 0 := by omega
    simp only [if_neg hmore]
    rw [hnone, toInt32_of_lt (by decide), Int.toNat_natCast, List.replicate_zero, List.append_nil]

theorem places_of_fits (hfills : rproc.Fills) (hload : Loadable image rproc)
    (hfits : image.PaddingFits) : rproc.Places image := by
  intro phdr hphdr map hmap ram
  apply placeSegment_eq hmap (hload.file_le phdr hphdr)
  intro ram hmore
  have hpad := hfits phdr hphdr
  rw [toInt32_of_lt hpad, Int.toNat_natCast]
  exact hfills _ _ map hmap phdr.pFilesz (phdr.pMemsz - phdr.pFilesz) 0 ram hpad (by omega)

theorem storeSegment_eq (hplaces : target.rproc.Places image)
    (hload : Loadable image target.rproc) (hphdr : phdr ∈ loads image.phdrs) :
    target.storeSegment image phdr = { target with
      ram := writeBytes target.ram (segmentBlock image target.rproc phdr).1
        (segmentBlock image target.rproc phdr).2
      mapped := target.mapped ++ [(phdr.pVaddr, phdr.pMemsz)] } := by
  obtain ⟨map, hmap⟩ := hload.mapped phdr hphdr
  rw [Target.storeSegment, hmap.mapping_eq, segmentBlock_eq hmap]
  simp only [hplaces phdr hphdr map hmap target.ram]

theorem storeAll_eq (phdrs : List Phdr) (target : Target) (hplaces : target.rproc.Places image)
    (hload : Loadable image target.rproc) (hphdrs : ∀ phdr ∈ phdrs, phdr ∈ loads image.phdrs) :
    target.storeAll image phdrs = { target with
      ram := writeBlocks target.ram (phdrs.map (segmentBlock image target.rproc))
      mapped := target.mapped ++ phdrs.map fun phdr => (phdr.pVaddr, phdr.pMemsz) } := by
  induction phdrs generalizing target with
  | nil =>
      rw [List.map_nil, List.map_nil, List.append_nil]
      rfl
  | cons phdr phdrs ih =>
      have hfirst := storeSegment_eq hplaces hload (hphdrs phdr List.mem_cons_self)
      have hrest : ∀ phdr ∈ phdrs, phdr ∈ loads image.phdrs := fun p hp =>
        hphdrs p (List.mem_cons_of_mem _ hp)
      have hnext := ih (target.storeSegment image phdr) (by rwa [storeSegment_rproc])
        (by rwa [storeSegment_rproc]) hrest
      change (target.storeSegment image phdr).storeAll image phdrs = _
      rw [hnext, hfirst]
      simp only [List.map_cons, List.append_assoc, List.singleton_append]
      rfl

theorem blockAddrs_subset (hload : Loadable image rproc) (hsegments : SegmentsOk image)
    (hphdr : phdr ∈ loads image.phdrs) (hmap : rproc.MapsTo phdr.pVaddr phdr.pMemsz map) :
    blockAddrs (segmentBlock image rproc phdr) ⊆ Set.Ico map.pa (map.pa + phdr.pMemsz) := by
  have hlen := length_placed_le (hload.file_le phdr hphdr) (hsegments.filesz_le phdr hphdr)
  rw [blockAddrs, segmentBlock_eq hmap]
  exact Set.Ico_subset_Ico_right (Nat.add_le_add_left hlen _)

/-- Different device addresses are different bytes of physical memory. -/
theorem disjoint_of_range {p q : Phdr} {mapP mapQ : TargetMapping} (haddress : rproc.OneAddress)
    (hp : rproc.MapsTo p.pVaddr p.pMemsz mapP) (hq : rproc.MapsTo q.pVaddr q.pMemsz mapQ)
    (hdisjoint : Disjoint p.range q.range) :
    Disjoint (Set.Ico mapP.pa (mapP.pa + p.pMemsz)) (Set.Ico mapQ.pa (mapQ.pa + q.pMemsz)) := by
  rw [Set.disjoint_left]
  rintro a ⟨hfrom, hto⟩ ⟨hfrom', hto'⟩
  have hsame := haddress _ _ _ _ _ _ hp hq (a - mapP.pa) (by omega) (a - mapQ.pa) (by omega)
    (by omega)
  have hin : p.pVaddr + (a - mapP.pa) ∈ p.range := ⟨by omega, by omega⟩
  have hin' : p.pVaddr + (a - mapP.pa) ∈ q.range := by
    rw [hsame]
    exact ⟨by omega, by omega⟩
  exact Set.disjoint_left.mp hdisjoint hin hin'

theorem blocks_disjoint (haddress : rproc.OneAddress) (hload : Loadable image rproc)
    (hsegments : SegmentsOk image) :
    ((loads image.phdrs).map (segmentBlock image rproc)).Pairwise fun b c =>
      Disjoint (blockAddrs b) (blockAddrs c) := by
  rw [List.pairwise_map]
  refine hsegments.disjoint.imp_of_mem fun {p q} hp hq hdisjoint => ?_
  obtain ⟨map, hmap⟩ := hload.mapped p hp
  obtain ⟨map', hmap'⟩ := hload.mapped q hq
  exact (disjoint_of_range haddress hmap hmap' hdisjoint).mono
    (blockAddrs_subset hload hsegments hp hmap) (blockAddrs_subset hload hsegments hq hmap')

/-- A segment is there once all are stored. -/
theorem readBytes_storeAll (haddress : target.rproc.OneAddress)
    (hplaces : target.rproc.Places image) (hload : Loadable image target.rproc)
    (hsegments : SegmentsOk image) (hphdr : phdr ∈ loads image.phdrs)
    (hfits : phdr.pMemsz - phdr.pFilesz < 2 ^ 31)
    (hmap : target.rproc.MapsTo phdr.pVaddr phdr.pMemsz map) :
    readBytes (target.storeAll image (loads image.phdrs)).ram map.pa phdr.pMemsz =
      image.content phdr := by
  have hread := readBytes_writeBlocks target.ram (blocks_disjoint haddress hload hsegments)
    (List.mem_map_of_mem hphdr)
  have hlen := length_content (hload.file_le phdr hphdr) (hsegments.filesz_le phdr hphdr)
  rw [segmentBlock_eq hmap, placed_eq_content hfits, hlen] at hread
  rw [storeAll_eq (loads image.phdrs) target hplaces hload fun _ h => h]
  exact hread

end Stored

/-! ### Targets with registered memories -/

/-- `metal_io_block_set` fills a range of a memory, if the length is one that an `int` holds. -/
def RemoteprocMem.Fills (mem : RemoteprocMem) : Prop :=
  ∀ pa n value ram, n < 2 ^ 31 → mem.pa ≤ pa → pa + n ≤ mem.pa + mem.size →
    mem.io.blockSet (mem.io.physToOffset pa) value n ram =
      writeBytes ram pa (List.replicate n value)

/-- A target with memories at these addresses, whatever they contain, and with nothing else that
could be mapped. -/
structure Hosts (ranges : List MemRange) (target : Target) : Prop where
  ranges_eq : target.rproc.mems.map RemoteprocMem.toMemRange = ranges
  mmap_eq : target.rproc.mmap = none
  state_eq : target.rproc.state = .ready ∨ target.rproc.state = .configured
  fills : ∀ mem ∈ target.rproc.mems, mem.Fills

/-- The file has what is loaded, each segment lies in one of the memories, and a byte of physical
memory has one device address. -/
structure Placeable (image : ElfImage) (ranges : List MemRange) : Prop where
  phnum_lt : elfPhnum image.bytes < 2 ^ 8
  file_le : ∀ phdr ∈ loads image.phdrs, phdr.pOffset + phdr.pFilesz ≤ image.bytes.length
  addressable : ∀ range ∈ ranges, range.Addressable
  held : ∀ phdr ∈ loads image.phdrs, ∃ range ∈ ranges, range.Holds phdr.pVaddr phdr.pMemsz
  same_da : ∀ range ∈ ranges, ∀ range' ∈ ranges, ∀ i < range.size, ∀ j < range'.size,
    range.pa + i = range'.pa + j → range.da + i = range'.da + j

/-- The memory where a segment is found, the first one that has room for it. -/
def segmentRange (ranges : List MemRange) (phdr : Phdr) : Option MemRange :=
  ranges.find? fun range => range.Holds phdr.pVaddr phdr.pMemsz

section Hosted

variable {image : ElfImage} {ranges : List MemRange} {phdr : Phdr} {target : Target}
  {da size : Nat} {map : TargetMapping}

theorem Hosts.mem_iff (hosts : Hosts ranges target) {range : MemRange} :
    range ∈ ranges ↔ ∃ mem ∈ target.rproc.mems, mem.toMemRange = range := by
  rw [← hosts.ranges_eq, List.mem_map]

theorem Hosts.addressable (hosts : Hosts ranges target) (hplace : Placeable image ranges) :
    ∀ mem ∈ target.rproc.mems, mem.Addressable := fun mem hmem =>
  hplace.addressable _ (hosts.mem_iff.mpr ⟨mem, hmem, rfl⟩)

theorem Hosts.segmentRange_eq (hosts : Hosts ranges target) (phdr : Phdr) :
    segmentRange ranges phdr =
      (target.rproc.mems.find? fun mem => mem.Holds phdr.pVaddr phdr.pMemsz).map
        RemoteprocMem.toMemRange := by
  rw [segmentRange, ← hosts.ranges_eq, List.find?_map]
  rfl

/-- A mapped range lies in a memory. -/
theorem Hosts.mapped_inv (hosts : Hosts ranges target) (hplace : Placeable image ranges)
    (hmap : target.rproc.MapsTo da size map) :
    ∃ mem ∈ target.rproc.mems, mem.Holds da size ∧ map = mem.mapped da := by
  have haddr := hosts.addressable hplace
  by_cases hheld : ∃ mem ∈ target.rproc.mems, mem.Holds da size
  · obtain ⟨mem, hmem, hholds, -, hmapped⟩ := mapsTo_of_holds haddr hheld
    exact ⟨mem, hmem, hholds, Option.some.inj (hmap.mapping_eq.symm.trans hmapped.mapping_eq)⟩
  · have hnone := mapping_of_not haddr hosts.mmap_eq hmap.da_lt fun mem hmem hholds =>
      hheld ⟨mem, hmem, hholds⟩
    rw [hmap.mapping_eq] at hnone
    cases hnone

theorem Hosts.segment_mapped (hosts : Hosts ranges target) (hplace : Placeable image ranges)
    (hphdr : phdr ∈ loads image.phdrs) :
    ∃ mem ∈ target.rproc.mems, segmentRange ranges phdr = some mem.toMemRange ∧
      target.rproc.MapsTo phdr.pVaddr phdr.pMemsz (mem.mapped phdr.pVaddr) := by
  obtain ⟨range, hrange, hholds⟩ := hplace.held phdr hphdr
  obtain ⟨holder, hholder, rfl⟩ := hosts.mem_iff.mp hrange
  obtain ⟨mem, hmem, -, hfind, hmapped⟩ :=
    mapsTo_of_holds (hosts.addressable hplace) ⟨holder, hholder, hholds⟩
  refine ⟨mem, hmem, ?_, hmapped⟩
  rw [hosts.segmentRange_eq, hfind]
  rfl

theorem Hosts.loadable (hosts : Hosts ranges target) (hplace : Placeable image ranges) :
    Loadable image target.rproc where
  phnum_lt := hplace.phnum_lt
  file_le := hplace.file_le
  mapped := fun _ hphdr =>
    let ⟨mem, _, _, hmapped⟩ := hosts.segment_mapped hplace hphdr
    ⟨mem.mapped _, hmapped⟩

theorem Hosts.rproc_fills (hosts : Hosts ranges target) (hplace : Placeable image ranges) :
    target.rproc.Fills := by
  intro da size map hmap k n value ram hn hk
  obtain ⟨mem, hmem, ⟨hfrom, hto⟩, rfl⟩ := hosts.mapped_inv hplace hmap
  apply hosts.fills mem hmem _ n value ram hn
  · exact Nat.le_trans (Nat.le_add_right _ _) (Nat.le_add_right _ _)
  · simp only [RemoteprocMem.mapped, MemRange.addr]
    omega

theorem Hosts.identified (hosts : Hosts ranges target) : Hosts ranges target.identified :=
  ⟨hosts.ranges_eq, hosts.mmap_eq, hosts.state_eq, hosts.fills⟩

end Hosted

/-! ### A target on which nothing is filled by a negative length -/

/-- A region in which offsets are physical addresses. -/
def flatIo : TargetIo where
  physToOffset := id
  physToVirt := id
  virtToOffset := id
  blockSet := fun pa value n ram => writeBytes ram pa (List.replicate n.toNat value)
  blockRead := fun pa n ram => (n, readBytes ram pa n.toNat)
  blockWrite := fun pa bytes n ram => writeBytes ram pa (bytes.take n.toNat)

def flatTarget (ranges : List MemRange) : Target where
  rproc := ⟨.ready, false, ranges.map fun range => ⟨range, flatIo⟩, none, 0⟩
  ram := fun _ => 0xAA
  mapped := []

section Flat

variable {image : ElfImage} {ranges : List MemRange} {phdr : Phdr}

theorem hosts_flat (ranges : List MemRange) : Hosts ranges (flatTarget ranges) where
  ranges_eq := by
    simp only [flatTarget, List.map_map]
    exact List.map_id ranges
  mmap_eq := rfl
  state_eq := .inl rfl
  fills := by
    intro mem hmem pa n value ram _ _ _
    obtain ⟨range, -, rfl⟩ := List.mem_map.mp hmem
    rfl

end Flat

/-- Sixteen bytes at the device address `0x1000`. -/
def smallRange : MemRange := ⟨0x1000, 0x8000, 16⟩

def smallMem : RemoteprocMem := ⟨smallRange, flatIo⟩

def smallTarget : Target := flatTarget [smallRange]

def smallEnv : LoaderEnv := ⟨fun _ => true, fun rscTable => (0, rscTable)⟩

theorem phdrs_smallImage : smallImage.phdrs = [⟨PT_LOAD, 124, 0x1000, 1, 3⟩] := by
  decide +kernel

theorem segmentsOk_of_one {image : ElfImage} {phdr : Phdr} (hloads : loads image.phdrs = [phdr])
    (hsize : phdr.pFilesz ≤ phdr.pMemsz) : SegmentsOk image := by
  constructor
  · rw [hloads]
    simpa using hsize
  · rw [hloads]
    exact List.pairwise_singleton _ _

theorem placeable_of_one {image : ElfImage} {phdr : Phdr} (hloads : loads image.phdrs = [phdr])
    (hphnum : elfPhnum image.bytes < 2 ^ 8)
    (hfile : phdr.pOffset + phdr.pFilesz ≤ image.bytes.length)
    (hholds : smallRange.Holds phdr.pVaddr phdr.pMemsz) : Placeable image [smallRange] := by
  refine ⟨hphnum, fun p hp => ?_, fun range hrange => ?_, fun p hp => ?_, ?_⟩
  · rw [hloads] at hp
    obtain rfl := List.mem_singleton.mp hp
    exact hfile
  · obtain rfl := List.mem_singleton.mp hrange
    decide
  · rw [hloads] at hp
    obtain rfl := List.mem_singleton.mp hp
    exact ⟨smallRange, List.mem_singleton_self _, hholds⟩
  · intro range hrange range' hrange' i _ j _ hsame
    obtain rfl := List.mem_singleton.mp hrange
    obtain rfl := List.mem_singleton.mp hrange'
    omega

end OpenAmp
