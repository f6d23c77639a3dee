import Mathlib.Data.List.Find
import OpenAmp.Proof.ElfSegments
import OpenAmp.Proof.LoadRounds

/-!
# Loading a firmware

`remoteproc_load` from a store that can seek: the first loop collects the headers, the second goes
through the program headers and copies what they describe. What is left behind by a last header that
is not loaded decides whether the second loop gets to its end.
-/

namespace OpenAmp

open ByteMemory Slice

/-! ### Mapping -/

/-- A range of device addresses lies in a memory. -/
def MemRange.Holds (range : MemRange) (da size : Nat) : Prop :=
  range.da ≤ da ∧ da + size ≤ range.da + range.size

instance (range : MemRange) (da size : Nat) : Decidable (range.Holds da size) :=
  inferInstanceAs (Decidable (_ ∧ _))

/-- The physical address of a device address of a memory. -/
def MemRange.addr (range : MemRange) (da : Nat) : Nat := range.pa + (da - range.da)

/-- A memory ends below the address that stands for none. -/
def MemRange.Addressable (range : MemRange) : Prop :=
  range.da + range.size < METAL_BAD_PHYS ∧ range.pa + range.size < METAL_BAD_PHYS

instance (range : MemRange) : Decidable range.Addressable :=
  inferInstanceAs (Decidable (_ ∧ _))

/-- A range of device addresses is mapped, and like the physical one it ends below the address that
stands for none. -/
structure Remoteproc.MapsTo (rproc : Remoteproc) (da size : Nat) (map : TargetMapping) : Prop where
  mapping_eq : rproc.mapping da size = some map
  da_lt : da + size < METAL_BAD_PHYS
  pa_lt : map.pa + size < METAL_BAD_PHYS

section Mapping

variable {rproc : Remoteproc} {mems : List RemoteprocMem} {map : TargetMapping} {da size : Nat}

theorem Remoteproc.MapsTo.pa_ne (h : rproc.MapsTo da size map) : map.pa ≠ METAL_BAD_PHYS := by
  have hlt := h.pa_lt
  omega

theorem Remoteproc.MapsTo.da_ne (h : rproc.MapsTo da size map) : da ≠ RPROC_LOAD_ANYADDR := by
  have hlt := h.da_lt
  unfold METAL_BAD_PHYS at hlt
  unfold RPROC_LOAD_ANYADDR
  omega

theorem remoteprocMmap_of_some (h : rproc.mapping da size = some map) (io : Option TargetIo) :
    remoteprocMmap rproc da size io = ⟨map.va, map.pa, some map.io⟩ := by
  rw [remoteprocMmap, h]

theorem remoteprocMmap_of_none (h : rproc.mapping da size = none) (io : Option TargetIo) :
    remoteprocMmap rproc da size io = ⟨NULL, METAL_BAD_PHYS, io⟩ := by
  rw [remoteprocMmap, h]

theorem remoteprocGetMem_eq (hmems : ∀ mem ∈ mems, mem.Addressable) (hend : da + size < METAL_BAD_PHYS) :
    remoteprocGetMem mems METAL_BAD_PHYS da size = mems.find? fun mem => mem.Holds da size := by
  have hda : da ≠ METAL_BAD_PHYS := by omega
  have hlt : ∀ {value : Nat}, value < METAL_BAD_PHYS → value % 2 ^ 64 = value := fun h =>
    Nat.mod_eq_of_lt (Nat.lt_trans h (by decide))
  unfold remoteprocGetMem
  refine List.find?_congr fun mem hmem => ?_
  have hbound := (hmems mem hmem).1
  simp only [hda, ne_eq, not_true_eq_false, not_false_eq_true, if_true, if_false, u64, hlt hend,
    hlt hbound]
  rfl

/-- The mapping of a device address through a memory. -/
def RemoteprocMem.mapped (mem : RemoteprocMem) (da : Nat) : TargetMapping :=
  ⟨mem.io.physToVirt (mem.addr da), mem.addr da, mem.io⟩

theorem mapsTo_of_holds (hmems : ∀ mem ∈ rproc.mems, mem.Addressable)
    (hheld : ∃ mem ∈ rproc.mems, mem.Holds da size) :
    ∃ mem ∈ rproc.mems, mem.Holds da size ∧
      (rproc.mems.find? fun mem => mem.Holds da size) = some mem ∧
      rproc.MapsTo da size (mem.mapped da) := by
  obtain ⟨holder, hholder, hholds⟩ := hheld
  have hend : da + size < METAL_BAD_PHYS := Nat.lt_of_le_of_lt hholds.2 (hmems holder hholder).1
  have hsome : (rproc.mems.find? fun mem => mem.Holds da size).isSome := by
    rw [List.find?_isSome]
    exact ⟨holder, hholder, decide_eq_true hholds⟩
  obtain ⟨mem, hfind⟩ := Option.isSome_iff_exists.mp hsome
  have hmem := List.mem_of_find?_eq_some hfind
  have htest := List.find?_some hfind
  have hmemHolds : mem.Holds da size := of_decide_eq_true htest
  have haddr : mem.addr da + size < METAL_BAD_PHYS := by
    have hpa := (hmems mem hmem).2
    unfold MemRange.addr
    obtain ⟨hfrom, hto⟩ := hmemHolds
    omega
  refine ⟨mem, hmem, hmemHolds, hfind, ?_, hend, haddr⟩
  have hdatopa : remoteprocDatopa mem da = mem.addr da := by
    have hcast : (mem.pa : Int) + da - mem.da = (mem.addr da : Nat) := by
      have hfrom := hmemHolds.1
      unfold MemRange.addr
      omega
    have hlt : mem.addr da < 2 ^ 64 :=
      Nat.lt_of_le_of_lt (Nat.le_add_right _ size) (Nat.lt_trans haddr (by decide))
    unfold remoteprocDatopa ofInt
    rw [hcast]
    omega
  have hda : da ≠ METAL_BAD_PHYS := by omega
  rw [Remoteproc.mapping, remoteprocGetMem_eq hmems hend, hfind]
  simp only [hda, ne_eq, not_false_eq_true, if_true, hdatopa]
  rfl

theorem mapping_of_not (hmems : ∀ mem ∈ rproc.mems, mem.Addressable) (hmmap : rproc.mmap = none)
    (hend : da + size < METAL_BAD_PHYS) (hnone : ∀ mem ∈ rproc.mems, ¬ mem.Holds da size) :
    rproc.mapping da size = none := by
  have hfind : (rproc.mems.find? fun mem => mem.Holds da size) = none := by
    rw [List.find?_eq_none]
    intro mem hmem hholds
    exact hnone mem hmem (of_decide_eq_true hholds)
  rw [Remoteproc.mapping, remoteprocGetMem_eq hmems hend, hfind, hmmap]
  rfl

end Mapping

/-! ### The loop over the headers -/

/-- The store hands out the image, and at first so much of it that the class can be seen. -/
structure Serves (store : ImageStore) (image : ElfImage) : Prop where
  image_eq : store.image = image.bytes
  class_lt : EI_CLASS < store.openLen
  open_le : store.openLen ≤ image.bytes.length

theorem ImageStore.load_eq {store : ImageStore} (offset size : Nat)
    (hle : offset + size ≤ store.image.length) :
    store.load offset size = (toInt32 size, some (slice store.image offset size)) := by
  rw [ImageStore.load, if_pos hle]

/-- Sections are waited for only if there are some. -/
def ElfImage.Waits (image : ElfImage) (phase : HeaderPhase) : Prop :=
  phase = .shdrs ∨ phase = .shstrtab → elfShnum image.bytes ≠ 0

theorem ElfImage.Waits.sections {image : ElfImage} {phase : HeaderPhase} (h : image.Waits phase)
    (hfirst : phase ≠ .phdrs) (hmore : phase ≠ .complete) : elfShnum image.bytes ≠ 0 := by
  cases phase with
  | phdrs => exact absurd rfl hfirst
  | shdrs => exact h (.inl rfl)
  | shstrtab => exact h (.inr rfl)
  | complete => exact absurd rfl hmore

theorem ElfImage.Waits.advance {image : ElfImage} {phase : HeaderPhase} (h : image.Waits phase)
    (offset len : Nat) : image.Waits (image.advance offset len phase) := by
  have hshdrs : image.Waits (image.advanceShdrs offset len) := by
    unfold ElfImage.advanceShdrs ElfImage.advanceShstrtab
    split_ifs with hnone _ _
    · exact nofun
    · exact nofun
    · exact fun _ => hnone
    · exact fun _ => hnone
  cases phase with
  | phdrs =>
      change image.Waits (image.advancePhdrs offset len)
      unfold ElfImage.advancePhdrs
      split_ifs
      · exact hshdrs
      · exact nofun
  | shdrs => exact hshdrs
  | shstrtab => exact fun _ => h (.inr rfl)
  | complete => exact nofun

/-- The state of the loader while the headers are collected. -/
def headerWord (phase : HeaderPhase) : Nat :=
  loadWord (if phase = .phdrs then .notReady else .ready) phase 0

/-- The headers are there, except perhaps for an empty string table. -/
structure HeadersDone (image : ElfImage) (phase : HeaderPhase) : Prop where
  ne_phdrs : phase ≠ .phdrs
  waits : image.Waits phase
  nothing : (image.pending phase).2 = 0

section Headers

variable {image : ElfImage} {env : LoaderEnv} {store : ImageStore} {s : HeaderLoop}
  {phase : HeaderPhase} {noffset : Nat}

/-- The loop after a table has been asked for. -/
def HeaderLoop.asked (image : ElfImage) (phase : HeaderPhase) : HeaderLoop :=
  ⟨some (image.table phase), (image.pending phase).1, (image.pending phase).2,
    some (image.infoAt phase (headerWord phase)), headerWord phase, (image.pending phase).1,
    (image.pending phase).2⟩

theorem headerWord_ready_iff : headerWord phase &&& RPROC_LOADER_READY_TO_LOAD ≠ 0 ↔
    phase ≠ .phdrs := by
  cases phase <;> decide

theorem headerLoop_asks (hstore : Serves store image) (hwaits : image.Waits phase)
    (hcall : elfLoadHeader env.allocate s.imgData s.offset s.len s.imgInfo s.lastLoadState s.noffset
      s.nlen = some (image.headerOut (if phase = .phdrs then .notReady else .ready) 0 phase noffset))
    (hmore : ¬ HeadersDone image phase) :
    HeaderLoop.body env store s = .inl (.asked image phase) := by
  have hstay : ¬ (headerWord phase &&& RPROC_LOADER_READY_TO_LOAD ≠ 0 ∧
      (image.pending phase).2 = 0) := fun hleave =>
    hmore ⟨headerWord_ready_iff.mp hleave.1, hwaits, hleave.2⟩
  have hphase : phase ≠ .complete := by
    rintro rfl
    exact hmore ⟨nofun, hwaits, rfl⟩
  have hinside : phase = .phdrs ∨ elfShnum image.bytes ≠ 0 :=
    (Classical.em _).imp_right fun hfirst => hwaits.sections hfirst hphase
  have hle : (image.pending phase).1 + (image.pending phase).2 ≤ store.image.length := by
    rw [hstore.image_eq]
    exact image.pending_le phase hinside
  simp only [HeaderLoop.body, HeaderOps.round, imageHeaders, pure_bind, hcall, ElfImage.headerOut,
    if_neg hphase, Bool.true_eq_false, and_false, or_false]
  change Id.run (if headerWord phase &&& RPROC_LOADER_READY_TO_LOAD ≠ 0 ∧
    (image.pending phase).2 = 0 then _ else _) = _
  rw [if_neg hstay, ImageStore.load_eq _ _ hle]
  simp only [Int.lt_irrefl, if_false]
  rw [hstore.image_eq]
  rfl

theorem headerLoop_done (hdone : HeadersDone image phase)
    (hcall : elfLoadHeader env.allocate s.imgData s.offset s.len s.imgInfo s.lastLoadState s.noffset
      s.nlen = some (image.headerOut (if phase = .phdrs then .notReady else .ready) 0 phase noffset)) :
    ∃ s', HeaderLoop.body env store s = .inr (s', .leave) ∧
      s'.imgInfo = some (image.infoAt phase (loadWord .ready phase 0)) ∧
      s'.lastLoadState = loadWord .ready phase 0 := by
  have hleave : headerWord phase &&& RPROC_LOADER_READY_TO_LOAD ≠ 0 ∧ (image.pending phase).2 = 0 :=
    ⟨headerWord_ready_iff.mpr hdone.ne_phdrs, hdone.nothing⟩
  have hword : headerWord phase = loadWord .ready phase 0 := by
    rw [headerWord, if_neg hdone.ne_phdrs]
  simp only [HeaderLoop.body, HeaderOps.round, imageHeaders, pure_bind, hcall, ElfImage.headerOut,
    Bool.true_eq_false, and_false, or_false]
  change ∃ s', Id.run (if headerWord phase &&& RPROC_LOADER_READY_TO_LOAD ≠ 0 ∧
    (image.pending phase).2 = 0 then _ else _) = _ ∧ _
  rw [if_pos hleave]
  refine ⟨_, rfl, ?_, ?_⟩
  · simp only [if_neg hdone.ne_phdrs]
  · simp only [if_neg hdone.ne_phdrs]

theorem elfLoadHeader_asked {next : HeaderPhase}
    (hadvance : image.advance (image.pending phase).1 (image.pending phase).2 phase = next)
    (hwaits : image.Waits phase) (hphase : phase ≠ .complete) :
    elfLoadHeader (fun _ => true) (some (image.table phase)) (image.pending phase).1
        (image.pending phase).2 (some (image.infoAt phase (headerWord phase))) (headerWord phase)
        (image.pending phase).1 (image.pending phase).2 =
      some (image.headerOut (if next = .phdrs then .notReady else .ready) 0 next
        (image.pending phase).1) := by
  subst hadvance
  by_cases hfirst : phase = .phdrs
  · subst hfirst
    exact ElfImage.elfLoadHeader_phdrs (image.pending_le .phdrs (.inl rfl)) _ _
  · have hsections := hwaits.sections hfirst hphase
    have hnext := image.advance_ne_phdrs (image.pending phase).1 (image.pending phase).2 hfirst
    rw [headerWord, if_neg hfirst, if_neg hnext]
    exact ElfImage.elfLoadHeader_eq .ready hfirst nofun (fun _ => hsections)
      (image.pending_le phase (.inr hsections)) (fun _ _ => rfl) (Nat.two_pow_pos 8) _
      (fun hcomplete => absurd hcomplete hphase)

/-- Each table is asked for once at most, until there is none left. -/
theorem headerLoop_of_call (henv : env.allocate = fun _ => true) (hstore : Serves store image)
    (s : HeaderLoop) (hwaits : image.Waits phase)
    (hcall : elfLoadHeader env.allocate s.imgData s.offset s.len s.imgInfo s.lastLoadState s.noffset
      s.nlen = some (image.headerOut (if phase = .phdrs then .notReady else .ready) 0 phase noffset)) :
    ∃ phase' s', Loop.Returns (HeaderLoop.body env store) s (s', .leave) ∧
      HeadersDone image phase' ∧
      s'.imgInfo = some (image.infoAt phase' (loadWord .ready phase' 0)) ∧
      s'.lastLoadState = loadWord .ready phase' 0 := by
  induction hmissing : phase.missing using Nat.strongRecOn generalizing phase noffset s with
  | _ missing ih =>
      by_cases hdone : HeadersDone image phase
      · obtain ⟨s', hbody, hinfo, hlast⟩ := headerLoop_done hdone hcall
        exact ⟨phase, s', .of_inr hbody, hdone, hinfo, hlast⟩
      · have hphase : phase ≠ .complete := by
          rintro rfl
          exact hdone ⟨nofun, hwaits, rfl⟩
        have hbody := headerLoop_asks hstore hwaits hcall hdone
        have hnext := elfLoadHeader_asked rfl hwaits hphase
        rw [← henv] at hnext
        have hless := image.missing_advance hphase
        rw [hmissing] at hless
        obtain ⟨phase', s', hreturns, hrest⟩ :=
        ih _ hless (.asked image phase) (hwaits.advance _ _) hnext rfl
        exact ⟨phase', s', .of_inl hbody hreturns, hrest⟩

/-- The loop before the ELF header has been found. -/
def HeaderLoop.opened (image : ElfImage) (len nlen : Nat) : HeaderLoop :=
  ⟨some (slice image.bytes 0 len), 0, len, none, RPROC_LOADER_NOT_READY, 0, nlen⟩

theorem headerLoop_opened (henv : env.allocate = fun _ => true) (hstore : Serves store image)
    {len : Nat} (hclass : EI_CLASS < len) (hlen : len ≤ image.bytes.length)
    (hlong : ¬ len < sizeofEhdr image.is64) (nlen : Nat) :
    ∃ phase s, Loop.Returns (HeaderLoop.body env store) (.opened image len nlen) (s, .leave) ∧
      HeadersDone image phase ∧
      s.imgInfo = some (image.infoAt phase (loadWord .ready phase 0)) ∧
      s.lastLoadState = loadWord .ready phase 0 := by
  have hcall := ElfImage.elfLoadHeader_init hlen hclass 0 nlen
  rw [if_neg hlong, ← henv] at hcall
  have hwaits : image.Waits .phdrs := nofun
  exact headerLoop_of_call henv hstore (.opened image len nlen) (hwaits.advance 0 len) hcall

theorem headerLoop_returns (henv : env.allocate = fun _ => true) (hstore : Serves store image) :
    ∃ phase s, Loop.Returns (HeaderLoop.body env store) (.opened image store.openLen 0)
        (s, .leave) ∧
      HeadersDone image phase ∧
      s.imgInfo = some (image.infoAt phase (loadWord .ready phase 0)) ∧
      s.lastLoadState = loadWord .ready phase 0 := by
  by_cases hshort : store.openLen < sizeofEhdr image.is64
  · -- the store has shown less than the ELF header, which is then asked for
    have hinit := ElfImage.elfLoadHeader_init hstore.open_le hstore.class_lt 0 0
    rw [if_pos hshort, ← henv] at hinit
    have hehdr : EI_CLASS < sizeofEhdr image.is64 := by cases image.is64 <;> decide
    have hle : 0 + sizeofEhdr image.is64 ≤ store.image.length := by
      rw [hstore.image_eq, Nat.zero_add]
      exact image.ehdr_le
    have hbody : HeaderLoop.body env store (.opened image store.openLen 0) =
        .inl (.opened image (sizeofEhdr image.is64) (sizeofEhdr image.is64)) := by
      have hwait : ¬ (ELF_STATE_INIT &&& RPROC_LOADER_READY_TO_LOAD ≠ 0 ∧
          sizeofEhdr image.is64 = 0) := fun hleave => absurd hleave.1 (by decide)
      simp only [HeaderLoop.body, HeaderOps.round, imageHeaders, pure_bind, HeaderLoop.opened]
      rw [show RPROC_LOADER_NOT_READY = ELF_STATE_INIT from rfl, hinit]
      simp only [Bool.true_eq_false, and_false, or_false, if_neg hwait, ImageStore.load_eq _ _ hle,
        Int.lt_irrefl, if_false, hstore.image_eq, Id.run_pure]
    obtain ⟨phase, s, hreturns, hrest⟩ := headerLoop_opened henv hstore hehdr image.ehdr_le
      (Nat.lt_irrefl _) (sizeofEhdr image.is64)
    exact ⟨phase, s, .of_inl hbody hreturns, hrest⟩
  · exact headerLoop_opened henv hstore hstore.class_lt hstore.open_le hshort 0

end Headers

/-! ### The loop over the segments -/

/-- The file has what is loaded, and the target has room for it. -/
structure Loadable (image : ElfImage) (rproc : Remoteproc) : Prop where
  phnum_lt : elfPhnum image.bytes < 2 ^ 8
  file_le : ∀ phdr ∈ loads image.phdrs, phdr.pOffset + phdr.pFilesz ≤ image.bytes.length
  mapped : ∀ phdr ∈ loads image.phdrs, ∃ map, rproc.MapsTo phdr.pVaddr phdr.pMemsz map

/-- An address can be mapped, to a physical one. -/
def Remoteproc.Reaches (rproc : Remoteproc) (da : Nat) : Prop :=
  ∃ map, rproc.mapping da 0 = some map ∧ map.pa ≠ METAL_BAD_PHYS

section Operations

variable (env : LoaderEnv) (store : ImageStore) (target : Target)

theorem imageData_loadData (s : DataVars (List UInt8) TargetIo) :
    (imageData env store).loadData s = pure (elfLoad env.allocate s.imgData s.offset s.len s.imgInfo
      s.lastLoadState ⟨RPROC_LOAD_ANYADDR, 0, 0, 0, 0⟩) := rfl

theorem imageData_mmap {da size : Nat} {io : Option TargetIo} {map : TargetMapping}
    (hmap : target.rproc.mapping da size = some map) (hpa : map.pa ≠ METAL_BAD_PHYS) :
    ((imageData env store).mmap da size io).run target =
      pure ((map.pa, some map.io), { target with mapped := target.mapped ++ [(da, size)] }) := by
  simp only [imageData, StateT.run_modifyGet, remoteprocMmap_of_some hmap]
  rw [if_pos ⟨rfl, hpa⟩]

theorem imageData_mmap_bad {da : Nat} (io : Option TargetIo) (hnone : ¬ target.rproc.Reaches da) :
    ((imageData env store).mmap da 0 io).run target =
      pure ((METAL_BAD_PHYS, (remoteprocMmap target.rproc da 0 io).io), target) := by
  have hbad : (remoteprocMmap target.rproc da 0 io).pa = METAL_BAD_PHYS := by
    cases hmap : target.rproc.mapping da 0 with
    | none => rw [remoteprocMmap_of_none hmap]
    | some map =>
        rw [remoteprocMmap_of_some hmap]
        exact by_contra fun hpa => hnone ⟨map, hmap, hpa⟩
  simp only [imageData, StateT.run_modifyGet]
  rw [hbad, if_neg fun h => h.2 rfl]

theorem imageData_loadTarget (mapped : Mapped) (noffset nlen : Nat) :
    ((imageData env store).loadTarget mapped noffset nlen).run target =
      pure (((store.loadTarget noffset nlen mapped.pa target.ram).1, store.leave none),
        { target with ram := (store.loadTarget noffset nlen mapped.pa target.ram).2 }) := rfl

end Operations

/-- The memory after the bytes of a segment have been copied to an address and padded. -/
def placeSegment (image : ElfImage) (phdr : Phdr) (pa : Nat) (io : TargetIo) (ram : Nat → UInt8) :
    Nat → UInt8 :=
  let loaded := writeBytes ram pa (slice image.bytes phdr.pOffset phdr.pFilesz)
  if phdr.pMemsz > phdr.pFilesz then
    io.blockSet (io.physToOffset (u64 (pa + phdr.pFilesz))) 0
      (toInt32 (phdr.pMemsz - phdr.pFilesz : Nat)) loaded
  else loaded

/-- The target after a segment has been mapped and loaded. -/
def Target.storeSegment (image : ElfImage) (target : Target) (phdr : Phdr) : Target :=
  match target.rproc.mapping phdr.pVaddr phdr.pMemsz with
  | none => target
  | some map => { target with
      ram := placeSegment image phdr map.pa map.io target.ram
      mapped := target.mapped ++ [(phdr.pVaddr, phdr.pMemsz)] }

def Target.storeAll (image : ElfImage) (target : Target) (phdrs : List Phdr) : Target :=
  phdrs.foldl (Target.storeSegment image) target

/-- The last header is loaded, or it leaves an address behind that does no harm: none at all, or one
that can be mapped. -/
def LastMapped (rproc : Remoteproc) (phdrs : List Phdr) : Prop :=
  ∀ phdr, phdrs.getLast? = some phdr →
    phdr.pType = PT_LOAD ∨ phdr.pVaddr = RPROC_LOAD_ANYADDR ∨ rproc.Reaches phdr.pVaddr

section Data

variable {image : ElfImage} {env : LoaderEnv} {store : ImageStore} {phase : HeaderPhase}
  {nseg : Nat} {target : Target} {phdr : Phdr} {rest : List Phdr}

theorem loadSegment_eq (env : LoaderEnv) (hstore : Serves store image)
    (hfile : phdr.pOffset + phdr.pFilesz ≤ image.bytes.length) (s : DataVars (List UInt8) TargetIo)
    (mapped : Mapped) (target : Target) :
    ∃ imgData, ((imageData env store).loadSegment s mapped
        ⟨phdr.pVaddr, phdr.pOffset, phdr.pFilesz, 0, phdr.pMemsz⟩).run target =
      pure ((toInt32 phdr.pFilesz, imgData), { target with
        ram := writeBytes target.ram mapped.pa (slice image.bytes phdr.pOffset phdr.pFilesz) }) := by
  unfold DataOps.loadSegment
  by_cases hsome : phdr.pFilesz > 0
  · refine ⟨store.leave none, ?_⟩
    rw [if_pos hsome, imageData_loadTarget, ImageStore.loadTarget, hstore.image_eq, if_pos hfile]
  · have hzero : phdr.pFilesz = 0 := by omega
    refine ⟨s.imgData, ?_⟩
    rw [if_neg hsome]
    simp [hzero, slice]

theorem copySegment_eq (env : LoaderEnv) (hstore : Serves store image)
    (hfile : phdr.pOffset + phdr.pFilesz ≤ image.bytes.length) (s : DataVars (List UInt8) TargetIo)
    (io : TargetIo) (mapped : Mapped) (target : Target) :
    ∃ imgData, ((imageData env store).copySegment s io mapped
        ⟨phdr.pVaddr, phdr.pOffset, phdr.pFilesz, 0, phdr.pMemsz⟩).run target =
      pure (.inl { s with imgData },
        { target with ram := placeSegment image phdr mapped.pa io target.ram }) := by
  obtain ⟨imgData, hload⟩ := loadSegment_eq env hstore hfile s mapped target
  refine ⟨imgData, ?_⟩
  simp only [DataOps.copySegment, StateT.run_bind, hload, pure_bind, ne_eq, not_true_eq_false,
    if_false]
  unfold placeSegment
  split_ifs <;> rfl

/-- The loop before a call. -/
def DataLoop.at (image : ElfImage) (phase : HeaderPhase) (word : Nat)
    (imgData : Option (List UInt8)) (io : Option TargetIo) (target : Target) : DataLoop :=
  ⟨⟨imgData, 0, 0, some (image.infoAt phase word), word, io⟩, target⟩

theorem dataLoop_body {s : DataLoop} {lastLoadState : Nat} {imgInfo : Option ElfInfo}
    {vars : LoadVars}
    (hcall : elfLoad env.allocate s.imgData s.offset s.len s.imgInfo s.lastLoadState
      ⟨RPROC_LOAD_ANYADDR, 0, 0, 0, 0⟩ = some ⟨.ok lastLoadState, imgInfo, vars⟩) :
    DataLoop.body env store s = withWorld .mk
      ((imageData env store).act { s.toDataVars with imgInfo, lastLoadState } vars) s.target := by
  rw [DataLoop.body, DataOps.round, imageData_loadData, hcall, pure_bind]

theorem dataLoop_found (henv : env.allocate = fun _ => true) (hstore : Serves store image)
    (hload : Loadable image target.rproc) (hphase : phase ≠ .phdrs)
    (hnseg : nseg ≤ elfPhnum image.bytes)
    (hnext : nextLoads (image.phdrs.drop nseg) = phdr :: rest) (imgData : Option (List UInt8))
    (io : Option TargetIo) :
    ∃ imgData' io', DataLoop.body env store
        (.at image phase (loadWord .ready phase nseg) imgData io target) =
      .inl (.at image phase (image.wordBefore phase rest) imgData' io'
        (target.storeSegment image phdr)) := by
  have hphdr : phdr ∈ loads image.phdrs := mem_of_nextLoads_drop hnext
  obtain ⟨map, hmap⟩ := hload.mapped phdr hphdr
  have hcall := ElfImage.elfLoad_found imgData 0 0
    ⟨RPROC_LOAD_ANYADDR, 0, 0, 0, 0⟩ hphase hload.phnum_lt hnseg hnext
  have hstored : target.storeSegment image phdr = { target with
      ram := placeSegment image phdr map.pa map.io target.ram
      mapped := target.mapped ++ [(phdr.pVaddr, phdr.pMemsz)] } := by
    rw [Target.storeSegment, hmap.mapping_eq]
  rw [← henv] at hcall
  obtain ⟨imgData', hcopy⟩ := copySegment_eq env hstore (hload.file_le phdr hphdr)
    ⟨none, 0, 0, some (image.infoAt phase (image.wordBefore phase rest)), image.wordBefore phase rest,
      some map.io⟩ map.io ⟨phdr.pVaddr, map.pa, phdr.pMemsz⟩
    { target with mapped := target.mapped ++ [(phdr.pVaddr, phdr.pMemsz)] }
  refine ⟨imgData', some map.io, ?_⟩
  rw [dataLoop_body (s := .at image phase (loadWord .ready phase nseg) imgData io target) hcall,
    hstored]
  apply withWorld_of_inl
  simp only [DataOps.act, ne_eq, hmap.da_ne, not_false_eq_true, if_true, StateT.run_bind, DataLoop.at,
    imageData_mmap env store target hmap.mapping_eq hmap.pa_ne, pure_bind, hmap.pa_ne, if_false, hcopy]

/-- The address that is left behind if no segment is left. -/
def leftDa (phdrs : List Phdr) : Nat :=
  match phdrs.getLast? with
  | none => RPROC_LOAD_ANYADDR
  | some phdr => phdr.pVaddr

section Left

variable (store target) (henv : env.allocate = fun _ => true) (hload : Loadable image target.rproc)
  (hphase : phase ≠ .phdrs) (hnseg : nseg ≤ elfPhnum image.bytes)
  (hnext : nextLoads (image.phdrs.drop nseg) = []) (imgData : Option (List UInt8))
  (io : Option TargetIo)

include henv hload hphase hnseg hnext

theorem dataLoop_left :
    ∃ noffset, DataLoop.body env store
        (.at image phase (loadWord .ready phase nseg) imgData io target) =
      withWorld .mk ((imageData env store).act
        ⟨imgData, 0, 0, some (image.infoAt phase (loadWord .ready phase (elfPhnum image.bytes))),
          loadWord .ready phase (elfPhnum image.bytes), io⟩
        ⟨leftDa (image.phdrs.drop nseg), noffset, 0, 0, 0⟩) target := by
  have hcall := ElfImage.elfLoad_none imgData 0 0
    ⟨RPROC_LOAD_ANYADDR, 0, 0, 0, 0⟩ hphase hload.phnum_lt hnseg hnext
  have hvars : ∃ noffset, ElfImage.leftVars (image.phdrs.drop nseg) ⟨RPROC_LOAD_ANYADDR, 0, 0, 0, 0⟩ =
      ⟨leftDa (image.phdrs.drop nseg), noffset, 0, 0, 0⟩ := by
    unfold ElfImage.leftVars leftDa
    cases (image.phdrs.drop nseg).getLast? with
    | none => exact ⟨_, rfl⟩
    | some phdr => exact ⟨_, rfl⟩
  obtain ⟨noffset, hvars⟩ := hvars
  rw [hvars, ← henv] at hcall
  exact ⟨noffset, dataLoop_body hcall⟩

theorem dataLoop_left_any (hany : leftDa (image.phdrs.drop nseg) = RPROC_LOAD_ANYADDR) :
    DataLoop.body env store (.at image phase (loadWord .ready phase nseg) imgData io target) =
      .inr (.at image phase (loadWord .ready phase (elfPhnum image.bytes)) imgData io target,
        .leave) := by
  obtain ⟨noffset, hbody⟩ := dataLoop_left store target henv hload hphase hnseg hnext imgData io
  rw [hbody, DataOps.act_left _ _ hany rfl]
  rfl

/-- An empty range is mapped for the address that a skipped header has left behind. -/
theorem dataLoop_left_mapped (hany : leftDa (image.phdrs.drop nseg) ≠ RPROC_LOAD_ANYADDR)
    {map : TargetMapping}
    (hmap : target.rproc.mapping (leftDa (image.phdrs.drop nseg)) 0 = some map)
    (hpa : map.pa ≠ METAL_BAD_PHYS) :
    DataLoop.body env store (.at image phase (loadWord .ready phase nseg) imgData io target) =
      .inl (.at image phase (loadWord .ready phase (elfPhnum image.bytes)) none (some map.io)
        { target with mapped := target.mapped ++ [(leftDa (image.phdrs.drop nseg), 0)] }) := by
  obtain ⟨noffset, hbody⟩ := dataLoop_left store target henv hload hphase hnseg hnext imgData io
  rw [hbody]
  apply withWorld_of_inl
  rw [DataOps.act, if_pos hany, StateT.run_bind, imageData_mmap env store target hmap hpa]
  simp only [pure_bind, if_neg hpa, DataOps.copySegment_empty]
  rfl

theorem dataLoop_left_fails (hany : leftDa (image.phdrs.drop nseg) ≠ RPROC_LOAD_ANYADDR)
    (hnone : ¬ target.rproc.Reaches (leftDa (image.phdrs.drop nseg))) :
    ∃ s, DataLoop.body env store (.at image phase (loadWord .ready phase nseg) imgData io target) =
      .inr (s, .error (-RPROC_EINVAL)) := by
  obtain ⟨noffset, hbody⟩ := dataLoop_left store target henv hload hphase hnseg hnext imgData io
  have hmap := imageData_mmap_bad env store target io hnone
  obtain ⟨s, hact⟩ := @DataOps.act_unmapped Target target target _ _ _
    ⟨imgData, 0, 0, some (image.infoAt phase (loadWord .ready phase (elfPhnum image.bytes))),
      loadWord .ready phase (elfPhnum image.bytes), io⟩
    ⟨leftDa (image.phdrs.drop nseg), noffset, 0, 0, 0⟩ _ hany hmap
  exact ⟨⟨s, target⟩, hbody.trans (withWorld_of_inr hact)⟩

end Left

theorem HeadersDone.pending_advance (hdone : HeadersDone image phase) (offset len : Nat) :
    (image.pending (image.advance offset len phase)).2 = 0 := by
  cases phase with
  | phdrs => exact absurd rfl hdone.ne_phdrs
  | shdrs => exact absurd hdone.nothing (image.pending_shdrs_ne (hdone.waits (.inl rfl)))
  | shstrtab =>
      change (image.pending (image.advanceShstrtab offset len)).2 = 0
      unfold ElfImage.advanceShstrtab
      split_ifs
      · rfl
      · exact hdone.nothing
  | complete => rfl

theorem dataLoop_post (store : ImageStore) (target : Target)
    (henv : env.allocate = fun _ => true) (hdone : HeadersDone image phase)
    (hseg : nseg < 2 ^ 8) (imgData : Option (List UInt8)) (io : Option TargetIo) :
    ∃ phase' word, DataLoop.body env store
        (.at image phase (loadWord .postData phase nseg) imgData io target) =
      .inr (.at image phase' word imgData io target, .leave) := by
  have hcall := ElfImage.elfLoad_post imgData 0 0 ⟨RPROC_LOAD_ANYADDR, 0, 0, 0, 0⟩ rfl
    hdone.ne_phdrs hseg (fun hphase => hdone.waits (.inr hphase))
    (Nat.zero_le _) (fun _ hsome => absurd hdone.nothing hsome) rfl rfl
  have hnlen := hdone.pending_advance 0 0
  refine ⟨image.advance 0 0 phase, ElfImage.postWord (image.advance 0 0 phase) nseg, ?_⟩
  rw [hnlen, ← henv] at hcall
  rw [dataLoop_body (s := .at image phase (loadWord .postData phase nseg) imgData io target) hcall,
    DataOps.act_left _ _ rfl rfl]
  rfl

/-- The loop ends with this target, on which empty ranges may have been mapped besides. -/
def DataEnds (env : LoaderEnv) (store : ImageStore) (image : ElfImage) (s : DataLoop)
    (target : Target) : Prop :=
  ∃ phase word imgData io left, (∀ range ∈ left, range.2 = 0) ∧
    Loop.Returns (DataLoop.body env store) s (.at image phase word imgData io
      { target with mapped := target.mapped ++ left }, .leave)

def DataFails (env : LoaderEnv) (store : ImageStore) (s : DataLoop) : Prop :=
  ∃ data, Loop.Returns (DataLoop.body env store) s (data, .error (-RPROC_EINVAL))

theorem DataEnds.of_inl {s s' : DataLoop} (hbody : DataLoop.body env store s = .inl s')
    (h : DataEnds env store image s' target) : DataEnds env store image s target := by
  obtain ⟨phase, word, imgData, io, left, hleft, hreturns⟩ := h
  exact ⟨phase, word, imgData, io, left, hleft, .of_inl hbody hreturns⟩

theorem DataEnds.of_inr_mapped {s : DataLoop} {word : Nat} {imgData : Option (List UInt8)}
    {io : Option TargetIo} (left : List (Nat × Nat)) (hleft : ∀ range ∈ left, range.2 = 0)
    (hbody : DataLoop.body env store s = .inr (.at image phase word imgData io
      { target with mapped := target.mapped ++ left }, .leave)) :
    DataEnds env store image s target :=
  ⟨phase, word, imgData, io, left, hleft, .of_inr hbody⟩

theorem DataEnds.of_inr {s : DataLoop} {word : Nat} {imgData : Option (List UInt8)}
    {io : Option TargetIo}
    (hbody : DataLoop.body env store s = .inr (.at image phase word imgData io target, .leave)) :
    DataEnds env store image s target := by
  apply DataEnds.of_inr_mapped [] nofun
  rw [List.append_nil]
  exact hbody

theorem DataFails.of_inl {s s' : DataLoop} (hbody : DataLoop.body env store s = .inl s')
    (h : DataFails env store s') : DataFails env store s := by
  obtain ⟨data, hreturns⟩ := h
  exact ⟨data, .of_inl hbody hreturns⟩

/-- A round that leaves no address behind is the last one. -/
theorem dataEnds_left (henv : env.allocate = fun _ => true)
    (hload : Loadable image target.rproc) (hphase : phase ≠ .phdrs)
    (hnseg : nseg ≤ elfPhnum image.bytes) (hnext : nextLoads (image.phdrs.drop nseg) = [])
    (hany : leftDa (image.phdrs.drop nseg) = RPROC_LOAD_ANYADDR) (imgData : Option (List UInt8))
    (io : Option TargetIo) :
    DataEnds env store image (.at image phase (loadWord .ready phase nseg) imgData io target)
      target := by
  apply DataEnds.of_inr
  exact dataLoop_left_any store target henv hload hphase hnseg hnext imgData io hany

theorem lastMapped_iff_left {rproc : Remoteproc} {phdrs : List Phdr}
    (hnext : nextLoads phdrs = []) :
    LastMapped rproc phdrs ↔
      leftDa phdrs = RPROC_LOAD_ANYADDR ∨ rproc.Reaches (leftDa phdrs) := by
  unfold LastMapped leftDa
  cases hlast : phdrs.getLast? with
  | none => exact ⟨fun _ => .inl rfl, fun _ => nofun⟩
  | some phdr =>
      have hskip : phdr.pType ≠ PT_LOAD := by
        intro hload
        have hin : phdr ∈ loads phdrs :=
          List.mem_filter.mpr ⟨List.mem_of_getLast? hlast, decide_eq_true hload⟩
        rw [← loads_nextLoads, hnext] at hin
        exact absurd hin List.not_mem_nil
      constructor
      · intro h
        exact (h phdr rfl).resolve_left hskip
      · rintro h _ ⟨rfl⟩
        exact .inr h

theorem dataEnds_last (henv : env.allocate = fun _ => true)
    (hload : Loadable image target.rproc) (hphase : phase ≠ .phdrs)
    (hnseg : nseg ≤ elfPhnum image.bytes) (hnext : nextLoads (image.phdrs.drop nseg) = [])
    (hlast : LastMapped target.rproc (image.phdrs.drop nseg))
    (imgData : Option (List UInt8)) (io : Option TargetIo) :
    DataEnds env store image (.at image phase (loadWord .ready phase nseg) imgData io target)
      target := by
  by_cases hany : leftDa (image.phdrs.drop nseg) = RPROC_LOAD_ANYADDR
  · exact dataEnds_left henv hload hphase hnseg hnext hany imgData io
  · obtain ⟨map, hmap, hpa⟩ := ((lastMapped_iff_left hnext).mp hlast).resolve_left hany
    have hbody := dataLoop_left_mapped store target henv hload hphase hnseg hnext imgData io hany hmap
      hpa
    -- an empty range has been mapped, and no header is left
    have hdrop : image.phdrs.drop (elfPhnum image.bytes) = [] := by
      rw [← image.length_phdrs, List.drop_length]
    have hnext' : nextLoads (image.phdrs.drop (elfPhnum image.bytes)) = [] := by
      rw [hdrop]
      rfl
    have hany' : leftDa (image.phdrs.drop (elfPhnum image.bytes)) = RPROC_LOAD_ANYADDR := by
      rw [hdrop]
      rfl
    have hbody' := dataLoop_left_any store
      { target with mapped := target.mapped ++ [(leftDa (image.phdrs.drop nseg), 0)] } henv hload hphase
      (Nat.le_refl _) hnext' none (some map.io) hany'
    apply DataEnds.of_inl hbody
    exact DataEnds.of_inr_mapped [(leftDa (image.phdrs.drop nseg), 0)] (by simp) hbody'

theorem dataFails_last (henv : env.allocate = fun _ => true)
    (hload : Loadable image target.rproc) (hphase : phase ≠ .phdrs)
    (hnseg : nseg ≤ elfPhnum image.bytes) (hnext : nextLoads (image.phdrs.drop nseg) = [])
    (hlast : ¬ LastMapped target.rproc (image.phdrs.drop nseg))
    (imgData : Option (List UInt8)) (io : Option TargetIo) :
    DataFails env store (.at image phase (loadWord .ready phase nseg) imgData io target) := by
  rw [lastMapped_iff_left hnext, not_or] at hlast
  obtain ⟨hany, hnone⟩ := hlast
  obtain ⟨data, hbody⟩ :=
    dataLoop_left_fails store target henv hload hphase hnseg hnext imgData io hany hnone
  exact ⟨data, .of_inr hbody⟩

theorem storeSegment_rproc : (target.storeSegment image phdr).rproc = target.rproc := by
  unfold Target.storeSegment
  split <;> rfl

theorem drop_of_nextLoads (hnext : nextLoads (image.phdrs.drop nseg) = phdr :: rest) :
    image.phdrs.drop (elfPhnum image.bytes - rest.length) = rest := by
  rw [← image.length_phdrs]
  exact drop_length_of_nextLoads hnext

/-- The loop goes through the headers that are left, one segment a round. -/
theorem dataLoop_outcome (nseg : Nat) (target : Target)
    (henv : env.allocate = fun _ => true) (hstore : Serves store image)
    (hload : Loadable image target.rproc) (hdone : HeadersDone image phase)
    (hnseg : nseg ≤ elfPhnum image.bytes) (imgData : Option (List UInt8)) (io : Option TargetIo) :
    (LastMapped target.rproc (image.phdrs.drop nseg) →
      DataEnds env store image (.at image phase (loadWord .ready phase nseg) imgData io target)
        (target.storeAll image (loads (image.phdrs.drop nseg)))) ∧
    (¬ LastMapped target.rproc (image.phdrs.drop nseg) →
      DataFails env store (.at image phase (loadWord .ready phase nseg) imgData io target)) := by
  induction hleft : elfPhnum image.bytes - nseg using Nat.strongRecOn
    generalizing nseg imgData io target with
  | _ left ih =>
      cases hnext : nextLoads (image.phdrs.drop nseg) with
      | nil =>
          have hloads : loads (image.phdrs.drop nseg) = [] := by
            rw [← loads_nextLoads, hnext]
            rfl
          rw [hloads]
          exact ⟨fun hlast => dataEnds_last henv hload hdone.ne_phdrs hnseg hnext hlast imgData io,
            fun hlast => dataFails_last henv hload hdone.ne_phdrs hnseg hnext hlast imgData io⟩
      | cons phdr rest =>
          have hlast := getLast?_of_nextLoads hnext
          obtain ⟨imgData', io', hbody⟩ :=
            dataLoop_found henv hstore hload hdone.ne_phdrs hnseg hnext imgData io
          have hstored : target.storeAll image (loads (image.phdrs.drop nseg)) =
              (target.storeSegment image phdr).storeAll image (loads rest) := by
            rw [loads_of_nextLoads hnext]
            rfl
          rw [hstored]
          by_cases hrest : rest = []
          · subst hrest
            have hload' := pType_of_nextLoads hnext
            have hword : image.wordBefore phase [] = loadWord .postData phase (elfPhnum image.bytes) :=
              rfl
            rw [hword] at hbody
            obtain ⟨phase', word, hpost⟩ := dataLoop_post store
              (target.storeSegment image phdr) henv hdone hload.phnum_lt imgData' io'
            refine ⟨fun _ => .of_inl hbody (.of_inr hpost), fun hnot => absurd ?_ hnot⟩
            intro last hlast'
            obtain rfl := Option.some.inj (hlast.symm.trans hlast')
            exact .inl hload'
          · have hlen : rest.length < elfPhnum image.bytes - nseg := by
              have hle := (nextLoads_suffix (image.phdrs.drop nseg)).length_le
              rw [hnext, List.length_cons, List.length_drop, image.length_phdrs] at hle
              omega
            have hpos : 0 < rest.length := List.length_pos_iff.mpr hrest
            have hword : image.wordBefore phase rest =
                loadWord .ready phase (elfPhnum image.bytes - rest.length) := by
              rw [ElfImage.wordBefore, if_neg hrest]
            have hdrop := drop_of_nextLoads hnext
            have hloadRest : Loadable image (target.storeSegment image phdr).rproc := by
              rwa [storeSegment_rproc]
            have houtcome := ih _ (by omega) _ _ hloadRest (Nat.sub_le _ rest.length) imgData' io' rfl
            have hsame : LastMapped target.rproc (image.phdrs.drop nseg) ↔
                LastMapped target.rproc rest := by
              obtain ⟨second, others, rfl⟩ := List.exists_cons_of_ne_nil hrest
              unfold LastMapped
              rw [hlast, List.getLast?_cons_cons]
            rw [hdrop, storeSegment_rproc, ← hsame, ← hword] at houtcome
            exact ⟨fun h => .of_inl hbody (houtcome.1 h), fun h => .of_inl hbody (houtcome.2 h)⟩

end Data

/-! ### The resource table -/

/-- The resource table of the file, if it has one. -/
def ElfImage.rscShdr (image : ElfImage) : Option Shdr :=
  (elfGetSectionFromName (image.infoAt .complete 0) rscTableName).filter fun shdr => shdr.shSize > 0

/-- No section has the name of the resource table. -/
def ElfImage.NoRscTable (image : ElfImage) : Prop :=
  ∀ index < elfShnum image.bytes,
    cString (image.table .shstrtab) (imageSection image.bytes index).shName ≠ rscTableName

instance (image : ElfImage) : Decidable image.NoRscTable :=
  inferInstanceAs (Decidable (∀ index < elfShnum image.bytes, _))

section RscTable

variable {image : ElfImage} {env : LoaderEnv} {store : ImageStore}

theorem rscShdr_of_noRscTable (hnone : image.NoRscTable) : image.rscShdr = none := by
  unfold ElfImage.rscShdr elfGetSectionFromName
  split
  · rename_i shdrs nameTable hshdrs hshstrtab
    have hsections : elfShnum image.bytes ≠ 0 := by
      intro hzero
      rw [ElfImage.infoAt, hzero] at hshdrs
      simp at hshdrs
    have htable : nameTable = image.table .shstrtab := by
      simpa [ElfImage.infoAt, hsections] using hshstrtab.symm
    have hfind : (((List.range (elfShnum (image.infoAt .complete 0).ehdr)).filterMap
        (elfGetSectionFromIndex (image.infoAt .complete 0))).find?
          fun shdr => cString nameTable shdr.shName = rscTableName) = none := by
      simp only [List.find?_eq_none, List.mem_filterMap, List.mem_range, decide_eq_true_eq]
      rintro shdr ⟨index, hindex, hshdr⟩
      have hlt : index < elfShnum image.bytes := by
        rwa [ElfImage.infoAt, image.elfShnum_ehdr] at hindex
      rw [image.getSection_infoAt hsections (.inr rfl) 0 hlt] at hshdr
      obtain rfl := Option.some.inj hshdr
      rw [htable]
      exact hnone index hlt
    rw [hfind]
    rfl
  · rfl

/-- The table is seen once all the headers are there. -/
theorem locatedRscTable_infoAt (image : ElfImage) (phase : HeaderPhase) (loadState : Nat) :
    locatedRscTable (image.infoAt phase loadState) = none ∨
      locatedRscTable (image.infoAt phase loadState) = image.rscShdr := by
  by_cases hmissing : elfShnum image.bytes = 0 ∨ phase ≠ .complete
  · have hshstrtab : (image.infoAt phase loadState).shstrtab = none := by
      simp only [ElfImage.infoAt, if_pos hmissing]
    have hname : elfGetSectionFromName (image.infoAt phase loadState) rscTableName = none := by
      unfold elfGetSectionFromName
      rw [hshstrtab]
      cases (image.infoAt phase loadState).shdrs <;> rfl
    left
    unfold locatedRscTable elfLocateRscTable
    rw [hname]
    split_ifs <;> rfl
  · obtain ⟨-, hcomplete⟩ := not_or.mp hmissing
    obtain rfl := not_not.mp hcomplete
    unfold locatedRscTable elfLocateRscTable
    split_ifs
    · exact .inl rfl
    · exact .inr rfl

theorem locatedRscTable_complete (loader : LoaderPhase) {nseg : Nat} (hseg : nseg < 2 ^ 8) :
    locatedRscTable (image.infoAt .complete (loadWord loader .complete nseg)) = image.rscShdr := by
  have hbit : ¬ (image.infoAt .complete (loadWord loader .complete nseg)).loadState &&&
      ELF_STATE_HDRS_COMPLETE = 0 :=
    (ElfImage.infoAt_waits loader .complete .complete hseg).mpr rfl
  unfold locatedRscTable elfLocateRscTable
  rw [if_neg hbit]
  rfl

/-- What `remoteproc_load` makes of the resource table. -/
def ElfImage.fileRsc (image : ElfImage) (env : LoaderEnv) (store : ImageStore) :
    Option (Shdr × Except Int (List UInt8)) :=
  image.rscShdr.map fun shdr =>
    (shdr, remoteprocGetRscTable env store shdr.shOffset shdr.shSize)

theorem fileRscTable_infoAt (image : ElfImage) (env : LoaderEnv) (store : ImageStore)
    (phase : HeaderPhase) (loadState : Nat) :
    fileRscTable env store (image.infoAt phase loadState) = none ∨
      fileRscTable env store (image.infoAt phase loadState) = image.fileRsc env store := by
  unfold fileRscTable
  rcases locatedRscTable_infoAt image phase loadState with hnone | hsome
  · rw [hnone]
    exact .inl rfl
  · rw [hsome]
    exact .inr rfl

end RscTable

/-! ### The whole call -/

section Load

variable {image : ElfImage} {env : LoaderEnv} {store : ImageStore} {target : Target}

/-- The target once the format is known. -/
def Target.identified (target : Target) : Target :=
  { target with rproc := { target.rproc with loader := true } }

theorem Loadable.identified (h : Loadable image target.rproc) :
    Loadable image target.identified.rproc where
  phnum_lt := h.phnum_lt
  file_le := h.file_le
  mapped := fun phdr hphdr =>
    let ⟨map, hmap⟩ := h.mapped phdr hphdr
    ⟨map, hmap.mapping_eq, hmap.da_lt, hmap.pa_lt⟩

/-- The target at the end. -/
def Target.booted (target : Target) (bootaddr : Nat) : Target :=
  { target with rproc := { target.rproc with bootaddr, state := .ready } }

theorem remoteprocLoadData_ends {phase : HeaderPhase} {headers : HeaderLoop}
    (hinfo : headers.imgInfo = some (image.infoAt phase (loadWord .ready phase 0)))
    (hlast : headers.lastLoadState = loadWord .ready phase 0) {target' : Target}
    (hends : DataEnds env store image
      (.at image phase (loadWord .ready phase 0) headers.imgData none target) target') :
    ∃ left io late, (∀ range ∈ left, range.2 = 0) ∧
      (late = none ∨ late = image.fileRsc env store) ∧ ∃ least, ∀ rounds ≥ least,
      remoteprocLoadData env rounds store headers target =
        (updateRscTable io { target' with mapped := target'.mapped ++ left }
          (fileRscTable env store (image.infoAt phase (loadWord .ready phase 0)) <|> late)).map
            fun target => (0, target.booted (elfEntry image.bytes)) := by
  obtain ⟨phase', word, imgData, io, left, hleft, least, hreach⟩ := hends
  refine ⟨left, io, fileRscTable env store (image.infoAt phase' word), hleft,
    fileRscTable_infoAt image env store phase' word, least, fun rounds hrounds => ?_⟩
  have hrun := Loop.run_mono hrounds hreach
  have hentry : elfGetEntry (image.infoAt phase' word) = elfEntry image.bytes := image.elfEntry_ehdr
  rw [DataLoop.at] at hrun
  unfold remoteprocLoadData
  simp only [hinfo, hlast, Option.bind_eq_bind, Option.bind_some, hrun, DataLoop.at, hentry]
  cases updateRscTable io { target' with mapped := target'.mapped ++ left } _ with
  | none => rfl
  | some target => rfl

theorem remoteprocLoadData_fails {phase : HeaderPhase} {headers : HeaderLoop}
    (hinfo : headers.imgInfo = some (image.infoAt phase (loadWord .ready phase 0)))
    (hlast : headers.lastLoadState = loadWord .ready phase 0)
    (hfails : DataFails env store
      (.at image phase (loadWord .ready phase 0) headers.imgData none target)) (rounds : Nat)
    (target' : Target) : remoteprocLoadData env rounds store headers target ≠ some (0, target') := by
  obtain ⟨failed, hreturns⟩ := hfails
  rw [DataLoop.at] at hreturns
  unfold remoteprocLoadData
  simp only [hinfo, hlast, Option.bind_eq_bind, Option.bind_some]
  cases hrun : Loop.run (DataLoop.body env store) rounds
      ⟨⟨headers.imgData, 0, 0, some (image.infoAt phase (loadWord .ready phase 0)),
        loadWord .ready phase 0, none⟩, target⟩ with
  | none => exact nofun
  | some result =>
      obtain rfl := hreturns.unique ⟨rounds, hrun⟩
      have hcode : some (-RPROC_EINVAL, failed.target) ≠ some (0, target') := by
        intro hresult
        have hzero : -RPROC_EINVAL = 0 := congrArg Prod.fst (Option.some.inj hresult)
        exact absurd hzero (by decide)
      simp only [Option.bind_some]
      split
      · exact nofun
      · exact hcode

theorem checkFwFormat_slice (image : ElfImage) {len : Nat} (hclass : EI_CLASS < len) :
    remoteprocCheckFwFormat (some (slice image.bytes 0 len)) len = true := by
  have hlen : SELFMAG ≤ len := Nat.le_of_lt hclass
  have hmagic : slice (slice image.bytes 0 len) 0 SELFMAG = ELFMAG := by
    rw [slice_slice (by omega)]
    exact image.magic
  have hpos : len ≠ 0 := by omega
  have hidentify : elfIdentify (some (slice image.bytes 0 len)) len = 0 := by
    simp only [elfIdentify]
    rw [if_neg (by omega), if_neg (not_not.mpr hmagic)]
  exact decide_eq_true ⟨hpos, hidentify⟩

theorem remoteprocLoad_eq (hstore : Serves store image)
    (hstate : target.rproc.state = .ready ∨ target.rproc.state = .configured) (rounds : Nat) :
    remoteprocLoad env rounds store target =
      (Loop.run (HeaderLoop.body env store) rounds (.opened image store.openLen 0)).bind fun
        | (_, .stuck) => none
        | (_, .error status) => some (status, target.identified)
        | (headers, .leave) => remoteprocLoadData env rounds store headers target.identified := by
  have hready : ¬ (target.rproc.state ≠ .ready ∧ target.rproc.state ≠ .configured) := by
    rintro ⟨hne, hne'⟩
    exact hstate.elim hne hne'
  have hopen : store.openLen ≠ 0 := by
    have hclass := hstore.class_lt
    omega
  have hformat : ¬ (target.rproc.loader = false ∧
      remoteprocCheckFwFormat (some (slice store.image 0 store.openLen)) store.openLen = false) := by
    rw [hstore.image_eq, checkFwFormat_slice image hstore.class_lt]
    simp
  rw [remoteprocLoad, if_neg hready, if_neg hopen, if_neg hformat, HeaderLoop.opened,
    hstore.image_eq]
  rfl

theorem remoteprocLoadData_mono {headers : HeaderLoop} {rounds more : Nat} (hle : rounds ≤ more)
    {result : Int × Target}
    (hresult : remoteprocLoadData env rounds store headers target = some result) :
    remoteprocLoadData env more store headers target = some result := by
  unfold remoteprocLoadData at hresult ⊢
  obtain ⟨info, hinfo, hrest⟩ := Option.bind_eq_some_iff.mp hresult
  obtain ⟨outcome, hrun, hfinish⟩ := Option.bind_eq_some_iff.mp hrest
  apply Option.bind_eq_some_iff.mpr
  exact ⟨info, hinfo, Option.bind_eq_some_iff.mpr ⟨outcome, Loop.run_mono hle hrun, hfinish⟩⟩

theorem remoteprocLoad_mono (hstore : Serves store image)
    (hstate : target.rproc.state = .ready ∨ target.rproc.state = .configured) {rounds more : Nat}
    (hle : rounds ≤ more) {result : Int × Target}
    (hresult : remoteprocLoad env rounds store target = some result) :
    remoteprocLoad env more store target = some result := by
  rw [remoteprocLoad_eq hstore hstate] at hresult ⊢
  obtain ⟨outcome, hrun, hrest⟩ := Option.bind_eq_some_iff.mp hresult
  refine Option.bind_eq_some_iff.mpr ⟨outcome, Loop.run_mono hle hrun, ?_⟩
  match outcome, hrest with
  | (_, .stuck), hrest => exact hrest
  | (_, .error status), hrest => exact hrest
  | (headers, .leave), hrest => exact remoteprocLoadData_mono hle hrest

/-- The target with all the segments. -/
def Target.stored (image : ElfImage) (target : Target) (left : List (Nat × Nat)) : Target :=
  { target.identified.storeAll image (loads image.phdrs) with
    mapped := (target.identified.storeAll image (loads image.phdrs)).mapped ++ left }

/-- What `remoteproc_load` comes to is decided by the last program header, up to the resource
table. -/
theorem remoteprocLoad_outcome (henv : env.allocate = fun _ => true) (hstore : Serves store image)
    (hload : Loadable image target.rproc)
    (hstate : target.rproc.state = .ready ∨ target.rproc.state = .configured) :
    (LastMapped target.rproc image.phdrs →
      ∃ phase left io late, HeadersDone image phase ∧ (∀ range ∈ left, range.2 = 0) ∧
        (late = none ∨ late = image.fileRsc env store) ∧ ∃ least, ∀ rounds ≥ least,
          remoteprocLoad env rounds store target =
            (updateRscTable io (target.stored image left)
              (fileRscTable env store (image.infoAt phase (loadWord .ready phase 0)) <|> late)).map
                fun target => (0, target.booted (elfEntry image.bytes))) ∧
    (¬ LastMapped target.rproc image.phdrs →
      ∀ rounds target', remoteprocLoad env rounds store target ≠ some (0, target')) := by
  obtain ⟨phase, headers, hreturns, hdone, hinfo, hlast⟩ := headerLoop_returns henv hstore
  have hloop := dataLoop_outcome 0 target.identified henv hstore hload.identified hdone (Nat.zero_le _)
    headers.imgData none
  rw [List.drop_zero] at hloop
  constructor
  · intro hmapped
    obtain ⟨left, io, late, hleft, hlate, least, hdata⟩ :=
      remoteprocLoadData_ends hinfo hlast (hloop.1 hmapped)
    obtain ⟨first, hrun⟩ := hreturns
    refine ⟨phase, left, io, late, hdone, hleft, hlate, max first least, fun rounds hrounds => ?_⟩
    have hfirst := Loop.run_mono (Nat.le_trans (Nat.le_max_left _ _) hrounds) hrun
    rw [remoteprocLoad_eq hstore hstate, hfirst]
    exact hdata rounds (Nat.le_trans (Nat.le_max_right _ _) hrounds)
  · intro hmapped rounds target'
    rw [remoteprocLoad_eq hstore hstate]
    cases hrun : Loop.run (HeaderLoop.body env store) rounds (.opened image store.openLen 0) with
    | none => exact nofun
    | some result =>
        obtain rfl := hreturns.unique ⟨rounds, hrun⟩
        exact remoteprocLoadData_fails hinfo hlast (hloop.2 hmapped) rounds target'

end Load

end OpenAmp
