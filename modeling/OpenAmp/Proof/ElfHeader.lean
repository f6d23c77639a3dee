import OpenAmp.ElfLoader
import OpenAmp.Library.PackedWord
import OpenAmp.Library.Run

/-!
# Parsing headers from pieces of the file

The parser goes through four phases, and each call takes it as far as the piece of the file it is
given reaches. What it has stored depends on the phase alone, and so not on how the file was cut.
-/

namespace OpenAmp

open ByteMemory PackedWord Slice

/-! ### The packed state -/

inductive LoaderPhase where
  | notReady
  | ready
  | postData
  | complete
deriving DecidableEq, Repr

inductive HeaderPhase where
  | phdrs
  | shdrs
  | shstrtab
  | complete
deriving DecidableEq, Repr

def LoaderPhase.bits : LoaderPhase → Nat
  | .notReady => RPROC_LOADER_NOT_READY
  | .ready => RPROC_LOADER_READY_TO_LOAD
  | .postData => RPROC_LOADER_POST_DATA_LOAD
  | .complete => RPROC_LOADER_LOAD_COMPLETE

def HeaderPhase.bits : HeaderPhase → Nat
  | .phdrs => ELF_STATE_WAIT_FOR_PHDRS
  | .shdrs => ELF_STATE_WAIT_FOR_SHDRS
  | .shstrtab => ELF_STATE_WAIT_FOR_SHSTRTAB
  | .complete => ELF_STATE_HDRS_COMPLETE

/-- The load state: a phase of the loader, a phase of the headers and the next segment. -/
def loadWord (loader : LoaderPhase) (phase : HeaderPhase) (nseg : Nat) : Nat :=
  loader.bits + phase.bits + nseg

section Word

variable (loader loader' : LoaderPhase) (phase phase' : HeaderPhase) {nseg : Nat}

/-- The segment number is the low byte, below the two phases. -/
def phaseByte (loader : LoaderPhase) (phase : HeaderPhase) : Nat :=
  (loader.bits + phase.bits) / 2 ^ 8

theorem loadWord_eq_pack :
    loadWord loader phase nseg = phaseByte loader phase * 2 ^ 8 + nseg := by
  unfold loadWord
  congr 1
  cases loader <;> cases phase <;> rfl

theorem loadWord_and_high {mask : Nat} (h : nseg < 2 ^ 8) :
    loadWord loader phase nseg &&& mask * 2 ^ 8 = (phaseByte loader phase &&& mask) * 2 ^ 8 := by
  rw [loadWord_eq_pack, and_high h]

theorem loadWord_and_header (h : nseg < 2 ^ 8) :
    loadWord loader phase nseg &&& phase'.bits = if phase = phase' then phase'.bits else 0 := by
  have hbits : phase'.bits = phase'.bits / 2 ^ 8 * 2 ^ 8 := by cases phase' <;> rfl
  rw [hbits, loadWord_and_high loader phase h]
  cases loader <;> cases phase <;> cases phase' <;> rfl

theorem header_bit (h : nseg < 2 ^ 8) :
    loadWord loader phase nseg &&& phase'.bits ≠ 0 ↔ phase = phase' := by
  rw [loadWord_and_header loader phase phase' h]
  cases phase' <;> simp [HeaderPhase.bits, ELF_STATE_WAIT_FOR_PHDRS, ELF_STATE_WAIT_FOR_SHDRS,
    ELF_STATE_WAIT_FOR_SHSTRTAB, ELF_STATE_HDRS_COMPLETE]

theorem loadWord_and_loader (h : nseg < 2 ^ 8) :
    loadWord loader phase nseg &&& loader'.bits = if loader = loader' then loader'.bits else 0 := by
  have hbits : loader'.bits = loader'.bits / 2 ^ 8 * 2 ^ 8 := by cases loader' <;> rfl
  rw [hbits, loadWord_and_high loader phase h]
  cases loader <;> cases phase <;> cases loader' <;> rfl

theorem loader_bit (hloader : loader' ≠ .notReady) (h : nseg < 2 ^ 8) :
    loadWord loader phase nseg &&& loader'.bits ≠ 0 ↔ loader = loader' := by
  rw [loadWord_and_loader loader loader' phase h]
  cases loader' with
  | notReady => exact absurd rfl hloader
  | ready => simp [LoaderPhase.bits, RPROC_LOADER_READY_TO_LOAD]
  | postData => simp [LoaderPhase.bits, RPROC_LOADER_POST_DATA_LOAD]
  | complete => simp [LoaderPhase.bits, RPROC_LOADER_LOAD_COMPLETE]

theorem loadWord_and_mask (h : nseg < 2 ^ 8) :
    loadWord loader phase nseg &&& RPROC_LOADER_MASK = loader.bits := by
  have hmask : RPROC_LOADER_MASK = 0xFF00 * 2 ^ 8 := rfl
  rw [hmask, loadWord_and_high loader phase h]
  cases loader <;> cases phase <;> rfl

theorem loadWord_and_segment (h : nseg < 2 ^ 8) :
    loadWord loader phase nseg &&& ELF_NEXT_SEGMENT_MASK = nseg := by
  have hmask : ELF_NEXT_SEGMENT_MASK = 0 * 2 ^ 8 + (2 ^ 8 - 1) := rfl
  rw [loadWord_eq_pack, hmask, and_pack h (by decide), Nat.and_zero, Nat.zero_mul, Nat.zero_add,
    Nat.and_two_pow_sub_one_eq_mod, Nat.mod_eq_of_lt h]

/-- Both phases are replaced through masks that spare the segment number. -/
theorem loadWord_replace {mask bits : Nat} (h : nseg < 2 ^ 8) :
    clearBits (loadWord loader phase nseg) (mask * 2 ^ 8) ||| bits * 2 ^ 8 =
      (clearBits (phaseByte loader phase) mask ||| bits) * 2 ^ 8 + nseg := by
  unfold clearBits
  rw [loadWord_and_high loader phase h, loadWord_eq_pack, xor_high h, or_high h]

theorem loadWord_setHeader (h : nseg < 2 ^ 8) :
    clearBits (loadWord loader phase nseg) ELF_STATE_MASK ||| phase'.bits =
      loadWord loader phase' nseg := by
  have hmask : ELF_STATE_MASK = 0xFF * 2 ^ 8 := rfl
  have hbits : phase'.bits = phase'.bits / 2 ^ 8 * 2 ^ 8 := by cases phase' <;> rfl
  rw [hmask, hbits, loadWord_replace loader phase h, loadWord_eq_pack]
  congr 2
  cases loader <;> cases phase <;> cases phase' <;> rfl

theorem loadWord_setLoader (h : nseg < 2 ^ 8) :
    clearBits (loadWord loader phase nseg) RPROC_LOADER_MASK ||| loader'.bits =
      loadWord loader' phase nseg := by
  have hmask : RPROC_LOADER_MASK = 0xFF00 * 2 ^ 8 := rfl
  have hbits : loader'.bits = loader'.bits / 2 ^ 8 * 2 ^ 8 := by cases loader' <;> rfl
  rw [hmask, hbits, loadWord_replace loader phase h, loadWord_eq_pack]
  congr 2
  cases loader <;> cases phase <;> cases loader' <;> rfl

theorem loadWord_ne_init : loadWord loader phase nseg ≠ ELF_STATE_INIT := by
  have hpos : 0 < phase.bits := by cases phase <;> decide
  unfold loadWord ELF_STATE_INIT
  omega

theorem loadWord_setSegment {next : Nat} (h : nseg < 2 ^ 8) (hnext : next < 2 ^ 8) :
    clearBits (loadWord loader phase nseg) ELF_NEXT_SEGMENT_MASK |||
        (next &&& ELF_NEXT_SEGMENT_MASK) = loadWord loader phase next := by
  have hmask : ELF_NEXT_SEGMENT_MASK = 2 ^ 8 - 1 := rfl
  have hpack : ∀ value, value = 0 * 2 ^ 8 + value := fun _ => by simp
  unfold clearBits
  rw [loadWord_and_segment loader phase h, hmask, Nat.and_two_pow_sub_one_eq_mod,
    Nat.mod_eq_of_lt hnext, loadWord_eq_pack, loadWord_eq_pack]
  nth_rewrite 2 [hpack nseg]
  rw [xor_pack h h, Nat.xor_zero, Nat.xor_self, hpack next, or_pack (Nat.two_pow_pos 8) hnext,
    Nat.or_zero, Nat.zero_or, Nat.zero_mul, Nat.zero_add]

end Word

/-! ### Well-formed images -/

/-- A section header, as the file has it. -/
def imageSection (bytes : List UInt8) (index : Nat) : Shdr :=
  elfParseSection (elfIs64 bytes)
    (slice bytes (elfShoff bytes + index * sizeofShdr (elfIs64 bytes)) (sizeofShdr (elfIs64 bytes)))

/-- The header of the string table. -/
def imageShstrtab (bytes : List UInt8) : Shdr := imageSection bytes (elfShstrndx bytes)

structure SectionsOk (bytes : List UInt8) : Prop where
  shentsize : elfShentsize bytes = sizeofShdr (elfIs64 bytes)
  shdrs_le : elfShoff bytes + elfShnum bytes * sizeofShdr (elfIs64 bytes) ≤ bytes.length
  shstrndx_lt : elfShstrndx bytes < elfShnum bytes
  shstrtab_le : (imageShstrtab bytes).shOffset + (imageShstrtab bytes).shSize ≤ bytes.length

/-- A well-formed image of either class: the header tables have entries of the standard size and lie
inside the file. An image may have no sections. -/
structure ElfImage where
  bytes : List UInt8
  length_lt : bytes.length < 2 ^ 64
  magic : slice bytes 0 SELFMAG = ELFMAG
  ehdr_le : sizeofEhdr (elfIs64 bytes) ≤ bytes.length
  phentsize : elfPhentsize bytes = sizeofPhdr (elfIs64 bytes)
  phdrs_le : elfPhoff bytes + elfPhnum bytes * sizeofPhdr (elfIs64 bytes) ≤ bytes.length
  sections : elfShnum bytes ≠ 0 → SectionsOk bytes

namespace ElfImage

variable (image : ElfImage)

def is64 : Bool := elfIs64 image.bytes

def ehdr : List UInt8 := slice image.bytes 0 (sizeofEhdr image.is64)

/-- The table a phase waits for: its offset in the file and its size. -/
def pending : HeaderPhase → Nat × Nat
  | .phdrs => (elfPhoff image.bytes, elfPhnum image.bytes * sizeofPhdr image.is64)
  | .shdrs => (elfShoff image.bytes, elfShnum image.bytes * sizeofShdr image.is64)
  | .shstrtab => ((imageShstrtab image.bytes).shOffset, (imageShstrtab image.bytes).shSize)
  | .complete => (0, 0)

/-- The bytes of that table. -/
def table (phase : HeaderPhase) : List UInt8 :=
  slice image.bytes (image.pending phase).1 (image.pending phase).2

/-- What the parser has stored in a phase. -/
def infoAt (phase : HeaderPhase) (loadState : Nat) : ElfInfo :=
  { ehdr := image.ehdr
    loadState
    phdrs := if phase = .phdrs then none else some (image.table .phdrs)
    shdrs :=
      if elfShnum image.bytes = 0 ∨ phase = .phdrs ∨ phase = .shdrs then none
      else some (image.table .shdrs)
    shstrtab :=
      if elfShnum image.bytes = 0 ∨ phase ≠ .complete then none
      else some (image.table .shstrtab) }

theorem elfIs64_ehdr : elfIs64 image.ehdr = image.is64 := by
  unfold elfIs64 ehdr
  rw [getElem?_slice, Nat.zero_add]
  · rfl
  · cases hclass : image.is64 <;> decide

/-- A field of the ELF header is read alike in the header and in the file. -/
theorem elfField_ehdr {offset32 width32 offset64 width64 : Nat} (h32 : offset32 + width32 ≤ 52)
    (h64 : offset64 + width64 ≤ 64) :
    elfField (elfIs64 image.ehdr) image.ehdr offset32 width32 offset64 width64 =
      elfField (elfIs64 image.bytes) image.bytes offset32 width32 offset64 width64 := by
  have hfield : ∀ {offset width : Nat}, offset + width ≤ sizeofEhdr image.is64 →
      field image.ehdr offset width = field image.bytes offset width := by
    intro offset width hle
    unfold field ehdr
    rw [slice_slice hle, Nat.zero_add]
  rw [elfIs64_ehdr]
  change elfField image.is64 _ _ _ _ _ = elfField image.is64 _ _ _ _ _
  unfold elfField
  cases hclass : image.is64
  · exact hfield (by rwa [hclass])
  · exact hfield (by rwa [hclass])

theorem elfPhoff_ehdr : elfPhoff image.ehdr = elfPhoff image.bytes :=
  image.elfField_ehdr (by decide) (by decide)

theorem elfShoff_ehdr : elfShoff image.ehdr = elfShoff image.bytes :=
  image.elfField_ehdr (by decide) (by decide)

theorem elfPhentsize_ehdr : elfPhentsize image.ehdr = sizeofPhdr image.is64 :=
  (image.elfField_ehdr (by decide) (by decide)).trans image.phentsize

theorem elfPhnum_ehdr : elfPhnum image.ehdr = elfPhnum image.bytes :=
  image.elfField_ehdr (by decide) (by decide)

theorem elfShentsize_ehdr : elfShentsize image.ehdr = elfShentsize image.bytes :=
  image.elfField_ehdr (by decide) (by decide)

theorem elfShnum_ehdr : elfShnum image.ehdr = elfShnum image.bytes :=
  image.elfField_ehdr (by decide) (by decide)

theorem elfShstrndx_ehdr : elfShstrndx image.ehdr = elfShstrndx image.bytes :=
  image.elfField_ehdr (by decide) (by decide)

theorem elfEntry_ehdr : elfEntry image.ehdr = elfEntry image.bytes :=
  image.elfField_ehdr (by decide) (by decide)

theorem pending_le (phase : HeaderPhase) (hsections : phase = .phdrs ∨ elfShnum image.bytes ≠ 0) :
    (image.pending phase).1 + (image.pending phase).2 ≤ image.bytes.length := by
  cases phase with
  | phdrs => exact image.phdrs_le
  | shdrs => exact (image.sections (hsections.resolve_left nofun)).shdrs_le
  | shstrtab => exact (image.sections (hsections.resolve_left nofun)).shstrtab_le
  | complete => exact Nat.zero_le _

theorem pending_shdrs_ne (hsections : elfShnum image.bytes ≠ 0) : (image.pending .shdrs).2 ≠ 0 := by
  apply Nat.mul_ne_zero hsections
  cases image.is64 <;> decide

theorem getSection_infoAt (hsections : elfShnum image.bytes ≠ 0) {phase : HeaderPhase}
    (hphase : phase = .shstrtab ∨ phase = .complete) (loadState : Nat) {index : Nat}
    (hlt : index < elfShnum image.bytes) :
    elfGetSectionFromIndex (image.infoAt phase loadState) index =
      some (imageSection image.bytes index) := by
  have hclass : (image.infoAt phase loadState).is64 = image.is64 := image.elfIs64_ehdr
  have hinside : index * sizeofShdr image.is64 + sizeofShdr image.is64 ≤
      elfShnum image.bytes * sizeofShdr image.is64 := by
    rw [← Nat.succ_mul]
    exact Nat.mul_le_mul_right _ hlt
  have hshdrs : (image.infoAt phase loadState).shdrs = some (image.table .shdrs) := by
    rcases hphase with rfl | rfl <;> simp [infoAt, hsections]
  simp only [elfGetSectionFromIndex, hshdrs, hclass]
  rw [infoAt, elfShnum_ehdr, if_pos hlt, table, pending, slice_slice hinside]
  rfl

theorem getSection_shstrndx (hsections : elfShnum image.bytes ≠ 0) (loadState : Nat) :
    elfGetSectionFromIndex (image.infoAt .shstrtab loadState)
      (elfShstrndx (image.infoAt .shstrtab loadState).ehdr) = some (imageShstrtab image.bytes) := by
  rw [infoAt, elfShstrndx_ehdr]
  exact image.getSection_infoAt hsections (.inl rfl) loadState (image.sections hsections).shstrndx_lt

end ElfImage

/-! ### One call of the parser -/

/-- A piece of the file contains a table. -/
def Covers (offset len : Nat) (table : Nat × Nat) : Prop :=
  offset ≤ table.1 ∧ table.1 + table.2 ≤ offset + len

instance (offset len : Nat) (table : Nat × Nat) : Decidable (Covers offset len table) :=
  inferInstanceAs (Decidable (_ ∧ _))

theorem elfLoadTable_eq (imgData : Option (List UInt8)) {offset len : Nat} (table : Nat × Nat)
    (hpiece : offset + len < 2 ^ 64) (htable : table.1 + table.2 < 2 ^ 64) :
    elfLoadTable (fun _ => true) imgData offset len table.1 table.2 =
      if Covers offset len table then
        (imgCopy imgData (table.1 - offset) table.2).map .loaded
      else some .wait := by
  unfold elfLoadTable u64
  rw [Nat.mod_eq_of_lt hpiece, Nat.mod_eq_of_lt htable]
  by_cases hcovers : Covers offset len table
  · obtain ⟨hfrom, hto⟩ := hcovers
    rw [if_neg (by omega), if_neg (by simp), if_pos ⟨hfrom, hto⟩]
  · rw [if_neg hcovers]
    unfold Covers at hcovers
    rw [if_pos (by omega)]

/-- What is copied from a piece of the file is what the file has there. -/
theorem imgCopy_slice {imgData : Option (List UInt8)} {bytes : List UInt8} {offset len : Nat}
    {table : Nat × Nat} (hpiece : offset + len ≤ bytes.length) (hcovers : Covers offset len table)
    (hdata : table.2 ≠ 0 → imgData = some (slice bytes offset len)) :
    imgCopy imgData (table.1 - offset) table.2 = some (slice bytes table.1 table.2) := by
  obtain ⟨hfrom, hto⟩ := hcovers
  have hinside : table.1 - offset + table.2 ≤ len := by omega
  unfold imgCopy
  by_cases hempty : table.2 = 0
  · rw [if_pos hempty, hempty]
    simp [slice]
  · rw [if_neg hempty, hdata hempty]
    simp only
    rw [length_slice hpiece, if_pos hinside, slice_slice hinside, Nat.add_sub_cancel' hfrom]

namespace ElfImage

variable (image : ElfImage) (offset len : Nat)

/-- The phases a piece of the file takes the parser through. -/
def advanceShstrtab : HeaderPhase :=
  if Covers offset len (image.pending .shstrtab) then .complete else .shstrtab

def advanceShdrs : HeaderPhase :=
  if elfShnum image.bytes = 0 then .complete
  else if Covers offset len (image.pending .shdrs) then image.advanceShstrtab offset len
  else .shdrs

def advancePhdrs : HeaderPhase :=
  if Covers offset len (image.pending .phdrs) then image.advanceShdrs offset len else .phdrs

def advance : HeaderPhase → HeaderPhase
  | .phdrs => image.advancePhdrs offset len
  | .shdrs => image.advanceShdrs offset len
  | .shstrtab => image.advanceShstrtab offset len
  | .complete => .complete

theorem advanceShdrs_ne_phdrs : image.advanceShdrs offset len ≠ .phdrs := by
  unfold advanceShdrs advanceShstrtab
  split_ifs <;> decide

theorem advance_ne_phdrs {phase : HeaderPhase} (hphase : phase ≠ .phdrs) :
    image.advance offset len phase ≠ .phdrs := by
  cases phase with
  | phdrs => exact absurd rfl hphase
  | shdrs => exact image.advanceShdrs_ne_phdrs offset len
  | shstrtab =>
      change image.advanceShstrtab offset len ≠ .phdrs
      unfold advanceShstrtab
      split_ifs <;> decide
  | complete => exact hphase

/-- What the parser leaves in a phase: it asks for the pending table. -/
def headerOut (loader : LoaderPhase) (nseg : Nat) (phase : HeaderPhase) (noffset : Nat) :
    HeaderOut :=
  { ret := .ok (loadWord loader phase nseg)
    imgInfo := some (image.infoAt phase (loadWord loader phase nseg))
    noffset := if phase = .complete then noffset else (image.pending phase).1
    nlen := (image.pending phase).2 }

variable {image offset len} {imgData : Option (List UInt8)} (loader : LoaderPhase) {nseg : Nat}

theorem infoAt_waits (phase phase' : HeaderPhase) (hseg : nseg < 2 ^ 8) :
    (image.infoAt phase (loadWord loader phase nseg)).loadState &&& phase'.bits ≠ 0 ↔
      phase = phase' :=
  header_bit loader phase phase' hseg

/-- A pending table is loaded if the piece contains it. Otherwise the image data is not looked at. -/
theorem loadTable_pending {phase : HeaderPhase}
    (hsections : phase = .phdrs ∨ elfShnum image.bytes ≠ 0)
    (hpiece : offset + len ≤ image.bytes.length)
    (hdata : Covers offset len (image.pending phase) → (image.pending phase).2 ≠ 0 →
      imgData = some (slice image.bytes offset len)) :
    elfLoadTable (fun _ => true) imgData offset len (image.pending phase).1
        (image.pending phase).2 =
      if Covers offset len (image.pending phase) then some (.loaded (image.table phase))
      else some .wait := by
  have hlength := image.length_lt
  rw [elfLoadTable_eq imgData (image.pending phase) (Nat.lt_of_le_of_lt hpiece hlength)
    (Nat.lt_of_le_of_lt (image.pending_le phase hsections) hlength)]
  by_cases hcovers : Covers offset len (image.pending phase)
  · rw [if_pos hcovers, if_pos hcovers, imgCopy_slice hpiece hcovers (hdata hcovers)]
    rfl
  · rw [if_neg hcovers, if_neg hcovers]

theorem elfLoadShstrtab_eq (hpiece : offset + len ≤ image.bytes.length)
    (hdata : Covers offset len (image.pending .shstrtab) → (image.pending .shstrtab).2 ≠ 0 →
      imgData = some (slice image.bytes offset len))
    (hsections : elfShnum image.bytes ≠ 0) (hseg : nseg < 2 ^ 8) (last noffset nlen : Nat) :
    elfLoadShstrtab (fun _ => true) imgData offset len
        (image.infoAt .shstrtab (loadWord loader .shstrtab nseg)) last noffset nlen =
      some (image.headerOut loader nseg (image.advanceShstrtab offset len) noffset) := by
  have hwait : (image.infoAt .shstrtab (loadWord loader .shstrtab nseg)).loadState &&&
    ELF_STATE_WAIT_FOR_SHSTRTAB ≠ 0 := (infoAt_waits loader .shstrtab .shstrtab hseg).mpr rfl
  have hword := loadWord_setHeader loader .shstrtab .complete hseg
  have htable := loadTable_pending (.inr hsections) hpiece hdata
  rw [elfLoadShstrtab, elfLoadShstrtabWith, if_pos hwait]
  dsimp only [listTables]
  rw [image.getSection_shstrndx hsections, advanceShstrtab]
  change (elfLoadTable _ _ _ _ (image.pending .shstrtab).1 (image.pending .shstrtab).2).bind _ = _
  rw [htable]
  by_cases hcovers : Covers offset len (image.pending .shstrtab)
  · rw [if_pos hcovers, if_pos hcovers, Option.bind_some]
    simp only [headerOut, infoAt, hsections]
    rw [← hword]
    rfl
  · rw [if_neg hcovers, if_neg hcovers, Option.bind_some]
    rfl

theorem elfLoadShdrs_eq (hpiece : offset + len ≤ image.bytes.length)
    (hdata : Covers offset len (image.pending .shdrs) → (image.pending .shdrs).2 ≠ 0 →
      imgData = some (slice image.bytes offset len))
    (hseg : nseg < 2 ^ 8) (last noffset nlen : Nat) :
    elfLoadShdrs (fun _ => true) imgData offset len
        (image.infoAt .shdrs (loadWord loader .shdrs nseg)) last noffset nlen =
      some (image.headerOut loader nseg (image.advanceShdrs offset len) noffset) := by
  have hwait : (image.infoAt .shdrs (loadWord loader .shdrs nseg)).loadState &&&
    ELF_STATE_WAIT_FOR_SHDRS ≠ 0 := (infoAt_waits loader .shdrs .shdrs hseg).mpr rfl
  have hnum : elfShnum (image.infoAt .shdrs (loadWord loader .shdrs nseg)).ehdr =
    elfShnum image.bytes := image.elfShnum_ehdr
  rw [elfLoadShdrs, elfLoadShdrsWith, if_pos hwait, hnum, advanceShdrs]
  by_cases hnone : elfShnum image.bytes = 0
  · have hword := loadWord_setHeader loader .shdrs .complete hseg
    rw [if_pos hnone, if_pos hnone]
    simp only [headerOut, infoAt, hnone]
    rw [← hword]
    rfl
  · have hoffset : elfShoff (image.infoAt .shdrs (loadWord loader .shdrs nseg)).ehdr =
      (image.pending .shdrs).1 := image.elfShoff_ehdr
    have hsize : elfShnum image.bytes *
        elfShentsize (image.infoAt .shdrs (loadWord loader .shdrs nseg)).ehdr =
          (image.pending .shdrs).2 :=
      congrArg _ (image.elfShentsize_ehdr.trans (image.sections hnone).shentsize)
    rw [if_neg hnone, if_neg hnone, hoffset, hsize]
    dsimp only [listTables]
    rw [loadTable_pending (.inr hnone) hpiece hdata]
    by_cases hcovers : Covers offset len (image.pending .shdrs)
    · have hword := loadWord_setHeader loader .shdrs .shstrtab hseg
      have hsome : (image.pending .shdrs).2 ≠ 0 := image.pending_shdrs_ne hnone
      have hnext := elfLoadShstrtab_eq loader hpiece (fun _ _ => hdata hcovers hsome) hnone hseg
        last noffset nlen
      rw [if_pos hcovers, if_pos hcovers, ← hnext, ← hword]
      simp only [infoAt, hnone]
      rfl
    · rw [if_neg hcovers, if_neg hcovers]
      rfl

theorem elfLoadPhdrs_first (hpiece : offset + len ≤ image.bytes.length)
    (hdata : imgData = some (slice image.bytes offset len)) (noffset nlen : Nat) :
    elfLoadPhdrs (fun _ => true) imgData offset len
        (image.infoAt .phdrs (loadWord .notReady .phdrs 0)) (loadWord .notReady .phdrs 0) noffset
        nlen =
      some (image.headerOut
        (if image.advancePhdrs offset len = .phdrs then .notReady else .ready) 0
        (image.advancePhdrs offset len) noffset) := by
  have hstate : (image.infoAt .phdrs (loadWord .notReady .phdrs 0)).loadState =
    ELF_STATE_WAIT_FOR_PHDRS := rfl
  have hoffset : elfPhoff (image.infoAt .phdrs (loadWord .notReady .phdrs 0)).ehdr =
    (image.pending .phdrs).1 := image.elfPhoff_ehdr
  have hsize : elfPhnum (image.infoAt .phdrs (loadWord .notReady .phdrs 0)).ehdr *
      elfPhentsize (image.infoAt .phdrs (loadWord .notReady .phdrs 0)).ehdr =
        (image.pending .phdrs).2 :=
    congrArg₂ _ image.elfPhnum_ehdr image.elfPhentsize_ehdr
  have hsame : ¬ loadWord .notReady .phdrs 0 ≠
    (image.infoAt .phdrs (loadWord .notReady .phdrs 0)).loadState := not_not.mpr rfl
  rw [elfLoadPhdrs, elfLoadPhdrsWith, if_neg hsame, if_pos hstate, hoffset, hsize, advancePhdrs]
  dsimp only [listTables]
  rw [loadTable_pending (.inl rfl) hpiece (fun _ _ => hdata)]
  by_cases hcovers : Covers offset len (image.pending .phdrs)
  · have hnext := elfLoadShdrs_eq .ready hpiece (fun _ _ => hdata) (Nat.two_pow_pos 8)
      (loadWord .notReady .phdrs 0) noffset nlen
    have hmoved := image.advanceShdrs_ne_phdrs offset len
    have hinfo : { image.infoAt .phdrs (loadWord .notReady .phdrs 0) with
        phdrs := some (image.table .phdrs)
        loadState := ELF_STATE_WAIT_FOR_SHDRS ||| RPROC_LOADER_READY_TO_LOAD } =
          image.infoAt .shdrs (loadWord .ready .shdrs 0) := by
      simp only [infoAt, reduceCtorEq, ne_eq, not_false_eq_true, true_or, or_true, if_true, if_false]
      rfl
    rw [if_pos hcovers, if_pos hcovers, if_neg hmoved, ← hnext, ← hinfo]
    rfl
  · rw [if_neg hcovers, if_neg hcovers, if_pos rfl]
    rfl

theorem elfLoadPhdrs_skip (allocate : Nat → Bool) (imgData : Option (List UInt8)) (offset len : Nat)
    {phase : HeaderPhase} (hphase : phase ≠ .phdrs) (hloader : loader ≠ .notReady)
    (noffset nlen : Nat) :
    elfLoadPhdrs allocate imgData offset len (image.infoAt phase (loadWord loader phase nseg))
        (loadWord loader phase nseg) noffset nlen =
      elfLoadShdrs allocate imgData offset len (image.infoAt phase (loadWord loader phase nseg))
        (loadWord loader phase nseg) noffset nlen := by
  have hstate : (image.infoAt phase (loadWord loader phase nseg)).loadState ≠
      ELF_STATE_WAIT_FOR_PHDRS := by
    change loadWord loader phase nseg ≠ _
    unfold loadWord
    cases loader <;> cases phase <;>
      simp [LoaderPhase.bits, HeaderPhase.bits, RPROC_LOADER_READY_TO_LOAD,
        RPROC_LOADER_POST_DATA_LOAD, RPROC_LOADER_LOAD_COMPLETE, ELF_STATE_WAIT_FOR_PHDRS,
        ELF_STATE_WAIT_FOR_SHDRS, ELF_STATE_WAIT_FOR_SHSTRTAB, ELF_STATE_HDRS_COMPLETE] at * <;>
      omega
  have hsame : ¬ loadWord loader phase nseg ≠
    (image.infoAt phase (loadWord loader phase nseg)).loadState := not_not.mpr rfl
  rw [elfLoadPhdrs, elfLoadPhdrsWith, if_neg hsame, if_neg hstate]
  rfl

theorem elfLoadShdrs_skip (phase : HeaderPhase) (allocate : Nat → Bool)
    (imgData : Option (List UInt8)) (offset len : Nat) (hphase : phase ≠ .shdrs)
    (hseg : nseg < 2 ^ 8) (last noffset nlen : Nat) :
    elfLoadShdrs allocate imgData offset len (image.infoAt phase (loadWord loader phase nseg)) last
        noffset nlen =
      elfLoadShstrtab allocate imgData offset len (image.infoAt phase (loadWord loader phase nseg))
        last noffset nlen := by
  have hnot : ¬ (image.infoAt phase (loadWord loader phase nseg)).loadState &&&
      ELF_STATE_WAIT_FOR_SHDRS ≠ 0 := fun hwait =>
    hphase ((infoAt_waits loader phase .shdrs hseg).mp hwait)
  rw [elfLoadShdrs, elfLoadShdrsWith, if_neg hnot]
  rfl

theorem elfLoadPhdrs_eq {phase : HeaderPhase} (hphase : phase ≠ .phdrs) (hloader : loader ≠ .notReady)
    (hsections : phase = .shstrtab → elfShnum image.bytes ≠ 0)
    (hpiece : offset + len ≤ image.bytes.length)
    (hdata : Covers offset len (image.pending phase) → (image.pending phase).2 ≠ 0 →
      imgData = some (slice image.bytes offset len))
    (hseg : nseg < 2 ^ 8) (noffset : Nat) {nlen : Nat} (hdone : phase = .complete → nlen = 0) :
    elfLoadPhdrs (fun _ => true) imgData offset len
        (image.infoAt phase (loadWord loader phase nseg)) (loadWord loader phase nseg) noffset
        nlen =
      some (image.headerOut loader nseg (image.advance offset len phase) noffset) := by
  rw [elfLoadPhdrs_skip loader _ _ _ _ hphase hloader]
  cases phase with
  | phdrs => exact absurd rfl hphase
  | shdrs => exact elfLoadShdrs_eq loader hpiece hdata hseg _ noffset nlen
  | shstrtab =>
      rw [elfLoadShdrs_skip loader .shstrtab _ _ _ _ nofun hseg]
      exact elfLoadShstrtab_eq loader hpiece hdata (hsections rfl) hseg _ noffset nlen
  | complete =>
      have hnot : ¬ (image.infoAt .complete (loadWord loader .complete nseg)).loadState &&&
          ELF_STATE_WAIT_FOR_SHSTRTAB ≠ 0 := fun hwait =>
        absurd ((infoAt_waits loader .complete .shstrtab hseg).mp hwait) nofun
      rw [elfLoadShdrs_skip loader .complete _ _ _ _ nofun hseg, elfLoadShstrtab,
        elfLoadShstrtabWith, if_neg hnot, hdone rfl]
      rfl

theorem elfLoadHeader_init (hpiece : len ≤ image.bytes.length) (hclass : EI_CLASS < len)
    (noffset nlen : Nat) :
    elfLoadHeader (fun _ => true) (some (slice image.bytes 0 len)) 0 len none ELF_STATE_INIT noffset
        nlen =
      if len < sizeofEhdr image.is64 then
        some ⟨.ok ELF_STATE_INIT, none, 0, sizeofEhdr image.is64⟩
      else
        some (image.headerOut
          (if image.advancePhdrs 0 len = .phdrs then .notReady else .ready) 0
          (image.advancePhdrs 0 len) noffset) := by
  have hsize : elfEhdrSize (some (slice image.bytes 0 len)) = sizeofEhdr image.is64 := by
    change sizeofEhdr (elfIs64 (slice image.bytes 0 len)) = _
    unfold elfIs64
    rw [getElem?_slice hclass, Nat.zero_add]
    rfl
  rw [elfLoadHeader, elfLoadHeaderWith, if_pos rfl]
  dsimp only [listEhdr, EhdrOps.allocateInfo]
  rw [hsize]
  simp only [Option.bind_eq_bind, Option.bind_some]
  by_cases hshort : len < sizeofEhdr image.is64
  · rw [if_pos hshort, if_pos hshort]
    rfl
  · have hpiece' : 0 + len ≤ image.bytes.length := by omega
    have hcovers : Covers 0 len (0, sizeofEhdr image.is64) := ⟨Nat.le_refl 0, by omega⟩
    have hcopy : imgCopy (some (slice image.bytes 0 len)) 0 (sizeofEhdr image.is64) =
      some image.ehdr := imgCopy_slice hpiece' hcovers fun _ => rfl
    have hinfo : ⟨image.ehdr, ELF_STATE_WAIT_FOR_PHDRS, none, none, none⟩ =
        image.infoAt .phdrs (loadWord .notReady .phdrs 0) := by
      simp only [infoAt, reduceCtorEq, ne_eq, not_false_eq_true, true_or, or_true, if_true]
      rfl
    have hfirst := elfLoadPhdrs_first hpiece' rfl noffset nlen
    rw [if_neg hshort, if_neg hshort, ← hfirst, ← hinfo, hcopy]
    rfl

theorem elfLoadHeader_eq {phase : HeaderPhase} (hphase : phase ≠ .phdrs)
    (hloader : loader ≠ .notReady) (hsections : phase = .shstrtab → elfShnum image.bytes ≠ 0)
    (hpiece : offset + len ≤ image.bytes.length)
    (hdata : Covers offset len (image.pending phase) → (image.pending phase).2 ≠ 0 →
      imgData = some (slice image.bytes offset len))
    (hseg : nseg < 2 ^ 8) (noffset : Nat) {nlen : Nat} (hdone : phase = .complete → nlen = 0) :
    elfLoadHeader (fun _ => true) imgData offset len
        (some (image.infoAt phase (loadWord loader phase nseg))) (loadWord loader phase nseg) noffset
        nlen =
      some (image.headerOut loader nseg (image.advance offset len phase) noffset) := by
  have hinit : loadWord loader phase nseg ≠ ELF_STATE_INIT := loadWord_ne_init loader phase
  rw [elfLoadHeader, elfLoadHeaderWith, if_neg hinit]
  exact elfLoadPhdrs_eq loader hphase hloader hsections hpiece hdata hseg noffset hdone

/-- A table that should be in the piece cannot be copied from nowhere. -/
theorem elfLoadHeader_null {phase : HeaderPhase} (hphase : phase ≠ .phdrs) (hmore : phase ≠ .complete)
    (hloader : loader ≠ .notReady) (hsections : elfShnum image.bytes ≠ 0)
    (hpiece : offset + len ≤ image.bytes.length) (hcovers : Covers offset len (image.pending phase))
    (hsome : (image.pending phase).2 ≠ 0) (hseg : nseg < 2 ^ 8) (noffset nlen : Nat) :
    elfLoadHeader (fun _ => true) none offset len
      (some (image.infoAt phase (loadWord loader phase nseg))) (loadWord loader phase nseg) noffset
      nlen = none := by
  have htable : elfLoadTable (fun _ => true) none offset len (image.pending phase).1
      (image.pending phase).2 = none := by
    have hlength := image.length_lt
    rw [elfLoadTable_eq none (image.pending phase) (Nat.lt_of_le_of_lt hpiece hlength)
      (Nat.lt_of_le_of_lt (image.pending_le phase (.inr hsections)) hlength), if_pos hcovers,
      imgCopy, if_neg hsome]
    rfl
  rw [elfLoadHeader, elfLoadHeaderWith, if_neg (loadWord_ne_init loader phase)]
  change elfLoadPhdrs _ _ _ _ _ _ _ _ = none
  rw [elfLoadPhdrs_skip loader _ _ _ _ hphase hloader]
  cases phase with
  | phdrs => exact absurd rfl hphase
  | shdrs =>
      have hwait : (image.infoAt .shdrs (loadWord loader .shdrs nseg)).loadState &&&
        ELF_STATE_WAIT_FOR_SHDRS ≠ 0 := (infoAt_waits loader .shdrs .shdrs hseg).mpr rfl
      have hnum : elfShnum (image.infoAt .shdrs (loadWord loader .shdrs nseg)).ehdr =
        elfShnum image.bytes := image.elfShnum_ehdr
      have hoffset : elfShoff (image.infoAt .shdrs (loadWord loader .shdrs nseg)).ehdr =
        (image.pending .shdrs).1 := image.elfShoff_ehdr
      have hsize : elfShnum image.bytes *
          elfShentsize (image.infoAt .shdrs (loadWord loader .shdrs nseg)).ehdr =
            (image.pending .shdrs).2 :=
        congrArg _ (image.elfShentsize_ehdr.trans (image.sections hsections).shentsize)
      rw [elfLoadShdrs, elfLoadShdrsWith, if_pos hwait, hnum, if_neg hsections, hoffset, hsize]
      dsimp only [listTables]
      rw [htable]
      rfl
  | shstrtab =>
      have hwait : (image.infoAt .shstrtab (loadWord loader .shstrtab nseg)).loadState &&&
        ELF_STATE_WAIT_FOR_SHSTRTAB ≠ 0 := (infoAt_waits loader .shstrtab .shstrtab hseg).mpr rfl
      rw [elfLoadShdrs_skip loader .shstrtab _ _ _ _ nofun hseg, elfLoadShstrtab,
        elfLoadShstrtabWith, if_pos hwait]
      dsimp only [listTables]
      rw [image.getSection_shstrndx hsections]
      change (elfLoadTable _ _ _ _ (image.pending .shstrtab).1 (image.pending .shstrtab).2).bind _ = _
      rw [htable]
      rfl
  | complete => exact absurd rfl hmore

theorem elfLoadHeader_phdrs (hpiece : offset + len ≤ image.bytes.length) (noffset nlen : Nat) :
    elfLoadHeader (fun _ => true) (some (slice image.bytes offset len)) offset len
        (some (image.infoAt .phdrs (loadWord .notReady .phdrs 0))) (loadWord .notReady .phdrs 0)
        noffset nlen =
      some (image.headerOut
        (if image.advancePhdrs offset len = .phdrs then .notReady else .ready) 0
        (image.advancePhdrs offset len) noffset) := by
  rw [elfLoadHeader, elfLoadHeaderWith, if_neg (loadWord_ne_init .notReady .phdrs)]
  exact elfLoadPhdrs_first hpiece rfl noffset nlen

end ElfImage

/-! ### Runs over pieces of the file -/

/-- What a caller of the parser keeps between two calls. -/
structure HeaderRun where
  imgInfo : Option ElfInfo
  loadState : Nat
  noffset : Nat
  nlen : Nat
deriving DecidableEq

namespace HeaderRun

/-- The caller passes a piece of the file, given by its offset and its length, and memory is always
available. An error ends the run. -/
def step (bytes : List UInt8) (s : HeaderRun) (piece : Nat × Nat) : Option HeaderRun := do
  let out ← elfLoadHeader (fun _ => true) (some (slice bytes piece.1 piece.2)) piece.1 piece.2
    s.imgInfo s.loadState s.noffset s.nlen
  match out.ret with
  | .error _ => none
  | .ok loadState => some ⟨out.imgInfo, loadState, out.noffset, out.nlen⟩

/-- Pieces lie inside the file, and up to the ELF header they start it and show its class. -/
def Allowed (bytes : List UInt8) (s : HeaderRun) (piece : Nat × Nat) : Prop :=
  piece.1 + piece.2 ≤ bytes.length ∧
    (s.loadState = ELF_STATE_INIT → piece.1 = 0 ∧ EI_CLASS < piece.2)

instance (bytes : List UInt8) (s : HeaderRun) (piece : Nat × Nat) :
    Decidable (s.Allowed bytes piece) :=
  inferInstanceAs (Decidable (_ ∧ _))

/-- Calls with exactly what the previous one has asked for. -/
def request (bytes : List UInt8) : Nat → HeaderRun → Option HeaderRun
  | 0, s => some s
  | calls + 1, s => (s.step bytes (s.noffset, s.nlen)).bind (request bytes calls)

end HeaderRun

section Runs

variable {image : ElfImage} {s s' : HeaderRun} {piece : Nat × Nat}

/-- The state after the ELF header has been found. -/
def ElfImage.runAt (image : ElfImage) (phase : HeaderPhase) (noffset : Nat) : HeaderRun :=
  let out := image.headerOut (if phase = .phdrs then .notReady else .ready) 0 phase noffset
  ⟨out.imgInfo, loadWord (if phase = .phdrs then .notReady else .ready) phase 0, out.noffset,
    out.nlen⟩

/-- The state after a first piece that is too short. -/
def ElfImage.runInit (image : ElfImage) : HeaderRun :=
  ⟨none, ELF_STATE_INIT, 0, sizeofEhdr image.is64⟩

theorem HeaderRun.step_init (hstate : s.loadState = ELF_STATE_INIT) (hinfo : s.imgInfo = none)
    (hallowed : s.Allowed image.bytes piece) :
    s.step image.bytes piece =
      if piece.2 < sizeofEhdr image.is64 then some image.runInit
      else some (image.runAt (image.advance 0 piece.2 .phdrs) s.noffset) := by
  obtain ⟨hpiece, hfirst⟩ := hallowed
  obtain ⟨hzero, hclass⟩ := hfirst hstate
  rw [HeaderRun.step, hstate, hinfo, hzero,
    ElfImage.elfLoadHeader_init (by omega) hclass s.noffset s.nlen]
  by_cases hshort : piece.2 < sizeofEhdr image.is64
  · rw [if_pos hshort, if_pos hshort]
    rfl
  · rw [if_neg hshort, if_neg hshort]
    rfl

theorem HeaderRun.step_runAt (hsections : elfShnum image.bytes ≠ 0) (phase : HeaderPhase)
    (hpiece : piece.1 + piece.2 ≤ image.bytes.length) (noffset : Nat) :
    (image.runAt phase noffset).step image.bytes piece =
      some (image.runAt (image.advance piece.1 piece.2 phase) (image.runAt phase noffset).noffset) := by
  by_cases hphase : phase = .phdrs
  · subst hphase
    have hcall := ElfImage.elfLoadHeader_phdrs hpiece (image.runAt .phdrs noffset).noffset
      (image.runAt .phdrs noffset).nlen
    rw [HeaderRun.step]
    simp only [ElfImage.runAt, ElfImage.headerOut, if_true] at hcall ⊢
    rw [hcall]
    rfl
  · have hnext := image.advance_ne_phdrs piece.1 piece.2 hphase
    have hdone : phase = .complete → (image.runAt phase noffset).nlen = 0 := by
      rintro rfl
      rfl
    have hcall := ElfImage.elfLoadHeader_eq .ready hphase nofun (fun _ => hsections) hpiece
      (fun _ _ => rfl) (Nat.two_pow_pos 8) (image.runAt phase noffset).noffset hdone
    rw [HeaderRun.step]
    simp only [ElfImage.runAt, if_neg hphase, if_neg hnext] at hcall ⊢
    rw [ElfImage.headerOut] at hcall ⊢
    simp only at hcall ⊢
    rw [hcall]
    rfl

/-- The caller has found the ELF header, or is still at the start. -/
def HeaderRun.Inv (image : ElfImage) (s : HeaderRun) : Prop :=
  s.loadState = ELF_STATE_INIT ∧ s.imgInfo = none ∨ ∃ phase noffset, s = image.runAt phase noffset

theorem HeaderRun.Inv.step (hsections : elfShnum image.bytes ≠ 0) (h : s.Inv image)
    (hallowed : s.Allowed image.bytes piece) :
    s.step image.bytes piece = some image.runInit ∨
      ∃ phase noffset, s.step image.bytes piece = some (image.runAt phase noffset) := by
  rcases h with ⟨hstate, hinfo⟩ | ⟨phase, noffset, rfl⟩
  · rw [HeaderRun.step_init hstate hinfo hallowed]
    by_cases hshort : piece.2 < sizeofEhdr image.is64
    · exact .inl (if_pos hshort)
    · exact .inr ⟨_, _, if_neg hshort⟩
  · exact .inr ⟨_, _, HeaderRun.step_runAt hsections phase hallowed.1 noffset⟩

/-- How many tables are missing. -/
def HeaderPhase.missing : HeaderPhase → Nat
  | .phdrs => 3
  | .shdrs => 2
  | .shstrtab => 1
  | .complete => 0

theorem ElfImage.missing_advance (image : ElfImage) {phase : HeaderPhase}
    (hphase : phase ≠ .complete) :
    (image.advance (image.pending phase).1 (image.pending phase).2 phase).missing <
      phase.missing := by
  have hcovers : Covers (image.pending phase).1 (image.pending phase).2 (image.pending phase) :=
    ⟨Nat.le_refl _, Nat.le_refl _⟩
  cases phase with
  | phdrs =>
      simp only [ElfImage.advance, ElfImage.advancePhdrs, if_pos hcovers]
      unfold ElfImage.advanceShdrs ElfImage.advanceShstrtab
      split_ifs <;> decide
  | shdrs =>
      simp only [ElfImage.advance, ElfImage.advanceShdrs, if_pos hcovers]
      unfold ElfImage.advanceShstrtab
      split_ifs <;> decide
  | shstrtab =>
      simp only [ElfImage.advance, ElfImage.advanceShstrtab, if_pos hcovers]
      decide
  | complete => exact absurd rfl hphase

end Runs

/-- The header of a 32-bit image. -/
def ehdr32 (entry phoff shoff phnum shnum shstrndx : Nat) : List UInt8 :=
  ELFMAG ++ [1, 1, 1] ++ List.replicate 9 0 ++ leBytes 2 2 ++ leBytes 2 40 ++ leBytes 4 1 ++
    leBytes 4 entry ++ leBytes 4 phoff ++ leBytes 4 shoff ++ leBytes 4 0 ++ leBytes 2 52 ++
    leBytes 2 32 ++ leBytes 2 phnum ++ leBytes 2 40 ++ leBytes 2 shnum ++ leBytes 2 shstrndx

def phdr32 (phdr : Phdr) : List UInt8 :=
  leBytes 4 phdr.pType ++ leBytes 4 phdr.pOffset ++ leBytes 4 phdr.pVaddr ++
    leBytes 4 phdr.pVaddr ++ leBytes 4 phdr.pFilesz ++ leBytes 4 phdr.pMemsz ++ leBytes 4 5 ++
    leBytes 4 4

def shdr32 (shdr : Shdr) : List UInt8 :=
  leBytes 4 shdr.shName ++ leBytes 4 3 ++ leBytes 4 0 ++ leBytes 4 shdr.shAddr ++
    leBytes 4 shdr.shOffset ++ leBytes 4 shdr.shSize ++ List.replicate 16 0

/-- One segment, and one section with the names of the sections. -/
def smallImage : ElfImage where
  bytes := ehdr32 0x1000 52 84 1 1 0 ++ phdr32 ⟨PT_LOAD, 124, 0x1000, 1, 3⟩ ++
    shdr32 ⟨0, 0, 124, 1⟩ ++ [0]
  length_lt := by decide +kernel
  magic := by decide +kernel
  ehdr_le := by decide +kernel
  phentsize := by decide +kernel
  phdrs_le := by decide +kernel
  sections := fun _ => ⟨by decide +kernel, by decide +kernel, by decide +kernel,
    by decide +kernel⟩

end OpenAmp
