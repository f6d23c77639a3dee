import OpenAmp.ElfRun

/-!
# The ELF loader at its pointers

`elf_load_header` and the functions that find an entry of a stored table, on memory instead of lists.
The memory that `img_data` points to goes on behind the chunk, and so does the memory of a block that
holds a table. Every read through `img_data` and every comparison in the string table is kept.
-/

namespace OpenAmp

open ByteMemory Slice

/-- Bytes that are read from memory, counted from the pointer they are read through. -/
structure MemRead where
  index : Nat
  size : Nat
deriving DecidableEq, Repr

def MemRead.Inside (read : MemRead) (len : Nat) : Prop :=
  ∀ i, read.index ≤ i → i < read.index + read.size → i < len

/-! ### Entries of the stored tables -/

/-- `&table[index]`, in bytes from the start of the table. -/
def tableEntry (table : Option (List UInt8)) (num size : Nat) (index : Int) : Option Nat :=
  match table with
  | none => none
  | some _ => if index < 0 ∨ index ≥ num then none else some (index.toNat * size)

def elfGetSegmentFromIndexAt (info : ElfInfo) (index : Int) : Option Nat :=
  tableEntry info.phdrs (elfPhnum info.ehdr) (sizeofPhdr info.is64) index

def elfGetSectionFromIndexAt (info : ElfInfo) (index : Int) : Option Nat :=
  tableEntry info.shdrs (elfShnum info.ehdr) (sizeofShdr info.is64) index

/-- `elf_parse_section` of the entry at a byte of the section headers. -/
def elfParseSectionAt (is64 : Bool) (shdrs : List UInt8) (behind : Nat → UInt8) (entry : Nat) :
    Shdr :=
  elfParseSection is64 (readBytes (blockMem shdrs behind) entry (sizeofShdr is64))

/-- A C string, without the zero that ends it. -/
def CString : Type := { bytes : List UInt8 // 0 ∉ bytes }

/-- `strcmp` with a string in memory: whether the two are equal, and how many bytes of the memory it
has looked at. -/
def strcmpAt (mem : Nat → UInt8) : List UInt8 → Nat → Bool × Nat
  | [], start => (mem start == 0, 1)
  | byte :: name, start =>
      if mem start = byte then
        let (equal, count) := strcmpAt mem name (start + 1)
        (equal, count + 1)
      else (false, 1)

/-- The loop of `elf_get_section_from_name` over the sections that are left. -/
def sectionFromName (is64 : Bool) (shdrs : List UInt8) (behind : Nat → UInt8) (strings : Nat → UInt8)
    (name : List UInt8) : List Nat → Option Nat × List MemRead
  | [] => (none, [])
  | i :: rest =>
      let entry := i * sizeofShdr is64
      let shName := (elfParseSectionAt is64 shdrs behind entry).shName
      let (equal, count) := strcmpAt strings name shName
      if equal then (some entry, [⟨shName, count⟩])
      else
        let (found, reads) := sectionFromName is64 shdrs behind strings name rest
        (found, ⟨shName, count⟩ :: reads)

/-- `elf_get_section_from_name`: the entry, and what was compared in the string table. -/
def elfGetSectionFromNameAt (info : ElfInfo) (behindShdrs behindStrings : Nat → UInt8)
    (name : CString) : Option Nat × List MemRead :=
  match info.shdrs, info.shstrtab with
  | some shdrs, some nameTable =>
      sectionFromName info.is64 shdrs behindShdrs (blockMem nameTable behindStrings) name.1
        (List.range (elfShnum info.ehdr))
  | _, _ => (none, [])

/-! ### The header parser -/

/-- The range test of the three tables: `true` if the table is waited for. -/
def elfTableWaits (offset len tableOffset tableSize : Nat) : Bool :=
  offset > tableOffset ∨ u64 (offset + len) < u64 (tableOffset + tableSize)

/-- The copy of a table to a block of its own. `metal_allocate_memory` takes an `unsigned int`, so that
the block of a larger table has only the first bytes of it. -/
def elfLoadTableAt (allocate : Nat → Bool) (img : Nat → UInt8)
    (offset len tableOffset tableSize : Nat) : TableLoad × List MemRead :=
  if elfTableWaits offset len tableOffset tableSize then (.wait, [])
  else if allocate tableSize = false then (.noMemory, [])
  else
    (.loaded (readBytes img (tableOffset - offset) (u32 tableSize)),
      [⟨tableOffset - offset, tableSize⟩])

section Header

variable (allocate : ElfMem → Nat → Bool) (img : Nat → UInt8) (behind : Nat → UInt8) (offset len : Nat)

def memTables : TableOps (Writer (List MemRead)) where
  sectionFromIndex info index :=
    match info.shdrs, elfGetSectionFromIndexAt info index with
    | some shdrs, some entry => some (elfParseSectionAt info.is64 shdrs behind entry)
    | _, _ => none
  load mem tableOffset tableSize :=
    .mk (elfLoadTableAt (allocate mem) img offset len tableOffset tableSize)

def elfLoadShstrtabAt (info : ElfInfo) (lastLoadState noffset nlen : Nat) :
    HeaderOut × List MemRead :=
  (elfLoadShstrtabWith (memTables allocate img behind offset len) info lastLoadState noffset nlen).run

def elfLoadShdrsAt (info : ElfInfo) (lastLoadState noffset nlen : Nat) :
    HeaderOut × List MemRead :=
  (elfLoadShdrsWith (memTables allocate img behind offset len) info lastLoadState noffset nlen).run

def elfLoadPhdrsAt (info : ElfInfo) (lastLoadState noffset nlen : Nat) :
    HeaderOut × List MemRead :=
  (elfLoadPhdrsWith (memTables allocate img behind offset len) info lastLoadState noffset nlen).run

/-- The class of the file is read from the chunk before its length is looked at, and once more for the
size of the object. -/
def memEhdr : EhdrOps (WriterT (List MemRead) Option) where
  ehdrSize := .mk (some (sizeofEhdr (img EI_CLASS == ELFCLASS64), [⟨EI_CLASS, 1⟩]))
  infoSize := .mk (some (if img EI_CLASS == ELFCLASS64 then 96 else 80, [⟨EI_CLASS, 1⟩]))
  allocate size := pure (allocate .info size)
  copyEhdr size := .mk (some (readBytes img 0 size, [⟨0, size⟩]))

/-- `elf_load_header` with a chunk that is not a null pointer. Where it does not return, it has read
nothing. -/
def elfLoadHeaderAt (imgInfo : Option ElfInfo) (lastLoadState noffset nlen : Nat) :
    Option HeaderOut × List MemRead :=
  let result := (elfLoadHeaderWith (memEhdr allocate img)
    (fun info lastLoadState noffset nlen =>
      .mk (some (elfLoadPhdrsAt allocate img behind offset len info lastLoadState noffset nlen)))
    len imgInfo lastLoadState noffset nlen).run
  (result.map Prod.fst, result.elim [] Prod.snd)

end Header

/-- The bytes that a call reads from the chunk are inside it. -/
def ReadsInside (len : Nat) (reads : List MemRead) : Prop := ∀ read ∈ reads, read.Inside len

/-! ### Where the range tests go wrong -/

/-- A table with a byte in it ends behind `2 ^ 64`, where the chunk does not, and the range test takes
it for part of the chunk. -/
def WrapsPast (allocate : Nat → Bool) (offset len tableOffset tableSize : Nat) : Prop :=
  elfTableWaits offset len tableOffset tableSize = false ∧ allocate tableSize = true ∧
    0 < tableSize ∧ 2 ^ 64 ≤ tableOffset + tableSize ∧ offset + len < 2 ^ 64

section Wraps

variable (allocate : ElfMem → Nat → Bool) (img : Nat → UInt8) (behind : Nat → UInt8) (offset len : Nat)

/-- The copy of a table, if there is one. -/
def elfTableAt (mem : ElfMem) (tableOffset tableSize : Nat) : Option (List UInt8) :=
  if elfTableWaits offset len tableOffset tableSize = false ∧ allocate mem tableSize = true then
    some (readBytes img (tableOffset - offset) (u32 tableSize))
  else none

def ShstrtabWraps (info : ElfInfo) : Prop :=
  ∃ shdrs entry, info.shdrs = some shdrs ∧
    elfGetSectionFromIndexAt info (elfShstrndx info.ehdr) = some entry ∧
    WrapsPast (allocate .shstrtab) offset len (elfParseSectionAt info.is64 shdrs behind entry).shOffset
      (elfParseSectionAt info.is64 shdrs behind entry).shSize

def ShdrsWraps (info : ElfInfo) : Prop :=
  elfShnum info.ehdr ≠ 0 ∧
    (WrapsPast (allocate .shdrs) offset len (elfShoff info.ehdr)
      (elfShnum info.ehdr * elfShentsize info.ehdr) ∨
    ∃ shdrs, elfTableAt allocate img offset len .shdrs (elfShoff info.ehdr)
      (elfShnum info.ehdr * elfShentsize info.ehdr) = some shdrs ∧
      ShstrtabWraps allocate behind offset len { info with shdrs := some shdrs })

def PhdrsWraps (info : ElfInfo) : Prop :=
  WrapsPast (allocate .phdrs) offset len (elfPhoff info.ehdr)
      (elfPhnum info.ehdr * elfPhentsize info.ehdr) ∨
    (elfTableAt allocate img offset len .phdrs (elfPhoff info.ehdr)
      (elfPhnum info.ehdr * elfPhentsize info.ehdr) ≠ none ∧
      ShdrsWraps allocate img behind offset len info)

/-- One of the tables that are due wraps: which tables these are is in the load state. -/
def TablesWrap (info : ElfInfo) : Prop :=
  if info.loadState = ELF_STATE_WAIT_FOR_PHDRS then PhdrsWraps allocate img behind offset len info
  else if info.loadState &&& ELF_STATE_WAIT_FOR_SHDRS ≠ 0 then
    ShdrsWraps allocate img behind offset len info
  else
    info.loadState &&& ELF_STATE_WAIT_FOR_SHSTRTAB ≠ 0 ∧
      ShstrtabWraps allocate behind offset len info

/-- The object whose tables a call goes on to load, if it gets that far. -/
def dueInfo (imgInfo : Option ElfInfo) (lastLoadState : Nat) : Option ElfInfo :=
  if lastLoadState = ELF_STATE_INIT then
    let is64 := img EI_CLASS == ELFCLASS64
    if len < sizeofEhdr is64 ∨ imgInfo = none ∧ allocate .info (if is64 then 96 else 80) = false then none
    else some (elfHeaderCopied imgInfo (readBytes img 0 (sizeofEhdr is64)))
  else imgInfo.filter fun info => info.loadState = lastLoadState

end Wraps

/-! ### The tables of an object -/

/-- The objects that calls of the loader leave, each with a chunk of its own, with the state for the
next call. -/
inductive ElfCalls : Option ElfInfo → Nat → Prop where
  | start : ElfCalls none ELF_STATE_INIT
  | header {imgInfo : Option ElfInfo} {state : Nat} (h : ElfCalls imgInfo state)
      (allocate : ElfMem → Nat → Bool) (img behind : Nat → UInt8) (offset len noffset nlen : Nat)
      {out : HeaderOut} {state' : Nat}
      (hcall : (elfLoadHeaderAt allocate img behind offset len imgInfo state noffset nlen).1 =
        some out)
      (hret : out.ret = .ok state') : ElfCalls out.imgInfo state'
  -- `elf_load` changes the loader bits and the segment number
  | data {info : ElfInfo} {state state' : Nat} (h : ElfCalls (some info) state)
      (hstage : state' &&& ELF_STATE_MASK = info.loadState &&& ELF_STATE_MASK) :
      ElfCalls (some { info with loadState := state' }) state'

/-- An entry that is found is the one at `index * entsize` and lies inside the block of the table. -/
def EntriesInside (find : Int → Option Nat) (table : Option (List UInt8)) (entsize size : Nat) :
    Prop :=
  ∀ index entry, find index = some entry →
    (entry : Int) = index * entsize ∧ entry + size ≤ (table.getD []).length

/-- Where the name of a section starts in the string table. -/
def sectionNameStart (info : ElfInfo) (shdrs : List UInt8) (i : Nat) : Nat :=
  (elfParseSection info.is64
    (slice shdrs (i * elfShentsize info.ehdr) (sizeofShdr info.is64))).shName

/-- The string table has the name, with the zero that ends it, where that of the section starts. -/
def SectionNamed (info : ElfInfo) (shdrs nameTable : List UInt8) (name : CString) (i : Nat) : Prop :=
  name.1 ++ [0] <+: nameTable.drop (sectionNameStart info shdrs i)

instance (info : ElfInfo) (shdrs nameTable : List UInt8) (name : CString) (i : Nat) :
    Decidable (SectionNamed info shdrs nameTable name i) :=
  inferInstanceAs (Decidable (_ <+: _))

def firstSectionNamed (info : ElfInfo) (name : CString) : Option Nat :=
  match info.shdrs, info.shstrtab with
  | some shdrs, some nameTable =>
      ((List.range (elfShnum info.ehdr)).find? fun i =>
        SectionNamed info shdrs nameTable name i).map (· * elfShentsize info.ehdr)
  | _, _ => none

/-- The tables are walked as their header describes them. -/
structure TablesIndexed (info : ElfInfo) (behindShdrs behindStrings : Nat → UInt8) (name : CString) :
    Prop where
  segments : EntriesInside (elfGetSegmentFromIndexAt info) info.phdrs (elfPhentsize info.ehdr)
    (sizeofPhdr info.is64)
  sections : EntriesInside (elfGetSectionFromIndexAt info) info.shdrs (elfShentsize info.ehdr)
    (sizeofShdr info.is64)
  compared : ReadsInside (info.shstrtab.getD []).length
    (elfGetSectionFromNameAt info behindShdrs behindStrings name).2
  first : (elfGetSectionFromNameAt info behindShdrs behindStrings name).1 =
    firstSectionNamed info name

/-- The entries of a stored table have the size of the structure. One entry may be longer. -/
def EntriesFit (table : Option (List UInt8)) (num entsize size : Nat) : Prop :=
  table = none ∨ num = 0 ∨ entsize = size ∨ num = 1 ∧ size ≤ entsize

/-- No section up to the one that is looked for has a name that the end of the string table cuts off
before it differs from the one looked for. -/
def NamesEnd (info : ElfInfo) (name : CString) : Prop :=
  ∀ shdrs nameTable, info.shdrs = some shdrs → info.shstrtab = some nameTable →
    ∀ i < elfShnum info.ehdr, (∀ j < i, ¬ SectionNamed info shdrs nameTable name j) →
      ¬ nameTable.drop (sectionNameStart info shdrs i) <+: name.1

end OpenAmp
