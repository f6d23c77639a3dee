import OpenAmp.Library.ByteMemory
import OpenAmp.Library.Slice
import OpenAmp.Vring

/-!
# The ELF loader

`lib/remoteproc/elf_loader.c` for either class of ELF, on a little-endian machine with 64-bit
addresses and sizes: the headers as bytes, the parser of the header tables that is fed with pieces of
the file, and the step that names the next segment to load.
-/

namespace OpenAmp

open ByteMemory Slice

def RPROC_ENOMEM : Int := 1
def RPROC_EINVAL : Int := 2
def RPROC_ENODEV : Int := 3
def RPROC_ERR_LOADER_STATE : Int := 12

/-- `METAL_BAD_PHYS` and `RPROC_LOAD_ANYADDR`, both of them all ones. -/
def METAL_BAD_PHYS : Nat := 2 ^ 64 - 1

def RPROC_LOAD_ANYADDR : Nat := 2 ^ 64 - 1

def RPROC_LOADER_NOT_READY : Nat := 0x0
def RPROC_LOADER_READY_TO_LOAD : Nat := 0x10000
def RPROC_LOADER_POST_DATA_LOAD : Nat := 0x20000
def RPROC_LOADER_LOAD_COMPLETE : Nat := 0x40000
def RPROC_LOADER_MASK : Nat := 0x00FF0000

def ELF_STATE_INIT : Nat := 0x0
def ELF_STATE_WAIT_FOR_PHDRS : Nat := 0x100
def ELF_STATE_WAIT_FOR_SHDRS : Nat := 0x200
def ELF_STATE_WAIT_FOR_SHSTRTAB : Nat := 0x400
def ELF_STATE_HDRS_COMPLETE : Nat := 0x800
def ELF_STATE_MASK : Nat := 0xFF00
def ELF_NEXT_SEGMENT_MASK : Nat := 0x00FF

def EI_CLASS : Nat := 4
def ELFCLASS64 : UInt8 := 2
def ELFMAG : List UInt8 := [0x7f, 0x45, 0x4c, 0x46]
def SELFMAG : Nat := 4

def PT_LOAD : Nat := 1

/-- `state & ~mask`. -/
def clearBits (state mask : Nat) : Nat := state ^^^ (state &&& mask)

/-! ### Headers as bytes -/

/-- A field of a packed structure. -/
def field (bytes : List UInt8) (offset width : Nat) : Nat := leValue (slice bytes offset width)

def elfIs64 (elfInfo : List UInt8) : Bool := elfInfo[EI_CLASS]? == some ELFCLASS64

/-- A field of a structure that exists in both classes. -/
def elfField (is64 : Bool) (bytes : List UInt8) (offset32 width32 offset64 width64 : Nat) : Nat :=
  if is64 then field bytes offset64 width64 else field bytes offset32 width32

/-- The sizes of `Elf32_Ehdr`, `Elf64_Ehdr` and so on. -/
def sizeofEhdr (is64 : Bool) : Nat := if is64 then 64 else 52

def sizeofPhdr (is64 : Bool) : Nat := if is64 then 56 else 32

def sizeofShdr (is64 : Bool) : Nat := if is64 then 64 else 40

def elfEhdrSize (elfInfo : Option (List UInt8)) : Nat :=
  match elfInfo with
  | none => sizeofEhdr true
  | some elfInfo => sizeofEhdr (elfIs64 elfInfo)

/-- `elf_info_size`, of an image that is there. -/
def elfInfoSize (imgData : List UInt8) : Nat := if elfIs64 imgData then 96 else 80

def elfEntry (ehdr : List UInt8) : Nat := elfField (elfIs64 ehdr) ehdr 24 4 24 8
def elfPhoff (ehdr : List UInt8) : Nat := elfField (elfIs64 ehdr) ehdr 28 4 32 8
def elfShoff (ehdr : List UInt8) : Nat := elfField (elfIs64 ehdr) ehdr 32 4 40 8
def elfPhentsize (ehdr : List UInt8) : Nat := elfField (elfIs64 ehdr) ehdr 42 2 54 2
def elfPhnum (ehdr : List UInt8) : Nat := elfField (elfIs64 ehdr) ehdr 44 2 56 2
def elfShentsize (ehdr : List UInt8) : Nat := elfField (elfIs64 ehdr) ehdr 46 2 58 2
def elfShnum (ehdr : List UInt8) : Nat := elfField (elfIs64 ehdr) ehdr 48 2 60 2
def elfShstrndx (ehdr : List UInt8) : Nat := elfField (elfIs64 ehdr) ehdr 50 2 62 2

structure Phdr where
  pType : Nat
  pOffset : Nat
  pVaddr : Nat
  pFilesz : Nat
  pMemsz : Nat
deriving DecidableEq, Repr

def elfParseSegment (is64 : Bool) (phdr : List UInt8) : Phdr :=
  { pType := elfField is64 phdr 0 4 0 4
    pOffset := elfField is64 phdr 4 4 8 8
    pVaddr := elfField is64 phdr 8 4 16 8
    pFilesz := elfField is64 phdr 16 4 32 8
    pMemsz := elfField is64 phdr 20 4 40 8 }

structure Shdr where
  shName : Nat
  shAddr : Nat
  shOffset : Nat
  shSize : Nat
deriving DecidableEq, Repr

def elfParseSection (is64 : Bool) (shdr : List UInt8) : Shdr :=
  { shName := elfField is64 shdr 0 4 0 4
    shAddr := elfField is64 shdr 12 4 16 8
    shOffset := elfField is64 shdr 16 4 24 8
    shSize := elfField is64 shdr 20 4 32 8 }

/-- `struct elf32_info` and `struct elf64_info`. The tables are null pointers until they are
loaded. -/
structure ElfInfo where
  ehdr : List UInt8
  loadState : Nat
  phdrs : Option (List UInt8)
  shdrs : Option (List UInt8)
  shstrtab : Option (List UInt8)
deriving DecidableEq, Repr

def ElfInfo.is64 (info : ElfInfo) : Bool := elfIs64 info.ehdr

/-- The program headers that `elf_get_segment_from_index` finds, in order. -/
def ElfInfo.segments (info : ElfInfo) : List Phdr :=
  match info.phdrs with
  | none => []
  | some phdrs => (List.range (elfPhnum info.ehdr)).map fun index =>
      elfParseSegment info.is64
        (slice phdrs (index * sizeofPhdr info.is64) (sizeofPhdr info.is64))

def elfGetSectionFromIndex (info : ElfInfo) (index : Nat) : Option Shdr :=
  match info.shdrs with
  | none => none
  | some shdrs =>
      if index < elfShnum info.ehdr then
        some (elfParseSection info.is64
          (slice shdrs (index * sizeofShdr info.is64) (sizeofShdr info.is64)))
      else none

/-- The string that starts at an offset of a string table. -/
def cString (table : List UInt8) (offset : Nat) : List UInt8 :=
  (table.drop offset).takeWhile fun byte => byte ≠ 0

def elfGetSectionFromName (info : ElfInfo) (name : List UInt8) : Option Shdr :=
  match info.shdrs, info.shstrtab with
  | some _, some nameTable =>
      ((List.range (elfShnum info.ehdr)).filterMap (elfGetSectionFromIndex info)).find?
        fun shdr => cString nameTable shdr.shName = name
  | _, _ => none

/-! ### Identification -/

def elfIdentify (imgData : Option (List UInt8)) (len : Nat) : Int :=
  match imgData with
  | none => -RPROC_EINVAL
  | some imgData =>
      if len < SELFMAG then -RPROC_EINVAL
      else if slice imgData 0 SELFMAG ≠ ELFMAG then -RPROC_EINVAL
      else 0

/-! ### The header parser -/

/-- What the loader allocates memory for. -/
inductive ElfMem where
  | info
  | phdrs
  | shdrs
  | shstrtab
deriving DecidableEq, Repr

/-- What a call of `elf_load_header` returns and leaves behind. -/
structure HeaderOut where
  -- a load state, or a negative number
  ret : Except Int Nat
  imgInfo : Option ElfInfo
  noffset : Nat
  nlen : Nat
deriving DecidableEq

inductive TableLoad where
  | wait
  | noMemory
  | loaded (table : List UInt8)

/-- What the parser does with the tables: how it finds a section header, and how a table is tested
against the given piece of the file and copied to memory of its own. The monad says what is kept of
this besides the result. -/
structure TableOps (m : Type → Type) where
  sectionFromIndex : ElfInfo → Nat → Option Shdr
  load : ElfMem → Nat → Nat → m TableLoad

section Tables

variable {m : Type → Type} [Monad m] (tables : TableOps m)

/-- Get ELF SHSTRTAB section. -/
def elfLoadShstrtabWith (info : ElfInfo) (lastLoadState noffset nlen : Nat) : m HeaderOut :=
  if info.loadState &&& ELF_STATE_WAIT_FOR_SHSTRTAB ≠ 0 then
    match tables.sectionFromIndex info (elfShstrndx info.ehdr) with
    | none => pure ⟨.error (-RPROC_EINVAL), some info, noffset, nlen⟩
    | some shdr => do
        match ← tables.load .shstrtab shdr.shOffset shdr.shSize with
        | .wait => pure ⟨.ok info.loadState, some info, shdr.shOffset, shdr.shSize⟩
        | .noMemory => pure ⟨.error (-RPROC_ENOMEM), some info, noffset, nlen⟩
        | .loaded shstrtab =>
            let loadState := clearBits info.loadState ELF_STATE_MASK ||| ELF_STATE_HDRS_COMPLETE
            pure ⟨.ok loadState, some { info with shstrtab := some shstrtab, loadState },
              noffset, 0⟩
  else
    pure ⟨.ok lastLoadState, some info, noffset, nlen⟩

/-- Get ELF Section Headers. -/
def elfLoadShdrsWith (info : ElfInfo) (lastLoadState noffset nlen : Nat) : m HeaderOut :=
  if info.loadState &&& ELF_STATE_WAIT_FOR_SHDRS ≠ 0 then
    if elfShnum info.ehdr = 0 then
      let loadState := clearBits info.loadState ELF_STATE_MASK ||| ELF_STATE_HDRS_COMPLETE
      pure ⟨.ok loadState, some { info with loadState }, noffset, 0⟩
    else do
      let shdrsOffset := elfShoff info.ehdr
      let shdrsSize := elfShnum info.ehdr * elfShentsize info.ehdr
      match ← tables.load .shdrs shdrsOffset shdrsSize with
      | .wait => pure ⟨.ok info.loadState, some info, shdrsOffset, shdrsSize⟩
      | .noMemory => pure ⟨.error (-RPROC_ENOMEM), some info, noffset, nlen⟩
      | .loaded shdrs =>
          let loadState := clearBits info.loadState ELF_STATE_MASK ||| ELF_STATE_WAIT_FOR_SHSTRTAB
          elfLoadShstrtabWith tables { info with shdrs := some shdrs, loadState } lastLoadState noffset
            nlen
  else
    elfLoadShstrtabWith tables info lastLoadState noffset nlen

/-- Get ELF program headers. -/
def elfLoadPhdrsWith (info : ElfInfo) (lastLoadState noffset nlen : Nat) : m HeaderOut :=
  if lastLoadState ≠ info.loadState then
    pure ⟨.error (-RPROC_EINVAL), some info, noffset, nlen⟩
  else if info.loadState = ELF_STATE_WAIT_FOR_PHDRS then do
    let phdrsOffset := elfPhoff info.ehdr
    let phdrsSize := elfPhnum info.ehdr * elfPhentsize info.ehdr
    match ← tables.load .phdrs phdrsOffset phdrsSize with
    | .wait => pure ⟨.ok info.loadState, some info, phdrsOffset, phdrsSize⟩
    | .noMemory => pure ⟨.error (-RPROC_ENOMEM), some info, noffset, nlen⟩
    | .loaded phdrs =>
        let loadState := ELF_STATE_WAIT_FOR_SHDRS ||| RPROC_LOADER_READY_TO_LOAD
        elfLoadShdrsWith tables { info with phdrs := some phdrs, loadState } lastLoadState noffset nlen
  else
    elfLoadShdrsWith tables info lastLoadState noffset nlen

end Tables

/-- What the parser does with the start of the file and with the object for it. -/
structure EhdrOps (m : Type → Type) where
  -- `elf_ehdr_size` and `elf_info_size` of the image data
  ehdrSize : m Nat
  infoSize : m Nat
  allocate : Nat → m Bool
  copyEhdr : Nat → m (List UInt8)

/-- Memory for an object, if there is none yet. -/
def EhdrOps.allocateInfo {m : Type → Type} [Monad m] (ops : EhdrOps m) (imgInfo : Option ElfInfo)
    (infosize : Nat) : m Bool :=
  match imgInfo with
  | none => ops.allocate infosize
  | some _ => pure true

/-- The object once the ELF header has been copied from the image data. -/
def elfHeaderCopied (imgInfo : Option ElfInfo) (ehdr : List UInt8) : ElfInfo :=
  match imgInfo with
  | none => ⟨ehdr, ELF_STATE_WAIT_FOR_PHDRS, none, none, none⟩
  | some info => { info with ehdr, loadState := ELF_STATE_WAIT_FOR_PHDRS }

/-- `elf_load_header`. The four stages follow one another in one call as far as the piece of the
file reaches. -/
def elfLoadHeaderWith {m : Type → Type} [Monad m] [MonadLiftT Option m] (ops : EhdrOps m)
    (loadPhdrs : ElfInfo → Nat → Nat → Nat → m HeaderOut) (len : Nat) (imgInfo : Option ElfInfo)
    (lastLoadState noffset nlen : Nat) : m HeaderOut :=
  if lastLoadState = ELF_STATE_INIT then do
    let tmpsize ← ops.ehdrSize
    if len < tmpsize then
      pure ⟨.ok ELF_STATE_INIT, imgInfo, 0, tmpsize⟩
    else
      let infosize ← ops.infoSize
      if (← ops.allocateInfo imgInfo infosize) = false then
        pure ⟨.error (-RPROC_ENOMEM), none, noffset, nlen⟩
      else
        let ehdr ← ops.copyEhdr tmpsize
        loadPhdrs (elfHeaderCopied imgInfo ehdr) ELF_STATE_WAIT_FOR_PHDRS noffset nlen
  else do
    -- an assertion that never returns
    let info ← imgInfo
    loadPhdrs info lastLoadState noffset nlen

/-! ### The parser on lists -/

/-- `memcpy` from image data. Reading outside the data has no outcome; copying nothing reads
nothing. -/
def imgCopy (imgData : Option (List UInt8)) (offset size : Nat) : Option (List UInt8) :=
  if size = 0 then some []
  else
    match imgData with
    | none => none
    | some imgData =>
        if offset + size ≤ imgData.length then some (slice imgData offset size) else none

/-- What the three tables have in common: a table outside the given piece of the file is waited for,
and one inside is copied to memory that `allocate` may refuse. -/
def elfLoadTable (allocate : Nat → Bool) (imgData : Option (List UInt8))
    (offset len tableOffset tableSize : Nat) : Option TableLoad :=
  if offset > tableOffset ∨ u64 (offset + len) < u64 (tableOffset + tableSize) then
    some .wait
  else if allocate tableSize = false then
    some .noMemory
  else
    (imgCopy imgData (tableOffset - offset) tableSize).map .loaded

section Header

variable (allocate : Nat → Bool) (imgData : Option (List UInt8)) (offset len : Nat)

def listTables : TableOps Option where
  sectionFromIndex := elfGetSectionFromIndex
  load _ := elfLoadTable allocate imgData offset len

def elfLoadShstrtab (info : ElfInfo) (lastLoadState noffset nlen : Nat) : Option HeaderOut :=
  elfLoadShstrtabWith (listTables allocate imgData offset len) info lastLoadState noffset nlen

def elfLoadShdrs (info : ElfInfo) (lastLoadState noffset nlen : Nat) : Option HeaderOut :=
  elfLoadShdrsWith (listTables allocate imgData offset len) info lastLoadState noffset nlen

def elfLoadPhdrs (info : ElfInfo) (lastLoadState noffset nlen : Nat) : Option HeaderOut :=
  elfLoadPhdrsWith (listTables allocate imgData offset len) info lastLoadState noffset nlen

def listEhdr : EhdrOps Option where
  ehdrSize := some (elfEhdrSize imgData)
  infoSize := imgData.map elfInfoSize
  allocate size := some (allocate size)
  copyEhdr size := imgCopy imgData 0 size

def elfLoadHeader (imgInfo : Option ElfInfo) (lastLoadState noffset nlen : Nat) :
    Option HeaderOut :=
  elfLoadHeaderWith (listEhdr allocate imgData) (elfLoadPhdrs allocate imgData offset len) len imgInfo
    lastLoadState noffset nlen

end Header

/-! ### The next segment -/

/-- The variables through which `elf_next_load_segment` returns. -/
structure NextSegment where
  nseg : Nat
  da : Nat
  noffset : Nat
  nfsize : Nat
  nmsize : Nat
deriving DecidableEq

/-- The loop of `elf_next_load_segment` over the program headers that are left. A header that is
skipped is parsed into the same variables. -/
def nextLoad : List Phdr → NextSegment → Bool × NextSegment
  | [], next => (false, next)
  | phdr :: phdrs, next =>
      let next := ⟨next.nseg + 1, phdr.pVaddr, phdr.pOffset, phdr.pFilesz, phdr.pMemsz⟩
      if phdr.pType = PT_LOAD then (true, next) else nextLoad phdrs next

/-- `elf_next_load_segment` of an object with these program headers. -/
def elfNextLoadSegment (phdrs : List Phdr) (next : NextSegment) : Bool × NextSegment :=
  nextLoad (phdrs.drop next.nseg) next

/-- The variables of the caller that `elf_load` writes. -/
structure LoadVars where
  da : Nat
  noffset : Nat
  nlen : Nat
  padding : UInt8
  nmemsize : Nat
deriving DecidableEq

structure LoadOut where
  ret : Except Int Nat
  imgInfo : Option ElfInfo
  vars : LoadVars
deriving DecidableEq

/-- `elf_load` while there are segments to load. -/
def elfLoadSegment (phdrs : List Phdr) (info : ElfInfo) (vars : LoadVars) : LoadOut :=
  let (found, next) := elfNextLoadSegment phdrs
    ⟨info.loadState &&& ELF_NEXT_SEGMENT_MASK, vars.da, vars.noffset, 0, 0⟩
  let vars := { vars with da := next.da, noffset := next.noffset }
  if !found then
    let loadState := clearBits info.loadState ELF_NEXT_SEGMENT_MASK |||
      (next.nseg &&& ELF_NEXT_SEGMENT_MASK)
    ⟨.ok loadState, some { info with loadState }, vars⟩
  else
    let vars := { vars with nlen := next.nfsize, nmemsize := next.nmsize }
    let loadState :=
      if next.nseg = elfPhnum info.ehdr then
        clearBits info.loadState RPROC_LOADER_MASK ||| RPROC_LOADER_POST_DATA_LOAD
      else info.loadState
    let loadState := clearBits loadState ELF_NEXT_SEGMENT_MASK |||
      (next.nseg &&& ELF_NEXT_SEGMENT_MASK)
    ⟨.ok loadState, some { info with loadState }, vars⟩

section Load

variable {m : Type → Type} [Monad m] [MonadLiftT Option m]
  (loadHeader : Option ElfInfo → Nat → Nat → Nat → m HeaderOut) (segments : ElfInfo → List Phdr)

/-- `elf_load` after the segments. -/
def elfLoadPostWith (info : ElfInfo) (lastLoadState : Nat) (vars : LoadVars) : m LoadOut :=
  if info.loadState &&& ELF_STATE_HDRS_COMPLETE = 0 then do
    let out ← loadHeader (some info) lastLoadState vars.noffset vars.nlen
    let vars := { vars with noffset := out.noffset, nlen := out.nlen }
    match out.ret with
    | .error status => pure ⟨.error status, out.imgInfo, vars⟩
    | .ok headerState => do
        let info ← out.imgInfo
        let vars := { vars with da := RPROC_LOAD_ANYADDR }
        if headerState &&& ELF_STATE_HDRS_COMPLETE ≠ 0 then
          let loadState :=
            clearBits info.loadState RPROC_LOADER_MASK ||| RPROC_LOADER_LOAD_COMPLETE
          pure ⟨.ok loadState, some { info with loadState }, { vars with nlen := 0 }⟩
        else
          pure ⟨.ok info.loadState, some info, vars⟩
  else
    let loadState := clearBits info.loadState RPROC_LOADER_MASK ||| RPROC_LOADER_LOAD_COMPLETE
    pure ⟨.ok loadState, some { info with loadState }, { vars with nlen := 0 }⟩

/-- `elf_load` with the image information at hand. -/
def elfLoadDataWith (info : ElfInfo) (lastLoadState : Nat) (vars : LoadVars) : m LoadOut :=
  let vars := { vars with padding := 0 }
  if info.loadState &&& RPROC_LOADER_READY_TO_LOAD ≠ 0 then
    pure (elfLoadSegment (segments info) info vars)
  else if info.loadState &&& RPROC_LOADER_POST_DATA_LOAD ≠ 0 then
    elfLoadPostWith loadHeader info lastLoadState vars
  else
    pure ⟨.ok info.loadState, some info, vars⟩

/-- `elf_load`. A failure to load the headers here does not look like `RPROC_LOADER_NOT_READY`, and
the call goes on with what information there is. -/
def elfLoadWith (imgInfo : Option ElfInfo) (lastLoadState : Nat) (vars : LoadVars) : m LoadOut :=
  if lastLoadState &&& RPROC_LOADER_MASK = RPROC_LOADER_NOT_READY then do
    let out ← loadHeader imgInfo lastLoadState vars.noffset vars.nlen
    let vars := { vars with noffset := out.noffset, nlen := out.nlen }
    match out.ret with
    | .ok headerState =>
        if headerState &&& RPROC_LOADER_MASK = RPROC_LOADER_NOT_READY then
          pure ⟨.ok headerState, out.imgInfo, { vars with da := RPROC_LOAD_ANYADDR }⟩
        else do
          let info ← out.imgInfo
          elfLoadDataWith loadHeader segments info headerState vars
    | .error status => do
        -- as an `int`, the error is passed on for the last state
        let info ← out.imgInfo
        elfLoadDataWith loadHeader segments info (ofInt 32 status) vars
  else do
    let info ← imgInfo
    elfLoadDataWith loadHeader segments info lastLoadState vars

end Load

def elfLoadData (allocate : Nat → Bool) (imgData : Option (List UInt8)) (offset len : Nat)
    (info : ElfInfo) (lastLoadState : Nat) (vars : LoadVars) : Option LoadOut :=
  elfLoadDataWith (elfLoadHeader allocate imgData offset len) ElfInfo.segments info lastLoadState vars

def elfLoad (allocate : Nat → Bool) (imgData : Option (List UInt8)) (offset len : Nat)
    (imgInfo : Option ElfInfo) (lastLoadState : Nat) (vars : LoadVars) : Option LoadOut :=
  elfLoadWith (elfLoadHeader allocate imgData offset len) ElfInfo.segments imgInfo lastLoadState vars

def elfGetEntry (info : ElfInfo) : Nat := elfEntry info.ehdr

/-- `.resource_table`. -/
def rscTableName : List UInt8 := [46, 114, 101, 115, 111, 117, 114, 99, 101, 95, 116, 97, 98, 108, 101]

/-- `elf_locate_rsc_table`: the section, if there is one. -/
def elfLocateRscTable (info : ElfInfo) : Except Int (Option Shdr) :=
  if info.loadState &&& ELF_STATE_HDRS_COMPLETE = 0 then
    .error (-RPROC_ERR_LOADER_STATE)
  else
    .ok (elfGetSectionFromName info rscTableName)

def elfGetLoadState (info : ElfInfo) : Nat := info.loadState

end OpenAmp
