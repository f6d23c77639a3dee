import Mathlib.Control.Monad.Writer
import OpenAmp.ElfLoader
import OpenAmp.Library.Run

/-!
# Calls of the ELF loader on one image

The loader with the memory that it allocates: every request may be refused on its own, and each call
returns the list of those that were met. A run is a sequence of such calls on one image information
object, each with any piece of data.
-/

namespace OpenAmp

section Traced

variable (allocate : ElfMem → Nat → Bool) (imgData : Option (List UInt8)) (offset len : Nat)

/-- The memory that loading a table has met a request for. -/
def TableLoad.allocated (mem : ElfMem) : TableLoad → List ElfMem
  | .loaded _ => [mem]
  | .wait | .noMemory => []

def tracedTables : TableOps (WriterT (List ElfMem) Option) where
  sectionFromIndex := elfGetSectionFromIndex
  load mem tableOffset tableSize :=
    .mk ((elfLoadTable (allocate mem) imgData offset len tableOffset tableSize).map fun load =>
      (load, load.allocated mem))

def elfLoadShstrtabTraced (info : ElfInfo) (lastLoadState noffset nlen : Nat) :
    Option (HeaderOut × List ElfMem) :=
  (elfLoadShstrtabWith (tracedTables allocate imgData offset len) info lastLoadState noffset nlen).run

def elfLoadShdrsTraced (info : ElfInfo) (lastLoadState noffset nlen : Nat) :
    Option (HeaderOut × List ElfMem) :=
  (elfLoadShdrsWith (tracedTables allocate imgData offset len) info lastLoadState noffset nlen).run

def elfLoadPhdrsTraced (info : ElfInfo) (lastLoadState noffset nlen : Nat) :
    Option (HeaderOut × List ElfMem) :=
  (elfLoadPhdrsWith (tracedTables allocate imgData offset len) info lastLoadState noffset nlen).run

def tracedEhdr : EhdrOps (WriterT (List ElfMem) Option) where
  ehdrSize := pure (elfEhdrSize imgData)
  infoSize := liftM (imgData.map elfInfoSize)
  allocate size := .mk (some (allocate .info size, if allocate .info size then [.info] else []))
  copyEhdr size := liftM (imgCopy imgData 0 size)

def tracedHeader : Option ElfInfo → Nat → Nat → Nat → WriterT (List ElfMem) Option HeaderOut :=
  elfLoadHeaderWith (tracedEhdr allocate imgData)
    (elfLoadPhdrsWith (tracedTables allocate imgData offset len)) len

def elfLoadHeaderTraced (imgInfo : Option ElfInfo) (lastLoadState noffset nlen : Nat) :
    Option (HeaderOut × List ElfMem) :=
  (tracedHeader allocate imgData offset len imgInfo lastLoadState noffset nlen).run

def elfLoadDataTraced (info : ElfInfo) (lastLoadState : Nat) (vars : LoadVars) :
    Option (LoadOut × List ElfMem) :=
  (elfLoadDataWith (tracedHeader allocate imgData offset len) ElfInfo.segments info lastLoadState
    vars).run

def elfLoadTraced (imgInfo : Option ElfInfo) (lastLoadState : Nat) (vars : LoadVars) :
    Option (LoadOut × List ElfMem) :=
  (elfLoadWith (tracedHeader allocate imgData offset len) ElfInfo.segments imgInfo lastLoadState
    vars).run

end Traced

/-! ### Runs -/

/-- A call with a piece of the file and the variables that it finds. -/
inductive ElfCall where
  | header (allocate : ElfMem → Nat → Bool) (imgData : Option (List UInt8))
      (offset len noffset nlen : Nat)
  | load (allocate : ElfMem → Nat → Bool) (imgData : Option (List UInt8)) (offset len : Nat)
      (vars : LoadVars)

structure ElfRun where
  imgInfo : Option ElfInfo
  -- what the last call has returned
  last : Except Int Nat
  allocated : List ElfMem

namespace ElfRun

def start : ElfRun := ⟨none, .ok ELF_STATE_INIT, []⟩

/-- The drivers stop at an error, and call `elf_load` only once a loader bit is set. -/
def Allowed (s : ElfRun) : ElfCall → Prop
  | .header .. => ∃ state, s.last = .ok state
  | .load .. => ∃ state, s.last = .ok state ∧ state &&& RPROC_LOADER_MASK ≠ RPROC_LOADER_NOT_READY

def step (s : ElfRun) : ElfCall → Option ElfRun
  | .header allocate imgData offset len noffset nlen =>
      match s.last with
      | .error _ => none
      | .ok state => do
          let (out, allocated) ← elfLoadHeaderTraced allocate imgData offset len s.imgInfo state
            noffset nlen
          some ⟨out.imgInfo, out.ret, s.allocated ++ allocated⟩
  | .load allocate imgData offset len vars =>
      match s.last with
      | .error _ => none
      | .ok state => do
          let (out, allocated) ← elfLoadTraced allocate imgData offset len s.imgInfo state vars
          some ⟨out.imgInfo, out.ret, s.allocated ++ allocated⟩

/-- The stage bits of the object, 0 while there is none. -/
def stage (s : ElfRun) : Nat :=
  match s.imgInfo with
  | none => ELF_STATE_INIT
  | some info => info.loadState &&& ELF_STATE_MASK

end ElfRun

/-- Which of the bits are set. -/
def setBits (state : Nat) (bits : List Nat) : List Nat := bits.filter fun bit => state &&& bit ≠ 0

def stageBits : List Nat :=
  [ELF_STATE_WAIT_FOR_PHDRS, ELF_STATE_WAIT_FOR_SHDRS, ELF_STATE_WAIT_FOR_SHSTRTAB,
    ELF_STATE_HDRS_COMPLETE]

def loaderBits : List Nat :=
  [RPROC_LOADER_READY_TO_LOAD, RPROC_LOADER_POST_DATA_LOAD, RPROC_LOADER_LOAD_COMPLETE]

/-- The load state of an object with a header, and the tables that go with it. -/
structure ElfInfo.StateOk (info : ElfInfo) : Prop where
  stage : (setBits info.loadState stageBits).length = 1
  not_ready : info.loadState &&& ELF_STATE_WAIT_FOR_PHDRS ≠ 0 → setBits info.loadState loaderBits = []
  ready : info.loadState &&& ELF_STATE_WAIT_FOR_PHDRS = 0 →
    (setBits info.loadState loaderBits).length = 1
  complete : info.loadState &&& RPROC_LOADER_LOAD_COMPLETE ≠ 0 →
    info.loadState &&& ELF_STATE_HDRS_COMPLETE ≠ 0
  phdrs : info.phdrs ≠ none ↔ info.loadState &&& ELF_STATE_WAIT_FOR_PHDRS = 0
  shdrs : info.loadState &&& ELF_STATE_WAIT_FOR_SHSTRTAB ≠ 0 → info.shdrs ≠ none
  tables : info.loadState &&& ELF_STATE_HDRS_COMPLETE ≠ 0 →
    (info.shdrs ≠ none ∧ info.shstrtab ≠ none) ∨ elfShnum info.ehdr = 0

end OpenAmp
