import OpenAmp.ElfPointers
import OpenAmp.RemoteprocLoad
import OpenAmp.RscPointers

/-!
# Loading from any image store

`remoteproc_load` with a store that may answer every request in its own way, a platform that may
refuse memory and mappings, and all that the call does to the world: the blocks it allocates and
releases, what it requests from the store, and the target memory it has written. The image comes from
the store alone, so the loader reads it through the pointers that the store hands out.
-/

namespace OpenAmp

open ByteMemory

/-! ### The store and the platform -/

structure StoreRequest where
  offset : Nat
  size : Nat
  -- `RPROC_LOAD_ANYADDR` for local memory
  pa : Nat
deriving DecidableEq, Repr

/-- What a call of the store returns, and the pointer to local image data that it leaves. -/
structure StoreReply where
  ret : Int
  imgData : Option (Nat → UInt8)

/-- `struct image_store_ops`. What `load` does may depend on the number of the call. -/
structure StoreOps where
  opened : StoreReply
  load : Nat → StoreRequest → StoreReply
  supportSeek : Bool

/-- What `remoteproc_mmap` leaves in its variables, and the address it returns. -/
structure MmapReply where
  pa : Nat
  va : Nat
  io : Option IoRegion

structure LoadPlatform where
  allocate : ElfMem → Nat → Bool
  -- for the local copy of the resource table
  allocateRsc : Nat → Bool
  -- the memory behind the blocks of the stored tables
  behind : ElfMem → Nat → UInt8
  mems : List VirtMem
  -- `ops->mmap`, if there is one
  mmap : Option (Nat → Nat → Option IoRegion → MmapReply)
  handleRscTable : List UInt8 → Int × List UInt8

/-- `remoteproc_mmap` of a device address, with `METAL_BAD_PHYS` for the physical one. -/
def remoteprocMmapAny (plat : LoadPlatform) (da size : Nat) (io : Option IoRegion) : MmapReply :=
  let found :=
    if da = METAL_BAD_PHYS then none
    else plat.mems.find? fun mem =>
      mem.da ≤ da ∧ u64 (da + size) ≤ u64 (mem.da + mem.size)
  match found, plat.mmap with
  | some mem, _ =>
      let pa := ofInt 64 ((mem.pa : Int) + da - mem.da)
      ⟨pa, mem.io.physToVirt pa, some mem.io⟩
  | none, some map => map da size io
  | none, none => ⟨METAL_BAD_PHYS, NULL, io⟩

/-! ### The ELF loader on what the store hands out -/

section Loader

variable (plat : LoadPlatform) (imgData : Option (Nat → UInt8)) (offset len : Nat)

/-- `elf_load_header`. Reading through a null pointer has no outcome. -/
def elfLoadHeaderFrom (imgInfo : Option ElfInfo) (lastLoadState noffset nlen : Nat) :
    Option HeaderOut :=
  match imgData with
  | some img =>
      (elfLoadHeaderAt plat.allocate img (plat.behind .shdrs) offset len imgInfo lastLoadState noffset
        nlen).1
  | none =>
      if lastLoadState = ELF_STATE_INIT ∧ len < sizeofEhdr true then
        some ⟨.ok ELF_STATE_INIT, imgInfo, 0, sizeofEhdr true⟩
      else
        let (out, reads) := elfLoadHeaderAt plat.allocate (fun _ => 0) (plat.behind .shdrs) offset len
          imgInfo lastLoadState noffset nlen
        if reads.all fun read => read.size = 0 then out else none

/-- The program headers that `elf_get_segment_from_index` finds, in order. -/
def ElfInfo.segmentsAt (info : ElfInfo) (behind : Nat → UInt8) : List Phdr :=
  match info.phdrs with
  | none => []
  | some phdrs => (List.range (elfPhnum info.ehdr)).map fun index =>
      elfParseSegment info.is64
        (readBytes (blockMem phdrs behind) (index * sizeofPhdr info.is64) (sizeofPhdr info.is64))

def LoadPlatform.segments (plat : LoadPlatform) (info : ElfInfo) : List Phdr :=
  info.segmentsAt (plat.behind .phdrs)

def elfLoadFrom (imgInfo : Option ElfInfo) (lastLoadState : Nat) (vars : LoadVars) : Option LoadOut :=
  elfLoadWith (elfLoadHeaderFrom plat imgData offset len) plat.segments imgInfo lastLoadState vars

end Loader

/-- `elf_locate_rsc_table` with a size that is not 0. -/
def locatedRscTableAt (plat : LoadPlatform) (info : ElfInfo) : Option Shdr :=
  if info.loadState &&& ELF_STATE_HDRS_COMPLETE = 0 then none
  else
    match info.shdrs, (elfGetSectionFromNameAt info (plat.behind .shdrs) (plat.behind .shstrtab)
        ⟨rscTableName, by decide⟩).1 with
    | some shdrs, some entry =>
        let shdr := elfParseSectionAt info.is64 shdrs (plat.behind .shdrs) entry
        if shdr.shSize > 0 then some shdr else none
    | _, _ => none

/-! ### What the call does -/

inductive LoadBlock where
  | loader (mem : ElfMem)
  | rscTable
deriving DecidableEq, Repr

/-- A pointer that is passed to `metal_free_memory`. -/
inductive LoadPtr where
  | block (block : LoadBlock)
  -- `RPROC_ERR_PTR`
  | error (status : Int)
deriving DecidableEq, Repr

inductive LoadEvent where
  | allocated (block : LoadBlock)
  | freed (ptr : LoadPtr)
  -- a request for local memory, by the loop of the headers and by any later code
  | header (size : Nat) (ret : Int)
  | fetched (size : Nat) (ret : Int)
  -- a request for target memory, to the start of the range
  | transfer (mapped : Mapped) (offset size : Nat) (ret : Int)
  -- a call of `metal_io_block_set`, behind what has been copied to the range
  | padded (mapped : Mapped) (io : IoRegion) (offset : Nat) (len : Int)
  | tableWritten (va size : Nat)

/-- The blocks that an object of image information owns. -/
def elfBlocks : Option ElfInfo → List ElfMem
  | none => []
  | some info =>
      [.info] ++ (if info.phdrs.isSome then [.phdrs] else []) ++
        (if info.shdrs.isSome then [.shdrs] else []) ++
        (if info.shstrtab.isSome then [.shstrtab] else [])

/-- A call of the loader allocates what the object owns after it and not before. -/
def elfAllocated (before after : Option ElfInfo) : List LoadEvent :=
  ((elfBlocks after).filter fun mem => mem ∉ elfBlocks before).map fun mem => .allocated (.loader mem)

/-- `elf_release`. -/
def elfReleased (imgInfo : Option ElfInfo) : List LoadEvent :=
  (elfBlocks imgInfo).map fun mem => .freed (.block (.loader mem))

/-- How often the store has been asked to load, and what has been done so far. -/
structure StoreCalls where
  calls : Nat
  events : List LoadEvent

def StoreCalls.record (events : List LoadEvent) : StateM StoreCalls Unit :=
  modify fun w => { w with events := w.events ++ events }

def StoreOps.request (store : StoreOps) (request : StoreRequest) (event : Int → LoadEvent) :
    StateM StoreCalls (Int × Option (Nat → UInt8)) :=
  modifyGet fun w =>
    let reply := store.load w.calls request
    ((reply.ret, reply.imgData), ⟨w.calls + 1, w.events ++ [event reply.ret]⟩)

/-! ### The loop of the headers -/

structure StoreHeaders extends HeaderVars (Nat → UInt8), StoreCalls

def storeHeaders (plat : LoadPlatform) (store : StoreOps) :
    HeaderOps (StateM StoreCalls) (Nat → UInt8) where
  supportSeek := store.supportSeek
  loadHeader s := do
    let out := elfLoadHeaderFrom plat s.imgData s.offset s.len s.imgInfo s.lastLoadState s.noffset
      s.nlen
    StoreCalls.record (out.elim [] fun out => elfAllocated s.imgInfo out.imgInfo)
    pure out
  load noffset nlen := store.request ⟨noffset, nlen, RPROC_LOAD_ANYADDR⟩ (.header nlen)

def StoreHeaders.body (plat : LoadPlatform) (store : StoreOps) (s : StoreHeaders) :
    StoreHeaders ⊕ (StoreHeaders × LoopExit) :=
  withWorld .mk ((storeHeaders plat store).round s.toHeaderVars) s.toStoreCalls

/-- The loop starts with what `open` has handed out. -/
def StoreHeaders.start (store : StoreOps) : StoreHeaders :=
  ⟨⟨store.opened.imgData, 0, store.opened.ret.toNat, none, RPROC_LOADER_NOT_READY, 0, 0⟩, 0, []⟩

/-! ### The resource table -/

/-- What `remoteproc_get_rsc_table` returns: a copy of the table, or an error in place of its
address. -/
inductive RscCopy where
  | copy (rscTable : List UInt8)
  | error (status : Int)

def RscCopy.ptr : RscCopy → LoadPtr
  | .copy _ => .block .rscTable
  | .error status => .error status

/-- An error has replaced the address of the copy before that is released. -/
def remoteprocGetRscTableFrom (plat : LoadPlatform) (store : StoreOps) (calls offset len : Nat) :
    RscCopy × List LoadEvent :=
  if plat.allocateRsc len = false then (.error (-RPROC_ENOMEM), [])
  else
    let reply := store.load calls ⟨offset, len, RPROC_LOAD_ANYADDR⟩
    let events := [.allocated .rscTable, .fetched len reply.ret]
    match reply.imgData with
    | none => (.error (-RPROC_EINVAL), events ++ [.freed (.error (-RPROC_EINVAL))])
    | some img =>
        if reply.ret < 0 ∨ reply.ret < toInt32 len then
          (.error (-RPROC_EINVAL), events ++ [.freed (.error (-RPROC_EINVAL))])
        else
          let (status, rscTable) := plat.handleRscTable (readBytes img 0 len)
          if status < 0 then (.error status, events ++ [.freed (.error status)])
          else (.copy rscTable, events)

/-- The table, where the headers show one. -/
def locateAndGetRscTable (plat : LoadPlatform) (store : StoreOps) (calls : Nat)
    (imgInfo : Option ElfInfo) : Option (Shdr × RscCopy) × List LoadEvent :=
  match imgInfo.bind (locatedRscTableAt plat) with
  | none => (none, [])
  | some shdr =>
      let (copy, events) := remoteprocGetRscTableFrom plat store calls shdr.shOffset shdr.shSize
      (some (shdr, copy), events)

/-! ### The loop of the data -/

structure StoreData extends DataVars (Nat → UInt8) IoRegion, StoreCalls

def storeData (plat : LoadPlatform) (store : StoreOps) :
    DataOps (StateM StoreCalls) (Nat → UInt8) IoRegion where
  loadData s := do
    let out := elfLoadFrom plat s.imgData s.offset s.len s.imgInfo s.lastLoadState
      ⟨RPROC_LOAD_ANYADDR, 0, 0, 0, 0⟩
    StoreCalls.record (out.elim [] fun out => elfAllocated s.imgInfo out.imgInfo)
    pure out
  load noffset nlen := store.request ⟨noffset, nlen, RPROC_LOAD_ANYADDR⟩ (.fetched nlen)
  mmap da size io :=
    let map := remoteprocMmapAny plat da size io
    pure (map.pa, map.io)
  loadTarget mapped noffset nlen :=
    store.request ⟨noffset, nlen, mapped.pa⟩ (.transfer mapped noffset nlen)
  physToOffset := IoRegion.physToOffset
  blockSet mapped io offset _ len := StoreCalls.record [.padded mapped io offset len]

def StoreData.body (plat : LoadPlatform) (store : StoreOps) (s : StoreData) :
    StoreData ⊕ (StoreData × LoopExit) :=
  withWorld .mk ((storeData plat store).round s.toDataVars) s.toStoreCalls

/-! ### `remoteproc_load` -/

structure LoadProc where
  state : RemoteprocState
  -- whether `loader` has been set to the ELF loader
  loader : Bool
  bootaddr : Nat
  rscTable : Nat
  rscLen : Nat
  rscIo : Option IoRegion

structure LoadResult where
  -- nothing if the call never returns
  ret : Option Int
  proc : LoadProc
  imgInfo : Option ElfInfo
  events : List LoadEvent

/-- Update resource table. To copy from an error, or to no region, has no outcome. -/
def updateRscTableAny (plat : LoadPlatform) (proc : LoadProc) (io : Option IoRegion) :
    Option (Shdr × RscCopy) → Option LoadProc × List LoadEvent
  | none => (some proc, [])
  | some (shdr, copy) =>
      let map := remoteprocMmapAny plat shdr.shAddr shdr.shSize io
      if map.va ≠ NULL then
        match copy, map.io with
        | .copy _, some io =>
            (some { proc with rscTable := map.va, rscLen := shdr.shSize, rscIo := some io },
              [.tableWritten map.va shdr.shSize, .freed copy.ptr])
        | _, _ => (none, [])
      else (some proc, [.freed copy.ptr])

/-- The start of the second loop, after the headers. -/
def StoreData.start (plat : LoadPlatform) (store : StoreOps) (headers : StoreHeaders) : StoreData :=
  let events := (locateAndGetRscTable plat store headers.calls headers.imgInfo).2
  -- the store has been called where there is anything to tell of
  let calls := if events.isEmpty then headers.calls else headers.calls + 1
  ⟨⟨headers.imgData, 0, 0, headers.imgInfo, headers.lastLoadState, none⟩, calls,
    headers.events ++ events⟩

/-- The table that was located with the headers, or else after the data. -/
def rscTableLate (plat : LoadPlatform) (store : StoreOps) (data : StoreData)
    (early : Option (Shdr × RscCopy)) : Option (Shdr × RscCopy) × List LoadEvent :=
  match early with
  | some table => (some table, [])
  | none => locateAndGetRscTable plat store data.calls data.imgInfo

/-- The end of the call. `keep` says whether the caller takes the image information. -/
def remoteprocLoadEnd (plat : LoadPlatform) (store : StoreOps) (keep : Bool) (proc : LoadProc)
    (early : Option (Shdr × RscCopy)) (data : StoreData) : LoadResult :=
  let (table, events) := rscTableLate plat store data early
  match updateRscTableAny plat proc data.io table with
  | (none, more) => ⟨none, proc, data.imgInfo, data.events ++ events ++ more⟩
  | (some proc, more) =>
      let bootaddr := match data.imgInfo with
        | none => METAL_BAD_PHYS
        | some info => elfGetEntry info
      ⟨some 0, { proc with bootaddr, state := .ready }, data.imgInfo,
        data.events ++ events ++ more ++ if keep then [] else elfReleased data.imgInfo⟩

/-- `remoteproc_load` after the headers. -/
def remoteprocLoadAfter (plat : LoadPlatform) (rounds : Nat) (store : StoreOps) (keep : Bool)
    (proc : LoadProc) (headers : StoreHeaders) : Option LoadResult := do
  let early := (locateAndGetRscTable plat store headers.calls headers.imgInfo).1
  match ← Loop.run (StoreData.body plat store) rounds (.start plat store headers) with
  | (data, .stuck) => some ⟨none, proc, data.imgInfo, data.events⟩
  | (data, .error ret) =>
      let events := match early with
        | none => []
        | some (_, copy) => [.freed copy.ptr]
      some ⟨some ret, proc, data.imgInfo, data.events ++ events ++ elfReleased data.imgInfo⟩
  | (data, .leave) => some (remoteprocLoadEnd plat store keep proc early data)

/-- `remoteproc_load`. The loops run for so many rounds at most. -/
def remoteprocLoadAny (plat : LoadPlatform) (rounds : Nat) (store : StoreOps) (keep : Bool)
    (proc : LoadProc) : Option LoadResult :=
  if proc.state ≠ .ready ∧ proc.state ≠ .configured then
    some ⟨some (-RPROC_EINVAL), proc, none, []⟩
  else if store.opened.ret ≤ 0 then some ⟨some (-RPROC_EINVAL), proc, none, []⟩
  else
    match store.opened.imgData with
    -- an assertion that never returns
    | none => some ⟨none, proc, none, []⟩
    | some img =>
        let len := store.opened.ret.toNat
        if proc.loader = false ∧
            remoteprocCheckFwFormat (some (readBytes img 0 SELFMAG)) len = false then
          some ⟨some (-RPROC_EINVAL), proc, none, []⟩
        else do
          let proc := { proc with loader := true }
          match ← Loop.run (StoreHeaders.body plat store) rounds (.start store) with
          | (headers, .stuck) => some ⟨none, proc, headers.imgInfo, headers.events⟩
          | (headers, .error ret) =>
              some ⟨some ret, proc, headers.imgInfo, headers.events ++ elfReleased headers.imgInfo⟩
          | (headers, .leave) => remoteprocLoadAfter plat rounds store keep proc headers

/-! ### `remoteproc_load_noblock` -/

/-- The variables of the caller that `remoteproc_load_noblock` writes. -/
structure StreamVars where
  pa : Nat
  io : Option IoRegion
  noffset : Nat
  nlen : Nat
  nmlen : Nat
  padding : UInt8

structure StreamCall where
  imgInfo : Option ElfInfo
  lastLoadState : Nat
  vars : StreamVars
  proc : LoadProc

structure StreamResult where
  ret : Int
  -- the call has left through `error1`, where it releases the image information
  gaveUp : Bool
  imgInfo : Option ElfInfo
  vars : StreamVars
  proc : LoadProc

namespace StreamCall

def out (s : StreamCall) : StreamResult := ⟨0, false, s.imgInfo, s.vars, s.proc⟩

def error1 (s : StreamCall) (ret : Int) : StreamResult := ⟨ret, true, none, s.vars, s.proc⟩

section Stages

variable (plat : LoadPlatform) (imgData : Option (Nat → UInt8)) (offset len : Nat)

/-- Get the mandatory executable headers. -/
def loadHeader (s : StreamCall) : Option (StreamResult ⊕ StreamCall) :=
  if s.lastLoadState &&& RPROC_LOADER_READY_TO_LOAD = 0 ∧
      s.lastLoadState &&& RPROC_LOADER_LOAD_COMPLETE = 0 then do
    let out ← elfLoadHeaderFrom plat imgData offset len s.imgInfo s.lastLoadState s.vars.noffset
      s.vars.nlen
    let s := { s with
      imgInfo := out.imgInfo, vars := { s.vars with noffset := out.noffset, nlen := out.nlen } }
    match out.ret with
    | .error status => some (.inl (s.error1 status))
    | .ok lastLoadState =>
        let s := { s with lastLoadState }
        if s.vars.nlen ≠ 0 ∧ lastLoadState &&& RPROC_LOADER_READY_TO_LOAD = 0 then
          some (.inl s.out)
        else some (.inr s)
  else some (.inr s)

/-- The next segment, or what is left of the headers. -/
def loadData (s : StreamCall) : Option (StreamResult ⊕ StreamCall) :=
  if s.lastLoadState &&& RPROC_LOADER_READY_TO_LOAD ≠ 0 ∨
      s.lastLoadState &&& RPROC_LOADER_POST_DATA_LOAD ≠ 0 then do
    let out ← elfLoadFrom plat imgData offset len s.imgInfo s.lastLoadState
      ⟨RPROC_LOAD_ANYADDR, s.vars.noffset, s.vars.nlen, s.vars.padding, s.vars.nmlen⟩
    let s := { s with
      imgInfo := out.imgInfo
      vars := { s.vars with
        noffset := out.vars.noffset, nlen := out.vars.nlen, nmlen := out.vars.nmemsize
        padding := out.vars.padding } }
    match out.ret with
    | .error status => some (.inl (s.error1 status))
    | .ok lastLoadState =>
        let s := { s with lastLoadState }
        let map := remoteprocMmapAny plat out.vars.da s.vars.nmlen s.vars.io
        let mapped :=
          if out.vars.da ≠ RPROC_LOAD_ANYADDR then
            { s with vars := { s.vars with pa := map.pa, io := map.io } }
          else s
        if out.vars.da ≠ RPROC_LOAD_ANYADDR ∧ map.pa = METAL_BAD_PHYS then
          some (.inl (mapped.error1 (-RPROC_EINVAL)))
        else if mapped.vars.nlen ≠ 0 then some (.inl mapped.out)
        else some (.inr mapped)
  else some (.inr s)

def before (s : StreamCall) : Option (StreamResult ⊕ StreamCall) := do
  match ← s.loadHeader plat imgData offset len with
  | .inl r => some (.inl r)
  | .inr s => s.loadData plat imgData offset len

/-- The resource table and the entry point, once everything is there. `blockRead` is
`metal_io_block_read`: how many bytes it has read or an error, and the bytes. Where there is no region
the status is still that of `locate_rsc_table`. -/
def finish (blockRead : IoRegion → Nat → Nat → Int × List UInt8) (s : StreamCall) : StreamResult :=
  if s.lastLoadState &&& RPROC_LOADER_LOAD_COMPLETE ≠ 0 then
    let bootaddr := match s.imgInfo with
      | none => METAL_BAD_PHYS
      | some info => elfGetEntry info
    match s.imgInfo.bind (locatedRscTableAt plat) with
    | none => { s with proc := { s.proc with bootaddr } }.out
    | some shdr =>
        if plat.allocateRsc shdr.shSize = false then s.error1 (-RPROC_ENOMEM)
        else
          let map := remoteprocMmapAny plat shdr.shAddr shdr.shSize s.vars.io
          let s := { s with vars := { s.vars with io := map.io } }
          match map.io with
          | none => s.error1 0
          | some io =>
              let (count, rscTable) := blockRead io (io.virtToOffset map.va) shdr.shSize
              if count ≠ toInt32 shdr.shSize then s.error1 count
              else
                let status := (plat.handleRscTable rscTable).1
                if status < 0 then s.error1 status
                else { s with
                  proc := { s.proc with
                    rscTable := map.va, rscLen := shdr.shSize, bootaddr } }.out
  else s.out

end Stages

end StreamCall

/-- `remoteproc_load_noblock` before it turns to the resource table: the end of the call, or the state
to go on with. -/
def remoteprocLoadNoblockBefore (plat : LoadPlatform) (imgData : Option (Nat → UInt8))
    (offset len : Nat) (imgInfo : Option ElfInfo) (vars : StreamVars) (proc : LoadProc) :
    Option (StreamResult ⊕ StreamCall) :=
  if proc.state ≠ .ready then some (.inl ⟨-RPROC_EINVAL, false, imgInfo, vars, proc⟩)
  else if proc.loader = false ∧
      (offset ≠ 0 ∨ len = 0 ∨ remoteprocCheckFwFormat
        (imgData.map fun img => readBytes img 0 SELFMAG) len = false) then
    some (.inl ⟨-RPROC_EINVAL, false, imgInfo, vars, proc⟩)
  else
    StreamCall.before plat imgData offset len
      ⟨imgInfo, imgInfo.elim 0 elfGetLoadState, { vars with nlen := 0 }, { proc with loader := true }⟩

/-- `remoteproc_load_noblock`, for a caller that keeps the image information. -/
def remoteprocLoadNoblockAny (plat : LoadPlatform)
    (blockRead : IoRegion → Nat → Nat → Int × List UInt8) (imgData : Option (Nat → UInt8))
    (offset len : Nat) (imgInfo : Option ElfInfo) (vars : StreamVars) (proc : LoadProc) :
    Option StreamResult := do
  match ← remoteprocLoadNoblockBefore plat imgData offset len imgInfo vars proc with
  | .inl r => some r
  | .inr s => some (s.finish plat blockRead)

/-! ### What is asked of the two calls -/

/-- The loop of the headers goes on to the data with these headers. -/
def StoreHeaders.Ready (plat : LoadPlatform) (store : StoreOps) (headers : StoreHeaders) : Prop :=
  Loop.Returns (StoreHeaders.body plat store) (.start store) (headers, .leave)

/-- The program headers are loaded into segments in order. -/
def StoreHeaders.segments (plat : LoadPlatform) (headers : StoreHeaders) : List Phdr :=
  headers.imgInfo.elim [] plat.segments

/-- The loop of the data comes to this state at the start of a round. -/
def StoreData.Rounds (plat : LoadPlatform) (store : StoreOps) (headers : StoreHeaders)
    (data : StoreData) : Prop :=
  Loop.Reaches (StoreData.body plat store) (.start plat store headers) data

/-! #### Errors are reported -/

/-- All that the call has to do: the headers are there, every segment has been copied in full, and the
entry point is set. -/
def LoadResult.Complete (plat : LoadPlatform) (r : LoadResult) : Prop :=
  (∀ (size : Nat) (ret : Int), .header size ret ∈ r.events → (size : Int) ≤ ret) ∧
    ∃ info, r.imgInfo = some info ∧ r.proc.bootaddr = elfGetEntry info ∧
      ∀ phdr ∈ plat.segments info, phdr.pType = PT_LOAD → 0 < phdr.pFilesz →
        ∃ mapped, mapped.da = phdr.pVaddr ∧
          .transfer mapped phdr.pOffset phdr.pFilesz phdr.pFilesz ∈ r.events

/-- The call returns 0 for a complete load only, and a negative number otherwise. -/
def LoadResult.Reported (plat : LoadPlatform) (r : LoadResult) : Prop :=
  ∀ ret, r.ret = some ret → ret = 0 ∧ r.Complete plat ∨ ret < 0

/-- No request is too long for an `int`. -/
def LoadEvent.Short : LoadEvent → Prop
  | .header size _ => size < 2 ^ 31
  | .transfer _ _ size _ => size < 2 ^ 31
  | _ => True

/-- A request of the header loop gets an error or all its bytes. -/
def LoadEvent.Served : LoadEvent → Prop
  | .header size ret => ret < 0 ∨ (size : Int) ≤ ret
  | _ => True

instance : DecidablePred LoadEvent.Short
  | .header size _ => inferInstanceAs (Decidable (size < 2 ^ 31))
  | .transfer _ _ size _ => inferInstanceAs (Decidable (size < 2 ^ 31))
  | .allocated _ | .freed _ | .fetched _ _ | .padded _ _ _ _ | .tableWritten _ _ => .isTrue trivial

instance : DecidablePred LoadEvent.Served
  | .header size ret => inferInstanceAs (Decidable (ret < 0 ∨ (size : Int) ≤ ret))
  | .transfer _ _ _ _ | .allocated _ | .freed _ | .fetched _ _ | .padded _ _ _ _ | .tableWritten _ _ =>
      .isTrue trivial

/-- No segment is to be loaded at `RPROC_LOAD_ANYADDR`. -/
def LoadResult.Addressed (plat : LoadPlatform) (r : LoadResult) : Prop :=
  ∀ info, r.imgInfo = some info → ∀ phdr ∈ plat.segments info, phdr.pType = PT_LOAD →
    phdr.pVaddr ≠ RPROC_LOAD_ANYADDR

/-- A call that gives up returns a negative number. -/
def StreamResult.Reported (r : StreamResult) : Prop := r.gaveUp = true → r.ret < 0

/-- Where a call comes to a resource table and has memory for it, the table can be mapped, and reading
it fails with a negative number or not at all. -/
def StreamCall.TableReads (plat : LoadPlatform)
    (blockRead : IoRegion → Nat → Nat → Int × List UInt8) (s : StreamCall) : Prop :=
  s.lastLoadState &&& RPROC_LOADER_LOAD_COMPLETE ≠ 0 →
    ∀ shdr, s.imgInfo.bind (locatedRscTableAt plat) = some shdr → plat.allocateRsc shdr.shSize = true →
      ∃ io, (remoteprocMmapAny plat shdr.shAddr shdr.shSize s.vars.io).io = some io ∧
        ((blockRead io (io.virtToOffset
            (remoteprocMmapAny plat shdr.shAddr shdr.shSize s.vars.io).va) shdr.shSize).1 < 0 ∨
          (blockRead io (io.virtToOffset
            (remoteprocMmapAny plat shdr.shAddr shdr.shSize s.vars.io).va) shdr.shSize).1 =
            toInt32 shdr.shSize)

/-! #### A table that is not accepted -/

/-- The call comes to the loops. -/
def LoadStarts (store : StoreOps) (proc : LoadProc) : Prop :=
  (proc.state = .ready ∨ proc.state = .configured) ∧ 0 < store.opened.ret ∧
    ∃ img, store.opened.imgData = some img ∧
      (proc.loader = true ∨
        remoteprocCheckFwFormat (some (readBytes img 0 SELFMAG)) store.opened.ret.toNat = true)

/-- The table cannot be read from the store, or is not accepted. -/
def TableRejected (plat : LoadPlatform) (store : StoreOps) (calls : Nat) (shdr : Shdr) : Prop :=
  let reply := store.load calls ⟨shdr.shOffset, shdr.shSize, RPROC_LOAD_ANYADDR⟩
  plat.allocateRsc shdr.shSize = true ∧
    (reply.ret < 0 ∨ reply.ret < toInt32 shdr.shSize ∨ reply.imgData = none ∨
      ∃ img, reply.imgData = some img ∧ (plat.handleRscTable (readBytes img 0 shdr.shSize)).1 < 0)

/-- The call comes to a table that is rejected, with the headers or after the data. -/
def LoadRejects (plat : LoadPlatform) (store : StoreOps) : Prop :=
  ∃ headers, headers.Ready plat store ∧
    ((∃ shdr, headers.imgInfo.bind (locatedRscTableAt plat) = some shdr ∧
        TableRejected plat store headers.calls shdr) ∨
      (headers.imgInfo.bind (locatedRscTableAt plat) = none ∧
        ∃ data shdr, Loop.Returns (StoreData.body plat store) (.start plat store headers)
            (data, .leave) ∧
          data.imgInfo.bind (locatedRscTableAt plat) = some shdr ∧
          TableRejected plat store data.calls shdr))

def LoadEvent.acquired : LoadEvent → Option LoadBlock
  | .allocated block => some block
  | _ => none

def LoadEvent.released : LoadEvent → Option LoadPtr
  | .freed ptr => some ptr
  | _ => none

/-- The call fails and leaves the instance with the table it had, and all blocks are released once. -/
structure LoadResult.Refuses (proc : LoadProc) (r : LoadResult) : Prop where
  failed : ∃ ret, r.ret = some ret ∧ ret < 0
  table : r.proc.rscTable = proc.rscTable ∧ r.proc.rscLen = proc.rscLen ∧ r.proc.rscIo = proc.rscIo
  unwritten : ∀ va size, .tableWritten va size ∉ r.events
  released : ∀ block, (r.events.filterMap LoadEvent.released).count (.block block) =
    (r.events.filterMap LoadEvent.acquired).count block
  only : ∀ status, .freed (.error status) ∉ r.events

/-! #### The end of the loops -/

/-- The transfers to target memory, in order. -/
def LoadEvent.transferred : LoadEvent → Option (Nat × Nat × Nat)
  | .transfer mapped offset size _ => some (mapped.da, offset, size)
  | _ => none

def Phdr.transferred (phdr : Phdr) : Nat × Nat × Nat := (phdr.pVaddr, phdr.pOffset, phdr.pFilesz)

/-- The loop of the data is left, after at most one transfer for each program header. -/
def DataLoopEnds (plat : LoadPlatform) (store : StoreOps) (headers : StoreHeaders) : Prop :=
  ∃ data exit, Loop.Returns (StoreData.body plat store) (.start plat store headers) (data, exit) ∧
    (data.events.filterMap LoadEvent.transferred).Sublist
      ((headers.segments plat).map Phdr.transferred)

/-- Both loops are left. -/
def LoadEnds (plat : LoadPlatform) (store : StoreOps) : Prop :=
  (∃ r, Loop.Returns (StoreHeaders.body plat store) (.start store) r) ∧
    ∀ headers, headers.Ready plat store → DataLoopEnds plat store headers

/-- A segment that ends the loop: behind the last program header nothing is left, and one that is to be
loaded anywhere and has no bytes looks like the end. -/
def Phdr.Final (phdr : Phdr) : Prop :=
  phdr.pVaddr = RPROC_LOAD_ANYADDR ∧ phdr.pFilesz = 0

/-- The number of the next segment, kept in 8 bits, does not hide the end of the program headers: they
are less than 256; or a segment that ends the loop comes before any other with a number from 255 on; or
no segment has such a number and the last header, which is not one, is at `RPROC_LOAD_ANYADDR`. -/
def SegmentsEnd (phdrs : List Phdr) : Prop :=
  phdrs.length ≤ 255 ∨
    (∃ before phdr rest, phdrs = before ++ phdr :: rest ∧ phdr.pType = PT_LOAD ∧
      (rest = [] ∨ phdr.Final) ∧ ∀ e ∈ before.drop 255, e.pType ≠ PT_LOAD) ∨
    ((∀ e ∈ phdrs.drop 255, e.pType ≠ PT_LOAD) ∧
      phdrs.getLast?.map Phdr.pVaddr = some RPROC_LOAD_ANYADDR)

/-- The store serves every request, and every range can be mapped. -/
structure ServesAll (plat : LoadPlatform) (store : StoreOps) : Prop where
  load : ∀ calls request, (store.load calls request).ret = toInt32 request.size
  map : ∀ da size io, da ≠ RPROC_LOAD_ANYADDR →
    (remoteprocMmapAny plat da size io).pa ≠ METAL_BAD_PHYS ∧
      (remoteprocMmapAny plat da size io).io ≠ none

/-- A store that serves a file from memory. -/
def servingStore (file : Nat → UInt8) (len : Nat) : StoreOps where
  opened := ⟨len, some file⟩
  load _ request := ⟨toInt32 request.size, some fun i => file (request.offset + i)⟩
  supportSeek := true

/-- A platform with memory for everything, that maps every range to the start of one region. -/
def mappingPlatform : LoadPlatform where
  allocate _ _ := true
  allocateRsc _ := true
  behind _ _ := 0
  mems := []
  mmap := some fun _ _ _ => ⟨0, 0, some ⟨0, 2 ^ 64, id⟩⟩
  handleRscTable table := (0, table)

/-- An instance that has loaded nothing. -/
def readyProc : LoadProc := ⟨.ready, false, 0, 0, 0, none⟩

/-! #### Where the segments are written -/

/-- Physical addresses of 64 bits. -/
def physRange (start size : Nat) : Set Nat := { a | ∃ i < size, a = u64 (start + i) }

/-- libmetal's `metal_io_block_set`, by the offsets of a region that a call writes. A block is cut at the
end of the region, and nothing is known of one of negative length. -/
structure BlockSet where
  written : IoRegion → Nat → Int → Set Nat
  written_nat : ∀ (io : IoRegion) (offset len : Nat),
    written io offset len = Set.Ico offset (min (offset + len) io.size)

/-- The region has consecutive physical addresses at consecutive offsets. -/
def IoRegion.Contiguous (io : IoRegion) : Prop :=
  ∀ phys i, io.physToOffset phys + i < io.size →
    io.physToOffset (u64 (phys + i)) = io.physToOffset phys + i

/-- So have the regions of the registered memories and those of `ops->mmap`, which may also leave the
region as it was. -/
structure LoadPlatform.Contiguous (plat : LoadPlatform) : Prop where
  mems : ∀ mem ∈ plat.mems, mem.io.Contiguous
  mmap : ∀ map, plat.mmap = some map → ∀ da size io region, (map da size io).io = some region →
    region.Contiguous ∨ io = some region

/-- What is written for a segment lies in the range that was mapped for it. -/
def LoadEvent.Inside : LoadEvent → Prop
  | .transfer mapped _ size _ => physRange mapped.pa size ⊆ physRange mapped.pa mapped.size
  | .padded mapped io offset len => ∀ blockSet : BlockSet,
      blockSet.written io offset len ⊆ io.physToOffset '' physRange mapped.pa mapped.size
  | _ => True

def SegmentsInside (plat : LoadPlatform) (store : StoreOps) : Prop :=
  ∀ headers, headers.Ready plat store → ∀ data, data.Rounds plat store headers →
    ∀ event ∈ (afterRound (StoreData.body plat store data)).events, event.Inside

/-- The segment that `elf_load` comes to next. -/
def StoreData.nextSegment (plat : LoadPlatform) (data : StoreData) : Option Phdr :=
  data.imgInfo.bind fun info =>
    if info.loadState &&& RPROC_LOADER_READY_TO_LOAD = 0 then none
    else ((plat.segments info).drop (info.loadState &&& ELF_NEXT_SEGMENT_MASK)).find? fun phdr =>
      phdr.pType = PT_LOAD

/-- What `elf_load` writes for a segment. -/
def Phdr.vars (phdr : Phdr) : LoadVars :=
  ⟨phdr.pVaddr, phdr.pOffset, phdr.pFilesz, 0, phdr.pMemsz⟩

/-- The range of a segment can be mapped. -/
def StoreData.Maps (plat : LoadPlatform) (s : StoreData) (vars : LoadVars) : Prop :=
  (remoteprocMmapAny plat vars.da vars.nmemsize s.io).pa ≠ METAL_BAD_PHYS ∧
    (remoteprocMmapAny plat vars.da vars.nmemsize s.io).io ≠ none

/-- The store returns what it is asked to copy to the range. -/
def StoreData.Copies (plat : LoadPlatform) (store : StoreOps) (s : StoreData) (vars : LoadVars) : Prop :=
  vars.nlen = 0 ∨
    (store.load s.calls ⟨vars.noffset, vars.nlen,
      (remoteprocMmapAny plat vars.da vars.nmemsize s.io).pa⟩).ret = toInt32 vars.nlen

/-- A segment has no more bytes in the file than in memory, and if they are copied, the length of the
padding behind them is not negative as an `int`. -/
def StoreData.Fits (plat : LoadPlatform) (store : StoreOps) (s : StoreData) (vars : LoadVars) : Prop :=
  vars.nlen ≤ vars.nmemsize ∧
    (s.Copies plat store vars → 0 ≤ toInt32 (vars.nmemsize - vars.nlen : Nat))

/-- The next segment fits, if it can be mapped. -/
def StoreData.SegmentFits (plat : LoadPlatform) (store : StoreOps) (data : StoreData) : Prop :=
  ∀ phdr, data.nextSegment plat = some phdr → phdr.pVaddr ≠ RPROC_LOAD_ANYADDR →
    data.Maps plat phdr.vars → data.Fits plat store phdr.vars

end OpenAmp
